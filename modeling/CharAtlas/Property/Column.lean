/-! # Columns of the character table

`Flag` lists the boolean properties that a character has or has not, `Column` all columns that a
query can mention. -/

namespace CharAtlas

/-- A boolean property of characters, stored in a column of its own. -/
inductive Flag where
  | alphabetic
  | whiteSpace
  | dash
  | mirrored
  | math
  | cased
  | idStart
  | xidStart
  | xidContinue
  | idContinue
  | graphemeBase
  | graphemeLink
  | graphemeExtend
  | caseIgnorable
  | changesWhenCasefolded
  | changesWhenCasemapped
  | changesWhenLowercased
  | changesWhenTitlecased
  | changesWhenUppercased
  | defaultIgnorable
  | lowercase
  | uppercase
deriving DecidableEq

namespace Flag

/-- Every flag, in the order of the columns. -/
def all : List Flag :=
  [alphabetic, whiteSpace, dash, mirrored, math, cased, idStart, xidStart, xidContinue, idContinue,
    graphemeBase, graphemeLink, graphemeExtend, caseIgnorable, changesWhenCasefolded,
    changesWhenCasemapped, changesWhenLowercased, changesWhenTitlecased, changesWhenUppercased,
    defaultIgnorable, lowercase, uppercase]

def columnName : Flag → String
  | alphabetic => "alphabetic"
  | whiteSpace => "white_space"
  | dash => "dash"
  | mirrored => "mirrored"
  | math => "math"
  | cased => "cased"
  | idStart => "id_start"
  | xidStart => "xid_start"
  | xidContinue => "xid_continue"
  | idContinue => "id_continue"
  | graphemeBase => "grapheme_base"
  | graphemeLink => "grapheme_link"
  | graphemeExtend => "grapheme_extend"
  | caseIgnorable => "case_ignorable"
  | changesWhenCasefolded => "changes_when_casefolded"
  | changesWhenCasemapped => "changes_when_casemapped"
  | changesWhenLowercased => "changes_when_lowercased"
  | changesWhenTitlecased => "changes_when_titlecased"
  | changesWhenUppercased => "changes_when_uppercased"
  | defaultIgnorable => "default_ignorable_code_point"
  | lowercase => "lowercase"
  | uppercase => "uppercase"

theorem mem_all (f : Flag) : f ∈ all := by
  cases f <;> decide

def ofColumnName? (name : String) : Option Flag :=
  all.find? fun f => f.columnName == name

end Flag

inductive Column where
  | codepoint
  | code
  | name
  | generalCategory
  | script
  | bidiClass
  | combiningClass
  | decomposition
  | numericValue
  | uppercaseMapping
  | lowercaseMapping
  | titlecaseMapping
  | mirroredGlyph
  | block
  | age
  | flag (f : Flag)
deriving DecidableEq

namespace Column

/-- The name of the column in the table `characters`. -/
def label : Column → String
  | codepoint => "codepoint"
  | code => "code"
  | name => "name"
  | generalCategory => "general_category"
  | script => "script"
  | bidiClass => "bidi_class"
  | combiningClass => "canonical_combining_class"
  | decomposition => "decomposition"
  | numericValue => "numeric_value"
  | uppercaseMapping => "uppercase_mapping"
  | lowercaseMapping => "lowercase_mapping"
  | titlecaseMapping => "titlecase_mapping"
  | mirroredGlyph => "bidi_mirrored_glyph"
  | block => "block"
  | age => "age"
  | flag f => f.columnName

/-- The column as queries write it, `c` being the row at hand. -/
def sql (c : Column) : String :=
  "c." ++ c.label

end Column
end CharAtlas
