import CharAtlas.Property.Column

/-! # Properties and dimensions

What a filter can ask of a character: a `Property`, which it has or lacks, or its value in a
`Dimension`. Each has a key in the filter language. -/

namespace CharAtlas

/-- A column that counts as a property by being filled in. -/
inductive Presence where
  | name
  | numericValue
  | decomposition
  | uppercaseMapping
  | lowercaseMapping
  | titlecaseMapping
deriving DecidableEq

namespace Presence

def column : Presence → Column
  | name => .name
  | numericValue => .numericValue
  | decomposition => .decomposition
  | uppercaseMapping => .uppercaseMapping
  | lowercaseMapping => .lowercaseMapping
  | titlecaseMapping => .titlecaseMapping

end Presence

inductive Property where
  | flag (f : Flag)
  | present (p : Presence)
  /-- The canonical combining class is greater than zero. -/
  | combiningClass
  /-- There is a mirrored glyph. -/
  | mirror
  /-- The general category is `Lt`. -/
  | titlecase
  /-- The character is a favorite of the user who asks. -/
  | favorited
deriving DecidableEq

namespace Property

/-- Every property, in the order in which clients list them. -/
def all : List Property :=
  [flag .alphabetic, flag .whiteSpace, flag .dash, flag .mirrored, present .name,
    present .numericValue, present .decomposition, present .uppercaseMapping,
    present .lowercaseMapping, present .titlecaseMapping, combiningClass, mirror, flag .math,
    flag .cased, flag .idStart, flag .xidStart, flag .xidContinue, flag .idContinue,
    flag .graphemeBase, flag .graphemeLink, flag .graphemeExtend, flag .caseIgnorable,
    flag .changesWhenCasefolded, flag .changesWhenCasemapped, flag .changesWhenLowercased,
    flag .changesWhenTitlecased, flag .changesWhenUppercased, flag .defaultIgnorable,
    flag .lowercase, flag .uppercase, titlecase, favorited]

def key : Property → String
  | flag .alphabetic => "isAlphabetic"
  | flag .whiteSpace => "isWhiteSpace"
  | flag .dash => "isDash"
  | flag .mirrored => "isMirrored"
  | flag .math => "math"
  | flag .cased => "cased"
  | flag .idStart => "idStart"
  | flag .xidStart => "xidStart"
  | flag .xidContinue => "xidContinue"
  | flag .idContinue => "idContinue"
  | flag .graphemeBase => "graphemeBase"
  | flag .graphemeLink => "graphemeLink"
  | flag .graphemeExtend => "graphemeExtend"
  | flag .caseIgnorable => "caseIgnorable"
  | flag .changesWhenCasefolded => "changesWhenCasefolded"
  | flag .changesWhenCasemapped => "changesWhenCasemapped"
  | flag .changesWhenLowercased => "changesWhenLowercased"
  | flag .changesWhenTitlecased => "changesWhenTitlecased"
  | flag .changesWhenUppercased => "changesWhenUppercased"
  | flag .defaultIgnorable => "defaultIgnorable"
  | flag .lowercase => "isLowercase"
  | flag .uppercase => "isUppercase"
  | present .name => "hasName"
  | present .numericValue => "hasNumericValue"
  | present .decomposition => "hasDecomposition"
  | present .uppercaseMapping => "hasUppercaseMapping"
  | present .lowercaseMapping => "hasLowercaseMapping"
  | present .titlecaseMapping => "hasTitlecaseMapping"
  | combiningClass => "hasCombiningClass"
  | mirror => "hasMirror"
  | titlecase => "isTitlecase"
  | favorited => "favorited"

def ofKey? (key : String) : Option Property :=
  all.find? fun p => p.key == key

theorem mem_all (p : Property) : p ∈ all := by
  cases p with
  | flag f => cases f <;> decide
  | present c => cases c <;> decide
  | _ => decide

theorem ofKey?_key (p : Property) : ofKey? p.key = some p := by
  cases p with
  | flag f => cases f <;> decide
  | present c => cases c <;> decide
  | _ => decide

end Property

/-- A column whose values a filter selects from. -/
inductive Dimension where
  | scripts
  | categories
  | classes
  | versions
  | decompositionTypes
deriving DecidableEq

namespace Dimension

def all : List Dimension :=
  [scripts, categories, classes, versions, decompositionTypes]

def key : Dimension → String
  | scripts => "scripts"
  | categories => "categories"
  | classes => "classes"
  | versions => "versions"
  | decompositionTypes => "decompositionTypes"

def ofKey? (key : String) : Option Dimension :=
  all.find? fun d => d.key == key

/-- The column selected from; a decomposition type is only a part of its text. -/
def column : Dimension → Column
  | scripts => .script
  | categories => .generalCategory
  | classes => .bidiClass
  | versions => .age
  | decompositionTypes => .decomposition

theorem mem_all (d : Dimension) : d ∈ all := by
  cases d <;> decide

theorem ofKey?_key (d : Dimension) : ofKey? d.key = some d := by
  cases d <;> decide

end Dimension
end CharAtlas
