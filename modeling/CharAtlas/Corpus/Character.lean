import CharAtlas.Codepoint
import CharAtlas.Property.Column
import CharAtlas.Trigram

/-! # Characters of the corpus

`Character` is what a corpus says of one character, `StoredCharacter` the row that is kept of it,
with the data derived from it, and `CharacterEntry` the row as it is read, with the names of the
characters that its case mappings lead to. -/

namespace CharAtlas

/-- What is said of a character in texts and numbers; all of it may be missing. -/
structure Attributes where
  name : Option String := none
  generalCategory : Option String := none
  script : Option String := none
  bidiClass : Option String := none
  combiningClass : Option Int := none
  decomposition : Option String := none
  numericValue : Option String := none
  digitValue : Option String := none
  decimalDigitValue : Option String := none
  block : Option String := none
  age : Option String := none
deriving DecidableEq

structure Character extends Attributes where
  codepoint : Nat
  uppercaseMapping : Option Nat := none
  lowercaseMapping : Option Nat := none
  titlecaseMapping : Option Nat := none
  mirroredGlyph : Option Nat := none
  /-- The flags that hold. -/
  flags : List Flag := []
deriving DecidableEq

structure StoredCharacter extends Character where
  code : String
  nameTrigramCount : Nat
deriving DecidableEq

structure CharacterEntry extends Attributes where
  codepoint : Int
  code : String := ""
  uppercaseMapping : Option Int := none
  lowercaseMapping : Option Int := none
  titlecaseMapping : Option Int := none
  mirroredGlyph : Option Int := none
  flags : List Flag := []
  uppercaseName : Option String := none
  lowercaseName : Option String := none
  titlecaseName : Option String := none
deriving DecidableEq

namespace Character

/-- The trigrams of the name; none without a name. -/
def nameTrigrams (c : Character) : OrderedSet String :=
  match c.name with
  | some n => trigrams n
  | none => .empty

/-- The row to keep: flags in the order of their columns, code and trigram count worked out. -/
def stored (c : Character) : StoredCharacter :=
  { c with
    flags := Flag.all.filter c.flags.contains
    code := Codepoint.code c.codepoint
    nameTrigramCount := c.nameTrigrams.size }

end Character
end CharAtlas
