import CharAtlas.Corpus.CombiningClass
import CharAtlas.Corpus.Decomposition
import CharAtlas.Store.Corpus

/-! # Character records

What clients are shown of a character. `CharacterProfile.ofRow` makes the record of a row;
`Database.lookup` that of a stored character. -/

namespace CharAtlas

/-- Where a case mapping leads. -/
structure CaseTarget where
  codepoint : Int
  unicodeId : String
  character : Option String
  name : Option String
deriving DecidableEq

structure CharacterProfile extends Attributes where
  codepoint : Nat
  code : String
  unicodeId : String
  character : Option String
  combiningClassLabel : String
  decompositionTag : String
  numericKind : String
  uppercase : Option CaseTarget
  lowercase : Option CaseTarget
  titlecase : Option CaseTarget
  mirroredGlyph : Option Int
  mirrorCharacter : Option String
  flags : List Flag
  isTitlecase : Bool
deriving DecidableEq

namespace Attributes

/-- The strictest of the numeric values that is there. -/
def numericKind (a : Attributes) : String :=
  if a.decimalDigitValue.isSome then "Decimal"
  else if a.digitValue.isSome then "Digit"
  else if a.numericValue.isSome then "Numeric"
  else ""

end Attributes

namespace CaseTarget

def ofTarget (codepoint : Int) (name : Option String) : CaseTarget where
  codepoint := codepoint
  unicodeId := Codepoint.codeOrBlank codepoint
  character := Codepoint.character? codepoint
  name := name

end CaseTarget

namespace CharacterProfile

/-- A row outside the numbers of 32 bits counts as code point zero. -/
def shownCodepoint (n : Int) : Nat :=
  if 0 ≤ n ∧ n ≤ Numeral.max32 then n.toNat else 0

def ofRow (r : CharacterEntry) : CharacterProfile :=
  { r.toAttributes with
    codepoint := shownCodepoint r.codepoint
    code := r.code
    unicodeId := Codepoint.code (shownCodepoint r.codepoint)
    character := Codepoint.character? r.codepoint
    combiningClassLabel := CombiningClass.label r.combiningClass
    decompositionTag := Decomposition.tag r.decomposition
    numericKind := r.toAttributes.numericKind
    uppercase := r.uppercaseMapping.map (CaseTarget.ofTarget · r.uppercaseName)
    lowercase := r.lowercaseMapping.map (CaseTarget.ofTarget · r.lowercaseName)
    titlecase := r.titlecaseMapping.map (CaseTarget.ofTarget · r.titlecaseName)
    mirroredGlyph := r.mirroredGlyph
    mirrorCharacter := r.mirroredGlyph.bind Codepoint.character?
    flags := r.flags
    isTitlecase := r.generalCategory == some "Lt" }

end CharacterProfile

namespace Database

def lookup (db : Database) (codepoint : Nat) : Except Error CharacterProfile :=
  match db.readEntry codepoint with
  | .error e => .error e
  | .ok none => .error (.notFound codepoint)
  | .ok (some r) => .ok (.ofRow r)

end Database
end CharAtlas
