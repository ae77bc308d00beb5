import CharAtlas.Corpus.Character

/-! # Values in queries

`Value` is what a column holds, `Truth` the outcome of a test on it: a test of a missing value is
neither true nor false. -/

namespace CharAtlas

inductive Value where
  | null
  | int (n : Int)
  | text (s : String)
deriving DecidableEq

namespace Value

def ofOption (f : α → Value) : Option α → Value
  | some a => f a
  | none => null

/-- A missing value comes before numbers, numbers come before texts. -/
protected def compare : Value → Value → Ordering
  | null, null => .eq
  | null, _ => .lt
  | _, null => .gt
  | int a, int b => Ord.compare a b
  | int _, text _ => .lt
  | text _, int _ => .gt
  | text a, text b => Ord.compare a b

/-- A value as a query writes it. -/
def sql : Value → String
  | null => "NULL"
  | int n => Numeral.ofInt n
  | text s => "'" ++ s ++ "'"

end Value

/-- `none` is the third outcome of a test. -/
abbrev Truth := Option Bool

namespace Truth

/-- False if either is. -/
def and : Truth → Truth → Truth
  | some false, _ => some false
  | _, some false => some false
  | some true, t => t
  | none, _ => none

/-- True if either is. -/
def or : Truth → Truth → Truth
  | some true, _ => some true
  | _, some true => some true
  | some false, t => t
  | none, _ => none

def ofBool (negated b : Bool) : Truth :=
  some (b != negated)

end Truth

namespace StoredCharacter

def flagValue (c : StoredCharacter) (f : Flag) : Value :=
  .int (if c.flags.contains f then 1 else 0)

def value (c : StoredCharacter) : Column → Value
  | .codepoint => .int c.codepoint
  | .code => .text c.code
  | .name => .ofOption .text c.name
  | .generalCategory => .ofOption .text c.generalCategory
  | .script => .ofOption .text c.script
  | .bidiClass => .ofOption .text c.bidiClass
  | .combiningClass => .ofOption .int c.combiningClass
  | .decomposition => .ofOption .text c.decomposition
  | .numericValue => .ofOption .text c.numericValue
  | .uppercaseMapping => .ofOption (fun n => .int (n : Nat)) c.uppercaseMapping
  | .lowercaseMapping => .ofOption (fun n => .int (n : Nat)) c.lowercaseMapping
  | .titlecaseMapping => .ofOption (fun n => .int (n : Nat)) c.titlecaseMapping
  | .mirroredGlyph => .ofOption (fun n => .int (n : Nat)) c.mirroredGlyph
  | .block => .ofOption .text c.block
  | .age => .ofOption .text c.age
  | .flag f => c.flagValue f

end StoredCharacter
end CharAtlas
