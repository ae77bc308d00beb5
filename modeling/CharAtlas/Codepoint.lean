import CharAtlas.Error
import CharAtlas.Text.Blank

/-! # Code points

Numbers up to `Codepoint.max`, written as `U+` and hexadecimal digits by `Codepoint.code`. -/

namespace CharAtlas.Codepoint

protected def max : Nat := 0x10FFFF

/-- Four digits at least, in upper case. -/
def code (n : Nat) : String :=
  "U+" ++ String.ofList (Numeral.paddedDigits 16 4 n)

/-- The text of one character; `none` outside the range and for surrogates. -/
def character? (n : Int) : Option String :=
  if 0 ≤ n ∧ n.toNat.isValidChar then some (String.singleton (Char.ofNat n.toNat)) else none

/-- The `code` of a number that may be no code point; negative numbers have none. -/
def codeOrBlank (n : Int) : String :=
  if 0 ≤ n ∧ n ≤ Numeral.max32 then code n.toNat else ""

def invalid (n : Nat) : Error :=
  .invalidCodepoint (Numeral.ofNat n)

/-- A decimal numeral within the range, blanks around it allowed. The error shows the text as
given. -/
def ofText (raw : String) : Except Error Nat :=
  match Numeral.integer? (Text.trim raw) with
  | some n => if 0 ≤ n ∧ n ≤ Codepoint.max then .ok n.toNat else .error (.invalidCodepoint raw)
  | none => .error (.invalidCodepoint raw)

end CharAtlas.Codepoint
