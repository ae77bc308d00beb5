import CharAtlas.Codepoint

/-! # Search terms

What a free text asks for: the text itself and, if it is a single character or a code point in
hexadecimal notation, that character. Main definition: `SearchTerm.ofText?`. -/

namespace CharAtlas

structure SearchTerm where
  text : String
  codepoint : Option Nat
deriving DecidableEq

namespace SearchTerm

/-- Longer terms are cut. -/
def maxLength : Nat := 200

/-- What follows `U+`, `u+`, `0x` or `0X`, and the whole text without one of these in front. -/
def afterMark : List Char → List Char
  | 'U' :: '+' :: cs => cs
  | 'u' :: '+' :: cs => cs
  | '0' :: 'x' :: cs => cs
  | '0' :: 'X' :: cs => cs
  | cs => cs

/-- One to six hexadecimal digits, marked or not, that name a code point. -/
def notatedCodepoint? (cs : List Char) : Option Nat :=
  let ds := afterMark cs
  if ds.length ≤ 6 then (Numeral.value? 16 ds).filter (· ≤ Codepoint.max) else none

/-- A lone character stands for itself, be it a digit or not. -/
def codepoint? : List Char → Option Nat
  | [c] => some c.toNat
  | cs => notatedCodepoint? cs

/-- `none` for a blank text. -/
def ofText? (raw : String) : Option SearchTerm :=
  match Text.trimmed raw.toList with
  | [] => none
  | cs =>
    let kept := cs.take maxLength
    some ⟨String.ofList kept, codepoint? kept⟩

end SearchTerm
end CharAtlas
