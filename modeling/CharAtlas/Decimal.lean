import CharAtlas.Numeral

/-! # Decimal fractions

Numerals with a point or an exponent, read exactly as `mantissa * 10 ^ exponent`. Main definition:
`Decimal.whole?`, the whole part of the nearest binary number of double precision. -/

namespace CharAtlas

structure Decimal where
  mantissa : Nat
  exponent : Int
deriving DecidableEq

namespace Decimal

/-- Digits with at most one point among them, at least one digit in all, and an optional exponent,
which may have a sign. -/
def unsignedChars? (cs : List Char) : Option Decimal :=
  let before := cs.takeWhile Char.isDigit
  let afterWhole := cs.dropWhile Char.isDigit
  let (fraction, tail) :=
    match afterWhole with
    | '.' :: r => (r.takeWhile Char.isDigit, r.dropWhile Char.isDigit)
    | r => ([], r)
  match Numeral.value? 10 (before ++ fraction) with
  | none => none
  | some m =>
    match tail with
    | [] => some ⟨m, -fraction.length⟩
    | c :: r =>
      if c = 'e' ∨ c = 'E' then
        (Numeral.integerChars? r).map fun e => ⟨m, e - fraction.length⟩
      else none

/-- A decimal fraction without a sign or with a `+`. -/
def ofText? (s : String) : Option Decimal :=
  match s.toList with
  | '+' :: cs => unsignedChars? cs
  | cs => unsignedChars? cs

/-- The whole number nearest to `n / d`, an exact half going to the even neighbour. -/
def roundRatio (n d : Nat) : Nat :=
  let q := n / d
  let r := n % d
  if 2 * r < d then q
  else if d < 2 * r then q + 1
  else q + q % 2

/-- The whole part of the binary number of 53 significant digits nearest to `n / d`; `none` if that
is `2 ^ 1024` or more. -/
def wholeOfRatio? (n d : Nat) : Option Nat :=
  let whole :=
    if n < d then roundRatio (n <<< 53) d >>> 53
    else
      let e := Nat.log2 (n / d)
      if e ≤ 52 then roundRatio (n <<< (52 - e)) d >>> (52 - e)
      else roundRatio n (d <<< (e - 52)) <<< (e - 52)
  if whole < 1 <<< 1024 then some whole else none

/-- The whole part of the nearest number of double precision; `none` if there is no finite one.
Numbers of `10 ^ 310` or more and below a tenth are told apart by their digits alone. -/
def whole? (x : Decimal) : Option Nat :=
  if x.mantissa = 0 then some 0
  else
    let magnitude := (Numeral.digits 10 x.mantissa).length + x.exponent
    if 310 < magnitude then none
    else if magnitude < 0 then some 0
    else if 0 ≤ x.exponent then wholeOfRatio? (x.mantissa * Nat.pow 10 x.exponent.toNat) 1
    else wholeOfRatio? x.mantissa (Nat.pow 10 (-x.exponent).toNat)

end Decimal
end CharAtlas
