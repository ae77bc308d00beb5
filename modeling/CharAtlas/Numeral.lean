/-! # Numerals

Whole numbers in text: `digits` writes one in a base up to sixteen, `value?` reads a run of digits,
`natural?` and `integer?` read decimal numerals with a sign. -/

namespace CharAtlas.Numeral

def digitChar (d : Nat) : Char :=
  Char.ofNat (if d < 10 then 48 + d else 55 + d)

/-- Sixteen is the largest base; letters of either case stand for the digits from ten on. -/
def digitValue? (c : Char) : Option Nat :=
  let n := c.toNat
  if 48 ≤ n && n ≤ 57 then some (n - 48)
  else if 65 ≤ n && n ≤ 70 then some (n - 55)
  else if 97 ≤ n && n ≤ 102 then some (n - 87)
  else none

/-- The digits of `n` from the most significant on, in front of `rest`. -/
def digitsOnto (base : Nat) (n : Nat) (rest : List Char) : List Char :=
  if n < base ∨ base < 2 then digitChar n :: rest
  else digitsOnto base (n / base) (digitChar (n % base) :: rest)
termination_by n
decreasing_by exact Nat.div_lt_self (by omega) (by omega)

def digits (base n : Nat) : List Char :=
  digitsOnto base n []

/-- At least `width` digits, zeros in front if need be. -/
def paddedDigits (base width n : Nat) : List Char :=
  let ds := digits base n
  List.replicate (width - ds.length) '0' ++ ds

/-- The number that continues `acc` with the digits `cs`. -/
def valueFrom? (base acc : Nat) : List Char → Option Nat
  | [] => some acc
  | c :: cs =>
    match digitValue? c with
    | some d => if d < base then valueFrom? base (acc * base + d) cs else none
    | none => none

/-- The value of one or more digits. -/
def value? (base : Nat) : List Char → Option Nat
  | [] => none
  | c :: cs => valueFrom? base 0 (c :: cs)

def naturalChars? : List Char → Option Nat
  | '+' :: cs => value? 10 cs
  | cs => value? 10 cs

def integerChars? : List Char → Option Int
  | '-' :: cs => (value? 10 cs).map fun n => -(n : Int)
  | cs => (naturalChars? cs).map fun n => (n : Int)

/-- A decimal numeral, with or without a `+`. -/
def natural? (s : String) : Option Nat :=
  naturalChars? s.toList

/-- A decimal numeral, with or without a sign. -/
def integer? (s : String) : Option Int :=
  integerChars? s.toList

def ofNat (n : Nat) : String :=
  String.ofList (digits 10 n)

def ofInt (i : Int) : String :=
  match i with
  | .ofNat n => ofNat n
  | .negSucc n => "-" ++ ofNat (n + 1)

/-- The numbers of 32 bits without a sign. -/
def max32 : Nat := 4294967295

/-- The numbers of 64 bits with a sign. -/
def fits64 (i : Int) : Bool :=
  -9223372036854775808 ≤ i && i ≤ 9223372036854775807

end CharAtlas.Numeral
