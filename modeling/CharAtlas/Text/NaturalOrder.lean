import CharAtlas.Text.Blank

/-! # Natural order

An order of texts in which numbers inside a text count as numbers: `A2` comes before `A10`. Blanks
only separate; a number written with a leading zero counts as the digits of a fraction. Main
definition: `naturalCompare`. -/

namespace CharAtlas.Text

/-- What natural order compares: a whole run of digits, or one other character. -/
inductive Token where
  | number (digits : List Char)
  | char (c : Char)
deriving DecidableEq

def startsWithDigit : List Char → Bool
  | [] => false
  | c :: _ => c.isDigit

/-- Blanks give no token, but end a run of digits. -/
def tokens : List Char → List Token
  | [] => []
  | c :: cs =>
    if isBlank c then tokens cs
    else if c.isDigit then
      match startsWithDigit cs, tokens cs with
      | true, .number ds :: ts => .number (c :: ds) :: ts
      | _, ts => .number [c] :: ts
    else .char c :: tokens cs

def startsWithZero (ds : List Char) : Bool :=
  ds.head? == some '0'

/-- The longer run is the greater, unless one of the two starts with a zero: then the first digits
that differ decide, and a run is greater than its own beginning. -/
def compareRuns (a b : List Char) : Ordering :=
  if startsWithZero a || startsWithZero b then List.compareLex compare a b
  else (compare a.length b.length).then (List.compareLex compare a b)

namespace Token

/-- The first character, by which a number compares with a character. -/
def head : Token → Char
  | number (d :: _) => d
  | number [] => '0'
  | char c => c

protected def compare : Token → Token → Ordering
  | number a, number b => compareRuns a b
  | a, b => Ord.compare a.head b.head

end Token

def naturalCompare (a b : String) : Ordering :=
  List.compareLex Token.compare (tokens a.toList) (tokens b.toList)

end CharAtlas.Text
