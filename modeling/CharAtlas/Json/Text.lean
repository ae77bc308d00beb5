import CharAtlas.Numeral

/-! # Reading JSON texts

A value is read in two steps. The first finds where it ends and cuts it out (`valueSpan?`), so that
values nobody asks for are passed over; the second reads what was cut out as a text, a whole number
or a record (`textOf?`, `integerOf?`, `record?`). -/

namespace CharAtlas.Json

def isSpace (c : Char) : Bool :=
  c == ' ' || c == '\n' || c == '\t' || c == '\r'

def skipSpace (cs : List Char) : List Char :=
  cs.dropWhile isSpace

def isHexDigit (c : Char) : Bool :=
  (Numeral.digitValue? c).isSome

/-! ### Where a value ends -/

/-- The character that an escape of two characters stands for. -/
def unescape? : Char → Option Char
  | '"' => some '"'
  | '\\' => some '\\'
  | '/' => some '/'
  | 'b' => some '\x08'
  | 'f' => some '\x0c'
  | 'n' => some '\n'
  | 'r' => some '\r'
  | 't' => some '\t'
  | _ => none

/-- What follows the quote that ends a text; escaped surrogates need not come in pairs. -/
def skipText : List Char → Option (List Char)
  | [] => none
  | '"' :: cs => some cs
  | '\\' :: 'u' :: a :: b :: c :: d :: cs =>
    if isHexDigit a && isHexDigit b && isHexDigit c && isHexDigit d then skipText cs else none
  | '\\' :: c :: cs => if (unescape? c).isSome then skipText cs else none
  | c :: cs => if c.toNat < 32 then none else skipText cs

/-- What follows a run of digits; there has to be one at least. -/
def skipDigits : List Char → Option (List Char)
  | [] => none
  | c :: cs => if c.isDigit then some (cs.dropWhile Char.isDigit) else none

/-- What follows the digits before the point; zero stands alone. -/
def skipWhole : List Char → Option (List Char)
  | '0' :: c :: cs => if c.isDigit then none else some (c :: cs)
  | cs => skipDigits cs

def skipFraction : List Char → Option (List Char)
  | '.' :: cs => skipDigits cs
  | cs => some cs

def skipExponent : List Char → Option (List Char)
  | c :: cs =>
    if c = 'e' ∨ c = 'E' then
      match cs with
      | '+' :: ds => skipDigits ds
      | '-' :: ds => skipDigits ds
      | ds => skipDigits ds
    else some (c :: cs)
  | [] => some []

def skipNumber (cs : List Char) : Option (List Char) :=
  let whole :=
    match cs with
    | '-' :: ds => skipWhole ds
    | ds => skipWhole ds
  (whole.bind skipFraction).bind skipExponent

mutual

/-- What follows a value. Each step down costs fuel, and no step down is made without reading a
character in two. -/
def skipValue : Nat → List Char → Option (List Char)
  | 0, _ => none
  | fuel + 1, cs =>
    match skipSpace cs with
    | '"' :: r => skipText r
    | '[' :: r =>
      match skipSpace r with
      | ']' :: r => some r
      | r => skipItems fuel r
    | '\x7b' :: r =>
      match skipSpace r with
      | '\x7d' :: r => some r
      | r => skipFields fuel r
    | 'n' :: 'u' :: 'l' :: 'l' :: r => some r
    | 't' :: 'r' :: 'u' :: 'e' :: r => some r
    | 'f' :: 'a' :: 'l' :: 's' :: 'e' :: r => some r
    | r => skipNumber r

def skipItems : Nat → List Char → Option (List Char)
  | 0, _ => none
  | fuel + 1, cs =>
    (skipValue fuel cs).bind fun r =>
      match skipSpace r with
      | ',' :: r => skipItems fuel r
      | ']' :: r => some r
      | _ => none

def skipFields : Nat → List Char → Option (List Char)
  | 0, _ => none
  | fuel + 1, cs =>
    match skipSpace cs with
    | '"' :: r =>
      (skipText r).bind fun r =>
        match skipSpace r with
        | ':' :: r =>
          (skipValue fuel r).bind fun r =>
            match skipSpace r with
            | ',' :: r => skipFields fuel r
            | '\x7d' :: r => some r
            | _ => none
        | _ => none
    | _ => none

end

/-- The part of `cs` in front of its end `rest`. -/
def upTo (rest cs : List Char) : List Char :=
  cs.take (cs.length - rest.length)

/-- A value and what follows it, spaces in front of the value left out. -/
def valueSpan? (cs : List Char) : Option (List Char × List Char) :=
  let start := skipSpace cs
  (skipValue (2 * start.length + 2) start).map fun rest => (upTo rest start, rest)

/-! ### What a value says -/

/-- The number of four hexadecimal digits. -/
def unitOf? (a b c d : Char) : Option Nat :=
  Numeral.value? 16 [a, b, c, d]

def isHighSurrogate (n : Nat) : Bool :=
  0xD800 ≤ n && n < 0xDC00

def isLowSurrogate (n : Nat) : Bool :=
  0xDC00 ≤ n && n < 0xE000

def pairedSurrogates (high low : Nat) : Char :=
  Char.ofNat (0x10000 + (high - 0xD800) * 0x400 + (low - 0xDC00))

/-- The characters up to the quote that ends a text, and what follows it. Escaped surrogates have to
come in pairs. -/
def decodeText : List Char → Option (List Char × List Char)
  | [] => none
  | '"' :: cs => some ([], cs)
  | '\\' :: 'u' :: a :: b :: c :: d :: cs =>
    match unitOf? a b c d with
    | none => none
    | some n =>
      if isHighSurrogate n then
        match cs with
        | '\\' :: 'u' :: a :: b :: c :: d :: cs =>
          match unitOf? a b c d with
          | none => none
          | some m =>
            if isLowSurrogate m then
              (decodeText cs).map fun (t, r) => (pairedSurrogates n m :: t, r)
            else none
        | _ => none
      else if isLowSurrogate n then none
      else (decodeText cs).map fun (t, r) => (Char.ofNat n :: t, r)
  | '\\' :: c :: cs =>
    match unescape? c with
    | none => none
    | some e => (decodeText cs).map fun (t, r) => (e :: t, r)
  | c :: cs =>
    if c.toNat < 32 then none else (decodeText cs).map fun (t, r) => (c :: t, r)

def textOf? : List Char → Option String
  | '"' :: cs =>
    match decodeText cs with
    | some (t, []) => some (String.ofList t)
    | _ => none
  | _ => none

/-- Digits without a leading zero. -/
def wholeOf? : List Char → Option Nat
  | ['0'] => some 0
  | '0' :: _ => none
  | cs => Numeral.value? 10 cs

/-- A whole number; a zero with a sign is none. -/
def integerOf? : List Char → Option Int
  | '-' :: cs => ((wholeOf? cs).filter (· != 0)).map fun n => -(n : Int)
  | cs => (wholeOf? cs).map fun n => (n : Int)

/-- The items of a list after its opening bracket, up to the closing one. -/
def items? : Nat → List Char → Option (List (List Char) × List Char)
  | 0, _ => none
  | fuel + 1, cs =>
    (valueSpan? cs).bind fun (item, r) =>
      match skipSpace r with
      | ',' :: r => (items? fuel r).map fun (items, r) => (item :: items, r)
      | ']' :: r => some ([item], r)
      | _ => none

/-- The fields of an object after its opening brace, up to the closing one. -/
def fields? : Nat → List Char → Option (List (String × List Char) × List Char)
  | 0, _ => none
  | fuel + 1, cs =>
    match skipSpace cs with
    | '"' :: r =>
      (decodeText r).bind fun (key, r) =>
        match skipSpace r with
        | ':' :: r =>
          (valueSpan? r).bind fun (value, r) =>
            match skipSpace r with
            | ',' :: r =>
              (fields? fuel r).map fun (fields, r) => ((String.ofList key, value) :: fields, r)
            | '\x7d' :: r => some ([(String.ofList key, value)], r)
            | _ => none
        | _ => none
    | _ => none

def keysDistinct (fields : List (String × List Char)) : Bool :=
  decide (fields.map (·.1)).Nodup

/-- The fields of a record, for those of its keys that have one. A record is an object, in which
other keys do not count and none of its own may come twice, or a list of the fields in order, in
which the last ones may be missing. -/
def record? (keys : List String) : List Char → Option (List (String × List Char))
  | '\x7b' :: cs =>
    match skipSpace cs with
    | ['\x7d'] => some []
    | _ =>
      match fields? cs.length cs with
      | some (fields, []) =>
        let known := fields.filter fun (key, _) => keys.contains key
        if keysDistinct known then some known else none
      | _ => none
  | '[' :: cs =>
    match skipSpace cs with
    | [']'] => some []
    | _ =>
      match items? cs.length cs with
      | some (items, []) => if items.length ≤ keys.length then some (keys.zip items) else none
      | _ => none
  | _ => none

/-- The one value of a text that holds nothing else but spaces around it. -/
def document? (s : String) : Option (List Char) :=
  match valueSpan? s.toList with
  | some (value, r) => if (skipSpace r).isEmpty then some value else none
  | none => none

end CharAtlas.Json
