import CharAtlas.Numeral

/-! # JSON values

Values of JSON with whole numbers only, the fields of an object in the order in which they are
written. `Json.pretty` writes a value over several lines. -/

namespace CharAtlas

inductive Json where
  | null
  | bool (b : Bool)
  | int (n : Int)
  | text (s : String)
  | list (items : List Json)
  | object (fields : List (String × Json))

namespace Json

def ofOption {α : Type} (f : α → Json) : Option α → Json
  | some a => f a
  | none => null

/-- The escape of a character inside a text; only quotes, backslashes and control characters need
one. -/
def escapedChar (c : Char) : List Char :=
  if c = '"' then ['\\', '"']
  else if c = '\\' then ['\\', '\\']
  else if c = '\n' then ['\\', 'n']
  else if c = '\r' then ['\\', 'r']
  else if c = '\t' then ['\\', 't']
  else if c = '\x08' then ['\\', 'b']
  else if c = '\x0c' then ['\\', 'f']
  else if c.toNat < 32 then
    '\\' :: 'u' :: '0' :: '0' :: (Numeral.paddedDigits 16 2 c.toNat).map Char.toLower
  else [c]

def escaped (cs : List Char) : List Char :=
  cs.flatMap escapedChar

def quoted (s : String) : List Char :=
  '"' :: escaped s.toList ++ ['"']

def newline (depth : Nat) : List Char :=
  '\n' :: List.replicate (2 * depth) ' '

mutual

/-- The text of a value that stands `depth` levels deep, two spaces for each level. -/
def prettyChars (depth : Nat) : Json → List Char
  | null => ['n', 'u', 'l', 'l']
  | bool true => ['t', 'r', 'u', 'e']
  | bool false => ['f', 'a', 'l', 's', 'e']
  | int n => (Numeral.ofInt n).toList
  | text s => quoted s
  | list [] => ['[', ']']
  | list (item :: items) =>
    '[' :: newline (depth + 1) ++ prettyChars (depth + 1) item ++
      prettyItems (depth + 1) items ++ newline depth ++ [']']
  | object [] => ['\x7b', '\x7d']
  | object ((key, value) :: fields) =>
    '\x7b' :: newline (depth + 1) ++ quoted key ++ ':' :: ' ' :: prettyChars (depth + 1) value ++
      prettyFields (depth + 1) fields ++ newline depth ++ ['\x7d']

def prettyItems (depth : Nat) : List Json → List Char
  | [] => []
  | item :: items => ',' :: newline depth ++ prettyChars depth item ++ prettyItems depth items

def prettyFields (depth : Nat) : List (String × Json) → List Char
  | [] => []
  | (key, value) :: fields =>
    ',' :: newline depth ++ quoted key ++ ':' :: ' ' :: prettyChars depth value ++
      prettyFields depth fields

end

def pretty (j : Json) : String :=
  String.ofList (prettyChars 0 j)

end Json
end CharAtlas
