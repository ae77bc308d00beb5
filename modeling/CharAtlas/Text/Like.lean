/-! # Pattern matching

`like` matches a text with a pattern in which `%` stands for any stretch and `_` for any one
character; a character after the escape character stands for itself. Letters of ASCII match in
either case. `literalPattern` writes a text so that it matches itself only. -/

namespace CharAtlas.Text

/-- Pattern matching sees a text as far as its first null character. -/
def visible (cs : List Char) : List Char :=
  cs.takeWhile (· != '\x00')

def sameLetter (a b : Char) : Bool :=
  a.toLower == b.toLower

def suffixes : List Char → List (List Char)
  | [] => [[]]
  | c :: cs => (c :: cs) :: suffixes cs

/-- Whether the one character at the front of a text satisfies `p` and the rest satisfies `k`. -/
def headAnd (p : Char → Bool) (k : List Char → Bool) : List Char → Bool
  | [] => false
  | c :: cs => p c && k cs

def likeChars (escape : Option Char) : List Char → List Char → Bool
  | [] => fun text => text.isEmpty
  | '%' :: pattern => fun text => (suffixes text).any (likeChars escape pattern)
  | [p] =>
    if escape = some p then fun _ => false
    else if p = '_' then headAnd (fun _ => true) (fun text => text.isEmpty)
    else headAnd (sameLetter p) (fun text => text.isEmpty)
  | p :: q :: pattern =>
    if escape = some p then headAnd (sameLetter q) (likeChars escape pattern)
    else if p = '_' then headAnd (fun _ => true) (likeChars escape (q :: pattern))
    else headAnd (sameLetter p) (likeChars escape (q :: pattern))

def like (escape : Option Char) (pattern text : String) : Bool :=
  likeChars escape (visible pattern.toList) (visible text.toList)

/-- A pattern that only `s` matches, with `\` as the escape character. -/
def literalPattern (s : String) : String :=
  String.ofList (s.toList.flatMap fun c =>
    if c = '\\' ∨ c = '%' ∨ c = '_' then ['\\', c] else [c])

end CharAtlas.Text
