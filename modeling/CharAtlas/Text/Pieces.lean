/-! # Texts in pieces

Cutting a text at a separator: `pieces` cuts at every occurrence, `cutAt` at the first, `tailAfter`
takes away a given beginning. -/

namespace CharAtlas.Text

/-- The stretches between occurrences of `sep`, of which there is always one more. -/
def pieces (sep : Char) (s : String) : List String :=
  (s.toList.splitOn sep).map String.ofList

/-- What stands before and after the first `sep`; `none` without one. -/
def cutChars (sep : Char) : List Char → Option (List Char × List Char)
  | [] => none
  | c :: cs => if c = sep then some ([], cs) else (cutChars sep cs).map fun (a, b) => (c :: a, b)

def cutAt (sep : Char) (s : String) : Option (String × String) :=
  (cutChars sep s.toList).map fun (a, b) => (String.ofList a, String.ofList b)

/-- What follows the beginning `start`; `none` if the list begins otherwise. -/
def charsAfter (start cs : List Char) : Option (List Char) :=
  if start.isPrefixOf cs then some (cs.drop start.length) else none

def tailAfter (start s : String) : Option String :=
  (charsAfter start.toList s.toList).map String.ofList

end CharAtlas.Text
