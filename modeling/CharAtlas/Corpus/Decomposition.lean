import CharAtlas.Text.Like
import CharAtlas.Text.Pieces

/-! # Decompositions

A decomposition may begin with a tag between angle brackets, which names its type. `tag` reads the
tag that is shown of a character; `cutTag` is what a query cuts out of the text, bracket or not. -/

namespace CharAtlas.Decomposition

/-- The tag of a decomposition; empty without one. -/
def tag (decomposition : Option String) : String :=
  match decomposition with
  | none => ""
  | some d =>
    match Text.tailAfter "<" d with
    | none => ""
    | some tail =>
      match Text.cutAt '>' tail with
      | some (t, _) => t
      | none => ""

/-- The characters from the second one up to the first closing bracket. If there is no bracket to
stop at, the cut runs backwards and takes the first character. A null character ends the text. -/
def cutTagChars (cs : List Char) : List Char :=
  match cs.findIdx? (· == '>') with
  | some (n + 1) => ((Text.visible cs).drop 1).take n
  | _ => (Text.visible cs).take 1

def cutTag (d : String) : String :=
  String.ofList (cutTagChars d.toList)

end CharAtlas.Decomposition
