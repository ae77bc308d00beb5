import CharAtlas.Text.Like

/-! # Positions and stretches

`position` is where a text occurs in another and `stretch` a part of a text, as queries count
characters: from one, and from the end if the number is negative. -/

namespace CharAtlas.Text

/-- Where the first occurrence of `s` begins; zero if there is none. -/
def position (cs s : List Char) : Nat :=
  match (suffixes cs).findIdx? (s.isPrefixOf ·) with
  | some n => n + 1
  | none => 0

/-- So many characters from `start` on or, if `length` is negative, before it. -/
def stretch (cs : List Char) (start length : Int) : List Char :=
  let first := if start < 0 then cs.length + start + 1 else start
  (cs.take (max first (first + length) - 1).toNat).drop (min first (first + length) - 1).toNat

end CharAtlas.Text
