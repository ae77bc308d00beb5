import CharAtlas.Numeral
import CharAtlas.Text.Blank
import CharAtlas.Text.Pieces

/-! # Versions

Version numbers in order: by major and minor number, so that `2.1` comes before `10.0`. Main
definition: `Version.compare`. -/

namespace CharAtlas.Version

def part? (s : String) : Option Nat :=
  (Numeral.natural? s).filter (· ≤ Numeral.max32)

/-- Major and minor number; the minor one may be missing, further parts do not count. -/
def numbers? (s : String) : Option (Nat × Nat) :=
  match Text.pieces '.' (Text.trim s) with
  | [] => none
  | [major] => (part? major).map (·, 0)
  | major :: minor :: _ =>
    match part? major, part? minor with
    | some m, some n => some (m, n)
    | _, _ => none

/-- Versions that cannot be read come last; the text decides between equals. -/
protected def compare (a b : String) : Ordering :=
  match numbers? a, numbers? b with
  | some (m, n), some (m', n') =>
    ((Ord.compare m m').then (Ord.compare n n')).then (Ord.compare a b)
  | some _, none => .lt
  | none, some _ => .gt
  | none, none => Ord.compare a b

end CharAtlas.Version
