import CharAtlas.Store.Database

/-! # Similarity of names

How much a name resembles an `Anchor` text: the trigrams that they share, as a part of all that
either has. `Database.score` works it out from the tables. -/

namespace CharAtlas

/-- The text that names are compared with. -/
structure Anchor where
  text : String
  trigrams : OrderedSet String
  trigrams_eq : trigrams = CharAtlas.trigrams text

namespace Anchor

def ofText (text : String) : Anchor :=
  ⟨text, CharAtlas.trigrams text, rfl⟩

end Anchor

/-- The fraction `shared / total`. -/
structure Score where
  shared : Nat
  total : Nat
deriving DecidableEq

namespace Score

def zero : Score := ⟨0, 1⟩

/-- Whether the score is three tenths or more. -/
def isFuzzyMatch (s : Score) : Bool :=
  3 * s.total ≤ 10 * s.shared

protected def compare (s t : Score) : Ordering :=
  Ord.compare (s.shared * t.total) (t.shared * s.total)

end Score

namespace Database

/-- The trigrams kept of the name of a code point. -/
def trigramsOf (db : Database) (codepoint : Nat) : List String :=
  (db.nameTrigrams.filter (·.codepoint == codepoint)).flatMap (·.trigrams.toList)

/-- The score of a row; zero for an anchor without trigrams, `none` for a division by zero. -/
def score (db : Database) (a : Anchor) (c : StoredCharacter) : Option Score :=
  if a.trigrams.isEmpty then some .zero
  else
    let shared := (db.trigramsOf c.codepoint).countP a.trigrams.contains
    let total := c.nameTrigramCount + a.trigrams.size - shared
    if total = 0 then none else some ⟨shared, total⟩

end Database
end CharAtlas
