import CharAtlas.Corpus.Character

/-! # The table of characters

A `CharacterTable` holds one row for each of its code points, in ascending order.
`CharacterTable.put` writes a row and `CharacterTable.get?` reads one; `get?_put` says that the row
written last is read. -/

namespace CharAtlas

/-- Puts a row in its place by code point, in lieu of the one there. -/
def putAscending (c : StoredCharacter) : List StoredCharacter → List StoredCharacter
  | [] => [c]
  | d :: rows =>
    if c.codepoint < d.codepoint then c :: d :: rows
    else if d.codepoint < c.codepoint then d :: putAscending c rows
    else c :: rows

def CodepointsAscend (rows : List StoredCharacter) : Prop :=
  rows.Pairwise fun c d => c.codepoint < d.codepoint

theorem eq_or_mem_of_mem_putAscending {c d : StoredCharacter} {rows : List StoredCharacter}
    (h : d ∈ putAscending c rows) : d = c ∨ d ∈ rows := by
  induction rows with
  | nil => exact .inl (List.mem_singleton.1 h)
  | cons e rows ih =>
    unfold putAscending at h
    split at h
    · exact List.mem_cons.1 h
    · split at h
      · rcases List.mem_cons.1 h with rfl | h
        · exact .inr (List.mem_cons_self ..)
        · exact (ih h).imp_right (List.mem_cons_of_mem _)
      · exact (List.mem_cons.1 h).imp_right (List.mem_cons_of_mem _)

theorem CodepointsAscend.putAscending {rows : List StoredCharacter} (h : CodepointsAscend rows)
    (c : StoredCharacter) : CodepointsAscend (putAscending c rows) := by
  induction h with
  | nil => exact .cons (fun _ h => absurd h List.not_mem_nil) .nil
  | @cons d rows hd hrows ih =>
    unfold CharAtlas.putAscending
    split
    · rename_i hcd
      refine .cons (fun e he => ?_) (.cons hd hrows)
      rcases List.mem_cons.1 he with rfl | he
      · exact hcd
      · exact Nat.lt_trans hcd (hd e he)
    · split
      · rename_i hdc
        refine .cons (fun e he => ?_) ih
        rcases eq_or_mem_of_mem_putAscending he with rfl | he
        · exact hdc
        · exact hd e he
      · rename_i hcd hdc
        exact .cons (fun e he => Nat.lt_of_le_of_lt (Nat.not_lt.1 hdc) (hd e he)) hrows

/-- The row of a code point in an ascending list. -/
def rowAt? (codepoint : Nat) (rows : List StoredCharacter) : Option StoredCharacter :=
  rows.find? (·.codepoint == codepoint)

theorem rowAt?_putAscending (c : StoredCharacter) (n : Nat) (rows : List StoredCharacter) :
    rowAt? n (putAscending c rows) = if c.codepoint = n then some c else rowAt? n rows := by
  induction rows with
  | nil => grind [putAscending, rowAt?]
  | cons d rows ih => grind [putAscending, rowAt?]

structure CharacterTable where
  rows : List StoredCharacter
  ascending : CodepointsAscend rows

namespace CharacterTable

def empty : CharacterTable := ⟨[], .nil⟩

def put (t : CharacterTable) (c : StoredCharacter) : CharacterTable :=
  ⟨putAscending c t.rows, t.ascending.putAscending c⟩

def get? (t : CharacterTable) (codepoint : Nat) : Option StoredCharacter :=
  rowAt? codepoint t.rows

theorem get?_put (t : CharacterTable) (c : StoredCharacter) (n : Nat) :
    (t.put c).get? n = if c.codepoint = n then some c else t.get? n :=
  rowAt?_putAscending c n t.rows

instance : DecidableEq CharacterTable := fun s t =>
  if h : s.rows = t.rows then isTrue (by cases s; cases t; cases h; rfl)
  else isFalse (fun e => h (e ▸ rfl))

end CharacterTable
end CharAtlas
