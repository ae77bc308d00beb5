import CharAtlas.Corpus.Table
import Mathlib.Data.List.Nodup

/-! # Rows of the table of characters

A code point has one row at most (`CharacterTable.codepoints_nodup`), the one that is read
(`CharacterTable.mem_rows_iff`). Writing a row leaves all others as they are
(`CharacterTable.mem_rows_put`). -/

namespace CharAtlas

theorem rowAt?_eq_some_iff {rows : List StoredCharacter} (h : CodepointsAscend rows) {n : Nat}
    {c : StoredCharacter} : rowAt? n rows = some c ↔ c ∈ rows ∧ c.codepoint = n := by
  induction h with
  | nil => simp [rowAt?]
  | @cons d rows hd hrows ih =>
    unfold rowAt? at ih ⊢
    by_cases hn : d.codepoint = n
    · rw [List.find?_cons_of_pos (by simpa using hn), Option.some.injEq, List.mem_cons]
      constructor
      · rintro rfl
        exact ⟨.inl rfl, hn⟩
      · rintro ⟨rfl | hc, hcn⟩
        · rfl
        · have := hd c hc
          omega
    · rw [List.find?_cons_of_neg (by simpa using hn), ih, List.mem_cons]
      constructor
      · rintro ⟨hc, hcn⟩
        exact ⟨.inr hc, hcn⟩
      · rintro ⟨rfl | hc, hcn⟩
        · exact absurd hcn hn
        · exact ⟨hc, hcn⟩

namespace CharacterTable
variable {t : CharacterTable} {c d : StoredCharacter} {n : Nat}

theorem get?_eq_some_iff : t.get? n = some c ↔ c ∈ t.rows ∧ c.codepoint = n :=
  rowAt?_eq_some_iff t.ascending

theorem mem_rows_iff : c ∈ t.rows ↔ t.get? c.codepoint = some c := by
  rw [get?_eq_some_iff, and_iff_left rfl]

theorem codepoints_nodup (t : CharacterTable) : (t.rows.map (·.codepoint)).Nodup := by
  rw [List.Nodup, List.pairwise_map]
  exact t.ascending.imp Nat.ne_of_lt

theorem rows_nodup (t : CharacterTable) : t.rows.Nodup :=
  t.codepoints_nodup.of_map

theorem mem_rows_put : d ∈ (t.put c).rows ↔ d = c ∨ d ∈ t.rows ∧ d.codepoint ≠ c.codepoint := by
  rw [mem_rows_iff, get?_put, mem_rows_iff]
  by_cases hn : c.codepoint = d.codepoint
  · rw [if_pos hn, Option.some.injEq, eq_comm]
    exact (or_iff_left fun h => h.2 hn.symm).symm
  · rw [if_neg hn, and_iff_left (Ne.symm hn)]
    refine (or_iff_right ?_).symm
    rintro rfl
    exact hn rfl

end CharacterTable
end CharAtlas
