import CharAtlas.Text.Pieces

/-! # Cutting texts and putting them together

`pieces` undoes joining with the separator (`pieces_intercalate`), `cutAt` finds the first separator
(`cutAt_eq_some`) and `tailAfter` what a text goes on with (`tailAfter_eq_some_iff`). -/

namespace CharAtlas.Text

section
variable {sep c : Char} {s t u : String}

theorem pieces_empty (sep : Char) : pieces sep "" = [""] := rfl

theorem not_mem_of_mem_splitOn {w cs : List Char} (h : w ∈ cs.splitOn sep) : sep ∉ w := by
  induction cs generalizing w with
  | nil =>
    rw [List.splitOn_nil, List.mem_singleton] at h
    simp [h]
  | cons d cs ih =>
    obtain ⟨v, vs, hv⟩ := List.exists_cons_of_ne_nil (List.splitOn_ne_nil sep cs)
    rw [List.splitOn_cons_eq_if_modifyHead, hv] at h
    rw [hv] at ih
    split at h
    · rcases List.mem_cons.1 h with rfl | h
      · simp
      · exact ih h
    · rename_i hd
      rcases List.mem_cons.1 h with rfl | h
      · intro hw
        rcases List.mem_cons.1 hw with rfl | hw
        · simp at hd
        · exact ih (List.mem_cons_self ..) hw
      · exact ih (List.mem_cons_of_mem _ h)

theorem mem_of_mem_splitOn {w cs : List Char} (h : w ∈ cs.splitOn sep) (hc : c ∈ w) : c ∈ cs := by
  have hcs : [sep].intercalate (cs.splitOn sep) = cs := List.intercalate_splitOn sep
  rw [← hcs]
  generalize cs.splitOn sep = ws at h
  induction ws with
  | nil => exact absurd h List.not_mem_nil
  | cons v ws ih =>
    cases ws with
    | nil =>
      rw [List.mem_singleton.1 h] at hc
      rwa [List.intercalate_singleton]
    | cons u ws =>
      rw [List.intercalate_cons_cons]
      rcases List.mem_cons.1 h with rfl | h
      · simp [hc]
      · simp [ih h]

theorem not_mem_of_mem_pieces (h : t ∈ pieces sep s) : sep ∉ t.toList := by
  obtain ⟨w, hw, rfl⟩ := List.mem_map.1 h
  rw [String.toList_ofList]
  exact not_mem_of_mem_splitOn hw

theorem mem_of_mem_pieces (h : t ∈ pieces sep s) (hc : c ∈ t.toList) : c ∈ s.toList := by
  obtain ⟨w, hw, rfl⟩ := List.mem_map.1 h
  rw [String.toList_ofList] at hc
  exact mem_of_mem_splitOn hw hc

/-- Joining texts that do not contain the separator, and cutting the result up again. -/
theorem pieces_intercalate {joint : String} (hj : joint.toList = [sep]) {ts : List String}
    (h : ∀ t ∈ ts, sep ∉ t.toList) (hne : ts ≠ []) : pieces sep (joint.intercalate ts) = ts := by
  unfold pieces
  rw [String.toList_intercalate, hj, List.splitOn_intercalate]
  · rw [List.map_map]
    simp [Function.comp_def]
  · intro l hl
    obtain ⟨t, ht, rfl⟩ := List.mem_map.1 hl
    exact h t ht
  · simpa using hne

/-- The pieces are the texts without separators that give the text when they are joined. -/
theorem pieces_eq_iff {joint : String} (hj : joint.toList = [sep]) {ts : List String} :
    pieces sep s = ts ↔ ts ≠ [] ∧ (∀ t ∈ ts, sep ∉ t.toList) ∧ joint.intercalate ts = s := by
  constructor
  · rintro rfl
    refine ⟨?_, fun t ht => not_mem_of_mem_pieces ht, ?_⟩
    · exact mt List.map_eq_nil_iff.1 (List.splitOn_ne_nil sep s.toList)
    · rw [← String.toList_inj, String.toList_intercalate, hj, pieces, List.map_map]
      simp [Function.comp_def, List.intercalate_splitOn]
  · rintro ⟨hne, hsep, rfl⟩
    exact pieces_intercalate hj hsep hne

/-- Whatever is cut up, a separator between two texts keeps their pieces apart. -/
theorem pieces_append {joint : String} (hj : joint.toList = [sep]) (s t : String) :
    pieces sep (s ++ joint ++ t) = pieces sep s ++ pieces sep t := by
  unfold pieces
  rw [String.toList_append, String.toList_append, hj, List.append_assoc, List.singleton_append,
    List.splitOn_append_cons_self, List.map_append]

theorem pieces_of_not_mem (h : sep ∉ s.toList) : pieces sep s = [s] := by
  have hbeq : ∀ c ∈ s.toList, (c == sep) = false := by
    intro c hc
    rw [beq_eq_false_iff_ne]
    rintro rfl
    exact h hc
  unfold pieces
  rw [List.splitOn_eq_singleton_of_beq_eq_false hbeq, List.map_singleton, String.ofList_toList]

theorem cutChars_append {a b : List Char} (h : sep ∉ a) :
    cutChars sep (a ++ sep :: b) = some (a, b) := by
  induction a with
  | nil => simp [cutChars]
  | cons c a ih =>
    obtain ⟨hc, ha⟩ := not_or.1 (mt List.mem_cons.2 h)
    simp [cutChars, ih ha, Ne.symm hc]

theorem cutChars_eq_none {cs : List Char} (h : sep ∉ cs) : cutChars sep cs = none := by
  induction cs with
  | nil => rfl
  | cons c cs ih =>
    obtain ⟨hc, hcs⟩ := not_or.1 (mt List.mem_cons.2 h)
    simp [cutChars, ih hcs, Ne.symm hc]

theorem cutAt_eq_none (h : sep ∉ s.toList) : cutAt sep s = none := by
  unfold cutAt
  rw [cutChars_eq_none h]
  rfl

/-- The first separator in a text, all before it being free of separators. -/
theorem cutAt_append {joint : String} (hj : joint.toList = [sep]) (h : sep ∉ s.toList) (t : String) :
    cutAt sep (s ++ joint ++ t) = some (s, t) := by
  unfold cutAt
  rw [String.toList_append, String.toList_append, hj, List.append_assoc, List.singleton_append,
    cutChars_append h]
  simp

theorem cutAt_eq_some {a b : String} (h : cutAt sep s = some (a, b)) :
    sep ∉ a.toList ∧ s.toList = a.toList ++ sep :: b.toList := by
  by_cases hs : sep ∈ s.toList
  · obtain ⟨u, v, huv, hu⟩ := List.eq_append_cons_of_mem hs
    unfold cutAt at h
    rw [huv, cutChars_append hu] at h
    simp only [Option.map_some, Option.some.injEq, Prod.mk.injEq] at h
    obtain ⟨rfl, rfl⟩ := h
    simpa using ⟨hu, huv⟩
  · rw [cutAt_eq_none hs] at h
    cases h

theorem tailAfter_eq_some_iff : tailAfter s t = some u ↔ t = s ++ u := by
  unfold tailAfter charsAfter
  rw [← String.toList_inj, String.toList_append]
  constructor
  · intro h
    split at h
    · rename_i hp
      obtain ⟨w, hw⟩ := List.isPrefixOf_iff_prefix.1 hp
      simp only [Option.map_some, Option.some.injEq] at h
      rw [← h, String.toList_ofList, ← hw, List.drop_left]
    · cases h
  · intro h
    rw [h, if_pos (List.isPrefixOf_iff_prefix.2 (List.prefix_append ..)), List.drop_left]
    simp

theorem tailAfter_eq_none_iff : tailAfter s t = none ↔ ¬s.toList <+: t.toList := by
  unfold tailAfter charsAfter
  rw [← List.isPrefixOf_iff_prefix]
  split <;> simp_all

end
end CharAtlas.Text
