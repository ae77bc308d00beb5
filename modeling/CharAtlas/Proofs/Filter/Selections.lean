import CharAtlas.Filter.Clause

/-! # First selections

`Filter.firstSelection f d` is what the first clause of `f` on the dimension `d` selects. These are
the selections that count (`Filter.mem_selections_iff`), one for each dimension
(`Filter.selections_nodup`). -/

namespace CharAtlas

/-- The values that a clause selects in the dimension `d`. -/
def Clause.valuesIn? (d : Dimension) : Clause → Option (List String)
  | members e values => if e = d then some values else none
  | _ => none

namespace Filter

def firstSelection (f : Filter) (d : Dimension) : Option (List String) :=
  f.findSome? (Clause.valuesIn? d)

variable {f : Filter} {d : Dimension} {values : List String}

theorem mem_of_firstSelection (h : f.firstSelection d = some values) :
    .members d values ∈ f := by
  obtain ⟨c, hc, he⟩ := List.exists_of_findSome?_eq_some h
  cases c with
  | members e v =>
    simp only [Clause.valuesIn?, Option.ite_none_right_eq_some, Option.some.injEq] at he
    obtain ⟨rfl, rfl⟩ := he
    exact hc
  | _ => cases he

theorem firstSelection_eq_none_iff : f.firstSelection d = none ↔ ∀ values, .members d values ∉ f := by
  unfold firstSelection
  rw [List.findSome?_eq_none_iff]
  constructor
  · intro h values hm
    have := h _ hm
    simp [Clause.valuesIn?] at this
  · intro h c hc
    cases c with
    | members e v =>
      by_cases he : e = d
      · exact absurd (he ▸ hc) (h v)
      · simp [Clause.valuesIn?, he]
    | _ => rfl

/-- Where all clauses on a dimension agree, any of them is the first. -/
theorem firstSelection_eq_some (hm : .members d values ∈ f)
    (h : ∀ v, .members d v ∈ f → v = values) : f.firstSelection d = some values := by
  cases hd : f.firstSelection d with
  | none => exact absurd hm (firstSelection_eq_none_iff.1 hd values)
  | some v => rw [h v (mem_of_firstSelection hd)]

theorem mem_selectionsFrom_iff {seen : List Dimension} :
    (d, values) ∈ selectionsFrom seen f ↔ d ∉ seen ∧ f.firstSelection d = some values := by
  induction f generalizing seen with
  | nil => simp [selectionsFrom, firstSelection]
  | cons c f ih =>
    cases c with
    | members e v =>
      simp only [selectionsFrom, firstSelection, List.findSome?_cons, Clause.valuesIn?]
      by_cases he : e = d
      · subst he
        by_cases hs : e ∈ seen <;> simp [hs, ih, eq_comm]
      · by_cases hs : e ∈ seen
        · simp [hs, he, ih, firstSelection]
        · simp [hs, he, ih, firstSelection, Ne.symm he]
    | _ => exact ih

theorem mem_selections_iff : (d, values) ∈ f.selections ↔ f.firstSelection d = some values := by
  simp [selections, mem_selectionsFrom_iff]

theorem selectionsFrom_nodup (seen : List Dimension) (f : Filter) :
    ((selectionsFrom seen f).map (·.1)).Nodup := by
  induction f generalizing seen with
  | nil => exact .nil
  | cons c f ih =>
    cases c with
    | members e v =>
      unfold selectionsFrom
      split
      · exact ih seen
      · rw [List.map_cons, List.nodup_cons]
        refine ⟨fun h => ?_, ih _⟩
        obtain ⟨⟨d, w⟩, hd, rfl⟩ := List.mem_map.1 h
        exact (mem_selectionsFrom_iff.1 hd).1 (List.mem_cons_self ..)
    | _ => exact ih seen

theorem selections_nodup (f : Filter) : (f.selections.map (·.1)).Nodup :=
  selectionsFrom_nodup [] f

end Filter
end CharAtlas
