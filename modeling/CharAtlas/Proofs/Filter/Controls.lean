import CharAtlas.Filter.Controls
import CharAtlas.Proofs.Filter.Selections
import CharAtlas.Proofs.OrderedSet

/-! # Controls and filters, control by control

What a filter sets each control to (`Controls.ofFilter_selection`, `Controls.ofFilter_toggle`, ...):
the first selection in a dimension and the last clause of any other kind count. Conversely
`Controls.mem_toFilter_iff` lists the clauses that controls stand for. -/

namespace CharAtlas

attribute [ext] Controls

namespace Toggle

/-- What a clause on a property sets its toggle to. -/
def ofNegated (negated : Bool) : Toggle :=
  if negated then exclude else require

theorem ofNegated_ne_unset (negated : Bool) : ofNegated negated ≠ unset := by
  cases negated <;> decide

theorem ofNegated_inj {a b : Bool} : ofNegated a = ofNegated b ↔ a = b := by
  cases a <;> cases b <;> decide

end Toggle

namespace Clause

def toggle? (p : Property) : Clause → Option Toggle
  | property q negated => if q = p then some (.ofNegated negated) else none
  | _ => none

def searchText? : Clause → Option String
  | search t => some t
  | _ => none

/-- The text of a clause on confusables, of those that are asked for or of those that are not. -/
def confusableText? (negated : Bool) : Clause → Option String
  | confusableWith t => if negated then none else some t
  | notConfusableWith t => if negated then some t else none
  | _ => none

section
variable {f : Filter} {t : String}

theorem mem_texts_iff {text? : Clause → Option String} {clause : String → Clause}
    (h : ∀ c t, text? c = some t ↔ c = clause t) : t ∈ f.filterMap text? ↔ clause t ∈ f := by
  rw [List.mem_filterMap]
  constructor
  · rintro ⟨c, hc, ht⟩
    rwa [← (h c t).1 ht]
  · exact fun hc => ⟨_, hc, (h _ t).2 rfl⟩

theorem mem_searchTexts : t ∈ f.filterMap searchText? ↔ .search t ∈ f :=
  mem_texts_iff fun c t => by cases c <;> simp [searchText?]

theorem mem_confusableTexts : t ∈ f.filterMap (confusableText? false) ↔ .confusableWith t ∈ f :=
  mem_texts_iff fun c t => by cases c <;> simp [confusableText?]

theorem mem_notConfusableTexts :
    t ∈ f.filterMap (confusableText? true) ↔ .notConfusableWith t ∈ f :=
  mem_texts_iff fun c t => by cases c <;> simp [confusableText?]

theorem mem_toggles {p : Property} {t : Toggle} :
    t ∈ f.filterMap (toggle? p) ↔ ∃ negated, t = .ofNegated negated ∧ .property p negated ∈ f := by
  rw [List.mem_filterMap]
  constructor
  · rintro ⟨c, hc, he⟩
    cases c with
    | property q negated =>
      simp only [toggle?, Option.ite_none_right_eq_some, Option.some.injEq] at he
      obtain ⟨rfl, rfl⟩ := he
      exact ⟨negated, rfl, hc⟩
    | _ => cases he
  · rintro ⟨negated, rfl, h⟩
    exact ⟨_, h, by simp [toggle?]⟩

end

end Clause

namespace Controls
variable {s : Controls} {catalog : Catalog} {f : Filter} {d : Dimension} {p : Property}

/-! ### From filters to controls -/

/-- A control that each clause either sets or leaves alone shows what the last clause set it to. -/
theorem foldl_apply {β : Type} (control : Controls → β) (set? : Clause → Option β)
    (h : ∀ s c, control (s.apply c) = (set? c).getD (control s)) (f : Filter) (s : Controls) :
    control (f.foldl apply s) = (f.filterMap set?).getLast?.getD (control s) := by
  induction f generalizing s with
  | nil => rfl
  | cons c f ih =>
    rw [List.foldl_cons, ih, h]
    cases hc : set? c with
    | none => rw [List.filterMap_cons_none hc, Option.getD_none]
    | some b => rw [List.filterMap_cons_some hc, List.getLast?_cons]; rfl

theorem foldl_withSelection {β : Type} (control : Controls → β)
    (h : ∀ s d values, control (withSelection s d values) = control s)
    (l : List (Dimension × List String)) (s : Controls) :
    control (l.foldl (fun s (d, values) => s.withSelection d values) s) = control s := by
  induction l generalizing s with
  | nil => rfl
  | cons e l ih => rw [List.foldl_cons, ih, h]

theorem foldl_selectionsFrom (f : Filter) (seen : List Dimension) (s : Controls) (d : Dimension) :
    ((Filter.selectionsFrom seen f).foldl
        (fun s (d, values) => s.withSelection d values) s).selection d =
      if d ∈ seen then s.selection d
      else ((f.firstSelection d).map OrderedSet.ofList).getD (s.selection d) := by
  induction f generalizing seen s with
  | nil => simp [Filter.selectionsFrom, Filter.firstSelection]
  | cons c f ih =>
    cases c with
    | members e v =>
      by_cases he : e ∈ seen
      · have hfrom : Filter.selectionsFrom seen (.members e v :: f) =
            Filter.selectionsFrom seen f := by
          simp [Filter.selectionsFrom, he]
        rw [hfrom, ih]
        by_cases hd : d ∈ seen
        · simp [hd]
        · have hne : e ≠ d := fun h => hd (h ▸ he)
          simp [hd, Filter.firstSelection, Clause.valuesIn?, hne]
      · have hfrom : Filter.selectionsFrom seen (.members e v :: f) =
            (e, v) :: Filter.selectionsFrom (e :: seen) f := by
          simp [Filter.selectionsFrom, he]
        rw [hfrom, List.foldl_cons, ih]
        by_cases hd : e = d
        · subst hd
          simp [he, Filter.firstSelection, Clause.valuesIn?, withSelection]
        · simp [Filter.firstSelection, Clause.valuesIn?, withSelection, hd, Ne.symm hd]
    | _ => exact ih seen s

theorem ofFilter_selection (catalog : Catalog) (f : Filter) (d : Dimension) :
    (ofFilter catalog f).selection d = .ofList ((f.firstSelection d).getD (catalog.values d)) := by
  unfold ofFilter
  rw [foldl_apply (fun s => s.selection d) (fun _ => none) (fun s c => by cases c <;> rfl)]
  have hnone : f.filterMap (fun _ => (none : Option (OrderedSet String))) = [] :=
    List.filterMap_eq_nil_iff.2 fun _ _ => rfl
  rw [hnone]
  refine (foldl_selectionsFrom f [] (initial catalog) d).trans ?_
  cases f.firstSelection d <;> rfl

theorem ofFilter_toggle (catalog : Catalog) (f : Filter) (p : Property) :
    (ofFilter catalog f).toggle p = (f.filterMap (Clause.toggle? p)).getLast?.getD .unset := by
  unfold ofFilter
  rw [foldl_apply (fun s => s.toggle p) (Clause.toggle? p)]
  · rw [foldl_withSelection (fun s => s.toggle p) fun _ _ _ => rfl]
    rfl
  · intro s c
    cases c with
    | property q negated =>
      by_cases hq : q = p
      · subst hq
        simp [apply, withToggle, Clause.toggle?, Toggle.ofNegated]
      · simp [apply, withToggle, Clause.toggle?, hq, Ne.symm hq]
    | _ => rfl

/-- A control that shows a text shows the last one that it was set to, trimmed. -/
theorem ofFilter_text {control : Controls → String} {text? : Clause → Option String}
    (hinitial : ∀ catalog, control (initial catalog) = "")
    (hselection : ∀ s d values, control (withSelection s d values) = control s)
    (happly : ∀ s c, control (apply s c) = ((text? c).map Text.trim).getD (control s))
    (catalog : Catalog) (f : Filter) : control (ofFilter catalog f) =
      ((f.filterMap text?).map Text.trim).getLast?.getD "" := by
  unfold ofFilter
  rw [foldl_apply control _ happly, foldl_withSelection control hselection, hinitial,
    List.map_filterMap]

theorem ofFilter_search (catalog : Catalog) (f : Filter) :
    (ofFilter catalog f).search =
      ((f.filterMap Clause.searchText?).map Text.trim).getLast?.getD "" :=
  ofFilter_text (fun _ => rfl) (fun _ _ _ => rfl) (fun s c => by cases c <;> rfl) catalog f

theorem ofFilter_confusableWith (catalog : Catalog) (f : Filter) :
    (ofFilter catalog f).confusableWith =
      ((f.filterMap (Clause.confusableText? false)).map Text.trim).getLast?.getD "" :=
  ofFilter_text (fun _ => rfl) (fun _ _ _ => rfl) (fun s c => by cases c <;> rfl) catalog f

theorem ofFilter_notConfusableWith (catalog : Catalog) (f : Filter) :
    (ofFilter catalog f).notConfusableWith =
      ((f.filterMap (Clause.confusableText? true)).map Text.trim).getLast?.getD "" :=
  ofFilter_text (fun _ => rfl) (fun _ _ _ => rfl) (fun s c => by cases c <;> rfl) catalog f

/-! ### From controls to filters -/

/-- Whether a clause says what its control shows, the control being one that leaves something
out. -/
def Shows (s : Controls) (catalog : Catalog) : Clause → Prop
  | .property p negated => s.toggle p = .ofNegated negated
  | .members d values => s.isFull catalog d = false ∧ values = (s.selection d).toList
  | .search t => s.search ≠ "" ∧ t = s.search
  | .confusableWith t => s.confusableWith ≠ "" ∧ t = s.confusableWith
  | .notConfusableWith t => s.notConfusableWith ≠ "" ∧ t = s.notConfusableWith

theorem toggleClause?_eq_some_iff {c : Clause} :
    s.toggleClause? p = some c ↔
      ∃ negated, s.toggle p = .ofNegated negated ∧ c = .property p negated := by
  unfold toggleClause?
  constructor
  · intro h
    split at h
    · cases h
    · rename_i ht
      exact ⟨false, ht, (Option.some.inj h).symm⟩
    · rename_i ht
      exact ⟨true, ht, (Option.some.inj h).symm⟩
  · rintro ⟨negated, ht, rfl⟩
    rw [ht]
    cases negated <;> rfl

theorem selectionClause?_eq_some_iff {c : Clause} : s.selectionClause? catalog d = some c ↔
    s.isFull catalog d = false ∧ c = .members d (s.selection d).toList := by
  unfold selectionClause?
  cases s.isFull catalog d with
  | true => simp
  | false =>
    simp only [Bool.false_eq_true, if_false, Option.some.injEq, true_and]
    exact eq_comm

theorem textClause?_eq_some_iff {clause : String → Clause} {t : String} {c : Clause} :
    textClause? clause t = some c ↔ t ≠ "" ∧ c = clause t := by
  unfold textClause?
  by_cases ht : t = ""
  · simp [ht]
  · simp only [ht, if_false, Option.some.injEq, ne_eq, not_false_eq_true, true_and]
    exact eq_comm

theorem mem_toFilter_iff {c : Clause} : c ∈ s.toFilter catalog ↔ s.Shows catalog c := by
  have htoggle : c ∈ Property.all.filterMap s.toggleClause? ↔
      ∃ p negated, s.toggle p = .ofNegated negated ∧ c = .property p negated := by
    simp only [List.mem_filterMap, toggleClause?_eq_some_iff, Property.mem_all, true_and]
  have hselection : c ∈ Dimension.all.filterMap (s.selectionClause? catalog) ↔
      ∃ d, s.isFull catalog d = false ∧ c = .members d (s.selection d).toList := by
    simp only [List.mem_filterMap, selectionClause?_eq_some_iff, Dimension.mem_all, true_and]
  unfold toFilter
  rw [List.mem_append, List.mem_append, htoggle, hselection]
  simp only [List.mem_filterMap, List.mem_cons, List.not_mem_nil, or_false, id_eq,
    exists_eq_or_imp, exists_eq_left, textClause?_eq_some_iff]
  cases c <;> simp [Shows]

end Controls
end CharAtlas
