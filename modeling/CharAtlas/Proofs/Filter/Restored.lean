import CharAtlas.Proofs.Filter.Controls
import CharAtlas.Proofs.Filter.RoundTrip

/-! # Controls read back from their text

Controls that a client can bring about (`Controls.Reachable`) are read back from their own text
(`Controls.exists_ofText_text`), but for selections that leave nothing out: these are not written,
and all that is known comes back in their place (`Controls.restored`). -/

namespace CharAtlas

namespace Controls
variable {s : Controls} {catalog : Catalog}

/-- Controls that a client can bring about, with whatever catalogs. -/
inductive Reachable : Controls → Prop
  | initial (catalog : Catalog) : Reachable (initial catalog)
  | ofText {text : String} {catalog : Catalog} {s : Controls} (h : ofText text catalog = .ok s) :
    Reachable s
  | withToggle {s : Controls} (h : Reachable s) (p : Property) (t : Toggle) :
    Reachable (s.withToggle p t)
  | withSelection {s : Controls} (h : Reachable s) (d : Dimension) (values : List String) :
    Reachable (s.withSelection d values)
  | withSearch {s : Controls} (h : Reachable s) (text : String) : Reachable (s.withSearch text)
  | withConfusableWith {s : Controls} (h : Reachable s) (text : String) :
    Reachable (s.withConfusableWith text)
  | withNotConfusableWith {s : Controls} (h : Reachable s) (text : String) :
    Reachable (s.withNotConfusableWith text)

structure HasTrimmedTexts (s : Controls) : Prop where
  search : Text.trim s.search = s.search
  confusableWith : Text.trim s.confusableWith = s.confusableWith
  notConfusableWith : Text.trim s.notConfusableWith = s.notConfusableWith

theorem trim_empty : Text.trim "" = "" := rfl

theorem trim_last (l : List String) :
    Text.trim ((l.map Text.trim).getLast?.getD "") = (l.map Text.trim).getLast?.getD "" := by
  rw [List.getLast?_map]
  cases l.getLast? with
  | none => exact trim_empty
  | some t => exact Text.trim_trim t

theorem hasTrimmedTexts_ofFilter (catalog : Catalog) (f : Filter) :
    (ofFilter catalog f).HasTrimmedTexts := by
  refine ⟨?_, ?_, ?_⟩
  · rw [ofFilter_search, trim_last]
  · rw [ofFilter_confusableWith, trim_last]
  · rw [ofFilter_notConfusableWith, trim_last]

theorem ofText_eq_ok_iff {text : String} : ofText text catalog = .ok s ↔
    ∃ f, Filter.ofText text = .ok f ∧ s = ofFilter catalog f := by
  unfold ofText
  cases Filter.ofText text <;> simp [Except.map, eq_comm]

theorem Reachable.hasTrimmedTexts (h : s.Reachable) : s.HasTrimmedTexts := by
  induction h with
  | initial catalog => exact ⟨trim_empty, trim_empty, trim_empty⟩
  | ofText h =>
    obtain ⟨f, -, rfl⟩ := ofText_eq_ok_iff.1 h
    exact hasTrimmedTexts_ofFilter _ f
  | withToggle _ _ _ ih => exact ⟨ih.search, ih.confusableWith, ih.notConfusableWith⟩
  | withSelection _ _ _ ih => exact ⟨ih.search, ih.confusableWith, ih.notConfusableWith⟩
  | withSearch _ _ ih => exact ⟨Text.trim_trim _, ih.confusableWith, ih.notConfusableWith⟩
  | withConfusableWith _ _ ih => exact ⟨ih.search, Text.trim_trim _, ih.notConfusableWith⟩
  | withNotConfusableWith _ _ ih => exact ⟨ih.search, ih.confusableWith, Text.trim_trim _⟩

/-- All that is known is selected wherever nothing was left out. -/
def restored (s : Controls) (catalog : Catalog) : Controls :=
  { s with selection := fun d =>
      if s.isFull catalog d then .ofList (catalog.values d) else s.selection d }

theorem getLast?_getD_eq {α : Type} {l : List α} {a b : α} (h : ∀ x ∈ l, x = a)
    (hnil : l = [] → b = a) : l.getLast?.getD b = a := by
  cases hl : l.getLast? with
  | none => exact hnil (List.getLast?_eq_none_iff.1 hl)
  | some x => exact h x (List.mem_of_getLast? hl)

theorem toggle_ofFilter_toFilter (s : Controls) (catalog : Catalog) (p : Property) :
    (ofFilter catalog (s.toFilter catalog)).toggle p = s.toggle p := by
  rw [ofFilter_toggle]
  refine getLast?_getD_eq (fun t ht => ?_) fun hnil => ?_
  · obtain ⟨negated, rfl, hc⟩ := Clause.mem_toggles.1 ht
    exact (mem_toFilter_iff.1 hc).symm
  · by_contra hne
    obtain ⟨negated, hn⟩ : ∃ negated, s.toggle p = .ofNegated negated := by
      cases ht : s.toggle p with
      | unset => exact absurd ht.symm hne
      | require => exact ⟨false, rfl⟩
      | exclude => exact ⟨true, rfl⟩
    have hshown : .property p negated ∈ s.toFilter catalog := mem_toFilter_iff.2 hn
    have hmem := Clause.mem_toggles.2 ⟨negated, rfl, hshown⟩
    rw [hnil] at hmem
    exact absurd hmem List.not_mem_nil

/-- A trimmed text that is the only one of its kind is the last one. -/
theorem last_text {l : List String} {t : String} (ht : Text.trim t = t)
    (h : ∀ u, u ∈ l ↔ t ≠ "" ∧ u = t) : (l.map Text.trim).getLast?.getD "" = t := by
  refine getLast?_getD_eq (fun u hu => ?_) fun hnil => ?_
  · obtain ⟨v, hv, rfl⟩ := List.mem_map.1 hu
    rw [((h v).1 hv).2, ht]
  · by_contra hne
    have hmem := (h t).2 ⟨Ne.symm hne, rfl⟩
    rw [List.map_eq_nil_iff.1 hnil] at hmem
    exact absurd hmem List.not_mem_nil

theorem firstSelection_toFilter (s : Controls) (catalog : Catalog) (d : Dimension) :
    (s.toFilter catalog).firstSelection d =
      if s.isFull catalog d then none else some (s.selection d).toList := by
  split
  · rename_i hfull
    rw [Filter.firstSelection_eq_none_iff]
    intro values hc
    rw [(mem_toFilter_iff.1 hc).1] at hfull
    cases hfull
  · rename_i hfull
    refine Filter.firstSelection_eq_some (mem_toFilter_iff.2 ⟨?_, rfl⟩) fun v hv => ?_
    · simpa using hfull
    · exact (mem_toFilter_iff.1 hv).2

theorem ofFilter_toFilter (hs : s.HasTrimmedTexts) (catalog : Catalog) :
    ofFilter catalog (s.toFilter catalog) = s.restored catalog := by
  apply Controls.ext
  · funext p
    exact toggle_ofFilter_toFilter s catalog p
  · funext d
    rw [ofFilter_selection, firstSelection_toFilter]
    simp only [restored]
    split
    · rfl
    · exact OrderedSet.ofList_toList _
  · rw [ofFilter_search]
    exact last_text hs.search fun u => Clause.mem_searchTexts.trans mem_toFilter_iff
  · rw [ofFilter_confusableWith]
    exact last_text hs.confusableWith fun u => Clause.mem_confusableTexts.trans mem_toFilter_iff
  · rw [ofFilter_notConfusableWith]
    exact last_text hs.notConfusableWith fun u =>
      Clause.mem_notConfusableTexts.trans mem_toFilter_iff

theorem wellFormed_toFilter (hs : s.HasTrimmedTexts) (hsearch : ',' ∉ s.search.toList)
    (hconf : ',' ∉ s.confusableWith.toList) (hnot : ',' ∉ s.notConfusableWith.toList)
    (hvalues : ∀ d values, .members d values ∈ s.toFilter catalog →
      ∀ v ∈ values, Clause.IsValue v) : (s.toFilter catalog).WellFormed := by
  intro c hc
  cases c with
  | property p negated => trivial
  | members d values => exact hvalues d values hc
  | search t =>
    obtain ⟨-, rfl⟩ := mem_toFilter_iff.1 hc
    exact Clause.isFreeText_of_trim hs.search hsearch
  | confusableWith t =>
    obtain ⟨-, rfl⟩ := mem_toFilter_iff.1 hc
    exact Clause.isFreeText_of_trim hs.confusableWith hconf
  | notConfusableWith t =>
    obtain ⟨-, rfl⟩ := mem_toFilter_iff.1 hc
    exact Clause.isFreeText_of_trim hs.notConfusableWith hnot

theorem ofText_text (hs : s.HasTrimmedTexts) (hf : (s.toFilter catalog).WellFormed) :
    ofText (s.text catalog) catalog = .ok (s.restored catalog) :=
  ofText_eq_ok_iff.2 ⟨_, Filter.ofText_text hf, (ofFilter_toFilter hs catalog).symm⟩

theorem isFull_iff {d : Dimension} : s.isFull catalog d = true ↔
    (∀ v ∈ catalog.values d, v ∈ s.selection d) ∧
      ((∀ v, v ∉ s.selection d) ↔ catalog.values d = []) := by
  unfold isFull
  rw [Bool.and_eq_true, List.all_eq_true, beq_iff_eq, Bool.eq_iff_iff, OrderedSet.isEmpty_iff,
    List.isEmpty_iff]
  simp only [OrderedSet.contains_iff]

/-- A selection of known values that leaves nothing out is all that is known. -/
theorem restored_eq_self (h : ∀ d, ∀ v ∈ s.selection d, v ∈ catalog.values d) :
    s.restored catalog = s := by
  apply Controls.ext
  · rfl
  · funext d
    simp only [restored]
    split
    · rename_i hfull
      refine OrderedSet.ext fun v => ?_
      rw [OrderedSet.mem_ofList]
      exact ⟨(isFull_iff.1 hfull).1 v, h d v⟩
    · rfl
  · rfl
  · rfl
  · rfl

theorem exists_members_iff {d : Dimension} :
    (∃ values, .members d values ∈ s.toFilter catalog) ↔ s.isFull catalog d = false :=
  ⟨fun ⟨_, h⟩ => (mem_toFilter_iff.1 h).1, fun h => ⟨_, mem_toFilter_iff.2 ⟨h, rfl⟩⟩⟩

/-- Controls are read back from their text, provided that no free text contains a comma and that the
values of the selections that are written have an extent of their own. What comes back in place of a
selection that is not written is all that is known. -/
theorem exists_ofText_text (hs : s.Reachable) (catalog : Catalog)
    (hsearch : ',' ∉ s.search.toList) (hconf : ',' ∉ s.confusableWith.toList)
    (hnot : ',' ∉ s.notConfusableWith.toList)
    (hvalues : ∀ d values, .members d values ∈ s.toFilter catalog → ∀ v ∈ values,
      v ≠ "" ∧ Text.trim v = v ∧ ',' ∉ v.toList ∧ '|' ∉ v.toList) :
    (∃ t, ofText (s.text catalog) catalog = .ok t ∧ t.toggle = s.toggle ∧ t.search = s.search ∧
      t.confusableWith = s.confusableWith ∧ t.notConfusableWith = s.notConfusableWith ∧
      ∀ d, ((∃ values, .members d values ∈ s.toFilter catalog) → t.selection d = s.selection d) ∧
        ((∀ values, .members d values ∉ s.toFilter catalog) →
          ∀ v, v ∈ t.selection d ↔ v ∈ catalog.values d)) ∧
    ((∀ d, ∀ v ∈ s.selection d, v ∈ catalog.values d) →
      ofText (s.text catalog) catalog = .ok s) := by
  have hread := ofText_text hs.hasTrimmedTexts
    (wellFormed_toFilter hs.hasTrimmedTexts hsearch hconf hnot hvalues)
  refine ⟨⟨_, hread, rfl, rfl, rfl, rfl, fun d => ⟨fun hd => ?_, fun hd => ?_⟩⟩, fun h => ?_⟩
  · simp [restored, exists_members_iff.1 hd]
  · have hfull : s.isFull catalog d = true := by
      rw [← Bool.not_eq_false, ← exists_members_iff]
      rintro ⟨values, hv⟩
      exact hd values hv
    intro v
    simp only [restored, hfull, if_true, OrderedSet.mem_ofList]
  · rw [hread, restored_eq_self h]

/-- All scripts but one left out, a text with both a colon and a bar, and a toggle. -/
def latinOnly : Controls :=
  (((initial ⟨fun _ => ["Greek", "Latin"]⟩).withSelection .scripts ["Latin"]).withSearch
    " a:b|c ").withToggle (.flag .alphabetic) .exclude

theorem ofText_text_latinOnly :
    latinOnly.Reachable ∧ latinOnly.search = "a:b|c" ∧
    (∀ d values, .members d values ∈ latinOnly.toFilter ⟨fun _ => ["Greek", "Latin"]⟩ →
      ∀ v ∈ values, v ≠ "" ∧ Text.trim v = v ∧ ',' ∉ v.toList ∧ '|' ∉ v.toList) ∧
    ofText (latinOnly.text ⟨fun _ => ["Greek", "Latin"]⟩) ⟨fun _ => ["Greek", "Latin"]⟩ =
      .ok latinOnly := by
  have hreach : latinOnly.Reachable :=
    (((Reachable.initial _).withSelection _ _).withSearch _).withToggle _ _
  have hvalues : ∀ d values, .members d values ∈ latinOnly.toFilter ⟨fun _ => ["Greek", "Latin"]⟩ →
      ∀ v ∈ values, v ≠ "" ∧ Text.trim v = v ∧ ',' ∉ v.toList ∧ '|' ∉ v.toList := by
    intro d values h
    obtain ⟨-, rfl⟩ := mem_toFilter_iff.1 h
    cases d <;> decide
  refine ⟨hreach, by decide, hvalues, ?_⟩
  refine (exists_ofText_text hreach _ (by decide) (by decide) (by decide) hvalues).2 fun d => ?_
  cases d <;> decide

end Controls
end CharAtlas
