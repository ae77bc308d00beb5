import CharAtlas.Proofs.Filter.Restored

/-! # The normal form of a filter

A filter is normalized by setting controls from it and writing down what they show
(`Filter.normalized`). Whatever a text contains, its normal form can be read
(`Filter.wellFormed_normalized`) and is its own normal form: the controls that come back show the
same clauses (`Controls.toFilter_restored`, `Controls.normalText_normalText`). -/

namespace CharAtlas

namespace Filter
variable {f : Filter} {catalog : Catalog} {d : Dimension}

/-- The clauses of the controls that a filter sets. -/
def normalized (f : Filter) (catalog : Catalog) : Filter :=
  (Controls.ofFilter catalog f).toFilter catalog

theorem isFull_ofFilter_iff : (Controls.ofFilter catalog f).isFull catalog d = true ↔
    ∀ values, f.firstSelection d = some values →
      (∀ v ∈ catalog.values d, v ∈ values) ∧ (values = [] ↔ catalog.values d = []) := by
  rw [Controls.isFull_iff, Controls.ofFilter_selection]
  simp only [OrderedSet.mem_ofList, ← List.eq_nil_iff_forall_not_mem]
  cases f.firstSelection d with
  | none => simp
  | some values => simp

theorem firstSelection_normalized (f : Filter) (catalog : Catalog) (d : Dimension) :
    (f.normalized catalog).firstSelection d =
      if (Controls.ofFilter catalog f).isFull catalog d then none
      else (f.firstSelection d).map fun values => (OrderedSet.ofList values).toList := by
  rw [normalized, Controls.firstSelection_toFilter, Controls.ofFilter_selection]
  split
  · rfl
  · rename_i hfull
    cases hd : f.firstSelection d with
    | none =>
      refine absurd (isFull_ofFilter_iff.2 fun values hv => ?_) hfull
      rw [hd] at hv
      cases hv
    | some values => rfl

/-- An empty selection is kept where something is known. Elsewhere it leaves nothing out and is not
written. -/
theorem firstSelection_normalized_eq_nil_iff : (f.normalized catalog).firstSelection d = some [] ↔
    f.firstSelection d = some [] ∧ catalog.values d ≠ [] := by
  rw [firstSelection_normalized]
  by_cases hfull : (Controls.ofFilter catalog f).isFull catalog d = true
  · rw [if_pos hfull]
    refine iff_of_false nofun fun ⟨hd, hknown⟩ => ?_
    exact hknown ((isFull_ofFilter_iff.1 hfull [] hd).2.1 rfl)
  · rw [if_neg hfull, Option.map_eq_some_iff]
    constructor
    · rintro ⟨values, hd, hnil⟩
      obtain rfl : values = [] := by
        rw [← List.isEmpty_iff, ← OrderedSet.isEmpty_ofList, OrderedSet.isEmpty, hnil]
        rfl
      refine ⟨hd, fun hunknown => hfull (isFull_ofFilter_iff.2 fun values hv => ?_)⟩
      rw [hd] at hv
      cases hv
      rw [hunknown]
      exact ⟨nofun, Iff.rfl⟩
    · rintro ⟨hd, -⟩
      exact ⟨[], hd, rfl⟩

theorem not_mem_last_text {l : List String} {c : Char} (h : ∀ t ∈ l, c ∉ t.toList) :
    c ∉ ((l.map Text.trim).getLast?.getD "").toList := by
  rw [List.getLast?_map]
  cases hl : l.getLast? with
  | none => simp
  | some t => exact fun hc => h t (List.mem_of_getLast? hl) (Text.mem_of_mem_trim hc)

/-- The normal form of a filter that was read can be read. -/
theorem wellFormed_normalized (h : f.WellFormed) : (f.normalized catalog).WellFormed := by
  refine Controls.wellFormed_toFilter (Controls.hasTrimmedTexts_ofFilter catalog f) ?_ ?_ ?_ ?_
  · rw [Controls.ofFilter_search]
    exact not_mem_last_text fun t ht => (h _ (Clause.mem_searchTexts.1 ht)).1
  · rw [Controls.ofFilter_confusableWith]
    exact not_mem_last_text fun t ht => (h _ (Clause.mem_confusableTexts.1 ht)).1
  · rw [Controls.ofFilter_notConfusableWith]
    exact not_mem_last_text fun t ht => (h _ (Clause.mem_notConfusableTexts.1 ht)).1
  · intro d values hmem v hv
    have hfirst : (f.normalized catalog).firstSelection d ≠ none :=
      fun hnone => firstSelection_eq_none_iff.1 hnone values hmem
    obtain ⟨hfull, rfl⟩ := Controls.mem_toFilter_iff.1 hmem
    rw [firstSelection_normalized, if_neg (by simp [hfull])] at hfirst
    rw [Controls.ofFilter_selection] at hv
    cases hd : f.firstSelection d with
    | none =>
      rw [hd] at hfirst
      exact absurd rfl hfirst
    | some values =>
      rw [hd] at hv
      exact h _ (mem_of_firstSelection hd) v (OrderedSet.mem_ofList.1 hv)

end Filter

namespace Controls
variable {s : Controls} {catalog : Catalog} {d : Dimension} {x : String}

/-- The selection holds all that is known, of which there is something, and more. -/
structure Exceeds (s : Controls) (catalog : Catalog) (d : Dimension) : Prop where
  known : catalog.values d ≠ []
  all : ∀ v ∈ catalog.values d, v ∈ s.selection d
  more : ∃ v ∈ s.selection d, v ∉ catalog.values d

theorem selection_restored_of_isFull (h : s.isFull catalog d = true) :
    (s.restored catalog).selection d = .ofList (catalog.values d) := by
  simp [restored, h]

theorem selection_restored_of_not_isFull (h : ¬s.isFull catalog d = true) :
    (s.restored catalog).selection d = s.selection d := by
  simp [restored, h]

/-- Of a selection that goes beyond all that is known, the known values come back; any other comes
back as it is. -/
theorem selection_restored (s : Controls) (catalog : Catalog) (d : Dimension) :
    (s.Exceeds catalog d → ∀ v, v ∈ (s.restored catalog).selection d ↔ v ∈ catalog.values d) ∧
      (¬s.Exceeds catalog d → (s.restored catalog).selection d = s.selection d) := by
  by_cases hfull : s.isFull catalog d = true
  · obtain ⟨hall, hempty⟩ := isFull_iff.1 hfull
    rw [selection_restored_of_isFull hfull]
    refine ⟨fun _ v => OrderedSet.mem_ofList, fun hnot => OrderedSet.ext fun v => ?_⟩
    rw [OrderedSet.mem_ofList]
    constructor
    · exact hall v
    · intro hv
      by_contra hunknown
      have hknown : catalog.values d ≠ [] := fun hnil => hempty.2 hnil v hv
      exact hnot ⟨hknown, hall, v, hv, hunknown⟩
  · refine ⟨fun hexceeds => ?_, fun _ => selection_restored_of_not_isFull hfull⟩
    obtain ⟨v, hv, -⟩ := hexceeds.more
    refine absurd (isFull_iff.2 ⟨hexceeds.all, ?_⟩) hfull
    constructor
    · intro hnone
      exact absurd hv (hnone v)
    · intro hnil
      exact absurd hnil hexceeds.known

/-! ### The second time -/

theorem isFull_congr {t : Controls} (h : s.selection d = t.selection d) :
    s.isFull catalog d = t.isFull catalog d := by
  unfold isFull
  rw [h]

theorem isFull_of_known (h : s.selection d = .ofList (catalog.values d)) :
    s.isFull catalog d = true := by
  rw [isFull_iff, h]
  simp only [OrderedSet.mem_ofList, imp_self, implies_true, true_and]
  exact List.eq_nil_iff_forall_not_mem.symm

theorem isFull_restored (s : Controls) (catalog : Catalog) (d : Dimension) :
    (s.restored catalog).isFull catalog d = s.isFull catalog d := by
  by_cases hfull : s.isFull catalog d = true
  · rw [hfull]
    exact isFull_of_known (selection_restored_of_isFull hfull)
  · exact isFull_congr (selection_restored_of_not_isFull hfull)

theorem selectionClause?_restored (s : Controls) (catalog : Catalog) (d : Dimension) :
    (s.restored catalog).selectionClause? catalog d = s.selectionClause? catalog d := by
  unfold selectionClause?
  rw [isFull_restored]
  by_cases hfull : s.isFull catalog d = true
  · rw [if_pos hfull, if_pos hfull]
  · rw [if_neg hfull, if_neg hfull, selection_restored_of_not_isFull hfull]

/-- What comes back shows the same clauses. -/
theorem toFilter_restored (s : Controls) (catalog : Catalog) :
    (s.restored catalog).toFilter catalog = s.toFilter catalog := by
  have htoggle : (s.restored catalog).toggleClause? = s.toggleClause? := rfl
  have hselection : (s.restored catalog).selectionClause? catalog = s.selectionClause? catalog :=
    funext (selectionClause?_restored s catalog)
  unfold toFilter
  rw [htoggle, hselection]
  rfl

theorem text_restored (s : Controls) (catalog : Catalog) :
    (s.restored catalog).text catalog = s.text catalog := by
  unfold text
  rw [toFilter_restored]

/-- The text of the controls that a text sets. -/
def normalText (catalog : Catalog) (x : String) : Except Error String :=
  (ofText x catalog).map (·.text catalog)

theorem ofText_text_of_ofText (h : ofText x catalog = .ok s) :
    ofText (s.text catalog) catalog = .ok (s.restored catalog) := by
  obtain ⟨f, hf, rfl⟩ := ofText_eq_ok_iff.1 h
  have hwell : f.WellFormed := Filter.wellFormed_of_ofText hf
  exact ofText_text (hasTrimmedTexts_ofFilter catalog f) (Filter.wellFormed_normalized hwell)

/-- Whatever text the controls were set from, they come back from their own text as they are, but
for selections that go beyond all that is known: of these the known values come back. What has come
back is written as the same text again, so that a normal form is its own normal form. -/
theorem normalText_normalText (h : ofText x catalog = .ok s) :
    (∃ t, ofText (s.text catalog) catalog = .ok t ∧ t.toggle = s.toggle ∧ t.search = s.search ∧
      t.confusableWith = s.confusableWith ∧ t.notConfusableWith = s.notConfusableWith ∧
      (∀ d, (s.Exceeds catalog d → ∀ v, v ∈ t.selection d ↔ v ∈ catalog.values d) ∧
        (¬s.Exceeds catalog d → t.selection d = s.selection d)) ∧
      t.text catalog = s.text catalog) ∧
    normalText catalog x = .ok (s.text catalog) ∧
    normalText catalog (s.text catalog) = .ok (s.text catalog) := by
  have hback := ofText_text_of_ofText h
  refine ⟨⟨_, hback, rfl, rfl, rfl, rfl, selection_restored s catalog, text_restored s catalog⟩,
    ?_, ?_⟩
  · rw [normalText, h]
    rfl
  · rw [normalText, hback]
    exact congrArg Except.ok (text_restored s catalog)

/-- All known scripts and one more, a second selection, a property both ways, a text that is blank
at last, and a version where none is known. -/
def strayText : String :=
  "scripts:Latin|Mars|Greek|Latin,not_isDash,search:a,scripts:Han, ,isDash,search: ,versions:9,"

def strayFilter : Filter :=
  [.members .scripts ["Latin", "Mars", "Greek", "Latin"], .property (.flag .dash) true, .search "a",
    .members .scripts ["Han"], .property (.flag .dash) false, .search "", .members .versions ["9"]]

def twoScripts : Catalog where
  values
    | .scripts => ["Greek", "Latin"]
    | _ => []

theorem normalText_strayText :
    ofText strayText twoScripts = .ok (ofFilter twoScripts strayFilter) ∧
    (ofFilter twoScripts strayFilter).Exceeds twoScripts .scripts ∧
    normalText twoScripts strayText = .ok "isDash,versions:9" ∧
    normalText twoScripts "isDash,versions:9" = .ok "isDash,versions:9" := by
  have hread : Filter.ofText strayText = .ok strayFilter := by rfl
  have hset : ofText strayText twoScripts = .ok (ofFilter twoScripts strayFilter) :=
    ofText_eq_ok_iff.2 ⟨_, hread, rfl⟩
  have hscripts : (ofFilter twoScripts strayFilter).selection .scripts =
      .ofList ["Latin", "Mars", "Greek", "Latin"] :=
    ofFilter_selection twoScripts strayFilter .scripts
  have hexceeds : (ofFilter twoScripts strayFilter).Exceeds twoScripts .scripts := by
    refine ⟨by decide, fun v hv => ?_, "Mars", ?_, by decide⟩
    · rw [hscripts, OrderedSet.mem_ofList]
      rcases List.mem_pair.1 hv with rfl | rfl <;> decide
    · rw [hscripts, OrderedSet.mem_ofList]
      decide
  have htext : (ofFilter twoScripts strayFilter).text twoScripts = "isDash,versions:9" := by
    decide +kernel
  obtain ⟨-, honce, htwice⟩ := normalText_normalText hset
  rw [htext] at honce htwice
  exact ⟨hset, hexceeds, honce, htwice⟩

end Controls
end CharAtlas
