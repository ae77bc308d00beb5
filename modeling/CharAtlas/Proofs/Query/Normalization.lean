import CharAtlas.Proofs.Filter.NormalForm
import CharAtlas.Proofs.Query.Answer
import CharAtlas.Proofs.Query.Taken

/-! # Normalized filters are answered alike

Unless a filter sets a control twice (`Filter.SetsOnce`) or selects nothing where nothing is known,
its normal form asks for the same (`Filter.asks_normalized`). The engine takes the normal form if it
takes the filter (`Filter.fits_normalized`), and then texts are answered as their normal forms are
(`Database.search_text_ofText`). It need not take the filter if it takes the normal form, for a
filter may repeat a property as often as it likes. -/

namespace CharAtlas

/-! ### Texts of one control -/

theorem SearchTerm.ofText?_trim (t : String) : ofText? (Text.trim t) = ofText? t := by
  unfold ofText?
  rw [Text.toList_trim, Text.trimmed_trimmed]

theorem Filter.confusableTextCondition?_trim (negated : Bool) (t : String) :
    confusableTextCondition? negated (Text.trim t) = confusableTextCondition? negated t := by
  unfold confusableTextCondition? unitsOf
  rw [Text.toList_trim, Text.trimmed_trimmed]

/-- What comes of texts is not changed by trimming them if nothing comes of blank ones. -/
theorem filterMap_trim {β : Type} {make? : String → Option β}
    (htrim : ∀ t, make? (Text.trim t) = make? t) (hblank : make? "" = none) (l : List String) :
    ((l.map Text.trim).filter (· != "")).filterMap make? = l.filterMap make? := by
  induction l with
  | nil => rfl
  | cons t l ih =>
    rw [List.map_cons]
    by_cases ht : Text.trim t = ""
    · have hnone : make? t = none := by rw [← htrim, ht, hblank]
      rw [List.filter_cons_of_neg (by simp [ht]), ih, List.filterMap_cons_none hnone]
    · rw [List.filter_cons_of_pos (by simp [ht]), List.filterMap_cons, ih, List.filterMap_cons, htrim]

/-- The text that one clause at most sets a control to, as it is written down. -/
theorem texts_of_last {l : List String} (hl : l.length ≤ 1) :
    (if (l.map Text.trim).getLast?.getD "" = "" then []
      else [(l.map Text.trim).getLast?.getD ""]) = (l.map Text.trim).filter (· != "") := by
  match l, hl with
  | [], _ => rfl
  | [t], _ => by_cases ht : Text.trim t = "" <;> simp [ht]

namespace Controls
variable {s : Controls} {catalog : Catalog}

theorem filterMap_toFilter {β : Type} {text? : Clause → Option β}
    (hp : ∀ p negated, text? (.property p negated) = none)
    (hm : ∀ d values, text? (.members d values) = none) :
    (s.toFilter catalog).filterMap text? =
      ([textClause? .search s.search, textClause? .confusableWith s.confusableWith,
        textClause? .notConfusableWith s.notConfusableWith].filterMap id).filterMap text? := by
  have htoggles : (Property.all.filterMap s.toggleClause?).filterMap text? = [] := by
    rw [List.filterMap_eq_nil_iff]
    intro c hc
    obtain ⟨p, -, he⟩ := List.mem_filterMap.1 hc
    obtain ⟨negated, -, rfl⟩ := toggleClause?_eq_some_iff.1 he
    exact hp p negated
  have hselections : (Dimension.all.filterMap (s.selectionClause? catalog)).filterMap text? = [] := by
    rw [List.filterMap_eq_nil_iff]
    intro c hc
    obtain ⟨d, -, he⟩ := List.mem_filterMap.1 hc
    obtain ⟨-, rfl⟩ := selectionClause?_eq_some_iff.1 he
    exact hm d _
  unfold toFilter
  rw [List.filterMap_append, List.filterMap_append, htoggles, hselections, List.nil_append,
    List.nil_append]

theorem searchTexts_toFilter (s : Controls) (catalog : Catalog) :
    (s.toFilter catalog).filterMap Clause.searchText? =
      if s.search = "" then [] else [s.search] := by
  rw [filterMap_toFilter (fun _ _ => rfl) fun _ _ => rfl]
  unfold textClause?
  split_ifs <;> rfl

theorem confusableTexts_toFilter (s : Controls) (catalog : Catalog) (negated : Bool) :
    (s.toFilter catalog).filterMap (Clause.confusableText? negated) =
      if (if negated then s.notConfusableWith else s.confusableWith) = "" then []
      else [if negated then s.notConfusableWith else s.confusableWith] := by
  rw [filterMap_toFilter (fun _ _ => rfl) fun _ _ => rfl]
  unfold textClause?
  cases negated with
  | false =>
    simp only [Bool.false_eq_true, if_false]
    split_ifs <;> rfl
  | true =>
    simp only [if_true]
    split_ifs <;> rfl

end Controls

/-! ### The size of normal forms -/

namespace Controls
variable {s : Controls} {catalog : Catalog}

/-- There are no more clauses than controls. -/
theorem length_toFilter_le (s : Controls) (catalog : Catalog) :
    (s.toFilter catalog).length ≤ 988 := by
  have hproperties : (Property.all.filterMap s.toggleClause?).length ≤ 32 :=
    List.length_filterMap_le _ _
  have hselections : (Dimension.all.filterMap (s.selectionClause? catalog)).length ≤ 5 :=
    List.length_filterMap_le _ _
  have htexts : ([textClause? .search s.search, textClause? .confusableWith s.confusableWith,
      textClause? .notConfusableWith s.notConfusableWith].filterMap id).length ≤ 3 :=
    List.length_filterMap_le _ _
  unfold toFilter
  rw [List.length_append, List.length_append]
  omega

theorem propertyClauses_toFilter (s : Controls) (catalog : Catalog) :
    (s.toFilter catalog).propertyClauses.map (·.1) =
      Property.all.filter fun p => s.toggle p ≠ .unset := by
  have hnone : ∀ l : Filter, (∀ p negated, .property p negated ∉ l) → l.propertyClauses = [] := by
    intro l hl
    rw [List.eq_nil_iff_forall_not_mem]
    exact fun ⟨p, negated⟩ hmem => hl p negated (Filter.mem_propertyClauses_iff.1 hmem)
  have hselections :
      Filter.propertyClauses (Dimension.all.filterMap (s.selectionClause? catalog)) = [] := by
    refine hnone _ fun p negated hc => ?_
    obtain ⟨d, -, he⟩ := List.mem_filterMap.1 hc
    cases (selectionClause?_eq_some_iff.1 he).2
  have htexts : Filter.propertyClauses ([textClause? .search s.search,
      textClause? .confusableWith s.confusableWith,
      textClause? .notConfusableWith s.notConfusableWith].filterMap id) = [] := by
    refine hnone _ fun p negated hc => ?_
    simp only [List.mem_filterMap, List.mem_cons, List.not_mem_nil, or_false, id_eq,
      exists_eq_or_imp, exists_eq_left, textClause?_eq_some_iff] at hc
    rcases hc with ⟨-, hc⟩ | ⟨-, hc⟩ | ⟨-, hc⟩ <;> cases hc
  have happend : ∀ l l' : Filter, (l ++ l').propertyClauses =
      l.propertyClauses ++ l'.propertyClauses := fun _ _ => List.filterMap_append
  unfold toFilter
  rw [happend, happend, hselections, htexts, List.append_nil, List.append_nil]
  unfold Filter.propertyClauses
  rw [List.filterMap_filterMap, List.map_filterMap, ← List.filterMap_eq_filter]
  refine List.filterMap_congr fun p _ => ?_
  unfold toggleClause?
  cases ht : s.toggle p <;> simp [Option.guard, ht]

theorem favoriteCount_toFilter_le (s : Controls) (catalog : Catalog) :
    (s.toFilter catalog).favoriteCount ≤ 1 := by
  have hmap : (s.toFilter catalog).favoriteCount =
      ((s.toFilter catalog).propertyClauses.map (·.1)).countP (· = .favorited) := by
    rw [List.countP_map]
    rfl
  rw [hmap, propertyClauses_toFilter]
  exact List.filter_sublist.countP_le.trans (by decide)

end Controls

/-- Without repeats a list binds no more than another one that has all of it. -/
theorem length_flatMap_le_of_subset {α β : Type} {l l' : List α} (hl : l.Nodup) (h : l ⊆ l')
    (g : α → List β) : (l.flatMap g).length ≤ (l'.flatMap g).length := by
  obtain ⟨l'', hperm, hsub⟩ := hl.subperm h
  rw [← (hperm.flatMap_right g).length_eq]
  exact (hsub.flatMap g).length_le

namespace Filter
variable {f : Filter} {catalog : Catalog} {user : Option String} {names : Nat → Option String}
  {d : Dimension} {p : Property} {negated : Bool}

theorem eq_of_selectionCondition_eq {d d' : Dimension} {values values' : List String}
    (h : selectionCondition d values = selectionCondition d' values') : d = d' := by
  cases d <;> cases d' <;> first | rfl | simp [selectionCondition, Dimension.column] at h

theorem nodup_restrictionConditions (f : Filter) (catalog : Catalog) :
    (f.restrictionConditions catalog).Nodup := by
  have hdimensions : (f.restrictions catalog).Pairwise fun a b => a.1 ≠ b.1 :=
    (List.pairwise_map.1 f.selections_nodup).sublist List.filter_sublist
  exact hdimensions.map _ fun a b hne h => hne (eq_of_selectionCondition_eq h)

/-- No control is set twice, unless to the same. -/
structure SetsOnce (f : Filter) : Prop where
  property : ∀ p, ¬(.property p false ∈ f ∧ .property p true ∈ f)
  search : (f.filterMap Clause.searchText?).length ≤ 1
  confusable : ∀ negated, (f.filterMap (Clause.confusableText? negated)).length ≤ 1

theorem SetsOnce.negated_eq (h : f.SetsOnce) {a b : Bool} (ha : .property p a ∈ f)
    (hb : .property p b ∈ f) : a = b := by
  cases a with
  | false =>
    cases b with
    | false => rfl
    | true => exact absurd ⟨ha, hb⟩ (h.property p)
  | true =>
    cases b with
    | false => exact absurd ⟨hb, ha⟩ (h.property p)
    | true => rfl

theorem mem_normalized_property_iff (h : f.SetsOnce) :
    .property p negated ∈ f.normalized catalog ↔ .property p negated ∈ f := by
  rw [normalized, Controls.mem_toFilter_iff, Controls.Shows, Controls.ofFilter_toggle]
  constructor
  · intro hlast
    cases hl : (f.filterMap (Clause.toggle? p)).getLast? with
    | none =>
      rw [hl] at hlast
      exact absurd hlast.symm (Toggle.ofNegated_ne_unset negated)
    | some t =>
      rw [hl, Option.getD_some] at hlast
      obtain ⟨b, hb, hmem⟩ := Clause.mem_toggles.1 (List.mem_of_getLast? hl)
      rw [hlast, Toggle.ofNegated_inj] at hb
      rwa [hb]
  · intro hmem
    refine Controls.getLast?_getD_eq (fun t ht => ?_) fun hnil => ?_
    · obtain ⟨b, rfl, hb⟩ := Clause.mem_toggles.1 ht
      rw [h.negated_eq hb hmem]
    · have hin := Clause.mem_toggles.2 ⟨negated, rfl, hmem⟩
      rw [hnil] at hin
      exact absurd hin List.not_mem_nil

theorem searchTexts_normalized (h : f.SetsOnce) :
    (f.normalized catalog).filterMap Clause.searchText? =
      ((f.filterMap Clause.searchText?).map Text.trim).filter (· != "") := by
  rw [normalized, Controls.searchTexts_toFilter, Controls.ofFilter_search, texts_of_last h.search]

theorem confusableTexts_normalized (h : f.SetsOnce) (negated : Bool) :
    (f.normalized catalog).filterMap (Clause.confusableText? negated) =
      ((f.filterMap (Clause.confusableText? negated)).map Text.trim).filter (· != "") := by
  have hlast : (if negated then (Controls.ofFilter catalog f).notConfusableWith
      else (Controls.ofFilter catalog f).confusableWith) =
        ((f.filterMap (Clause.confusableText? negated)).map Text.trim).getLast?.getD "" := by
    cases negated with
    | false => exact Controls.ofFilter_confusableWith catalog f
    | true => exact Controls.ofFilter_notConfusableWith catalog f
  rw [normalized, Controls.confusableTexts_toFilter, hlast, texts_of_last (h.confusable negated)]

theorem searchTerms_normalized (h : f.SetsOnce) :
    (f.normalized catalog).searchTerms = f.searchTerms := by
  rw [searchTerms_eq, searchTexts_normalized h, filterMap_trim SearchTerm.ofText?_trim (by decide),
    searchTerms_eq]

theorem confusableConditions_normalized (h : f.SetsOnce) (negated : Bool) :
    ((f.normalized catalog).filterMap (Clause.confusableText? negated)).filterMap
        (confusableTextCondition? negated) =
      (f.filterMap (Clause.confusableText? negated)).filterMap
        (confusableTextCondition? negated) := by
  rw [confusableTexts_normalized h, filterMap_trim (confusableTextCondition?_trim negated) rfl]

/-! ### Selections -/

/-- A selection asks for its members, whatever their order. -/
theorem selectionCondition_ofList (d : Dimension) (values : List String) :
    selectionCondition d (OrderedSet.ofList values).toList = selectionCondition d values := by
  cases d <;> simp only [selectionCondition, OrderedSet.ofList_toList]

theorem isComplete_ofList (catalog : Catalog) (d : Dimension) (values : List String) :
    catalog.isComplete d (OrderedSet.ofList values).toList = catalog.isComplete d values := by
  rw [Bool.eq_iff_iff, Catalog.isComplete_iff, Catalog.isComplete_iff]
  simp only [OrderedSet.mem_toList, OrderedSet.mem_ofList]

/-- What is not written down leaves nothing out. -/
theorem isComplete_of_isFull {values : List String}
    (hfull : (Controls.ofFilter catalog f).isFull catalog d = true)
    (hd : f.firstSelection d = some values) (hknown : catalog.values d = [] → values ≠ []) :
    catalog.isComplete d values = true := by
  obtain ⟨hall, hempty⟩ := isFull_ofFilter_iff.1 hfull values hd
  exact Catalog.isComplete_iff.2 ⟨fun hnil => hknown hnil (hempty.2 hnil), hall⟩

section
variable (hknown : ∀ d, catalog.values d = [] → f.firstSelection d ≠ some [])
include hknown

theorem firstSelection_normalized_eq_nil_iff_of_known :
    (f.normalized catalog).firstSelection d = some [] ↔ f.firstSelection d = some [] :=
  firstSelection_normalized_eq_nil_iff.trans
    (and_iff_left_of_imp fun hd hnil => hknown d hnil hd)

theorem asks_selection_normalized {k : Condition} :
    (∃ d values, (f.normalized catalog).firstSelection d = some values ∧
      catalog.isComplete d values = false ∧ selectionCondition d values = k) ↔
    ∃ d values, f.firstSelection d = some values ∧ catalog.isComplete d values = false ∧
      selectionCondition d values = k := by
  constructor
  · rintro ⟨d, values, hd, hc, hk⟩
    rw [firstSelection_normalized] at hd
    split at hd
    · cases hd
    · obtain ⟨values', hd', rfl⟩ := Option.map_eq_some_iff.1 hd
      rw [isComplete_ofList] at hc
      rw [selectionCondition_ofList] at hk
      exact ⟨d, values', hd', hc, hk⟩
  · rintro ⟨d, values, hd, hc, hk⟩
    have hfull : ¬(Controls.ofFilter catalog f).isFull catalog d = true := by
      intro hfull
      rw [isComplete_of_isFull hfull hd fun hnil hvalues => hknown d hnil (hvalues ▸ hd)] at hc
      cases hc
    refine ⟨d, (OrderedSet.ofList values).toList, ?_, ?_, ?_⟩
    · rw [firstSelection_normalized, if_neg hfull, hd]
      rfl
    · rwa [isComplete_ofList]
    · rwa [selectionCondition_ofList]

theorem asks_normalized (h : f.SetsOnce) {k : Condition} :
    (f.normalized catalog).Asks catalog user names k ↔ f.Asks catalog user names k := by
  rw [asks_iff, asks_iff, asks_selection_normalized hknown, searchTerms_normalized h]
  simp only [confusableConditions_normalized h, mem_normalized_property_iff h]

theorem exists_plan_normalized_iff (h : f.SetsOnce) :
    (∃ q, (f.normalized catalog).plan catalog user names = .ok (.query q)) ↔
      ∃ q, f.plan catalog user names = .ok (.query q) := by
  rw [exists_plan_eq_query_iff, exists_plan_eq_query_iff]
  simp only [ne_eq, firstSelection_normalized_eq_nil_iff_of_known hknown,
    mem_normalized_property_iff h]

/-- The normal form has the same plan but for the order of conditions, or is refused for the same
reason. -/
theorem plan_normalized (h : f.SetsOnce) (user : Option String) (names : Nat → Option String) :
    (∃ P P', (f.normalized catalog).plan catalog user names = .ok P ∧
      f.plan catalog user names = .ok P' ∧ P.Same P') ∨
    ∃ e, (f.normalized catalog).plan catalog user names = .error e ∧
      f.plan catalog user names = .error e := by
  cases hf : f.plan catalog user names with
  | ok P =>
    cases P with
    | nothing =>
      obtain ⟨d, hd⟩ := plan_eq_nothing_iff.1 hf
      exact .inl ⟨.nothing, .nothing,
        plan_of_empty ⟨d, (firstSelection_normalized_eq_nil_iff_of_known hknown).2 hd⟩, rfl,
        .nothing⟩
    | query q =>
      obtain ⟨q', hq'⟩ := (exists_plan_normalized_iff hknown h).2 ⟨q, hf⟩
      refine .inl ⟨.query q', .query q, hq', rfl, .query ?_ fun k => ?_⟩
      · rw [(plan_eq_query hq').2.1, (plan_eq_query hf).2.1, searchTerms_normalized h]
      · rw [mem_conditions_iff hq', mem_conditions_iff hf, asks_normalized hknown h]
  | error e =>
    refine .inr ⟨e, ?_, rfl⟩
    obtain ⟨hne, huser, negated, hmem, rfl⟩ := plan_eq_error hf
    cases hg : (f.normalized catalog).plan catalog user names with
    | ok P =>
      cases P with
      | nothing =>
        obtain ⟨d, hd⟩ := plan_eq_nothing_iff.1 hg
        exact absurd ((firstSelection_normalized_eq_nil_iff_of_known hknown).1 hd) (hne d)
      | query q =>
        obtain ⟨q', hq'⟩ := (exists_plan_normalized_iff hknown h).1 ⟨q, hg⟩
        rw [hf] at hq'
        cases hq'
    | error e' =>
      obtain ⟨-, -, negated', hmem', rfl⟩ := plan_eq_error hg
      rw [h.negated_eq ((mem_normalized_property_iff h).1 hmem') hmem]

/-! ### Bounds -/

/-- Each selection of the normal form is one of the filter, so it binds no more values. -/
theorem length_params_restrictions_normalized :
    (((f.normalized catalog).restrictionConditions catalog).flatMap Condition.params).length ≤
      ((f.restrictionConditions catalog).flatMap Condition.params).length := by
  refine length_flatMap_le_of_subset (nodup_restrictionConditions _ _) (fun k hk => ?_) _
  obtain ⟨⟨d, values⟩, hmem, rfl⟩ := List.mem_map.1 hk
  obtain ⟨hd, hc⟩ := mem_restrictions_iff.1 hmem
  obtain ⟨d', values', hd', hc', he⟩ :=
    (asks_selection_normalized hknown).1 ⟨d, values, hd, hc, rfl⟩
  exact List.mem_map.2 ⟨(d', values'), mem_restrictions_iff.2 ⟨hd', hc'⟩, he⟩

omit hknown in
theorem favoriteCount_normalized_le (h : f.SetsOnce) :
    (f.normalized catalog).favoriteCount ≤ f.favoriteCount := by
  have hone := (Controls.ofFilter catalog f).favoriteCount_toFilter_le catalog
  rcases Nat.eq_zero_or_pos (f.normalized catalog).favoriteCount with hzero | hpos
  · omega
  · obtain ⟨⟨p, negated⟩, hmem, hp⟩ := List.countP_pos_iff.1 hpos
    refine hone.trans (List.countP_pos_iff.2 ⟨(p, negated), mem_propertyClauses_iff.2 ?_, hp⟩)
    exact (mem_normalized_property_iff h).1 (mem_propertyClauses_iff.1 hmem)

theorem fits_normalized (h : f.SetsOnce) {db : Database} {key : SortKey}
    (hfits : f.Fits db catalog user key) : (f.normalized catalog).Fits db catalog user key := by
  intro P hP
  cases P with
  | nothing => trivial
  | query q' =>
    obtain ⟨q, hq⟩ := (exists_plan_normalized_iff hknown h).1 ⟨q', hP⟩
    have hvalues := (hfits _ hq).values
    have hanchor : q'.anchor = q.anchor := by
      rw [(plan_eq_query hP).2.1, (plan_eq_query hq).2.1, searchTerms_normalized h]
    have hparams : q'.params.length ≤ q.params.length := by
      rw [length_params_of_plan hP, length_params_of_plan hq, length_params_confusables,
        length_params_confusables f, searchTerms_normalized h, confusableConditions_normalized h,
        confusableConditions_normalized h]
      have hselections := length_params_restrictions_normalized (f := f) hknown
      have hfavorites := @favoriteCount_normalized_le f catalog h
      omega
    refine fits_of_length_le hP ?_ ?_
    · exact (length_conditions_le hP).trans (Controls.length_toFilter_le _ _)
    · rw [hanchor]
      omega

end

end Filter

namespace Database

/-- A filter text is answered as the text of the controls that it sets, with the same rows in the
same order or the same error, provided that it sets no control twice and does not select nothing
where nothing is known. This goes for what the engine takes; else the filter text is an error. -/
theorem search_text_ofText {text : String} {f : Filter} {s : Controls} {catalog : Catalog}
    (hf : Filter.ofText text = .ok f) (hs : Controls.ofText text catalog = .ok s)
    (h : f.SetsOnce) (hknown : ∀ d, catalog.values d = [] → f.firstSelection d ≠ some [])
    (db : Database) (user : Option String) (r : Paging) :
    ((db.isOpen = true → db.Takes catalog text user r.sort) →
      db.search catalog (s.text catalog) user r = db.search catalog text user r) ∧
    (db.isOpen = true → ¬db.Takes catalog text user r.sort →
      ∃ e, db.search catalog text user r = .error (.store e) ∧ e.IsBound) := by
  refine ⟨fun htakes => ?_, fun hopen => search_of_not_takes hopen⟩
  obtain ⟨f', hf', rfl⟩ := Controls.ofText_eq_ok_iff.1 hs
  obtain rfl : f = f' := Except.ok.inj (hf.symm.trans hf')
  have hread : Filter.ofText ((Controls.ofFilter catalog f).text catalog) =
      .ok (f.normalized catalog) :=
    Filter.ofText_text (Filter.wellFormed_normalized (Filter.wellFormed_of_ofText hf))
  have hrun : ∀ names : Nat → Option String, (db.isOpen = true → names = db.nameOf) →
      ((f.normalized catalog).plan catalog user names).bind (db.runPlan r) =
        (f.plan catalog user names).bind (db.runPlan r) := by
    intro names hnames
    rcases Filter.plan_normalized hknown h user names with
      ⟨P, P', hP, hP', hsame⟩ | ⟨e, he, he'⟩
    · rw [hP, hP']
      refine runPlan_same db r hsame fun hopen => ?_
      rw [hnames hopen] at hP hP'
      have hfits := htakes hopen f hf
      exact ⟨Filter.fits_normalized hknown h hfits P hP, hfits P' hP'⟩
    · rw [he, he']
  by_cases hopen : db.isOpen = true
  · rw [search_of_isOpen hread hopen, search_of_isOpen hf hopen]
    exact hrun db.nameOf fun _ => rfl
  · have hnamed : (f.normalized catalog).namedCodepoints = f.namedCodepoints := by
      unfold Filter.namedCodepoints
      rw [Filter.searchTerms_normalized h]
    rw [search_of_ofText hread, search_of_ofText hf, hnamed]
    congr 1
    funext names
    exact hrun _ fun h => absurd h hopen

/-- Values twice and unordered, a second selection, blanks, and the same property twice. -/
def untidyText : String :=
  " not_isDash,search: U+0391 ,scripts:Latin|Greek|Latin,, not_math,scripts:,not_isDash,confusableWith: "

def untidyFilter : Filter :=
  [.property (.flag .dash) true, .search " U+0391", .members .scripts ["Latin", "Greek", "Latin"],
    .property (.flag .math) true, .members .scripts [], .property (.flag .dash) true,
    .confusableWith ""]

def threeScripts : Catalog where
  values
    | .scripts => ["Cyrillic", "Greek", "Latin"]
    | _ => []

theorem search_untidyText :
    Filter.ofText untidyText = .ok untidyFilter ∧ untidyFilter.SetsOnce ∧
    (∀ d, threeScripts.values d = [] → untidyFilter.firstSelection d ≠ some []) ∧
    (Controls.ofFilter threeScripts untidyFilter).text threeScripts =
      "not_isDash,not_math,scripts:Greek|Latin,search:U+0391" ∧
    (empty.afterAll threeLetters).search threeScripts
        ((Controls.ofFilter threeScripts untidyFilter).text threeScripts) none ⟨0, .similarity, .asc⟩ =
      (empty.afterAll threeLetters).search threeScripts untidyText none ⟨0, .similarity, .asc⟩ ∧
    ((empty.afterAll threeLetters).search threeScripts untidyText none ⟨0, .similarity, .asc⟩).map
      (·.total) = .ok 2 := by
  have hread : Filter.ofText untidyText = .ok untidyFilter := by decide +kernel
  have honce : untidyFilter.SetsOnce := by
    refine ⟨fun p => ?_, by decide, fun negated => ?_⟩
    · rintro ⟨ha, -⟩
      simp [untidyFilter] at ha
    · cases negated <;> decide
  have hknown : ∀ d, threeScripts.values d = [] → untidyFilter.firstSelection d ≠ some [] := by
    intro d
    cases d <;> decide
  have hsame := search_text_ofText hread (Controls.ofText_eq_ok_iff.2 ⟨_, hread, rfl⟩) honce hknown
    (empty.afterAll threeLetters) none ⟨0, .similarity, .asc⟩
  exact ⟨hread, honce, hknown, by decide +kernel, hsame.1 fun _ => by decide +kernel,
    by decide +kernel⟩

/-- However often the clause is there, it sets the control once. -/
theorem ofFilter_dashes (catalog : Catalog) (n : Nat) :
    Controls.ofFilter catalog (Filter.dashes n false) =
      Controls.ofFilter catalog (Filter.dashes 0 false) := by
  have hagain : ∀ s : Controls, (s.apply (.property (.flag .dash) false)).apply
      (.property (.flag .dash) false) = s.apply (.property (.flag .dash) false) := by
    intro s
    refine Controls.ext (funext fun p => ?_) rfl rfl rfl rfl
    simp only [Controls.apply, Controls.withToggle]
    split_ifs <;> rfl
  have hfold : ∀ s : Controls, (List.replicate (n + 1) (.property (.flag .dash) false)).foldl
      Controls.apply s = s.apply (.property (.flag .dash) false) := by
    intro s
    induction n with
    | zero => rfl
    | succ n ih => rw [List.replicate_succ', List.foldl_append, ih]; exact hagain s
  have hselections : ∀ m, (Filter.dashes m false).selections = [] :=
    fun m => Filter.selectionsFrom_properties [] _
  unfold Controls.ofFilter
  rw [hselections, hselections, Filter.dashes_eq_replicate, hfold]
  rfl

/-- The engine does not take 999 times the same property, but it takes the normal form. -/
theorem search_text_dashes :
    Filter.ofText (Filter.dashes 998 false).text = .ok (Filter.dashes 998 false) ∧
    (Filter.dashes 998 false).SetsOnce ∧
    (∀ d, (Filter.dashes 998 false).firstSelection d ≠ some []) ∧
    (Controls.ofFilter threeScripts (Filter.dashes 998 false)).text threeScripts = "isDash" ∧
    (empty.afterAll oneDash).search threeScripts (Filter.dashes 998 false).text none {} =
      .error (.store .tooDeep) ∧
    ((empty.afterAll oneDash).search threeScripts "isDash" none {}).map
      (fun page => (page.characters.map (·.codepoint), page.total)) = .ok ([0x2D], 1) := by
  have hmem : ∀ c ∈ Filter.dashes 998 false, c = .property (.flag .dash) false := by
    rw [Filter.dashes_eq_replicate]
    exact fun c hc => List.eq_of_mem_replicate hc
  have htexts : ∀ text? : Clause → Option String, text? (.property (.flag .dash) false) = none →
      ((Filter.dashes 998 false).filterMap text?).length ≤ 1 := by
    intro text? hnone
    rw [List.filterMap_eq_nil_iff.2 fun c hc => (hmem c hc).symm ▸ hnone]
    exact Nat.zero_le 1
  have honce : (Filter.dashes 998 false).SetsOnce := by
    refine ⟨fun p => ?_, htexts _ rfl, fun negated => htexts _ rfl⟩
    rintro ⟨-, hneg⟩
    cases hmem _ hneg
  have hread := Filter.ofText_dashes 998 false
  have hplan := @Filter.plan_dashes threeScripts none (fun _ => none) 998 false
  refine ⟨hread, honce, (Filter.plan_eq_query hplan).1, ?_, search_dashes (by decide +kernel) hread,
    by decide +kernel⟩
  rw [ofFilter_dashes]
  decide +kernel

end Database
end CharAtlas
