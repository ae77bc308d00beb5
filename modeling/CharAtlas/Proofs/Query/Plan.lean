import CharAtlas.Proofs.Filter.Controls
import CharAtlas.Proofs.Query.Bounds

/-! # What a filter asks for

`Filter.Asks` lists the conditions that a filter puts on rows, clause by clause. A filter with an
empty first selection asks for nothing (`Filter.plan_eq_nothing_iff`); of any other the query has
these conditions and no others (`Filter.mem_conditions_iff`). Plans that differ in the order and
number of their conditions only (`Plan.Same`) are answered alike if the engine takes both
(`Database.runPlan_same`). `Database.Takes` says that it takes what a text asks for. -/

namespace CharAtlas

namespace Catalog
variable {catalog : Catalog} {d : Dimension} {values : List String}

theorem isComplete_iff : catalog.isComplete d values = true ↔
    catalog.values d ≠ [] ∧ ∀ v ∈ catalog.values d, v ∈ values := by
  unfold isComplete
  simp

theorem isComplete_eq_false_iff : catalog.isComplete d values = false ↔
    catalog.values d = [] ∨ ∃ v ∈ catalog.values d, v ∉ values := by
  rw [← Bool.not_eq_true, isComplete_iff, not_and_or, not_not]
  simp only [not_forall, exists_prop]

end Catalog

namespace Filter
variable {f : Filter} {catalog : Catalog} {user : Option String} {names : Nat → Option String}
  {d : Dimension} {values : List String} {p : Property} {negated : Bool} {q : Query} {e : Error}
  {f' : Filter}

theorem any_selections_isEmpty_iff :
    f.selections.any (·.2.isEmpty) = true ↔ ∃ d, f.firstSelection d = some [] := by
  rw [List.any_eq_true]
  constructor
  · rintro ⟨⟨d, values⟩, hmem, hempty⟩
    obtain rfl := List.isEmpty_iff.1 hempty
    exact ⟨d, mem_selections_iff.1 hmem⟩
  · rintro ⟨d, h⟩
    exact ⟨(d, []), mem_selections_iff.2 h, rfl⟩

theorem mem_restrictions_iff : (d, values) ∈ f.restrictions catalog ↔
    f.firstSelection d = some values ∧ catalog.isComplete d values = false := by
  unfold restrictions
  rw [List.mem_filter, mem_selections_iff]
  simp

theorem mem_propertyClauses_iff : (p, negated) ∈ f.propertyClauses ↔ .property p negated ∈ f := by
  unfold propertyClauses
  rw [List.mem_filterMap]
  constructor
  · rintro ⟨c, hc, he⟩
    cases c <;> cases he
    exact hc
  · exact fun h => ⟨_, h, rfl⟩

theorem searchTerms_eq (f : Filter) :
    f.searchTerms = (f.filterMap Clause.searchText?).filterMap SearchTerm.ofText? := by
  unfold searchTerms
  rw [List.filterMap_filterMap]
  refine List.filterMap_congr fun c _ => ?_
  cases c <;> rfl

theorem mem_searchTerms_iff {t : SearchTerm} : t ∈ f.searchTerms ↔
    ∃ raw, .search raw ∈ f ∧ SearchTerm.ofText? raw = some t := by
  rw [searchTerms_eq, List.mem_filterMap]
  simp only [Clause.mem_searchTexts]

/-- Only a favorite needs a user. -/
theorem propertyCondition_eq_error_iff : propertyCondition p negated user = .error e ↔
    p = .favorited ∧ user = none ∧ e = .authRequired (Clause.propertyText .favorited negated) := by
  cases p with
  | favorited => cases user <;> simp [propertyCondition, eq_comm]
  | _ => simp [propertyCondition]

/-! ### The conditions of a plan -/

/-- The conditions that the clauses of a filter put on a row. -/
inductive Asks (f : Filter) (catalog : Catalog) (user : Option String)
    (names : Nat → Option String) : Condition → Prop
  | selection {d : Dimension} {values : List String} (h : f.firstSelection d = some values)
    (hc : catalog.isComplete d values = false) : Asks f catalog user names
      (selectionCondition d values)
  | confusable {negated : Bool} {t : String} {k : Condition}
    (h : t ∈ f.filterMap (Clause.confusableText? negated))
    (hk : confusableTextCondition? negated t = some k) : Asks f catalog user names k
  | search {t : SearchTerm} (h : t ∈ f.searchTerms) : Asks f catalog user names
      (searchCondition names t)
  | property {p : Property} {negated : Bool} {k : Condition} (h : .property p negated ∈ f)
    (hk : propertyCondition p negated user = .ok k) : Asks f catalog user names k

theorem asks_iff {k : Condition} : f.Asks catalog user names k ↔
    (∃ d values, f.firstSelection d = some values ∧ catalog.isComplete d values = false ∧
      selectionCondition d values = k) ∨
    (∃ negated, k ∈ (f.filterMap (Clause.confusableText? negated)).filterMap
      (confusableTextCondition? negated)) ∨
    (∃ t ∈ f.searchTerms, searchCondition names t = k) ∨
    ∃ p negated, .property p negated ∈ f ∧ propertyCondition p negated user = .ok k := by
  constructor
  · intro h
    cases h with
    | selection h hc => exact .inl ⟨_, _, h, hc, rfl⟩
    | confusable h hk => exact .inr (.inl ⟨_, List.mem_filterMap.2 ⟨_, h, hk⟩⟩)
    | search h => exact .inr (.inr (.inl ⟨_, h, rfl⟩))
    | property h hk => exact .inr (.inr (.inr ⟨_, _, h, hk⟩))
  · rintro (⟨d, values, h, hc, rfl⟩ | ⟨negated, hk⟩ | ⟨t, h, rfl⟩ | ⟨p, negated, h, hk⟩)
    · exact .selection h hc
    · obtain ⟨t, h, hk⟩ := List.mem_filterMap.1 hk
      exact .confusable h hk
    · exact .search h
    · exact .property h hk

theorem mem_confusableConditions_iff {k : Condition} : k ∈ f.filterMap confusableCondition? ↔
    ∃ negated, ∃ t ∈ f.filterMap (Clause.confusableText? negated),
      confusableTextCondition? negated t = some k := by
  simp only [List.mem_filterMap]
  constructor
  · rintro ⟨c, hc, hk⟩
    cases c with
    | confusableWith t => exact ⟨false, t, ⟨_, hc, rfl⟩, hk⟩
    | notConfusableWith t => exact ⟨true, t, ⟨_, hc, rfl⟩, hk⟩
    | _ => cases hk
  · rintro ⟨negated, t, ⟨c, hc, ht⟩, hk⟩
    refine ⟨c, hc, ?_⟩
    cases c <;> cases negated <;> cases ht <;> exact hk

/-- All that a plan takes from its filter. -/
theorem plan_congr
    (hnothing : f'.selections.any (·.2.isEmpty) = f.selections.any (·.2.isEmpty))
    (hselections : f'.restrictions catalog = f.restrictions catalog)
    (hconfusables : f'.filterMap confusableCondition? = f.filterMap confusableCondition?)
    (hsearches : f'.searchTerms = f.searchTerms)
    (hproperties : f'.propertyClauses = f.propertyClauses) :
    f'.plan catalog user names = f.plan catalog user names := by
  unfold plan propertyConditions
  rw [hnothing, hselections, hconfusables, hsearches, hproperties]

theorem plan_congr_of_selections (hselections : f'.selections = f.selections)
    (hconfusables : f'.filterMap confusableCondition? = f.filterMap confusableCondition?)
    (hsearches : f'.searchTerms = f.searchTerms)
    (hproperties : f'.propertyClauses = f.propertyClauses) :
    f'.plan catalog user names = f.plan catalog user names :=
  plan_congr (by rw [hselections]) (by unfold restrictions; rw [hselections]) hconfusables hsearches
    hproperties

theorem plan_of_empty (h : ∃ d, f.firstSelection d = some []) :
    f.plan catalog user names = .ok .nothing :=
  if_pos (any_selections_isEmpty_iff.2 h)

theorem plan_of_not_empty (h : ∀ d, f.firstSelection d ≠ some []) :
    f.plan catalog user names = (f.propertyConditions user).map fun properties => .query {
      conditions :=
        (f.restrictions catalog).map (fun (d, values) => selectionCondition d values) ++
          f.filterMap confusableCondition? ++ f.searchTerms.map (searchCondition names) ++
            properties
      anchor := f.searchTerms.getLast?.map (searchAnchor names) } :=
  if_neg fun hany => by
    obtain ⟨d, hd⟩ := any_selections_isEmpty_iff.1 hany
    exact h d hd

theorem plan_eq_nothing_iff :
    f.plan catalog user names = .ok .nothing ↔ ∃ d, f.firstSelection d = some [] := by
  refine ⟨fun h => ?_, plan_of_empty⟩
  by_contra hne
  rw [plan_of_not_empty (not_exists.1 hne)] at h
  obtain ⟨_, -, hq⟩ := map_eq_ok_iff.1 h
  cases hq

theorem plan_eq_query (h : f.plan catalog user names = .ok (.query q)) :
    (∀ d, f.firstSelection d ≠ some []) ∧
      q.anchor = f.searchTerms.getLast?.map (searchAnchor names) ∧
        ∃ properties, f.propertyConditions user = .ok properties ∧ q.conditions =
          (f.restrictions catalog).map (fun (d, values) => selectionCondition d values) ++
            f.filterMap confusableCondition? ++ f.searchTerms.map (searchCondition names) ++
              properties := by
  have hne : ∀ d, f.firstSelection d ≠ some [] := by
    intro d hd
    rw [plan_of_empty ⟨d, hd⟩] at h
    cases h
  rw [plan_of_not_empty hne] at h
  obtain ⟨properties, hp, hq⟩ := map_eq_ok_iff.1 h
  cases hq
  exact ⟨hne, rfl, properties, hp, rfl⟩

theorem mem_conditions_iff (h : f.plan catalog user names = .ok (.query q)) {k : Condition} :
    k ∈ q.conditions ↔ f.Asks catalog user names k := by
  obtain ⟨-, -, properties, hp, hq⟩ := plan_eq_query h
  rw [hq, List.mem_append, List.mem_append, List.mem_append, List.mem_map,
    mem_confusableConditions_iff, List.mem_map, mem_mapM_iff hp]
  constructor
  · rintro (((⟨⟨d, values⟩, hr, rfl⟩ | ⟨negated, t, ht, hk⟩) | ⟨t, ht, rfl⟩) | ⟨⟨p, negated⟩, hc, hk⟩)
    · obtain ⟨hd, hc⟩ := mem_restrictions_iff.1 hr
      exact .selection hd hc
    · exact .confusable ht hk
    · exact .search ht
    · exact .property (mem_propertyClauses_iff.1 hc) hk
  · intro hk
    cases hk with
    | selection hd hc =>
      exact .inl (.inl (.inl ⟨(_, _), mem_restrictions_iff.2 ⟨hd, hc⟩, rfl⟩))
    | confusable ht hk => exact .inl (.inl (.inr ⟨_, _, ht, hk⟩))
    | search ht => exact .inl (.inr ⟨_, ht, rfl⟩)
    | property hc hk => exact .inr ⟨(_, _), mem_propertyClauses_iff.2 hc, hk⟩

theorem isMatch_iff (h : f.plan catalog user names = .ok (.query q)) {db : Database}
    {c : StoredCharacter} :
    q.isMatch db c = true ↔ ∀ k, f.Asks catalog user names k → k.holds db c = some true := by
  unfold Query.isMatch
  rw [List.all_eq_true]
  simp only [decide_eq_true_eq, mem_conditions_iff h]

/-- A refused plan is refused for a favorite without a user. -/
theorem plan_eq_error (h : f.plan catalog user names = .error e) :
    (∀ d, f.firstSelection d ≠ some []) ∧ user = none ∧
      ∃ negated, .property .favorited negated ∈ f ∧
        e = .authRequired (Clause.propertyText .favorited negated) := by
  have hne : ∀ d, f.firstSelection d ≠ some [] := by
    intro d hd
    rw [plan_of_empty ⟨d, hd⟩] at h
    cases h
  rw [plan_of_not_empty hne] at h
  cases hp : f.propertyConditions user with
  | ok properties =>
    rw [hp] at h
    cases h
  | error e' =>
    rw [hp] at h
    cases h
    obtain ⟨before, ⟨p, negated⟩, after, hsplit, -, hcond⟩ := mapM_eq_error_iff.1 hp
    obtain ⟨rfl, huser, he⟩ := propertyCondition_eq_error_iff.1 hcond
    refine ⟨hne, huser, negated, mem_propertyClauses_iff.1 ?_, he⟩
    rw [hsplit]
    simp

theorem exists_plan_eq_query_iff : (∃ q, f.plan catalog user names = .ok (.query q)) ↔
    (∀ d, f.firstSelection d ≠ some []) ∧
      (user = none → ∀ negated, .property .favorited negated ∉ f) := by
  constructor
  · rintro ⟨q, h⟩
    obtain ⟨hne, -, properties, hp, -⟩ := plan_eq_query h
    refine ⟨hne, fun huser negated hc => ?_⟩
    obtain ⟨k, hk⟩ := exists_of_mapM_eq_ok hp (mem_propertyClauses_iff.2 hc)
    rw [huser] at hk
    cases hk
  · rintro ⟨hne, hfav⟩
    have hok : ∃ properties, f.propertyConditions user = .ok properties := by
      refine exists_mapM_eq_ok fun ⟨p, negated⟩ hc => ?_
      cases hk : propertyCondition p negated user with
      | ok k => exact ⟨k, hk⟩
      | error e =>
        obtain ⟨rfl, huser, -⟩ := propertyCondition_eq_error_iff.1 hk
        exact absurd (mem_propertyClauses_iff.1 hc) (hfav huser negated)
    obtain ⟨properties, hp⟩ := hok
    rw [plan_of_not_empty hne, hp]
    exact ⟨_, rfl⟩

end Filter

/-! ### Plans that the engine takes -/

/-- The engine gets through the statements that come of a plan in an order. -/
def Plan.Fits : Plan → SortKey → Prop
  | .nothing, _ => True
  | .query q, key => q.Fits key

/-- The engine takes what a filter asks for. -/
def Filter.Fits (f : Filter) (db : Database) (catalog : Catalog) (user : Option String)
    (key : SortKey) : Prop :=
  ∀ P, f.plan catalog user db.nameOf = .ok P → P.Fits key

/-- The engine takes what a text asks for, if anything. -/
def Database.Takes (db : Database) (catalog : Catalog) (text : String) (user : Option String)
    (key : SortKey) : Prop :=
  ∀ f, Filter.ofText text = .ok f → f.Fits db catalog user key

namespace Filter
variable {f : Filter} {db : Database} {catalog : Catalog} {user : Option String} {key : SortKey}
  {q : Query}

theorem fits_iff_of_query (h : f.plan catalog user db.nameOf = .ok (.query q)) :
    f.Fits db catalog user key ↔ q.Fits key := by
  refine ⟨fun hf => hf _ h, fun hq P hP => ?_⟩
  cases Except.ok.inj (h.symm.trans hP)
  exact hq

instance : Decidable (f.Fits db catalog user key) :=
  match h : f.plan catalog user db.nameOf with
  | .ok .nothing => isTrue fun P hP => by
      cases Except.ok.inj (h.symm.trans hP)
      trivial
  | .ok (.query q) => decidable_of_iff (q.Fits key) (fits_iff_of_query h).symm
  | .error e => isTrue fun P hP => by
      rw [h] at hP
      cases hP

theorem fits_of_selectsNothing (h : ∃ d, f.firstSelection d = some []) :
    f.Fits db catalog user key := by
  intro P hP
  rw [plan_of_empty h] at hP
  cases hP
  trivial

theorem exists_query_of_not_fits (h : ¬f.Fits db catalog user key) :
    ∃ q, f.plan catalog user db.nameOf = .ok (.query q) ∧ ¬q.Fits key := by
  unfold Fits at h
  push Not at h
  obtain ⟨P, hP, hfits⟩ := h
  cases P with
  | nothing => exact absurd trivial hfits
  | query q => exact ⟨q, hP, hfits⟩

theorem Fits.mono {key' : SortKey} (h : f.Fits db catalog user key)
    (hq : ∀ q : Query, q.Fits key → q.Fits key') : f.Fits db catalog user key' := by
  intro P hP
  cases P with
  | nothing => trivial
  | query q => exact hq q (h _ hP)

theorem Fits.of_ne_similarity {key' : SortKey} (h : f.Fits db catalog user key)
    (hkey : key' ≠ .similarity) : f.Fits db catalog user key' :=
  h.mono fun _ hq => hq.of_ne_similarity hkey

theorem Fits.of_similarity (h : f.Fits db catalog user .similarity) (key : SortKey) :
    f.Fits db catalog user key :=
  h.mono fun _ hq => hq.of_similarity key

end Filter

namespace Database
variable {db : Database} {catalog : Catalog} {text : String} {f : Filter} {user : Option String}
  {key : SortKey}

theorem takes_iff (hf : Filter.ofText text = .ok f) :
    db.Takes catalog text user key ↔ f.Fits db catalog user key := by
  refine ⟨fun h => h f hf, fun h g hg => ?_⟩
  cases Except.ok.inj (hf.symm.trans hg)
  exact h

instance : Decidable (db.Takes catalog text user key) :=
  match h : Filter.ofText text with
  | .ok f => decidable_of_iff (f.Fits db catalog user key) (takes_iff h).symm
  | .error e => isTrue fun f hf => by
      rw [h] at hf
      cases hf

/-- Only the order by similarity takes more values than the others. -/
theorem Takes.of_ne_similarity {key' : SortKey} (h : db.Takes catalog text user key)
    (hkey : key' ≠ .similarity) : db.Takes catalog text user key' :=
  fun f hf => (h f hf).of_ne_similarity hkey

theorem Takes.of_similarity (h : db.Takes catalog text user .similarity) (key : SortKey) :
    db.Takes catalog text user key :=
  fun f hf => (h f hf).of_similarity key

end Database

/-! ### Plans that are answered alike -/

/-- The order of conditions and how often each is put make no difference. -/
inductive Plan.Same : Plan → Plan → Prop
  | nothing : Same .nothing .nothing
  | query {q q' : Query} (ha : q.anchor = q'.anchor)
    (hc : ∀ k, k ∈ q.conditions ↔ k ∈ q'.conditions) : Same (.query q) (.query q')

namespace Database

theorem matching_congr (db : Database) {q q' : Query}
    (hc : ∀ k, k ∈ q.conditions ↔ k ∈ q'.conditions) : db.matching q = db.matching q' := by
  refine List.filter_congr fun c _ => ?_
  rw [Bool.eq_iff_iff]
  unfold Query.isMatch
  simp only [List.all_eq_true, hc]

theorem runPlan_same (db : Database) (r : Paging) {P P' : Plan} (h : P.Same P')
    (hfits : db.isOpen = true → P.Fits r.sort ∧ P'.Fits r.sort) :
    db.runPlan r P = db.runPlan r P' := by
  cases h with
  | nothing => rfl
  | query ha hc =>
    by_cases hopen : db.isOpen = true
    · have hmatch := matching_congr db hc
      obtain ⟨hfits, hfits'⟩ := hfits hopen
      rw [runPlan_query hopen hfits, runPlan_query hopen hfits']
      simp only [pageOf, sorted, hmatch, ha]
    · rw [runPlan_query_of_not_isOpen hopen, runPlan_query_of_not_isOpen hopen]

variable {db : Database} {catalog : Catalog} {text : String} {f : Filter} {user : Option String}
  {r : Paging}

theorem search_of_error {e : Error} (h : Filter.ofText text = .error e) :
    db.search catalog text user r = .error e := by
  unfold search
  rw [h]
  rfl

theorem search_of_ofText (h : Filter.ofText text = .ok f) : db.search catalog text user r =
    (db.readNames f.namedCodepoints.toList).bind fun names =>
      (f.plan catalog user (names.lookup ·)).bind (db.runPlan r) := by
  unfold search
  rw [h]
  rfl

end Database
end CharAtlas
