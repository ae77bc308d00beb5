import CharAtlas.Proofs.Filter.RoundTrip
import CharAtlas.Proofs.Query.Pages

/-! # Filters that the engine takes

Whatever its texts, what one clause asks for is nested nine levels deep at most, subqueries four
levels more (`Filter.Asks.isShallow`). Every condition after the first takes a level of its own. So a
filter of up to 988 clauses is taken unless it binds too many values (`Filter.fits_of_length_le`), and
there are filters of 999 short clauses that are not (`Database.search_dashes`). A single clause is
taken or binds too many values (`Database.search_singleton_of_not_fits`). -/

namespace CharAtlas

/-- What clauses ask for is not nested more deeply. -/
structure Condition.IsShallow (k : Condition) : Prop where
  height : k.expr.height ≤ 9
  nested : k.expr.nested ≤ 4

namespace Filter
variable {f : Filter} {catalog : Catalog} {user : Option String} {names : Nat → Option String}
  {q : Query} {key : SortKey} {k : Condition} {negated : Bool}

/-! ### Single conditions -/

theorem isShallow_taggedAmong (tags : List String) :
    (taggedAmong tags).expr.height ≤ 7 ∧ (taggedAmong tags).expr.nested = 0 := by
  refine ⟨?_, rfl⟩
  show max 3 (max 5 (if tags.length = 1 then 2 else 1) + 1 + 0) + 1 ≤ 7
  split_ifs <;> decide

theorem isShallow_decompositionCondition (types : OrderedSet String) :
    (decompositionCondition types).expr.height ≤ 8 ∧
      (decompositionCondition types).expr.nested = 0 := by
  have hun : untagged.expr.height = 5 := rfl
  have htagged := isShallow_taggedAmong (types.toList.filter (· != Catalog.canonical))
  unfold decompositionCondition
  dsimp only
  split_ifs
  · exact ⟨by rw [hun]; decide, rfl⟩
  · refine ⟨?_, rfl⟩
    show max _ _ + 1 ≤ 8
    omega
  · exact ⟨htagged.1.trans (by decide), htagged.2⟩

theorem isShallow_selectionCondition (d : Dimension) (values : List String) :
    (selectionCondition d values).IsShallow := by
  have hcolumn : ∀ c, (Condition.among (.column c) (OrderedSet.ofList values).toList).IsShallow := by
    refine fun c => ⟨?_, Nat.zero_le _⟩
    show max 2 (if (OrderedSet.ofList values).toList.length = 1 then 2 else 1) + 1 + 0 ≤ 9
    split_ifs <;> decide
  cases d with
  | decompositionTypes =>
    obtain ⟨hheight, hnested⟩ := isShallow_decompositionCondition (.ofList values)
    exact ⟨hheight.trans (by decide), hnested.trans_le (by decide)⟩
  | _ => exact hcolumn _

theorem isShallow_confusableCondition (negated : Bool) (units : OrderedSet Nat) :
    (confusableCondition negated units).IsShallow := by
  unfold confusableCondition
  cases negated with
  | false =>
    constructor
    · show max (max 2 (max 1 (max 1 (if units.toList.length = 1 then 2 else 1) + 1 + 0)) + 1 + 0)
        (max 2 (max 1 (max 1 (if units.toList.length = 1 then 2 else 1) + 1 + 0)) + 1 + 0) + 1 ≤ 9
      split_ifs <;> decide
    · show max (max 0 (max 1 (max 1 (if units.toList.length = 1 then 2 else 1) + 1 + 0 + 0)))
        (max 0 (max 1 (max 1 (if units.toList.length = 1 then 2 else 1) + 1 + 0 + 0))) ≤ 4
      split_ifs <;> decide
  | true =>
    constructor
    · show max (max 2 (max 1 (max 1 (if units.toList.length = 1 then 2 else 1) + 1 + 0)) + 1 + 1)
        (max 2 (max 1 (max 1 (if units.toList.length = 1 then 2 else 1) + 1 + 0)) + 1 + 1) + 1 ≤ 9
      split_ifs <;> decide
    · show max (max 0 (max 1 (max 1 (if units.toList.length = 1 then 2 else 1) + 1 + 0 + 0)))
        (max 0 (max 1 (max 1 (if units.toList.length = 1 then 2 else 1) + 1 + 0 + 0))) ≤ 4
      split_ifs <;> decide

theorem isShallow_searchCondition (names : Nat → Option String) (t : SearchTerm) :
    (searchCondition names t).IsShallow := by
  obtain ⟨hheight, hnested⟩ := (searchAnchor names t).height_expr_le
  unfold searchCondition
  dsimp only
  cases resolved names t with
  | some name =>
    constructor
    · show max _ 1 + 1 ≤ 9
      omega
    · show max _ 0 ≤ 4
      omega
  | none =>
    constructor
    · show max (max _ 1 + 1) 3 + 1 ≤ 9
      omega
    · show max (max _ 0) 0 ≤ 4
      omega

theorem isShallow_propertyCondition {p : Property} (hk : propertyCondition p negated user = .ok k) :
    k.IsShallow := by
  cases p with
  | favorited =>
    cases user with
    | none => cases hk
    | some u =>
      cases hk
      cases negated <;> exact ⟨Nat.le_of_ble_eq_true rfl, Nat.le_of_ble_eq_true rfl⟩
  | _ =>
    cases hk
    cases negated <;> exact ⟨Nat.le_of_ble_eq_true rfl, Nat.le_of_ble_eq_true rfl⟩

theorem Asks.isShallow (h : f.Asks catalog user names k) : k.IsShallow := by
  cases h with
  | selection => exact isShallow_selectionCondition _ _
  | confusable _ hk =>
    unfold confusableTextCondition? at hk
    simp only [Option.ite_none_left_eq_some, Option.some.injEq] at hk
    obtain ⟨-, rfl⟩ := hk
    exact isShallow_confusableCondition _ _
  | search => exact isShallow_searchCondition _ _
  | property _ hk => exact isShallow_propertyCondition hk

end Filter

/-! ### All conditions of a query -/

namespace Query
variable {q : Query} {key : SortKey}

theorem depth_le_of_isShallow (h : ∀ k ∈ q.conditions, k.IsShallow) :
    q.expr.height + q.expr.nested ≤ q.conditions.length + 12 := by
  unfold expr
  cases hconditions : q.conditions with
  | nil => exact Nat.le_of_ble_eq_true rfl
  | cons k ks =>
    rw [hconditions] at h
    have hk := h k (List.mem_cons_self ..)
    have hheight := height_joined_le hk.height fun k hk => (h k (List.mem_cons_of_mem _ hk)).height
    have hnested := nested_joined_le hk.nested fun k hk => (h k (List.mem_cons_of_mem _ hk)).nested
    show (joined k.expr ks).height + (joined k.expr ks).nested ≤ ks.length + 1 + 12
    omega

theorem le_height {k : Condition} {ks : List Condition} (h : q.conditions = k :: ks) :
    k.expr.height + ks.length ≤ q.expr.height := by
  unfold expr
  rw [h]
  exact le_height_joined k.expr ks

end Query

namespace Filter
variable {f : Filter} {catalog : Catalog} {user : Option String} {names : Nat → Option String}
  {q : Query} {key : SortKey}

theorem length_filterMap_cons {α β : Type} (g : α → Option β) (a : α) (l : List α) :
    ((a :: l).filterMap g).length = (l.filterMap g).length + (g a).toList.length := by
  cases h : g a <;> simp [h]

/-- Each clause belongs to one of the four groups at most. -/
theorem length_clauses_le (seen : List Dimension) (f : Filter) :
    (selectionsFrom seen f).length + (f.filterMap confusableCondition?).length +
      f.searchTerms.length + f.propertyClauses.length ≤ f.length := by
  have hone : ∀ {β : Type} (o : Option β), o.toList.length ≤ 1 := by
    intro β o
    cases o <;> simp
  induction f generalizing seen with
  | nil => exact Nat.le_refl 0
  | cons c f ih =>
    have hle := ih seen
    unfold searchTerms propertyClauses at ih hle ⊢
    rw [length_filterMap_cons, length_filterMap_cons, length_filterMap_cons, List.length_cons]
    cases c with
    | members d values =>
      have hle' := ih (d :: seen)
      show (selectionsFrom seen (.members d values :: f)).length + (_ + 0) + (_ + 0) + (_ + 0) ≤ _
      unfold selectionsFrom
      split_ifs
      · omega
      · rw [List.length_cons]
        omega
    | property p negated =>
      show (selectionsFrom seen f).length + (_ + 0) + (_ + 0) + (_ + 1) ≤ _
      omega
    | search t =>
      have ht := hone (SearchTerm.ofText? t)
      show (selectionsFrom seen f).length + (_ + 0) + (_ + (SearchTerm.ofText? t).toList.length) +
        (_ + 0) ≤ _
      omega
    | confusableWith t =>
      have ht := hone (confusableTextCondition? false t)
      show (selectionsFrom seen f).length + (_ + (confusableTextCondition? false t).toList.length) +
        (_ + 0) + (_ + 0) ≤ _
      omega
    | notConfusableWith t =>
      have ht := hone (confusableTextCondition? true t)
      show (selectionsFrom seen f).length + (_ + (confusableTextCondition? true t).toList.length) +
        (_ + 0) + (_ + 0) ≤ _
      omega

/-- Each clause puts one condition at most. -/
theorem length_conditions_le (h : f.plan catalog user names = .ok (.query q)) :
    q.conditions.length ≤ f.length := by
  obtain ⟨-, -, properties, hp, hconditions⟩ := plan_eq_query h
  have hlength : properties.length = f.propertyClauses.length :=
    (mapM_eq_ok_iff.1 hp).length_eq.symm
  have hrestrictions : (f.restrictions catalog).length ≤ f.selections.length :=
    List.length_filter_le _ _
  have hsum : f.selections.length + _ + _ + _ ≤ _ := length_clauses_le [] f
  rw [hconditions]
  simp only [List.length_append, List.length_map, hlength]
  omega

/-! ### Values that are bound -/

theorem length_params_propertyCondition {p : Property} {negated : Bool} {k : Condition}
    (hk : propertyCondition p negated user = .ok k) :
    k.params.length = if p = .favorited then 1 else 0 := by
  cases p with
  | favorited =>
    cases user with
    | none => cases hk
    | some u =>
      cases hk
      rfl
  | _ =>
    cases hk
    cases negated <;> rfl

/-- How many clauses ask for favorites. -/
def favoriteCount (f : Filter) : Nat :=
  f.propertyClauses.countP fun c => c.1 = .favorited

/-- Of the properties only favorites bind a value. -/
theorem length_params_propertyConditions {properties : List Condition}
    (h : f.propertyConditions user = .ok properties) :
    (properties.flatMap Condition.params).length = f.favoriteCount := by
  unfold propertyConditions at h
  unfold favoriteCount
  rw [mapM_eq_ok_iff] at h
  generalize f.propertyClauses = clauses at h
  induction h with
  | nil => rfl
  | cons hk _ ih =>
    rw [List.flatMap_cons, List.length_append, List.countP_cons, ih,
      length_params_propertyCondition hk]
    simp only [decide_eq_true_eq]
    exact Nat.add_comm ..

/-- What selections ask for. -/
def restrictionConditions (f : Filter) (catalog : Catalog) : List Condition :=
  (f.restrictions catalog).map fun (d, values) => selectionCondition d values

/-- The values that a query binds, by what asks for them. -/
theorem length_params_of_plan (h : f.plan catalog user names = .ok (.query q)) :
    q.params.length =
      ((f.restrictionConditions catalog).flatMap Condition.params).length +
      ((f.filterMap confusableCondition?).flatMap Condition.params).length +
      ((f.searchTerms.map (searchCondition names)).flatMap Condition.params).length +
      f.favoriteCount := by
  obtain ⟨-, -, properties, hp, hconditions⟩ := plan_eq_query h
  unfold Query.params
  rw [hconditions, List.flatMap_append, List.flatMap_append, List.flatMap_append,
    List.length_append, List.length_append, List.length_append,
    length_params_propertyConditions hp]
  rfl

/-- Texts to be confused with count in whatever order they come. -/
theorem length_params_confusables (f : Filter) :
    ((f.filterMap confusableCondition?).flatMap Condition.params).length =
      (((f.filterMap (Clause.confusableText? false)).filterMap
        (confusableTextCondition? false)).flatMap Condition.params).length +
      (((f.filterMap (Clause.confusableText? true)).filterMap
        (confusableTextCondition? true)).flatMap Condition.params).length := by
  have hcons : ∀ {α : Type} (make? : α → Option Condition) (a : α) (l : List α),
      (((a :: l).filterMap make?).flatMap Condition.params).length =
        ((make? a).toList.flatMap Condition.params).length +
          ((l.filterMap make?).flatMap Condition.params).length := by
    intro α make? a l
    cases h : make? a <;> simp [h]
  induction f with
  | nil => rfl
  | cons c f ih =>
    rw [hcons, ih]
    cases c with
    | confusableWith t =>
      show _ = (((t :: f.filterMap (Clause.confusableText? false)).filterMap
        (confusableTextCondition? false)).flatMap Condition.params).length + _
      rw [hcons]
      exact (Nat.add_assoc ..).symm
    | notConfusableWith t =>
      show _ = _ + (((t :: f.filterMap (Clause.confusableText? true)).filterMap
        (confusableTextCondition? true)).flatMap Condition.params).length
      rw [hcons]
      exact Nat.add_left_comm ..
    | _ => exact Nat.zero_add _

/-! ### Filters that are not too long -/

section
variable {db : Database}

theorem fits_of_length_le (h : f.plan catalog user db.nameOf = .ok (.query q))
    (hlength : q.conditions.length ≤ 988)
    (hvalues : q.params.length + (orderParams (key.criteria .asc q.anchor)).length + 2 ≤ maxValues) :
    q.Fits key := by
  refine ⟨?_, hvalues⟩
  have hdepth := Query.depth_le_of_isShallow fun k hk => ((mem_conditions_iff h).1 hk).isShallow
  unfold maxDepth
  omega

/-- A single clause is taken if it does not bind too many values. -/
theorem fits_singleton {c : Clause} {n : Nat}
    (hk : ∀ k, Asks [c] catalog user db.nameOf k → k.params.length ≤ n)
    (hn : n + (orderParams (key.criteria .asc
      ((searchTerms [c]).getLast?.map (searchAnchor db.nameOf)))).length + 2 ≤ maxValues) :
    Fits [c] db catalog user key := by
  intro P hP
  cases P with
  | nothing => trivial
  | query q =>
    have hone : q.conditions.length ≤ 1 := length_conditions_le hP
    have hvalues : q.params.length ≤ n := by
      unfold Query.params
      match hq : q.conditions with
      | [] => exact Nat.zero_le n
      | [k] =>
        have hasks := (mem_conditions_iff hP (k := k)).1 (by rw [hq]; exact List.mem_singleton_self k)
        rw [List.flatMap_singleton]
        exact hk k hasks
      | _ :: _ :: _ =>
        rw [hq, List.length_cons, List.length_cons] at hone
        omega
    refine fits_of_length_le hP (hone.trans (by decide)) ?_
    rw [(plan_eq_query hP).2.1]
    omega

/-- What a clause asks for is put once, so it is taken exactly if its values are not too many. -/
theorem fits_singleton_iff {c : Clause} (hq : ∃ q, Filter.plan [c] catalog user db.nameOf = .ok (.query q))
    (hk : ∀ k', Asks [c] catalog user db.nameOf k' ↔ k' = k) :
    Fits [c] db catalog user key ↔ k.params.length + (orderParams (key.criteria .asc
      ((searchTerms [c]).getLast?.map (searchAnchor db.nameOf)))).length + 2 ≤ maxValues := by
  refine ⟨fun h => ?_, fits_singleton fun k' hk' => by rw [(hk k').1 hk']⟩
  obtain ⟨q, hq⟩ := hq
  have hmem : k ∈ q.conditions := (mem_conditions_iff hq).2 ((hk k).2 rfl)
  have hle : k.params.length ≤ q.params.length := by
    unfold Query.params
    rw [List.length_flatMap]
    exact List.single_le_sum (fun _ _ => Nat.zero_le _) _ (List.mem_map_of_mem hmem)
  have hvalues := (h _ hq).values
  rw [(plan_eq_query hq).2.1] at hvalues
  omega

theorem fits_property (p : Property) (negated : Bool) :
    Fits [.property p negated] db catalog user key := by
  refine fits_singleton (n := 1) (fun k hk => ?_) ?_
  · cases hk with
    | selection hd => cases hd
    | @confusable b t _ ht => cases b <;> cases ht
    | search ht => cases ht
    | property hp hk =>
      rw [length_params_propertyCondition hk]
      split_ifs <;> decide
  · have hnil : orderParams (key.criteria .asc none) = [] := by cases key <;> rfl
    show 1 + (orderParams (key.criteria .asc none)).length + 2 ≤ maxValues
    rw [hnil]
    decide

end

/-! ### Filters that are too long -/

theorem selectionsFrom_properties (seen : List Dimension) (clauses : List (Property × Bool)) :
    selectionsFrom seen (clauses.map fun (p, negated) => .property p negated) = [] := by
  induction clauses with
  | nil => rfl
  | cons c clauses ih => exact ih

/-- A filter on properties asks for its clauses one by one. -/
theorem plan_of_properties {clauses : List (Property × Bool)} {ks : List Condition}
    (h : clauses.mapM (fun (p, negated) => propertyCondition p negated user) = .ok ks) :
    Filter.plan (clauses.map fun (p, negated) => .property p negated) catalog user names =
      .ok (.query ⟨ks, none⟩) := by
  have hother : ∀ {β : Type} {make? : Clause → Option β},
      (∀ p negated, make? (.property p negated) = none) →
        (clauses.map fun (p, negated) => Clause.property p negated).filterMap make? = [] := by
    intro β make? hnone
    rw [List.filterMap_eq_nil_iff]
    intro c hc
    obtain ⟨⟨p, negated⟩, -, rfl⟩ := List.mem_map.1 hc
    exact hnone p negated
  have hproperties : propertyClauses (clauses.map fun (p, negated) => .property p negated) =
      clauses := by
    unfold propertyClauses
    rw [List.filterMap_map]
    exact List.filterMap_some
  unfold plan restrictions selections searchTerms propertyConditions
  rw [selectionsFrom_properties, hother fun _ _ => rfl, hother fun _ _ => rfl, hproperties, h]
  rfl

/-- The clause `isDash` so many times, and once more or negated. -/
def dashes (n : Nat) (negated : Bool) : Filter :=
  (List.replicate n (Property.flag .dash, false) ++ [(Property.flag .dash, negated)]).map
    fun (p, negated) => .property p negated

def dashCondition (negated : Bool) : Condition :=
  if negated then .group (.or (.isNull (.flag .dash)) (.compare (.flag .dash) .unequal (.int 1)))
  else .compare (.flag .dash) .equal (.int 1)

/-- What so many of the clauses ask for. -/
def dashQuery (n : Nat) (negated : Bool) : Query where
  conditions := List.replicate n (dashCondition false) ++ [dashCondition negated]
  anchor := none

theorem ofText_dashes (n : Nat) (negated : Bool) :
    Filter.ofText (dashes n negated).text = .ok (dashes n negated) := by
  refine ofText_text fun c hc => ?_
  obtain ⟨⟨p, b⟩, -, rfl⟩ := List.mem_map.1 hc
  trivial

theorem dashes_eq_replicate (n : Nat) :
    dashes n false = List.replicate (n + 1) (.property (.flag .dash) false) := by
  unfold dashes
  rw [← List.replicate_succ', List.map_replicate]

theorem dashes_append (n : Nat) (negated : Bool) :
    dashes n false ++ [.property (.flag .dash) negated] = dashes (n + 1) negated := by
  rw [dashes_eq_replicate]
  unfold dashes
  rw [List.map_append, List.map_replicate]
  rfl

theorem plan_dashes (n : Nat) (negated : Bool) :
    (dashes n negated).plan catalog user names = .ok (.query (dashQuery n negated)) := by
  have hclause : ∀ b, propertyCondition (.flag .dash) b user = .ok (dashCondition b) :=
    fun b => by cases b <;> rfl
  refine plan_of_properties (mapM_eq_ok_iff.2 ?_)
  induction n with
  | zero => exact .cons (hclause negated) .nil
  | succ n ih => exact .cons (hclause false) ih

theorem anchor_dashQuery (n : Nat) (negated : Bool) : (dashQuery n negated).anchor = none := rfl

theorem values_dashQuery (n : Nat) (negated : Bool) (key : SortKey) :
    (dashQuery n negated).params.length +
      (orderParams (key.criteria .asc (dashQuery n negated).anchor)).length + 2 ≤ maxValues := by
  have hnil : (dashQuery n negated).params = [] := by
    show (List.replicate n (dashCondition false) ++ [dashCondition negated]).flatMap _ = []
    rw [List.flatMap_eq_nil_iff]
    intro k hk
    rcases List.mem_append.1 hk with hk | hk
    · rw [List.eq_of_mem_replicate hk]
      rfl
    · rw [List.mem_singleton.1 hk]
      cases negated <;> rfl
  rw [hnil, anchor_dashQuery]
  cases key <;> decide

/-- Up to 998 of the clauses are taken. -/
theorem fits_dashQuery (key : SortKey) : (dashQuery 997 false).Fits key := by
  have hconditions : (dashQuery 997 false).conditions =
      dashCondition false :: List.replicate 997 (dashCondition false) := by
    show List.replicate 997 _ ++ List.replicate 1 _ = List.replicate 998 _
    rw [List.replicate_append_replicate]
  have hheight : (joined (dashCondition false).expr
      (List.replicate 997 (dashCondition false))).height ≤ 3 + 997 := by
    have hle := @height_joined_le (dashCondition false).expr
      (List.replicate 997 (dashCondition false)) 3 (Nat.le_refl 3) fun k hk => by
        rw [List.eq_of_mem_replicate hk]
        exact Nat.le_refl 3
    rwa [List.length_replicate] at hle
  have hnested : (joined (dashCondition false).expr
      (List.replicate 997 (dashCondition false))).nested ≤ 0 :=
    nested_joined_le (Nat.le_refl 0) fun k hk => by
      rw [List.eq_of_mem_replicate hk]
      exact Nat.le_refl 0
  refine ⟨?_, values_dashQuery 997 false key⟩
  unfold Query.expr maxDepth
  rw [hconditions]
  dsimp only
  omega

theorem check_dashQuery (negated : Bool) (key : SortKey) (dir : Direction) :
    (dashQuery 998 negated).check key dir = .error .tooDeep := by
  have hconditions : (dashQuery 998 negated).conditions = dashCondition false ::
      (List.replicate 997 (dashCondition false) ++ [dashCondition negated]) := rfl
  have hle := Query.le_height hconditions
  have hheight : (dashCondition false).expr.height = 3 := rfl
  rw [List.length_append, List.length_replicate, List.length_singleton] at hle
  refine Query.check_of_deep ?_ (values_dashQuery 998 negated key)
  unfold maxDepth
  omega

end Filter

namespace Database
variable {db : Database} {catalog : Catalog} {user : Option String} {r : Paging}

theorem takes_property {text : String} {p : Property} {negated : Bool}
    (hf : Filter.ofText text = .ok [.property p negated]) (key : SortKey) :
    db.Takes catalog text user key :=
  (takes_iff hf).2 (Filter.fits_property p negated)

/-- Once or 998 times, the clause finds the same. -/
theorem search_dashes_of_fits (hopen : db.isOpen = true) :
    db.search catalog (Filter.dashes 997 false).text user r =
      db.search catalog (Filter.dashes 0 false).text user r := by
  rw [search_of_isOpen (Filter.ofText_dashes ..) hopen, search_of_isOpen (Filter.ofText_dashes ..) hopen,
    Filter.plan_dashes, Filter.plan_dashes]
  have hmem : ∀ n k, k ∈ (Filter.dashQuery n false).conditions ↔ k = Filter.dashCondition false := by
    intro n k
    unfold Filter.dashQuery
    simp
  have hone : (Filter.dashQuery 0 false).Fits r.sort :=
    ⟨by decide, Filter.values_dashQuery 0 false r.sort⟩
  have hanchor : (Filter.dashQuery 997 false).anchor = (Filter.dashQuery 0 false).anchor :=
    (Filter.anchor_dashQuery ..).trans (Filter.anchor_dashQuery ..).symm
  exact runPlan_same db r (.query hanchor fun k => (hmem 997 k).trans (hmem 0 k).symm)
    fun _ => ⟨Filter.fits_dashQuery r.sort, hone⟩

/-- With 999 clauses the text is an error, in every order and on every page. -/
theorem search_dashes {text : String} {negated : Bool} (hopen : db.isOpen = true)
    (hf : Filter.ofText text = .ok (Filter.dashes 998 negated)) :
    db.search catalog text user r = .error (.store .tooDeep) := by
  rw [search_of_isOpen hf hopen, Filter.plan_dashes]
  exact runPlan_query_of_check hopen (Filter.check_dashQuery ..)

/-- A single clause that is not taken binds too many values. -/
theorem search_singleton_of_not_fits {text : String} {c : Clause} (hopen : db.isOpen = true)
    (hf : Filter.ofText text = .ok [c]) (hfits : ¬Filter.Fits [c] db catalog user r.sort) :
    db.search catalog text user r = .error (.store .tooManyValues) := by
  obtain ⟨q, hq, hfits⟩ := Filter.exists_query_of_not_fits hfits
  have hone : q.conditions.length ≤ 1 := Filter.length_conditions_le hq
  have hshallow := Query.depth_le_of_isShallow fun k hk =>
    ((Filter.mem_conditions_iff hq).1 hk).isShallow
  have hdepth : q.expr.height + q.expr.nested ≤ maxDepth := by
    unfold maxDepth
    omega
  have hcheck : q.check r.sort r.direction = .error .tooManyValues :=
    Query.check_of_manyValues hdepth (Nat.lt_of_not_le fun hvalues => hfits ⟨hdepth, hvalues⟩)
  rw [search_of_isOpen hf hopen, hq]
  exact runPlan_query_of_check hopen hcheck

/-- The hyphen. -/
def oneDash : List Write :=
  [.character { codepoint := 0x2D, flags := [.dash] }]

/-- With 998 clauses it is answered with the hyphen. -/
theorem search_dashes_oneDash :
    ((empty.afterAll oneDash).search ⟨fun _ => []⟩ (Filter.dashes 997 false).text none {}).map
      (fun page => (page.characters.map (·.codepoint), page.total)) = .ok ([0x2D], 1) := by
  have hopen : (empty.afterAll oneDash).isOpen = true := by decide +kernel
  rw [search_dashes_of_fits hopen]
  decide +kernel

end Database
end CharAtlas
