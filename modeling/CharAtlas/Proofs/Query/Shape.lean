import CharAtlas.Proofs.Query.Meaning
import CharAtlas.Proofs.Query.Placeholders

/-! # What the text of a query depends on

The `Filter.shape` of a filter says how much it asks for of each kind, but leaves out all texts: the
values, terms, names and users. Filters of one shape make queries of one text, so what clients write
can only get into the parameters (`Filter.sql_of_shape`). -/

namespace CharAtlas

theorem map_eq_map_of_map_eq {α α' β γ : Type} {f : α → β} {f' : α' → β} {g : α → γ} {g' : α' → γ}
    (hg : ∀ a a', f a = f' a' → g a = g' a') {l : List α} {l' : List α'}
    (h : l.map f = l'.map f') : l.map g = l'.map g' := by
  induction l generalizing l' with
  | nil =>
    rw [List.map_nil, eq_comm, List.map_eq_nil_iff] at h
    rw [h]
    rfl
  | cons a l ih =>
    cases l' with
    | nil => cases h
    | cons a' l' =>
      obtain ⟨ha, hl⟩ := List.cons.inj h
      rw [List.map_cons, List.map_cons, hg a a' ha, ih hl]

/-! ### Shapes -/

/-- How many values are selected. Of decomposition types the canonical one is counted apart. -/
inductive SelectionShape where
  | values (d : Dimension) (count : Nat)
  | decompositionTypes (canonical : Bool) (others : Nat)
deriving DecidableEq

namespace SelectionShape

def of (d : Dimension) (values : List String) : SelectionShape :=
  match d with
  | .decompositionTypes => decompositionTypes (values.contains Catalog.canonical)
      (values.toFinset.erase Catalog.canonical).card
  | d => .values d values.toFinset.card

theorem of_eq_values {d : Dimension} (hd : d ≠ .decompositionTypes) (v : List String) :
    of d v = values d v.toFinset.card := by
  cases d with
  | decompositionTypes => exact absurd rfl hd
  | _ => rfl

end SelectionShape

/-- The text of a clause on confusables, and whether it is negated. -/
def Clause.confusable? : Clause → Option (Bool × String)
  | confusableWith t => some (false, t)
  | notConfusableWith t => some (true, t)
  | _ => none

namespace Filter

/-- What a filter asks for, but for the texts. -/
structure Shape where
  selections : List SelectionShape
  /-- Negated or not, and how many characters. -/
  confusables : List (Bool × Nat)
  /-- Whether the term stands for a name, and the number of trigrams to look for. -/
  searches : List (Bool × Nat)
  properties : List (Property × Bool)
deriving DecidableEq

/-- The clauses on confusables whose text is not blank. -/
def confusables (f : Filter) : List (Bool × String) :=
  (f.filterMap Clause.confusable?).filter fun (_, t) => Text.trim t != ""

/-- A text to be confused with is taken without the blanks at its ends. -/
def shape (f : Filter) (catalog : Catalog) (names : Nat → Option String) : Shape where
  selections := (f.restrictions catalog).map fun (d, values) => .of d values
  confusables := f.confusables.map fun (negated, t) =>
    (negated, (Text.trim t).toList.toFinset.card)
  searches := f.searchTerms.map fun t =>
    ((resolved names t).isSome, (trigrams ((resolved names t).getD t.text)).size)
  properties := f.propertyClauses

variable {f f' : Filter} {catalog catalog' : Catalog} {user user' : Option String}
  {names names' : Nat → Option String} {q q' : Query} {d d' : Dimension} {v v' : List String}
  {t t' : SearchTerm} {negated : Bool}

/-! ### Texts of conditions -/

theorem sql_taggedAmong {tags tags' : List String} (h : tags.length = tags'.length) :
    (taggedAmong tags).sql = (taggedAmong tags').sql := by
  show "(" ++ (_ ++ " AND " ++ (_ ++ " IN (" ++ questionMarks tags.length ++ ")")) ++ ")" = _
  rw [h]
  rfl

theorem sql_decompositionCondition {types types' : OrderedSet String}
    (hcan : types.contains Catalog.canonical = types'.contains Catalog.canonical)
    (hothers : (types.toList.filter (· != Catalog.canonical)).length =
      (types'.toList.filter (· != Catalog.canonical)).length) :
    (decompositionCondition types).sql = (decompositionCondition types').sql := by
  have hempty : (types.toList.filter (· != Catalog.canonical)).isEmpty =
      (types'.toList.filter (· != Catalog.canonical)).isEmpty := by
    rw [Bool.eq_iff_iff, List.isEmpty_iff_length_eq_zero, List.isEmpty_iff_length_eq_zero, hothers]
  have htagged := sql_taggedAmong hothers
  unfold decompositionCondition
  dsimp only
  rw [hcan, hempty]
  split_ifs
  · rfl
  · show untagged.sql ++ " OR " ++ _ = untagged.sql ++ " OR " ++ _
    rw [htagged]
  · exact htagged

theorem length_otherTypes (v : List String) :
    ((OrderedSet.ofList v).toList.filter (· != Catalog.canonical)).length =
      (v.toFinset.erase Catalog.canonical).card := by
  have hset : ((OrderedSet.ofList v).toList.filter (· != Catalog.canonical)).toFinset =
      v.toFinset.erase Catalog.canonical := by
    ext t
    simp [OrderedSet.mem_toList, OrderedSet.mem_ofList, and_comm]
  rw [← hset, List.toFinset_card_of_nodup ((OrderedSet.nodup _).filter _)]

theorem sql_selectionCondition (h : SelectionShape.of d v = SelectionShape.of d' v') :
    (selectionCondition d v).sql = (selectionCondition d' v').sql := by
  have hcolumn : ∀ {d : Dimension}, d ≠ .decompositionTypes → ∀ v, (selectionCondition d v).sql =
      d.column.sql ++ " IN (" ++ questionMarks v.toFinset.card ++ ")" := by
    intro d hd v
    rw [← OrderedSet.size_ofList]
    cases d with
    | decompositionTypes => exact absurd rfl hd
    | _ => rfl
  by_cases hd : d = .decompositionTypes <;> by_cases hd' : d' = .decompositionTypes
  · subst hd hd'
    obtain ⟨hcan, hothers⟩ := SelectionShape.decompositionTypes.inj h
    have hcontains : ∀ v : List String,
        (OrderedSet.ofList v).contains Catalog.canonical = v.contains Catalog.canonical := by
      intro v
      rw [Bool.eq_iff_iff, OrderedSet.contains_iff, OrderedSet.mem_ofList, List.contains_iff_mem]
    show "(" ++ (decompositionCondition _).sql ++ ")" = "(" ++ (decompositionCondition _).sql ++ ")"
    rw [sql_decompositionCondition]
    · rw [hcontains, hcontains, hcan]
    · rw [length_otherTypes, length_otherTypes, hothers]
  · subst hd
    rw [SelectionShape.of_eq_values hd'] at h
    cases h
  · subst hd'
    rw [SelectionShape.of_eq_values hd] at h
    cases h
  · rw [SelectionShape.of_eq_values hd, SelectionShape.of_eq_values hd'] at h
    obtain ⟨rfl, hcount⟩ := SelectionShape.values.inj h
    rw [hcolumn hd, hcolumn hd', hcount]

theorem confusableConditions_eq (f : Filter) : f.filterMap confusableCondition? =
    f.confusables.map fun (negated, t) => confusableCondition negated (unitsOf t) := by
  have htext : ∀ negated t, confusableTextCondition? negated t =
      if Text.trim t != "" then some (confusableCondition negated (unitsOf t)) else none := by
    intro negated t
    unfold confusableTextCondition?
    simp only [isEmpty_unitsOf_iff]
    by_cases ht : Text.trim t = "" <;> simp [ht]
  unfold confusables
  rw [← List.filterMap_eq_map, List.filterMap_filter, List.filterMap_filterMap]
  refine List.filterMap_congr fun c _ => ?_
  cases c with
  | confusableWith t => exact htext false t
  | notConfusableWith t => exact htext true t
  | _ => rfl

theorem sql_confusableCondition {units units' : OrderedSet Nat} (h : units.size = units'.size) :
    (confusableCondition negated units).sql = (confusableCondition negated units').sql := by
  have hside : ∀ side, (Condition.paired side negated units.toList).sql =
      (Condition.paired side negated units'.toList).sql := by
    intro side
    show _ ++ questionMarks units.toList.length ++ _ = _ ++ questionMarks units'.toList.length ++ _
    have hlength : units.toList.length = units'.toList.length := h
    rw [hlength]
  cases negated with
  | false =>
    show "(" ++ (_ ++ " OR " ++ _) ++ ")" = "(" ++ (_ ++ " OR " ++ _) ++ ")"
    rw [hside, hside]
  | true =>
    show "(" ++ (_ ++ " AND " ++ _) ++ ")" = "(" ++ (_ ++ " AND " ++ _) ++ ")"
    rw [hside, hside]

theorem sql_anchor {a b : Anchor} (h : a.trigrams.size = b.trigrams.size) : a.sql = b.sql := by
  have hempty : a.trigrams.isEmpty = b.trigrams.isEmpty := by
    rw [Bool.eq_iff_iff]
    exact List.isEmpty_iff_length_eq_zero.trans
      ((iff_of_eq (congrArg (· = 0) h)).trans List.isEmpty_iff_length_eq_zero.symm)
  unfold Anchor.sql Anchor.sharedSql
  rw [hempty, h]

theorem sql_searchCondition (hfound : (resolved names t).isSome = (resolved names' t').isSome)
    (hsize : (searchAnchor names t).trigrams.size = (searchAnchor names' t').trigrams.size) :
    (searchCondition names t).sql = (searchCondition names' t').sql := by
  have hsimilar : (Condition.similar (searchAnchor names t)).sql =
      (Condition.similar (searchAnchor names' t')).sql := congrArg (· ++ " >= 0.3") (sql_anchor hsize)
  unfold searchCondition
  dsimp only
  cases h : resolved names t with
  | some name =>
    rw [h] at hfound
    obtain ⟨name', h'⟩ := Option.isSome_iff_exists.1 hfound.symm
    rw [h']
    exact hsimilar
  | none =>
    rw [h] at hfound
    rw [Option.isSome_eq_false_iff.1 hfound.symm |> Option.isNone_iff_eq_none.1]
    exact congrArg (fun s => "(" ++ (s ++ " OR " ++ _) ++ ")") hsimilar

/-- Who asks makes no difference to the text. -/
theorem sql_propertyCondition {p : Property} {k k' : Condition}
    (hk : propertyCondition p negated user = .ok k)
    (hk' : propertyCondition p negated user' = .ok k') : k.sql = k'.sql := by
  cases p with
  | favorited =>
    cases user with
    | none => cases hk
    | some u =>
      cases user' with
      | none => cases hk'
      | some u' =>
        cases hk
        cases hk'
        rfl
  | _ =>
    cases hk
    cases hk'
    rfl

theorem sql_propertyConditions {ks ks' : List Condition}
    (hk : f.propertyConditions user = .ok ks) (hk' : f'.propertyConditions user' = .ok ks')
    (hclauses : f.propertyClauses = f'.propertyClauses) :
    ks.map Condition.sql = ks'.map Condition.sql := by
  unfold propertyConditions at hk hk'
  rw [mapM_eq_ok_iff] at hk hk'
  rw [← hclauses] at hk'
  clear hclauses
  generalize f.propertyClauses = clauses at hk hk'
  induction hk generalizing ks' with
  | nil =>
    cases hk'
    rfl
  | cons hone _ ih =>
    cases hk' with
    | cons hone' hrest' =>
      rw [List.map_cons, List.map_cons, sql_propertyCondition hone hone', ih hrest']

/-! ### Texts of queries -/

theorem sql_conditions (hq : f.plan catalog user names = .ok (.query q))
    (hq' : f'.plan catalog' user' names' = .ok (.query q'))
    (h : f'.shape catalog' names' = f.shape catalog names) :
    q'.conditions.map Condition.sql = q.conditions.map Condition.sql := by
  obtain ⟨-, -, ks, hks, hconditions⟩ := plan_eq_query hq
  obtain ⟨-, -, ks', hks', hconditions'⟩ := plan_eq_query hq'
  obtain ⟨hselections, hconfusables, hsearches, hproperties⟩ := Shape.mk.inj h
  rw [hconditions, hconditions', confusableConditions_eq, confusableConditions_eq]
  simp only [List.map_append, List.map_map]
  refine congrArg₂ _ (congrArg₂ _ (congrArg₂ _ ?_ ?_) ?_) ?_
  · refine map_eq_map_of_map_eq ?_ hselections
    rintro ⟨d, v⟩ ⟨d', v'⟩ hs
    exact sql_selectionCondition hs
  · refine map_eq_map_of_map_eq ?_ hconfusables
    rintro ⟨negated, t⟩ ⟨negated', t'⟩ hs
    obtain ⟨rfl, hsize⟩ := Prod.mk.inj hs
    exact sql_confusableCondition (by rw [size_unitsOf, size_unitsOf, hsize])
  · refine map_eq_map_of_map_eq ?_ hsearches
    intro t t' hs
    obtain ⟨hfound, hsize⟩ := Prod.mk.inj hs
    exact sql_searchCondition hfound hsize
  · exact sql_propertyConditions hks' hks hproperties

theorem sql_query (h : q'.conditions.map Condition.sql = q.conditions.map Condition.sql) :
    q'.sql = q.sql := by
  have hempty : q'.conditions.isEmpty = q.conditions.isEmpty := by
    rw [← List.isEmpty_map (f := Condition.sql), h, List.isEmpty_map]
  unfold Query.sql
  rw [hempty, h]

theorem sql_order {a b : Option Anchor} (h : a.map Anchor.sql = b.map Anchor.sql) (key : SortKey)
    (dir : Direction) : orderSql (key.criteria dir a) = orderSql (key.criteria dir b) := by
  have hsql : ((key.criteria dir a).map Criterion.sql) = (key.criteria dir b).map Criterion.sql := by
    cases a with
    | none =>
      rw [Option.map_none, eq_comm, Option.map_eq_none_iff] at h
      rw [h]
    | some a =>
      obtain ⟨b, rfl, hab⟩ := Option.map_eq_some_iff.1 h.symm
      cases key with
      | similarity =>
        show ["(1.0 - IFNULL(" ++ a.sql ++ ", 0.0)) " ++ dir.sql, _] = [_, _]
        rw [← hab]
        rfl
      | _ => rfl
  unfold orderSql
  rw [hsql]

theorem sql_anchors (h : f'.shape catalog' names' = f.shape catalog names) :
    (f'.searchTerms.getLast?.map (searchAnchor names')).map Anchor.sql =
      (f.searchTerms.getLast?.map (searchAnchor names)).map Anchor.sql := by
  have hall : f'.searchTerms.map (fun t => (searchAnchor names' t).sql) =
      f.searchTerms.map fun t => (searchAnchor names t).sql := by
    refine map_eq_map_of_map_eq ?_ (Shape.mk.inj h).2.2.1
    intro t t' hs
    exact sql_anchor (Prod.mk.inj hs).2
  rw [Option.map_map, Option.map_map, ← List.getLast?_map, ← List.getLast?_map]
  exact congrArg List.getLast? hall

/-- In every query there are as many question marks as parameters, in the predicate and in the order,
and both texts are the same for all filters of one shape. Values, terms, names and the user can only
be told from the parameters. -/
theorem sql_of_shape (hq : f.plan catalog user names = .ok (.query q)) :
    (markCount q.sql = q.params.length ∧ ∀ (key : SortKey) dir,
      markCount (orderSql (key.criteria dir q.anchor)) =
        (orderParams (key.criteria dir q.anchor)).length) ∧
    ∀ (f' : Filter) (catalog' : Catalog) (user' : Option String) (names' : Nat → Option String) q',
      f'.plan catalog' user' names' = .ok (.query q') →
      f'.shape catalog' names' = f.shape catalog names →
        q'.sql = q.sql ∧ ∀ (key : SortKey) dir,
          orderSql (key.criteria dir q'.anchor) = orderSql (key.criteria dir q.anchor) := by
  refine ⟨⟨markCount_sql_of_plan hq, fun key dir => markCount_orderSql _⟩, ?_⟩
  intro f' catalog' user' names' q' hq' h
  refine ⟨sql_query (sql_conditions hq hq' h), fun key dir => sql_order ?_ key dir⟩
  rw [(plan_eq_query hq).2.1, (plan_eq_query hq').2.1]
  exact sql_anchors h

def lettersToFind : Filter :=
  [.members .scripts ["Latin", "Greek"], .members .decompositionTypes ["canonical", "font"],
    .confusableWith "AB", .search "U+0041", .property .favorited true]

/-- The same with other texts, among them some that a query must not take over. -/
def marksToFind : Filter :=
  [.property .favorited true, .search "?", .members .scripts ["' OR 1 = 1 --", "?", "?"],
    .members .decompositionTypes ["?", "canonical"], .confusableWith " ?'? "]

theorem sql_of_shape_marks : ∃ q q',
    lettersToFind.plan ⟨fun _ => []⟩ (some "me") (fun _ => some "LETTER A") = .ok (.query q) ∧
    marksToFind.plan ⟨fun _ => ["Han"]⟩ (some "'?") (fun _ => some "LETTER ?B?") =
      .ok (.query q') ∧
    markCount q.sql = q.params.length ∧ q'.sql = q.sql ∧
    orderSql (SortKey.similarity.criteria .asc q'.anchor) =
      orderSql (SortKey.similarity.criteria .asc q.anchor) := by
  have hletters : ∀ d, lettersToFind.firstSelection d ≠ some [] := by
    intro d
    cases d <;> decide
  have hmarks : ∀ d, marksToFind.firstSelection d ≠ some [] := by
    intro d
    cases d <;> decide
  obtain ⟨q, hq⟩ := (@exists_plan_eq_query_iff lettersToFind ⟨fun _ => []⟩ (some "me")
    fun _ => some "LETTER A").2 ⟨hletters, nofun⟩
  obtain ⟨q', hq'⟩ := (@exists_plan_eq_query_iff marksToFind ⟨fun _ => ["Han"]⟩ (some "'?")
    fun _ => some "LETTER ?B?").2 ⟨hmarks, nofun⟩
  have hshape : marksToFind.shape ⟨fun _ => ["Han"]⟩ (fun _ => some "LETTER ?B?") =
      lettersToFind.shape ⟨fun _ => []⟩ fun _ => some "LETTER A" := by decide +kernel
  obtain ⟨⟨hmark, -⟩, hsame⟩ := sql_of_shape hq
  obtain ⟨hsql, horder⟩ := hsame _ _ _ _ _ hq' hshape
  exact ⟨q, q', hq, hq', hmark, hsql, horder .similarity .asc⟩

end Filter
end CharAtlas
