import CharAtlas.Proofs.Numeral
import CharAtlas.Proofs.Query.Plan
import Mathlib.Data.List.Count

/-! # Question marks and parameters

A query binds its parameters to the question marks in its text, so there must be as many of the one
as of the other: in the predicate (`Filter.markCount_sql_of_plan`) and in the order
(`markCount_orderSql`). No other text has a question mark in it, for what clients write is bound and
not written out. -/

namespace CharAtlas

/-- The question marks in a text. -/
def markCount (s : String) : Nat :=
  s.toList.count '?'

theorem markCount_append (s t : String) : markCount (s ++ t) = markCount s + markCount t := by
  unfold markCount
  rw [String.toList_append, List.count_append]

theorem markCount_ofList {cs : List Char} {n : Nat} (h : cs.count '?' = n) :
    markCount (String.ofList cs) = n := by
  unfold markCount
  rw [String.toList_ofList, h]

theorem markCount_enclosed {s t : String} (hs : markCount s = 0) (ht : markCount t = 0)
    (u : String) : markCount (s ++ u ++ t) = markCount u := by
  rw [markCount_append, markCount_append, hs, ht, Nat.zero_add, Nat.add_zero]

/-- Texts that each bring their parameters with them, put together by one that has none. -/
theorem markCount_intercalate {α β : Type} {joint : String} (hj : markCount joint = 0)
    {text : α → String} {params : α → List β} {l : List α}
    (h : ∀ a ∈ l, markCount (text a) = (params a).length) :
    markCount (joint.intercalate (l.map text)) = (l.flatMap params).length := by
  induction l with
  | nil => rfl
  | cons a l ih =>
    have ha := h a (List.mem_cons_self ..)
    have hl := ih fun b hb => h b (List.mem_cons_of_mem _ hb)
    rw [List.flatMap_cons, List.length_append, ← ha, ← hl]
    cases l with
    | nil => simp [markCount]
    | cons b l =>
      rw [List.map_cons, List.map_cons, String.intercalate_cons_cons, markCount_append,
        markCount_append, hj]
      rfl

theorem markCount_questionMarks (n : Nat) : markCount (questionMarks n) = n := by
  have hmarks := @markCount_intercalate Unit Unit ", " (by decide) (fun _ => "?") (fun _ => [()])
    (List.replicate n ()) fun _ _ => by decide
  rw [List.map_replicate] at hmarks
  unfold questionMarks
  simpa using hmarks

theorem markCount_ofNat (n : Nat) : markCount (Numeral.ofNat n) = 0 := by
  have hdigit : ∀ d < 10, '?' ≠ Numeral.digitChar d := by decide
  unfold markCount Numeral.ofNat
  rw [String.toList_ofList, List.count_eq_zero]
  intro h
  obtain ⟨d, hd, he⟩ := (Numeral.mem_digitsOnto (by decide) h).resolve_right List.not_mem_nil
  exact hdigit d hd he

theorem markCount_ofInt (i : Int) : markCount (Numeral.ofInt i) = 0 := by
  cases i with
  | ofNat n => exact markCount_ofNat n
  | negSucc n =>
    show markCount ("-" ++ Numeral.ofNat (n + 1)) = 0
    rw [markCount_append, markCount_ofNat]
    decide

theorem markCount_column (c : Column) : markCount c.sql = 0 := by
  have hlabel : markCount c.label = 0 := by
    cases c with
    | flag f => cases f <;> exact markCount_ofList (by decide)
    | _ => exact markCount_ofList (by decide)
  unfold Column.sql
  rw [markCount_append, hlabel]
  decide

theorem markCount_operand (o : Operand) : markCount o.sql = 0 := by
  cases o with
  | column c => exact markCount_column c
  | decompositionTag =>
    show markCount "substr(c.decomposition, 2, instr(c.decomposition, '>') - 2)" = 0
    exact markCount_ofList (by decide)

theorem markCount_relation (r : Relation) : markCount r.sql = 0 := by
  cases r <;> decide

theorem markCount_direction (dir : Direction) : markCount dir.sql = 0 := by
  cases dir <;> decide

theorem markCount_label (side : Side) : markCount side.label = 0 := by
  cases side <;> decide

theorem markCount_notSql (negated : Bool) : markCount (notSql negated) = 0 := by
  cases negated <;> decide

/-! ### Conditions -/

theorem Anchor.length_params (a : Anchor) : a.params.length = a.trigrams.size + a.trigrams.size := by
  unfold params
  rw [List.length_append, List.length_map]
  rfl

theorem Anchor.markCount_sharedSql (a : Anchor) : markCount a.sharedSql = a.trigrams.size := by
  unfold sharedSql
  rw [markCount_enclosed (markCount_ofList (by decide)) (markCount_ofList (by decide)),
    markCount_questionMarks]

theorem Anchor.markCount_sql (a : Anchor) : markCount a.sql = a.params.length := by
  rw [length_params]
  unfold sql
  split
  · rename_i hnone
    have hsize : a.trigrams.size = 0 := List.length_eq_zero_iff.2 (List.isEmpty_iff.1 hnone)
    rw [hsize]
    decide
  · have hdigits := markCount_ofNat a.trigrams.size
    generalize Numeral.ofNat a.trigrams.size = digits at hdigits ⊢
    have hover : markCount " * 1.0 / (c.name_trigram_count + " = 0 := markCount_ofList (by decide)
    simp only [markCount_append, markCount_sharedSql, hdigits, hover]
    simp [markCount]

namespace Condition

/-- The patterns and values that are written out have no question marks in them. -/
def IsPlain : Condition → Prop
  | compare _ _ v => markCount v.sql = 0
  | like _ _ pattern => markCount pattern = 0
  | and p q => p.IsPlain ∧ q.IsPlain
  | or p q => p.IsPlain ∧ q.IsPlain
  | group p => p.IsPlain
  | _ => True

theorem markCount_sql {k : Condition} (h : k.IsPlain) : markCount k.sql = k.params.length := by
  induction k with
  | isNull c =>
    show markCount (c.sql ++ " IS NULL") = 0
    simp only [markCount_append, markCount_column]
    decide
  | isNotNull c =>
    show markCount (c.sql ++ " IS NOT NULL") = 0
    simp only [markCount_append, markCount_column]
    decide
  | compare c r v =>
    have hv : markCount v.sql = 0 := h
    show markCount (c.sql ++ " " ++ r.sql ++ " " ++ v.sql) = 0
    simp only [markCount_append, markCount_column, markCount_relation, hv]
    decide
  | like c negated pattern =>
    have hp : markCount pattern = 0 := h
    show markCount (c.sql ++ " " ++ notSql negated ++ "LIKE '" ++ pattern ++ "'") = 0
    simp only [markCount_append, markCount_column, markCount_notSql, hp]
    decide
  | likeBound c pattern =>
    show markCount (c.sql ++ " LIKE ? ESCAPE '\\'") = 1
    simp only [markCount_append, markCount_column]
    decide
  | among o values =>
    show markCount (o.sql ++ " IN (" ++ questionMarks values.length ++ ")") =
      (values.map Param.text).length
    simp only [markCount_append, markCount_operand, markCount_questionMarks, List.length_map]
    simp [markCount]
  | paired side negated units =>
    show markCount ("c.codepoint " ++ notSql negated ++ "IN (SELECT " ++ side.label ++
      " FROM confusables WHERE " ++ side.other.label ++ " IN (" ++ questionMarks units.length ++
        "))") = (units.map fun (n : Nat) => Param.int n).length
    have hfrom : markCount " FROM confusables WHERE " = 0 := markCount_ofList (by decide)
    simp only [markCount_append, markCount_notSql, markCount_label, markCount_questionMarks,
      List.length_map, hfrom]
    simp [markCount]
  | favorite negated user =>
    show markCount ("c.codepoint " ++ notSql negated ++
      "IN (SELECT f.codepoint FROM favorites f WHERE f.user_id = ?)") = 1
    have hone : markCount "IN (SELECT f.codepoint FROM favorites f WHERE f.user_id = ?)" = 1 :=
      markCount_ofList (by decide)
    simp only [markCount_append, markCount_notSql, hone]
    decide
  | similar a =>
    show markCount (a.sql ++ " >= 0.3") = a.params.length
    simp only [markCount_append, a.markCount_sql]
    simp [markCount]
  | and p q ihp ihq =>
    show markCount (p.sql ++ " AND " ++ q.sql) = (p.params ++ q.params).length
    simp only [markCount_append, ihp h.1, ihq h.2, List.length_append]
    simp [markCount]
  | or p q ihp ihq =>
    show markCount (p.sql ++ " OR " ++ q.sql) = (p.params ++ q.params).length
    simp only [markCount_append, ihp h.1, ihq h.2, List.length_append]
    simp [markCount]
  | group p ih =>
    have hp : p.IsPlain := h
    show markCount ("(" ++ p.sql ++ ")") = p.params.length
    simp only [markCount_append, ih hp]
    simp [markCount]

end Condition

namespace Filter
variable {f : Filter} {catalog : Catalog} {user : Option String} {names : Nat → Option String}
  {k : Condition} {q : Query}

theorem isPlain_selectionCondition (d : Dimension) (values : List String) :
    (selectionCondition d values).IsPlain := by
  have huntagged : untagged.IsPlain := ⟨trivial, (by decide : markCount "<%" = 0)⟩
  have htagged : ∀ tags, (taggedAmong tags).IsPlain :=
    fun _ => ⟨(by decide : markCount "<%" = 0), trivial⟩
  cases d with
  | decompositionTypes =>
    show (decompositionCondition _).IsPlain
    unfold decompositionCondition
    dsimp only
    split_ifs
    · exact huntagged
    · exact ⟨huntagged, htagged _⟩
    · exact htagged _
  | _ => exact trivial

theorem isPlain_searchCondition (names : Nat → Option String) (t : SearchTerm) :
    (searchCondition names t).IsPlain := by
  unfold searchCondition
  dsimp only
  split
  · exact trivial
  · exact ⟨trivial, trivial⟩

theorem isPlain_propertyCondition {p : Property} {negated : Bool}
    (hk : propertyCondition p negated user = .ok k) : k.IsPlain := by
  cases p with
  | favorited =>
    cases user with
    | none => cases hk
    | some u =>
      cases hk
      exact trivial
  | flag f =>
    cases hk
    cases negated with
    | false => exact markCount_ofInt 1
    | true => exact ⟨trivial, markCount_ofInt 1⟩
  | combiningClass =>
    cases hk
    cases negated with
    | false => exact markCount_ofInt 0
    | true => exact ⟨trivial, markCount_ofInt 0⟩
  | titlecase =>
    cases hk
    cases negated with
    | false => exact (by decide : markCount (Value.text "Lt").sql = 0)
    | true => exact ⟨trivial, (by decide : markCount (Value.text "Lt").sql = 0)⟩
  | _ =>
    cases hk
    cases negated <;> exact trivial

/-- Nothing that a filter asks for writes out what is in the filter. -/
theorem Asks.isPlain (hk : f.Asks catalog user names k) : k.IsPlain := by
  cases hk with
  | selection => exact isPlain_selectionCondition _ _
  | @confusable negated t _ ht hk =>
    unfold confusableTextCondition? at hk
    simp only [Option.ite_none_left_eq_some, Option.some.injEq] at hk
    obtain ⟨-, rfl⟩ := hk
    cases negated <;> exact ⟨trivial, trivial⟩
  | search => exact isPlain_searchCondition _ _
  | property hp hk => exact isPlain_propertyCondition hk

theorem markCount_sql_of_plan (h : f.plan catalog user names = .ok (.query q)) :
    markCount q.sql = q.params.length := by
  have hcount : ∀ k ∈ q.conditions, markCount k.sql = k.params.length :=
    fun k hk => Condition.markCount_sql ((mem_conditions_iff h).1 hk).isPlain
  unfold Query.sql Query.params
  split
  · rename_i hnone
    rw [List.isEmpty_iff.1 hnone]
    decide
  · exact markCount_intercalate (by decide) hcount

end Filter

/-! ### Orders -/

theorem Criterion.markCount_sql (k : Criterion) : markCount k.sql = k.params.length := by
  cases k with
  | column c dir =>
    show markCount (c.sql ++ " " ++ dir.sql) = 0
    simp only [markCount_append, markCount_column, markCount_direction]
    decide
  | distance a dir =>
    show markCount ("(1.0 - IFNULL(" ++ a.sql ++ ", 0.0)) " ++ dir.sql) = a.params.length
    simp only [markCount_append, a.markCount_sql, markCount_direction]
    simp [markCount]

theorem markCount_orderSql (criteria : List Criterion) :
    markCount (orderSql criteria) = (orderParams criteria).length := by
  unfold orderSql orderParams
  rw [markCount_append, markCount_intercalate (by decide) fun k _ => k.markCount_sql]
  exact Nat.zero_add _

end CharAtlas
