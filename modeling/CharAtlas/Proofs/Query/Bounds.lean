import CharAtlas.Proofs.Traversal
import CharAtlas.Query.Page
import Mathlib.Order.Lattice
import Mathlib.Data.Nat.Basic

/-! # Bounds of statements

The engine takes the statements of a query if their expressions are not nested too deeply and not too
many values are bound to them: `Query.Fits`, which does not depend on the tables, the page or the
direction of the order (`Query.check_eq_ok_iff`). Otherwise it gives one of two errors
(`Query.check_eq_error`). Among the orders only the one by similarity binds values, so a query that
fits it fits every order (`Query.Fits.of_similarity`). -/

namespace CharAtlas

/-- A bound of the engine is exceeded. -/
def StoreError.IsBound (e : StoreError) : Prop :=
  e = .tooDeep ∨ e = .tooManyValues

/-! ### Reading -/

/-- A step of reading that goes through up to a height and a number of question marks, and otherwise
says which of the two it is. -/
structure Scans (step : Nat → Except StoreError Nat) (height marks : Nat) : Prop where
  ok : ∀ n ≤ maxValues, ∀ m, step n = .ok m ↔
    height ≤ maxDepth ∧ n + marks ≤ maxValues ∧ m = n + marks
  error : ∀ n ≤ maxValues, ∀ e, step n = .error e →
    e = .tooDeep ∧ maxDepth < height ∨ e = .tooManyValues ∧ maxValues < n + marks

namespace Scans
variable {f g : Nat → Except StoreError Nat} {h h' i i' : Nat} {k : Kind} {e : Expr k}

theorem skip (hh : h ≤ maxDepth) : Scans .ok h 0 where
  ok n hn m := by
    rw [Except.ok.injEq]
    exact ⟨fun hm => ⟨hh, hn, hm.symm⟩, fun hm => hm.2.2.symm⟩
  error _ _ _ h := by cases h

theorem number (m : Nat) : Scans (Expr.number m) 1 m where
  ok n _ l := by
    unfold Expr.number
    have hone : 1 ≤ maxDepth := by decide
    split_ifs with hm
    · rw [Except.ok.injEq]
      exact ⟨fun hl => ⟨hone, hm, hl.symm⟩, fun hl => hl.2.2.symm⟩
    · exact iff_of_false nofun fun hl => hm hl.2.1
  error n _ e he := by
    unfold Expr.number at he
    split_ifs at he with hm
    exact .inr ⟨(Except.error.inj he).symm, Nat.lt_of_not_le hm⟩

theorem bind (hf : Scans f h i) (hg : Scans g h' i') :
    Scans (fun n => f n >>= g) (max h h') (i + i') where
  ok n hn m := by
    rw [bind_eq_ok_iff]
    constructor
    · rintro ⟨l, hl, hm⟩
      obtain ⟨hh, hi, rfl⟩ := (hf.ok n hn l).1 hl
      obtain ⟨hh', hi', rfl⟩ := (hg.ok _ hi m).1 hm
      omega
    · rintro ⟨hh, hi, rfl⟩
      exact ⟨n + i, (hf.ok n hn _).2 (by omega), (hg.ok _ (by omega) _).2 (by omega)⟩
  error n hn e he := by
    rcases bind_eq_error_iff.1 he with he | ⟨l, hl, he⟩
    · exact (hf.error n hn e he).imp (.imp_right fun _ => by omega) (.imp_right fun _ => by omega)
    · obtain ⟨-, hi, rfl⟩ := (hf.ok n hn l).1 hl
      exact (hg.error _ hi e he).imp (.imp_right fun _ => by omega) (.imp_right fun _ => by omega)

/-- What an expression is put together of goes through if the expression does. -/
theorem bounded (hf : Scans f h i) (hle : h ≤ e.height) :
    Scans (fun n => f n >>= e.bounded) e.height i where
  ok n hn m := by
    rw [bind_eq_ok_iff]
    unfold Expr.bounded
    constructor
    · rintro ⟨l, hl, hm⟩
      obtain ⟨-, hi, rfl⟩ := (hf.ok n hn l).1 hl
      split_ifs at hm with he
      exact ⟨he, hi, (Except.ok.inj hm).symm⟩
    · rintro ⟨he, hi, rfl⟩
      exact ⟨n + i, (hf.ok n hn _).2 ⟨hle.trans he, hi, rfl⟩, if_pos he⟩
  error n hn e' he' := by
    rcases bind_eq_error_iff.1 he' with he' | ⟨l, -, he'⟩
    · exact (hf.error n hn e' he').imp_left (.imp_right fun h => Nat.lt_of_lt_of_le h hle)
    · unfold Expr.bounded at he'
      split_ifs at he' with h
      exact .inl ⟨(Except.error.inj he').symm, Nat.lt_of_not_le h⟩

end Scans

theorem Field.height_le (f : Field) : f.height ≤ 2 := by
  cases f <;> exact Nat.le_of_ble_eq_true rfl

namespace Expr
variable {k : Kind} {e : Expr k} {err : StoreError}

theorem scans (e : Expr k) : Scans e.scan e.height e.marks := by
  induction e with
  | field f => exact .skip (f.height_le.trans (by decide))
  | literal => exact .skip (Nat.le_of_ble_eq_true rfl)
  | tenths => exact .skip (Nat.le_of_ble_eq_true rfl)
  | mark => exact .number 1
  | arithmetic op a b iha ihb => exact (iha.bind ihb).bounded (Nat.le_succ _)
  | position a b iha ihb => exact (iha.bind ihb).bounded (Nat.le_succ _)
  | stretch a start length iha ihs ihl =>
    have hle := Nat.le_succ (max a.height (max start.height length.height))
    exact ((iha.bind ihs).bind ihl).bounded ((max_assoc ..).trans_le hle)
  | ifNull a b iha ihb => exact (iha.bind ihb).bounded (Nat.le_succ _)
  | count source p ih => exact ih.bounded (Nat.le_succ _)
  | isNull negated a ih => exact ih.bounded (Nat.le_succ _)
  | compare r a b iha ihb => exact (iha.bind ihb).bounded (Nat.le_succ _)
  | like negated escape a pattern iha ihp =>
    refine (iha.bind ihp).bounded ?_
    show _ ≤ max a.height pattern.height + 1 + negated.toNat
    omega
  | among negated a marks ih =>
    refine (ih.bind (.number marks)).bounded ?_
    show _ ≤ max a.height (if marks = 1 then 2 else 1) + 1 + negated.toNat
    split_ifs <;> omega
  | amongRows negated a f source p iha ihp =>
    refine (iha.bind ihp).bounded ?_
    show _ ≤ max a.height (max f.height p.height) + 1 + negated.toNat
    omega
  | and p q ihp ihq => exact (ihp.bind ihq).bounded (Nat.le_succ _)
  | or p q ihp ihq => exact (ihp.bind ihq).bounded (Nat.le_succ _)
  | group e ih => exact ih

theorem height_pos (e : Expr k) : 1 ≤ e.height := by
  induction e with
  | field f => cases f <;> exact Nat.le_of_ble_eq_true rfl
  | like => exact Nat.le_add_right_of_le (Nat.le_add_left ..)
  | among => exact Nat.le_add_right_of_le (Nat.le_add_left ..)
  | amongRows => exact Nat.le_add_right_of_le (Nat.le_add_left ..)
  | group e ih => exact ih
  | _ => exact Nat.le_add_left ..

theorem resolve_eq_ok_iff : e.resolve = .ok () ↔ e.height + e.nested ≤ maxDepth := by
  unfold resolve
  split_ifs with h <;> simp [h]

theorem resolve_eq_error (h : e.resolve = .error err) :
    err = .tooDeep ∧ maxDepth < e.height + e.nested := by
  unfold resolve at h
  split_ifs at h with hle
  exact ⟨(Except.error.inj h).symm, Nat.lt_of_not_le hle⟩

end Expr

namespace Select
variable {s : Select} {order : List (Expr .value × Direction)} {e : StoreError}

/-- Orders are not nested so deeply that this would matter. -/
def IsFlat (order : List (Expr .value × Direction)) : Prop :=
  ∀ e dir, (e, dir) ∈ order → e.height + e.nested ≤ maxDepth

theorem scans_scanOrder (h : IsFlat order) : Scans (scanOrder order) 1 (orderMarks order) := by
  induction order with
  | nil => exact .skip (by decide)
  | cons k order ih =>
    obtain ⟨e, dir⟩ := k
    have hscans := e.scans.bind (ih fun e' dir' hmem => h e' dir' (List.mem_cons_of_mem _ hmem))
    have hheight := h e dir (List.mem_cons_self ..)
    have hmarks : orderMarks ((e, dir) :: order) = e.marks + orderMarks order := rfl
    have hone : 1 ≤ maxDepth := by decide
    refine ⟨fun n hn m => (hscans.ok n hn m).trans (by omega), fun n hn err herr => ?_⟩
    exact (hscans.error n hn err herr).imp (.imp_right fun _ => by omega)
      (.imp_right fun _ => by omega)

theorem resolveOrder_eq_ok (h : IsFlat order) : resolveOrder order = .ok () := by
  induction order with
  | nil => rfl
  | cons k order ih =>
    obtain ⟨e, dir⟩ := k
    unfold resolveOrder
    rw [Expr.resolve_eq_ok_iff.2 (h e dir (List.mem_cons_self ..))]
    exact ih fun e' dir' hmem => h e' dir' (List.mem_cons_of_mem _ hmem)

theorem check_eq_ok_iff (h : IsFlat s.order) : s.check = .ok () ↔
    s.predicate.height + s.predicate.nested ≤ maxDepth ∧
      s.predicate.marks + orderMarks s.order + s.pageMarks ≤ maxValues := by
  have hscans := (s.predicate.scans.bind (scans_scanOrder h)).bind (.number s.pageMarks)
  unfold check
  rw [bind_eq_ok_iff]
  have hone : 1 ≤ maxDepth := by decide
  constructor
  · rintro ⟨m, hm, hresolve⟩
    obtain ⟨-, hmarks, -⟩ := (hscans.ok 0 (Nat.zero_le _) m).1 hm
    obtain ⟨_, hdepth, -⟩ := bind_eq_ok_iff.1 hresolve
    exact ⟨Expr.resolve_eq_ok_iff.1 hdepth, by omega⟩
  · rintro ⟨hdepth, hmarks⟩
    refine ⟨_, (hscans.ok 0 (Nat.zero_le _) _).2 ⟨by omega, by omega, rfl⟩, ?_⟩
    rw [Expr.resolve_eq_ok_iff.2 hdepth]
    exact resolveOrder_eq_ok h

theorem check_eq_error (h : IsFlat s.order) (he : s.check = .error e) :
    e = .tooDeep ∧ maxDepth < s.predicate.height + s.predicate.nested ∨
      e = .tooManyValues ∧ maxValues < s.predicate.marks + orderMarks s.order + s.pageMarks := by
  have hscans := (s.predicate.scans.bind (scans_scanOrder h)).bind (.number s.pageMarks)
  have hpos := s.predicate.height_pos
  unfold check at he
  rcases bind_eq_error_iff.1 he with he | ⟨-, -, he⟩
  · have hone : 1 ≤ maxDepth := by decide
    exact (hscans.error 0 (Nat.zero_le _) e he).imp (.imp_right fun _ => by omega)
      (.imp_right fun _ => by omega)
  · rcases bind_eq_error_iff.1 he with he | ⟨-, -, he⟩
    · exact .inl (Expr.resolve_eq_error he)
    · rw [resolveOrder_eq_ok h] at he
      cases he

end Select

/-! ### Question marks -/

theorem Operand.marks_expr (o : Operand) : o.expr.marks = 0 := by
  cases o <;> rfl

theorem Anchor.marks_expr (a : Anchor) : a.expr.marks = a.params.length := by
  unfold Anchor.expr Anchor.params
  split_ifs with h
  · have hnil : a.trigrams.toList = [] := List.isEmpty_iff.1 h
    rw [hnil]
    rfl
  · rw [List.length_append, List.length_map]
    show (0 + 0 + (0 + a.trigrams.size)) + 0 + (0 + 0 + (0 + 0 + (0 + a.trigrams.size))) = _
    unfold OrderedSet.size
    omega

theorem Condition.marks_expr (k : Condition) : k.expr.marks = k.params.length := by
  induction k with
  | isNull c => rfl
  | isNotNull c => rfl
  | compare c r v => rfl
  | like c negated pattern => rfl
  | likeBound c pattern => rfl
  | among o values =>
    show o.expr.marks + values.length = (values.map Param.text).length
    rw [o.marks_expr, List.length_map, Nat.zero_add]
  | paired side negated units =>
    show 0 + (0 + units.length) = (units.map _).length
    rw [List.length_map]
    omega
  | favorite negated user => rfl
  | similar a => exact a.marks_expr
  | and p q ihp ihq =>
    show p.expr.marks + q.expr.marks = (p.params ++ q.params).length
    rw [ihp, ihq, List.length_append]
  | or p q ihp ihq =>
    show p.expr.marks + q.expr.marks = (p.params ++ q.params).length
    rw [ihp, ihq, List.length_append]
  | group p ih => exact ih

theorem marks_joined (e : Expr .test) (ks : List Condition) :
    (joined e ks).marks = e.marks + (ks.flatMap Condition.params).length := by
  induction ks generalizing e with
  | nil => rfl
  | cons k ks ih =>
    rw [joined, List.foldl_cons, ← joined, ih, List.flatMap_cons, List.length_append,
      ← k.marks_expr]
    exact Nat.add_assoc ..

theorem Query.marks_expr (q : Query) : q.expr.marks = q.params.length := by
  unfold Query.expr Query.params
  cases q.conditions with
  | nil => rfl
  | cons k ks =>
    show (joined k.expr ks).marks = _
    rw [marks_joined, k.marks_expr, List.flatMap_cons, List.length_append]

theorem Criterion.marks_expr (k : Criterion) : k.expr.marks = k.params.length := by
  cases k with
  | column c dir => rfl
  | distance a dir =>
    show 0 + (a.expr.marks + 0) = a.params.length
    rw [a.marks_expr]
    omega

theorem orderMarks_criteria (criteria : List Criterion) :
    Select.orderMarks (criteria.map fun k => (k.expr, k.direction)) =
      (orderParams criteria).length := by
  induction criteria with
  | nil => rfl
  | cons k criteria ih =>
    show k.expr.marks + Select.orderMarks _ = (k.params ++ orderParams criteria).length
    rw [List.length_append, ih, k.marks_expr]

/-! ### Heights -/

theorem Operand.height_expr_le (o : Operand) : o.expr.height ≤ 5 ∧ o.expr.nested = 0 := by
  cases o <;> exact ⟨Nat.le_of_ble_eq_true rfl, rfl⟩

theorem Anchor.height_expr_le (a : Anchor) : a.expr.height ≤ 7 ∧ a.expr.nested ≤ 4 := by
  unfold Anchor.expr
  split_ifs
  · exact ⟨by decide, by decide⟩
  · unfold Anchor.sharedExpr
    simp only [Expr.height, Expr.nested, Field.height, Bool.toNat_false]
    split <;> omega

theorem Criterion.isFlat (criteria : List Criterion) :
    Select.IsFlat (criteria.map fun k => (k.expr, k.direction)) := by
  intro e dir hmem
  obtain ⟨k, -, hk⟩ := List.mem_map.1 hmem
  obtain ⟨rfl, rfl⟩ := Prod.mk.inj hk
  unfold maxDepth
  cases k with
  | column c dir => exact Nat.le_of_ble_eq_true rfl
  | distance a dir =>
    obtain ⟨hheight, hnested⟩ := a.height_expr_le
    show max 1 (max a.expr.height 1 + 1) + 1 + max 0 (max a.expr.nested 0) ≤ 1000
    omega

theorem height_joined_le {e : Expr .test} {ks : List Condition} {h : Nat} (he : e.height ≤ h)
    (hks : ∀ k ∈ ks, k.expr.height ≤ h) : (joined e ks).height ≤ h + ks.length := by
  induction ks generalizing e h with
  | nil => exact he
  | cons k ks ih =>
    have hk := hks k (List.mem_cons_self ..)
    rw [joined, List.foldl_cons, ← joined, List.length_cons]
    have := @ih (.and e k.expr) (h + 1) (by show max _ _ + 1 ≤ _; omega)
      fun k' hk' => (hks k' (List.mem_cons_of_mem _ hk')).trans (Nat.le_succ h)
    omega

/-- Each condition makes the expression higher. -/
theorem le_height_joined (e : Expr .test) (ks : List Condition) :
    e.height + ks.length ≤ (joined e ks).height := by
  induction ks generalizing e with
  | nil => exact Nat.le_refl _
  | cons k ks ih =>
    have hle := ih (.and e k.expr)
    have hheight : (Expr.and e k.expr).height = max e.height k.expr.height + 1 := rfl
    rw [joined, List.foldl_cons, ← joined, List.length_cons]
    omega

theorem nested_joined_le {e : Expr .test} {ks : List Condition} {h : Nat} (he : e.nested ≤ h)
    (hks : ∀ k ∈ ks, k.expr.nested ≤ h) : (joined e ks).nested ≤ h := by
  induction ks generalizing e with
  | nil => exact he
  | cons k ks ih =>
    rw [joined, List.foldl_cons, ← joined]
    exact ih (max_le he (hks k (List.mem_cons_self ..)))
      fun k' hk' => hks k' (List.mem_cons_of_mem _ hk')

/-! ### Statements that the engine takes -/

namespace Query
variable {q : Query} {key : SortKey} {dir : Direction} {e : StoreError}

/-- The statements of the query in an order are within the bounds. -/
structure Fits (q : Query) (key : SortKey) : Prop where
  depth : q.expr.height + q.expr.nested ≤ maxDepth
  values : q.params.length + (orderParams (key.criteria .asc q.anchor)).length + 2 ≤ maxValues

instance : Decidable (q.Fits key) :=
  decidable_of_iff (_ ∧ _) ⟨fun h => ⟨h.1, h.2⟩, fun h => ⟨h.depth, h.values⟩⟩

theorem length_orderParams (key : SortKey) (dir : Direction) (a : Option Anchor) :
    (orderParams (key.criteria dir a)).length = (orderParams (key.criteria .asc a)).length := by
  cases key <;> cases a <;> rfl

theorem orderParams_eq_nil (h : key ≠ .similarity) (a : Option Anchor) :
    orderParams (key.criteria dir a) = [] := by
  cases key with
  | similarity => exact absurd rfl h
  | _ => cases a <;> rfl

theorem check_counting_eq_ok_iff : q.counting.check = .ok () ↔
    q.expr.height + q.expr.nested ≤ maxDepth ∧ q.params.length ≤ maxValues := by
  rw [Select.check_eq_ok_iff fun _ _ h => absurd h List.not_mem_nil, ← q.marks_expr]
  rfl

theorem orderMarks_paging : Select.orderMarks (q.paging key dir).order =
    (orderParams (key.criteria .asc q.anchor)).length :=
  (orderMarks_criteria _).trans (length_orderParams key dir q.anchor)

theorem check_paging_eq_ok_iff : (q.paging key dir).check = .ok () ↔ q.Fits key := by
  have hmarks := q.marks_expr
  rw [Select.check_eq_ok_iff (Criterion.isFlat _), orderMarks_paging]
  show _ ∧ q.expr.marks + _ + 2 ≤ maxValues ↔ _
  rw [hmarks]
  exact ⟨fun h => ⟨h.1, h.2⟩, fun h => ⟨h.depth, h.values⟩⟩

theorem check_eq_ok_iff : q.check key dir = .ok () ↔ q.Fits key := by
  unfold check
  rw [bind_eq_ok_iff]
  constructor
  · rintro ⟨-, -, hpaging⟩
    exact check_paging_eq_ok_iff.1 hpaging
  · intro h
    have hvalues := h.values
    exact ⟨(), check_counting_eq_ok_iff.2 ⟨h.depth, by omega⟩, check_paging_eq_ok_iff.2 h⟩

/-- Which of the bounds it is that an error is about. -/
theorem of_check_eq_error (h : q.check key dir = .error e) :
    e = .tooDeep ∧ maxDepth < q.expr.height + q.expr.nested ∨
      e = .tooManyValues ∧
        maxValues < q.params.length + (orderParams (key.criteria .asc q.anchor)).length + 2 := by
  have hmarks := q.marks_expr
  have horder := @orderMarks_paging q key dir
  rcases bind_eq_error_iff.1 h with he | ⟨-, -, he⟩
  · refine (Select.check_eq_error (fun _ _ h => absurd h List.not_mem_nil) he).imp_right
      (.imp_right fun hlt => ?_)
    change maxValues < q.expr.marks + 0 + 0 at hlt
    omega
  · refine (Select.check_eq_error (Criterion.isFlat _) he).imp_right (.imp_right fun hlt => ?_)
    change maxValues < q.expr.marks + _ + 2 at hlt
    omega

/-- What the engine says to a query that does not fit. -/
theorem check_eq_error (h : ¬q.Fits key) : ∃ e, q.check key dir = .error e ∧ e.IsBound := by
  cases hcheck : q.check key dir with
  | ok => exact absurd (check_eq_ok_iff.1 hcheck) h
  | error e => exact ⟨e, rfl, (of_check_eq_error hcheck).imp And.left And.left⟩

/-- Where values are few, it is the depth. -/
theorem check_of_deep (hdepth : maxDepth < q.expr.height + q.expr.nested)
    (hvalues : q.params.length + (orderParams (key.criteria .asc q.anchor)).length + 2 ≤ maxValues) :
    q.check key dir = .error .tooDeep := by
  obtain ⟨e, he, -⟩ := @check_eq_error q key dir fun h => (hdepth.trans_le h.depth).false
  rcases of_check_eq_error he with ⟨rfl, -⟩ | ⟨-, hmany⟩
  · exact he
  · omega

/-- Where conditions are few, it is the number of values. -/
theorem check_of_manyValues (hdepth : q.expr.height + q.expr.nested ≤ maxDepth)
    (hvalues : maxValues < q.params.length + (orderParams (key.criteria .asc q.anchor)).length + 2) :
    q.check key dir = .error .tooManyValues := by
  obtain ⟨e, he, -⟩ := @check_eq_error q key dir fun h => (hvalues.trans_le h.values).false
  rcases of_check_eq_error he with ⟨-, hdeep⟩ | ⟨rfl, -⟩
  · omega
  · exact he

theorem Fits.of_ne_similarity {key' : SortKey} (h : q.Fits key) (hkey : key' ≠ .similarity) :
    q.Fits key' := by
  refine ⟨h.depth, ?_⟩
  rw [orderParams_eq_nil hkey]
  have hvalues := h.values
  rw [List.length_nil]
  omega

theorem Fits.of_similarity (h : q.Fits .similarity) (key : SortKey) : q.Fits key := by
  by_cases hkey : key = .similarity
  · rwa [hkey]
  · exact h.of_ne_similarity hkey

end Query

/-! ### Queries that are run -/

namespace Database
variable {db : Database} {r : Paging} {q : Query}

theorem runPlan_query (hopen : db.isOpen = true) (h : q.Fits r.sort) :
    db.runPlan r (.query q) = .ok {
      characters := (db.pageOf q r).map fun c => .ofRow (db.row c)
      total := (db.matching q).length } := by
  have hcheck : q.check r.sort r.direction = .ok () := Query.check_eq_ok_iff.2 h
  simp only [runPlan, access, hopen, if_true, hcheck]
  rfl

theorem runPlan_query_of_check {e : StoreError} (hopen : db.isOpen = true)
    (he : q.check r.sort r.direction = .error e) :
    db.runPlan r (.query q) = .error (.store e) := by
  simp only [runPlan, access, hopen, if_true, he]
  rfl

theorem runPlan_query_of_not_fits (hopen : db.isOpen = true) (h : ¬q.Fits r.sort) :
    ∃ e, db.runPlan r (.query q) = .error (.store e) ∧ e.IsBound := by
  obtain ⟨e, he, hbound⟩ := @Query.check_eq_error q r.sort r.direction h
  exact ⟨e, runPlan_query_of_check hopen he, hbound⟩

theorem runPlan_query_of_not_isOpen (hopen : ¬db.isOpen = true) :
    db.runPlan r (.query q) = .error (.store .closed) := by
  unfold runPlan access
  rw [if_neg hopen]
  rfl

/-- A query that is answered is asked of an open database and fits the bounds. -/
theorem of_runPlan_query {page : ResultPage} (h : db.runPlan r (.query q) = .ok page) :
    db.isOpen = true ∧ q.Fits r.sort := by
  by_cases hopen : db.isOpen = true
  · refine ⟨hopen, ?_⟩
    by_contra hfits
    obtain ⟨e, he, -⟩ := runPlan_query_of_not_fits hopen hfits
    rw [he] at h
    cases h
  · rw [runPlan_query_of_not_isOpen hopen] at h
    cases h

end Database
end CharAtlas
