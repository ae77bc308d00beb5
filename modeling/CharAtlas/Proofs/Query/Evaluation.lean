import CharAtlas.Proofs.Query.Bounds
import CharAtlas.Proofs.Query.Meaning
import CharAtlas.Proofs.Query.Order

/-! # What statements yield

With its values bound from left to right, the expression of a condition comes to what the condition
does on a row (`Condition.eval_expr`), and that of a criterion ranks rows as the criterion does. So the
two statements of a query yield the rows that match and the page (`Query.run_counting`,
`Query.run_paging`). Conditions are tests of texts against texts and of values that are there
(`Condition.IsTyped`), as all are that a filter asks for (`Filter.Asks.isTyped`). -/

namespace CharAtlas

/-! ### Data -/

namespace Datum

theorem isNull_ofValue (v : Value) : (ofValue v).isNull = decide (v = .null) := by
  cases v <;> rfl

theorem compare_real (x y : ℚ) : (real x).compare (real y) = Ord.compare x y :=
  (LinearOrder.compare_eq_compareOfLessAndEq x y).symm

theorem compare_int (m n : ℤ) : (int m).compare (int n) = Ord.compare m n := by
  have hreal : (int m).compare (int n) = (real m).compare (real n) := rfl
  rw [hreal, compare_real, ← cmp_eq_compare, ← cmp_eq_compare]
  exact Int.cast_strictMono.cmp_map_eq m n

theorem compare_ofValue (v w : Value) : (ofValue v).compare (ofValue w) = v.compare w := by
  cases v <;> cases w <;> first | rfl | exact compare_int _ _

theorem compare_text_eq_iff {s t : String} : (text s).compare (text t) = .eq ↔ s = t :=
  Std.LawfulEqOrd.compare_eq_iff_eq

theorem compare_nat_eq_iff {m n : Nat} : (int m).compare (int n) = .eq ↔ m = n := by
  rw [compare_int, Std.LawfulEqOrd.compare_eq_iff_eq, Int.ofNat_inj]

/-- Whether a value is one of a list of values, all of them there. -/
theorem among_eq {d : Datum} {l : List Datum} (hd : d.isNull = false)
    (hnull : l.any isNull = false) : d.among l = some (l.any fun e => d.compare e = .eq) := by
  cases l with
  | nil => rfl
  | cons e l =>
    unfold among
    rw [hd, hnull]
    cases (e :: l).any fun e => d.compare e = .eq <;> rfl

theorem any_isNull_texts (l : List String) : (l.map text).any isNull = false := by
  rw [List.any_map]
  exact List.any_eq_false.2 fun _ _ => nofun

theorem among_text (s : String) (l : List String) :
    (text s).among (l.map text) = some (l.contains s) := by
  rw [among_eq rfl (any_isNull_texts l), List.any_map, List.contains_eq_any_beq]
  refine congrArg some (congrArg (List.any l) (funext fun t => ?_))
  rw [Bool.eq_iff_iff, beq_iff_eq]
  exact decide_eq_true_iff.trans compare_text_eq_iff

theorem among_texts {l : List String} (hl : l ≠ []) (v : Value) :
    (ofValue v).among (l.map text) = Condition.onText l.contains v := by
  cases v with
  | null =>
    have hempty : (l.map text).isEmpty = false := by simpa using hl
    unfold among
    rw [hempty]
    rfl
  | int n =>
    show (int n).among _ = _
    rw [among_eq rfl (any_isNull_texts l), List.any_map]
    exact congrArg some (List.any_eq_false.2 fun _ _ => nofun)
  | text s => exact among_text s l

theorem among_nats (n : Nat) (l : List Nat) :
    (int n).among (l.map fun m : Nat => int m) = some (l.contains n) := by
  have hnull : (l.map fun m : Nat => int m).any isNull = false := by
    rw [List.any_map]
    exact List.any_eq_false.2 fun _ _ => nofun
  rw [among_eq rfl hnull, List.any_map, List.contains_eq_any_beq]
  refine congrArg some (congrArg (List.any l) (funext fun k => ?_))
  rw [Bool.eq_iff_iff, beq_iff_eq]
  exact decide_eq_true_iff.trans compare_nat_eq_iff

theorem map_bne_false (t : Truth) : t.map (· != false) = t := by
  rcases t with _ | _ | _ <;> rfl

/-- The values that question marks take are bound one after the other. -/
theorem map_ofParam_take {α : Type} (f : α → Param) (l : List α) (rest : List Param) :
    ((l.map f ++ rest).take l.length).map ofParam = l.map fun a => ofParam (f a) := by
  rw [List.take_left' (List.length_map f), List.map_map]
  rfl

end Datum

/-- A quotient by what is not zero. -/
theorem Arithmetic.apply_divided {x : ℚ} {n : ℤ} (hn : (n : ℚ) ≠ 0) :
    divided.apply (.real x) (.int n) = .real (x / n) := by
  unfold apply
  rw [if_neg fun h => hn h.2]
  rfl

/-! ### Tags -/

namespace Text

theorem isPrefixOf_singleton (a c : Char) (cs : List Char) : [a].isPrefixOf (c :: cs) = (a == c) := by
  rw [List.isPrefixOf, List.isPrefixOf, Bool.and_true]

theorem findIdx?_suffixes (a : Char) (cs : List Char) :
    (suffixes cs).findIdx? ([a].isPrefixOf ·) = cs.findIdx? (· == a) := by
  induction cs with
  | nil => rfl
  | cons c cs ih =>
    rw [suffixes, List.findIdx?_cons, List.findIdx?_cons, ih, isPrefixOf_singleton,
      Bool.beq_comm]

end Text

/-- Cutting the tag out by its position comes to the same as finding the bracket. -/
theorem Decomposition.stretch_position (cs : List Char) :
    Text.stretch (Text.visible cs) 2 ((Text.position cs ['>'] : Int) - 2) = cutTagChars cs := by
  unfold Text.position cutTagChars Text.stretch
  rw [Text.findIdx?_suffixes]
  cases cs.findIdx? (· == '>') with
  | none => simp
  | some n =>
    cases n with
    | zero => simp
    | succ n =>
      have hend : ((max 2 (2 + (((n + 1 + 1 : Nat) : Int) - 2)) - 1).toNat) = 1 + n := by omega
      have hstart : ((min 2 (2 + (((n + 1 + 1 : Nat) : Int) - 2)) - 1).toNat) = 1 := by omega
      show List.drop _ (List.take _ _) = _
      rw [if_neg (by decide), hend, hstart, List.drop_take, Nat.add_sub_cancel_left]

/-! ### Conditions -/

/-- Whether a number is read in a row of which a test is true. -/
theorem Expr.among_rows {α : Type} {db : Database} {e : Expr .test} {values : List Param}
    {scope : α → Scope} {field : Field} {p : α → Bool} {f : α → Nat} (n : Nat) (rows : List α)
    (he : ∀ a, e.eval db (scope a) values = some (p a))
    (hfield : ∀ a, field.datum (scope a) = .int (f a)) :
    (Datum.int n).among (((rows.map scope).filter fun s => e.eval db s values = some true).map
      field.datum) = some (rows.any fun a => f a == n && p a) := by
  have htest : (fun s => decide (e.eval db s values = some true)) ∘ scope = p := by
    funext a
    rw [Function.comp_apply, Bool.eq_iff_iff, decide_eq_true_iff, he, Option.some.injEq]
  have hdatum : (fun s => field.datum s) ∘ scope = (fun m : Nat => Datum.int m) ∘ f := funext hfield
  rw [List.filter_map, List.map_map, htest, hdatum, ← List.map_map, Datum.among_nats,
    Option.some.injEq, Bool.eq_iff_iff, List.contains_iff_mem, List.mem_map, List.any_eq_true]
  refine exists_congr fun a => ?_
  rw [List.mem_filter, Bool.and_eq_true, beq_iff_eq, and_assoc, and_comm (a := p a = true)]

theorem Operand.eval_expr (db : Database) (o : Operand) (c : StoredCharacter)
    (values : List Param) :
    o.expr.eval db { character := c } values = .ofValue (o.value c) := by
  cases o with
  | column col => rfl
  | decompositionTag =>
    show Datum.stretch (.ofValue (.ofOption .text c.decomposition)) (.int 2)
      (Arithmetic.minus.apply
        (.position (.ofValue (.ofOption .text c.decomposition)) (.text ">")) (.int 2)) =
      .ofValue (.ofOption (fun d => .text (Decomposition.cutTag d)) c.decomposition)
    cases c.decomposition with
    | none => rfl
    | some d =>
      show Datum.text (String.ofList (Text.stretch _ 2 ((Text.position d.toList ['>'] : Int) - 2))) =
        .text (Decomposition.cutTag d)
      rw [Decomposition.stretch_position]
      rfl

/-- A score as a number, if there is one. -/
def Datum.ofScore (s : Option Score) : Datum :=
  (s.map fun s => .real s.ratio).getD .null

namespace Anchor
variable {db : Database} {c : StoredCharacter}

theorem eval_sharedExpr (db : Database) (a : Anchor) (c : StoredCharacter) (rest : List Param) :
    a.sharedExpr.eval db { character := c } (a.trigrams.toList.map .text ++ rest) =
      .int (db.sharedCount a c) := by
  have htrigrams := Datum.map_ofParam_take Param.text a.trigrams.toList rest
  show Datum.int ((db.trigramRows.map _).countP _) = _
  rw [List.countP_map]
  refine congrArg (fun n : Nat => Datum.int n) (List.countP_congr fun r _ => ?_)
  show decide (Truth.and (some ((Datum.int r.codepoint).compare (Datum.int c.codepoint)).isEq)
    (((Datum.text r.trigram).among
      (((a.trigrams.toList.map Param.text ++ rest).take a.trigrams.toList.length).map .ofParam)).map
        (· != false)) = some true) = true ↔ _
  rw [htrigrams, Datum.map_bne_false, decide_eq_true_iff, Truth.and_eq_true_iff, Bool.and_eq_true,
    beq_iff_eq, Option.some.injEq, Ordering.isEq_iff_eq_eq, Datum.compare_nat_eq_iff]
  refine and_congr_right fun _ => ?_
  show (Datum.text r.trigram).among (a.trigrams.toList.map Datum.text) = _ ↔ _
  rw [Datum.among_text, Option.some.injEq]
  rfl

theorem eval_expr (h : db.Consistent) (hc : c ∈ db.characters.rows) (a : Anchor)
    (rest : List Param) :
    a.expr.eval db { character := c } (a.params ++ rest) = .ofScore (db.score a c) := by
  unfold expr
  split_ifs with ha
  · rw [Database.score, if_pos ha]
    show Datum.real ((0 : ℕ) / 10) = .real ((0 : ℕ) / (1 : ℕ))
    norm_num
  · rw [Bool.not_eq_true] at ha
    have hscore := Database.score_eq h hc ha
    have htotal := Database.total_eq_card (a := a) h hc
    have hpos : ((c.nameTrigrams.toFinset ∪ a.trigrams.toFinset).card : ℚ) ≠ 0 :=
      Nat.cast_ne_zero.2 (Database.total_pos_of_score hscore).ne'
    -- the shared trigrams are counted twice, each time with values of their own
    have hfirst := a.eval_sharedExpr db c (a.trigrams.toList.map .text ++ rest)
    have hsecond := a.eval_sharedExpr db c rest
    have hmarks : a.sharedExpr.marks + 0 = (a.trigrams.toList.map Param.text).length := by
      rw [List.length_map]
      show 0 + 0 + (0 + a.trigrams.toList.length) + 0 = _
      omega
    show Arithmetic.divided.apply (Arithmetic.times.apply
      (a.sharedExpr.eval db { character := c } (a.params ++ rest)) (.real ((10 : ℕ) / 10)))
      (Arithmetic.minus.apply (.int (c.nameTrigramCount + a.trigrams.size))
        (a.sharedExpr.eval db { character := c }
          ((a.params ++ rest).drop (a.sharedExpr.marks + 0)))) = _
    rw [params, List.append_assoc, hfirst, hmarks, List.drop_left, hsecond, hscore]
    show Arithmetic.divided.apply (.real ((db.sharedCount a c : ℤ) * ((10 : ℕ) / 10)))
      (.int (c.nameTrigramCount + a.trigrams.size - db.sharedCount a c)) = _
    rw [htotal, Database.sharedCount_eq_card h hc, Arithmetic.apply_divided (mod_cast hpos)]
    show Datum.real (_ / _) = .real (_ / _)
    norm_num

end Anchor

theorem Database.any_favorites (db : Database) (user : String) (n : Nat) :
    (db.favorites.any fun f => f.codepoint == n && f.user == user) = db.isFavorite user n := by
  rw [isFavorite, Bool.eq_iff_iff, List.any_eq_true, List.contains_iff_mem]
  constructor
  · rintro ⟨f, hf, hmatch⟩
    obtain ⟨rfl, rfl⟩ : f.codepoint = n ∧ f.user = user := by simpa using hmatch
    exact hf
  · exact fun hf => ⟨_, hf, by simp⟩

namespace Condition
variable {db : Database} {c : StoredCharacter} {k : Condition}

/-- Patterns are for columns of texts, comparisons with values that are there and lists not empty. -/
def IsTyped : Condition → Prop
  | compare _ _ v => v ≠ .null
  | like col _ _ => ∀ (c : StoredCharacter) (n : Int), c.value col ≠ .int n
  | among _ values => values ≠ []
  | and p q => p.IsTyped ∧ q.IsTyped
  | or p q => p.IsTyped ∧ q.IsTyped
  | group p => p.IsTyped
  | _ => True

theorem eval_compare {r : Relation} {v : Value} (hv : v ≠ .null) (col : Column)
    (c : StoredCharacter) :
    Datum.test (fun a b => r.holds (a.compare b)) (.ofValue (c.value col)) (.ofValue v) =
      (compare col r v).holds db c := by
  unfold Datum.test holds
  dsimp only
  rw [Datum.isNull_ofValue, Datum.isNull_ofValue, decide_eq_false hv, Datum.compare_ofValue]
  cases c.value col <;> rfl

theorem eval_like {v : Value} (hv : ∀ n, v ≠ .int n) (negated : Bool) (pattern : String) :
    (Datum.like none (.ofValue v) (.text pattern)).map (· != negated) =
      onText (fun s => Text.like none pattern s != negated) v := by
  cases v with
  | int n => exact absurd rfl (hv n)
  | _ => rfl

theorem eval_expr (h : db.Consistent) (hc : c ∈ db.characters.rows) (hk : k.IsTyped)
    (rest : List Param) :
    k.expr.eval db { character := c } (k.params ++ rest) = k.holds db c := by
  induction k generalizing rest with
  | isNull col =>
    show some ((Datum.ofValue (c.value col)).isNull != false) = some (decide (c.value col = .null))
    rw [Datum.isNull_ofValue, Bool.bne_false]
  | isNotNull col =>
    show some ((Datum.ofValue (c.value col)).isNull != true) = some (decide (c.value col ≠ .null))
    rw [Datum.isNull_ofValue, Bool.bne_true, decide_not]
  | compare col r v => exact eval_compare hk col c
  | like col negated pattern => exact eval_like (hk c) negated pattern
  | likeBound col pattern =>
    show (Datum.like (some '\\') (.ofValue (c.value col)) (.text pattern)).map (· != false) = _
    rw [Datum.map_bne_false, holds]
    cases c.value col <;> rfl
  | among o values =>
    show ((o.expr.eval db { character := c } (values.map Param.text ++ rest)).among
      ((((values.map Param.text ++ rest).drop o.expr.marks).take values.length).map .ofParam)).map
        (· != false) = _
    rw [o.eval_expr, o.marks_expr, List.drop_zero, Datum.map_ofParam_take, Datum.map_bne_false]
    exact Datum.among_texts hk _
  | paired side negated units =>
    have hunits := Datum.map_ofParam_take (fun n : Nat => Param.int n) units rest
    have htest : ∀ p : ConfusablePair, (Expr.among false (.field (.pair side.other))
        units.length).eval db { character := c, pair := some p }
          (units.map (fun n : Nat => .int n) ++ rest) = some (units.contains (side.other.of p)) := by
      intro p
      show ((Datum.int (side.other.of p)).among
        (((units.map (fun n : Nat => Param.int n) ++ rest).take units.length).map .ofParam)).map
          (· != false) = _
      rw [hunits, Datum.map_bne_false]
      exact Datum.among_nats _ _
    have hfield : ∀ p : ConfusablePair, (Field.pair side).datum
        { character := c, pair := some p } = .int (side.of p) := fun _ => rfl
    exact congrArg (Option.map (· != negated))
      (Expr.among_rows c.codepoint db.confusables htest hfield)
  | favorite negated user =>
    have htest : ∀ f : Favorite, (Expr.compare .equal (.field .favoriteUser) .mark).eval db
        { character := c, favorite := some f } (.text user :: rest) = some (f.user == user) := by
      intro f
      show some ((Datum.text f.user).compare (.text user)).isEq = _
      rw [Option.some.injEq, Bool.eq_iff_iff, Ordering.isEq_iff_eq_eq, Datum.compare_text_eq_iff,
        beq_iff_eq]
    have hfield : ∀ f : Favorite, Field.favoriteCodepoint.datum
        { character := c, favorite := some f } = .int f.codepoint := fun _ => rfl
    refine (congrArg (Option.map (· != negated))
      (Expr.among_rows c.codepoint db.favorites htest hfield)).trans ?_
    rw [db.any_favorites]
    rfl
  | similar a =>
    show Datum.test (fun x y => (x.compare y).isGE)
      (a.expr.eval db { character := c } (a.params ++ rest)) (.real ((3 : ℕ) / 10)) =
        (db.score a c).map Score.isFuzzyMatch
    rw [a.eval_expr h hc]
    cases hs : db.score a c with
    | none => rfl
    | some s =>
      show some ((Datum.real s.ratio).compare (.real ((3 : ℕ) / 10))).isGE = some s.isFuzzyMatch
      rw [Option.some.injEq, Datum.compare_real, Bool.eq_iff_iff, Ordering.isGE_iff_ne_lt,
        Score.isFuzzyMatch_iff (Database.total_pos_of_score hs)]
      refine (not_congr compare_lt_iff_lt).trans ?_
      rw [not_lt]
      norm_num
  | and p q ihp ihq =>
    show Truth.and (p.expr.eval db { character := c } ((p.params ++ q.params) ++ rest))
      (q.expr.eval db { character := c } (((p.params ++ q.params) ++ rest).drop p.expr.marks)) = _
    rw [List.append_assoc, p.marks_expr, List.drop_left, ihp hk.1, ihq hk.2]
    rfl
  | or p q ihp ihq =>
    show Truth.or (p.expr.eval db { character := c } ((p.params ++ q.params) ++ rest))
      (q.expr.eval db { character := c } (((p.params ++ q.params) ++ rest).drop p.expr.marks)) = _
    rw [List.append_assoc, p.marks_expr, List.drop_left, ihp hk.1, ihq hk.2]
    rfl
  | group p ih => exact ih hk rest

end Condition

/-- Joined to an expression that is true if `P`, conditions have to hold besides. -/
theorem eval_joined {db : Database} {c : StoredCharacter} (h : db.Consistent)
    (hc : c ∈ db.characters.rows) {ks : List Condition} (hks : ∀ k ∈ ks, k.IsTyped)
    {e : Expr .test} {params : List Param} {P : Prop} (hmarks : e.marks = params.length)
    (he : ∀ rest, e.eval db { character := c } (params ++ rest) = some true ↔ P)
    (rest : List Param) :
    (joined e ks).eval db { character := c } (params ++ ks.flatMap Condition.params ++ rest) =
      some true ↔ P ∧ ∀ k ∈ ks, k.holds db c = some true := by
  induction ks generalizing e params P with
  | nil =>
    rw [List.append_assoc]
    exact (he _).trans (by simp)
  | cons k ks ih =>
    have hk := fun rest => k.eval_expr h hc (hks k (List.mem_cons_self ..)) rest
    have hand : ∀ rest, (Expr.and e k.expr).eval db { character := c } (params ++ k.params ++ rest) =
        some true ↔ P ∧ k.holds db c = some true := by
      intro rest
      show Truth.and (e.eval db { character := c } (params ++ k.params ++ rest))
        (k.expr.eval db { character := c } ((params ++ k.params ++ rest).drop e.marks)) = _ ↔ _
      rw [Truth.and_eq_true_iff, List.append_assoc, he, hmarks, List.drop_left, hk]
    have hmarks' : (Expr.and e k.expr).marks = (params ++ k.params).length := by
      rw [List.length_append, ← hmarks, ← k.marks_expr]
      rfl
    have hjoined := ih (fun k' hk' => hks k' (List.mem_cons_of_mem _ hk')) hmarks' hand
    rw [joined, List.foldl_cons, ← joined, List.flatMap_cons, ← List.append_assoc params, hjoined,
      List.forall_mem_cons, and_assoc]

namespace Query
variable {db : Database} {c : StoredCharacter} {q : Query}

theorem eval_expr (h : db.Consistent) (hc : c ∈ db.characters.rows)
    (hq : ∀ k ∈ q.conditions, k.IsTyped) (rest : List Param) :
    q.expr.eval db { character := c } (q.params ++ rest) = some true ↔ q.isMatch db c = true := by
  unfold expr params isMatch
  cases hks : q.conditions with
  | nil => exact iff_of_true rfl rfl
  | cons k ks =>
    rw [hks, List.forall_mem_cons] at hq
    have hk : ∀ rest, k.expr.eval db { character := c } (k.params ++ rest) = some true ↔
        k.holds db c = some true := fun rest => by rw [k.eval_expr h hc hq.1]
    rw [List.flatMap_cons, List.all_eq_true]
    simp only [decide_eq_true_eq, List.forall_mem_cons]
    exact eval_joined h hc hq.2 k.marks_expr hk rest

end Query

/-! ### Criteria -/

namespace Criterion
variable {db : Database} {c d : StoredCharacter}

/-- What a row is sorted by. -/
def datum (db : Database) (c : StoredCharacter) : Criterion → Datum
  | column col _ => .ofValue (c.value col)
  | distance a _ => .real (1 - (scoreOrZero db a c).ratio)

theorem eval_expr (h : db.Consistent) (hc : c ∈ db.characters.rows) (k : Criterion)
    (rest : List Param) : k.expr.eval db { character := c } (k.params ++ rest) = k.datum db c := by
  cases k with
  | column col dir => rfl
  | distance a dir =>
    have hscore : (if (Datum.ofScore (db.score a c)).isNull then .real ((0 : ℕ) / 10)
        else Datum.ofScore (db.score a c)) = .real (scoreOrZero db a c).ratio := by
      unfold scoreOrZero
      cases db.score a c with
      | none =>
        show Datum.real ((0 : ℕ) / 10) = .real ((0 : ℕ) / (1 : ℕ))
        norm_num
      | some s => rfl
    show Arithmetic.minus.apply (.real ((10 : ℕ) / 10))
      (let d := a.expr.eval db { character := c } (a.params ++ rest)
       if d.isNull then .real ((0 : ℕ) / 10) else d) = .real (1 - (scoreOrZero db a c).ratio)
    rw [a.eval_expr h hc]
    dsimp only
    rw [hscore]
    show Datum.real ((10 : ℕ) / 10 - (scoreOrZero db a c).ratio) = _
    norm_num

/-- The data compare as the ranks do. -/
theorem compare_datum (db : Database) (k : Criterion) (c d : StoredCharacter) :
    k.direction.apply ((k.datum db c).compare (k.datum db d)) = k.compareRows db c d := by
  unfold compareRows
  refine congrArg k.direction.apply ?_
  cases k with
  | column col dir => exact Datum.compare_ofValue _ _
  | distance a dir =>
    have hanti : StrictAnti fun x : ℚ => 1 - x := fun _ _ hlt => sub_lt_sub_left hlt 1
    refine Eq.trans ?_ (Score.compare_eq (total_scoreOrZero_pos db a d)
      (total_scoreOrZero_pos db a c)).symm
    rw [datum, datum, Datum.compare_real, ← cmp_eq_compare, ← cmp_eq_compare]
    exact hanti.cmp_map_eq _ _

end Criterion

namespace Select
variable {db : Database} {c d : StoredCharacter}

theorem sortKeys_criteria (h : db.Consistent) (hc : c ∈ db.characters.rows)
    (criteria : List Criterion) (rest : List Param) :
    sortKeys db { character := c } (criteria.map fun k => (k.expr, k.direction))
      (orderParams criteria ++ rest) = criteria.map fun k => (k.datum db c, k.direction) := by
  induction criteria with
  | nil => rfl
  | cons k criteria ih =>
    have hparams : orderParams (k :: criteria) = k.params ++ orderParams criteria :=
      List.flatMap_cons
    rw [List.map_cons, sortKeys, hparams, List.append_assoc, k.eval_expr h hc, k.marks_expr,
      List.drop_left, ih]
    rfl

theorem compareKeys_criteria (db : Database) (criteria : List Criterion) (c d : StoredCharacter) :
    compareKeys (criteria.map fun k => (k.datum db c, k.direction))
      (criteria.map fun k => (k.datum db d, k.direction)) = db.compareRows criteria c d := by
  induction criteria with
  | nil => rfl
  | cons k criteria ih =>
    rw [List.map_cons, List.map_cons, compareKeys, ih, k.compare_datum, Database.compareRows_cons]
    rfl

theorem sort_criteria (h : db.Consistent) {rows : List StoredCharacter}
    (hrows : ∀ c ∈ rows, c ∈ db.characters.rows) (criteria : List Criterion) (rest : List Param) :
    ((rows.map fun c => (sortKeys db { character := c } (criteria.map fun k => (k.expr, k.direction))
      (orderParams criteria ++ rest), c)).mergeSort fun a b => (compareKeys a.1 b.1).isLE).map (·.2) =
        sortRows db criteria rows := by
  rw [Database.sortRows_eq_mergeSort,
    List.map_mergeSort (s := fun c d => (db.compareRows criteria c d).isLE), List.map_map]
  · congr 1
    exact List.map_id' rows
  · intro a ha b hb
    obtain ⟨c, hc, rfl⟩ := List.mem_map.1 ha
    obtain ⟨d, hd, rfl⟩ := List.mem_map.1 hb
    rw [sortKeys_criteria h (hrows c hc), sortKeys_criteria h (hrows d hd), compareKeys_criteria]

end Select

/-! ### Statements -/

namespace Query
variable {db : Database} {q : Query}

theorem filter_eval (h : db.Consistent) (hq : ∀ k ∈ q.conditions, k.IsTyped) (rest : List Param) :
    (db.characters.rows.filter fun c =>
      q.expr.eval db { character := c } (q.params ++ rest) = some true) = db.matching q := by
  refine List.filter_congr fun c hc => ?_
  rw [Bool.eq_iff_iff, decide_eq_true_iff, eval_expr h hc hq]

/-- Sorted by criteria whose values are bound next. -/
theorem sort_eval (h : db.Consistent) (hq : ∀ k ∈ q.conditions, k.IsTyped)
    (criteria : List Criterion) (rest : List Param) :
    (((db.characters.rows.filter fun c => q.expr.eval db { character := c }
      (q.params ++ (orderParams criteria ++ rest)) = some true).map fun c =>
        (Select.sortKeys db { character := c } (criteria.map fun k => (k.expr, k.direction))
          ((q.params ++ (orderParams criteria ++ rest)).drop q.expr.marks), c)).mergeSort
            fun a b => (Select.compareKeys a.1 b.1).isLE).map (·.2) =
      sortRows db criteria (db.matching q) := by
  rw [filter_eval h hq, q.marks_expr, List.drop_left]
  exact Select.sort_criteria h (fun _ hc => List.mem_of_mem_filter hc) criteria rest

/-- The statement that counts reads the rows that match. -/
theorem run_counting (h : db.Consistent) (hq : ∀ k ∈ q.conditions, k.IsTyped) :
    q.counting.run db q.params = db.matching q := by
  have hsort := sort_eval h hq [] []
  have hparams : q.params ++ (orderParams [] ++ []) = q.params := List.append_nil _
  rw [hparams] at hsort
  refine Eq.trans hsort ?_
  -- without criteria no row stands before another
  rw [Database.sortRows_eq_mergeSort]
  exact List.mergeSort_of_pairwise (List.pairwise_of_forall fun _ _ => rfl)

/-- The statement that reads a page, with all its values bound in one list, reads the page. -/
theorem run_paging (h : db.Consistent) (hq : ∀ k ∈ q.conditions, k.IsTyped) (key : SortKey)
    (dir : Direction) (limit offset : Nat) :
    (q.paging key dir).run db (q.pagingParams key dir limit offset) =
      ((db.sorted q key dir).drop offset).take limit := by
  have hsort := sort_eval h hq (key.criteria dir q.anchor) [.int limit, .int offset]
  have hpage : ((q.pagingParams key dir limit offset).drop q.expr.marks).drop
      (Select.orderMarks (q.paging key dir).order) = [.int limit, .int offset] := by
    have hmarks : Select.orderMarks (q.paging key dir).order =
        (orderParams (key.criteria dir q.anchor)).length := orderMarks_criteria _
    rw [pagingParams, q.marks_expr, List.append_assoc, List.drop_left, hmarks, List.drop_left]
  have hparams : q.pagingParams key dir limit offset =
    q.params ++ (orderParams (key.criteria dir q.anchor) ++ [.int limit, .int offset]) :=
      List.append_assoc ..
  rw [← hparams] at hsort
  show Select.stretch (((q.pagingParams key dir limit offset).drop q.expr.marks).drop
    (Select.orderMarks (q.paging key dir).order)) _ = _
  rw [hpage, Database.sorted, ← hsort]
  rfl

end Query

/-- A query is answered with what its two statements read. -/
theorem Database.runPlan_statements {db : Database} {q : Query} (h : db.Consistent)
    (hq : ∀ k ∈ q.conditions, k.IsTyped) (r : Paging) :
    db.runPlan r (.query q) =
      (db.access () >>= fun _ => q.check r.sort r.direction >>= fun _ => .ok {
        characters := ((q.paging r.sort r.direction).run db
          (q.pagingParams r.sort r.direction Page.size r.offset)).map fun c => .ofRow (db.row c)
        total := (q.counting.run db q.params).length }).mapError .store := by
  rw [Query.run_counting h hq, Query.run_paging h hq]
  rfl

/-! ### What filters ask for -/

namespace Filter
variable {f : Filter} {catalog : Catalog} {user : Option String} {names : Nat → Option String}
  {values : List String} {k : Condition} {q : Query}

theorem value_decomposition_ne_int (c : StoredCharacter) (n : Int) :
    c.value .decomposition ≠ .int n := by
  unfold StoredCharacter.value
  cases c.decomposition <;> exact nofun

theorem isTyped_untagged : untagged.IsTyped :=
  ⟨trivial, value_decomposition_ne_int⟩

theorem isTyped_taggedAmong {tags : List String} (h : tags ≠ []) : (taggedAmong tags).IsTyped :=
  ⟨value_decomposition_ne_int, h⟩

theorem isTyped_decompositionCondition {types : OrderedSet String} (h : types.isEmpty = false) :
    (decompositionCondition types).IsTyped := by
  unfold decompositionCondition
  dsimp only
  split_ifs with hcan hempty
  · exact isTyped_untagged
  · exact ⟨isTyped_untagged, isTyped_taggedAmong fun htags => hempty (List.isEmpty_iff.2 htags)⟩
  · -- what is not empty and has no canonical type in it has a tag in it
    have hall : types.toList.filter (· != Catalog.canonical) = types.toList := by
      refine List.filter_eq_self.2 fun t ht => bne_iff_ne.2 ?_
      rintro rfl
      exact hcan (OrderedSet.contains_iff.2 ht)
    refine isTyped_taggedAmong fun htags => ?_
    rw [hall] at htags
    exact Bool.eq_false_iff.1 h (List.isEmpty_iff.2 htags)

theorem isTyped_selectionCondition (d : Dimension) (h : values ≠ []) :
    (selectionCondition d values).IsTyped := by
  have hempty : (OrderedSet.ofList values).isEmpty = false := by
    rw [OrderedSet.isEmpty_ofList]
    simpa using h
  cases d with
  | decompositionTypes => exact isTyped_decompositionCondition hempty
  | _ => exact fun hlist => Bool.eq_false_iff.1 hempty (List.isEmpty_iff.2 hlist)

theorem isTyped_confusableCondition {negated : Bool} {t : String}
    (hk : confusableTextCondition? negated t = some k) : k.IsTyped := by
  unfold confusableTextCondition? at hk
  simp only [Option.ite_none_left_eq_some, Option.some.injEq] at hk
  obtain ⟨-, rfl⟩ := hk
  cases negated <;> exact ⟨trivial, trivial⟩

theorem isTyped_searchCondition (names : Nat → Option String) (t : SearchTerm) :
    (searchCondition names t).IsTyped := by
  unfold searchCondition
  cases resolved names t with
  | some name => exact trivial
  | none => exact ⟨trivial, trivial⟩

theorem isTyped_propertyCondition {p : Property} {negated : Bool}
    (hk : propertyCondition p negated user = .ok k) : k.IsTyped := by
  cases p with
  | favorited =>
    cases user with
    | none => cases hk
    | some u =>
      cases hk
      exact trivial
  | present c =>
    cases hk
    cases negated <;> exact trivial
  | mirror =>
    cases hk
    cases negated <;> exact trivial
  | _ =>
    cases hk
    cases negated with
    | false => exact nofun
    | true => exact ⟨trivial, nofun⟩

/-- An empty selection would look for values in an empty list; it leaves nothing to ask before. -/
theorem Asks.isTyped (hne : ∀ d, f.firstSelection d ≠ some []) (hk : f.Asks catalog user names k) :
    k.IsTyped := by
  cases hk with
  | selection hd hc => exact isTyped_selectionCondition _ fun h => hne _ (h ▸ hd)
  | confusable h hk => exact isTyped_confusableCondition hk
  | search h => exact isTyped_searchCondition names _
  | property h hk => exact isTyped_propertyCondition hk

theorem isTyped_of_plan (h : f.plan catalog user names = .ok (.query q)) :
    ∀ k ∈ q.conditions, k.IsTyped := fun _ hk =>
  ((mem_conditions_iff h).1 hk).isTyped (plan_eq_query h).1

end Filter
end CharAtlas
