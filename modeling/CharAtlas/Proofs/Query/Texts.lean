import CharAtlas.Query.Statement

/-! # Statements as they are written

The expressions of conditions and criteria are written as `Condition.sql` and `Criterion.sql` write
them (`Condition.text_expr`, `Criterion.text_expr`). So the statements that are read are those that are
sent (`Query.text_counting`, `Query.text_paging`). -/

namespace CharAtlas

theorem Operand.text_expr (o : Operand) : o.expr.text = o.sql := by
  cases o with
  | column c => rfl
  | decompositionTag =>
    show "substr(" ++ "c.decomposition" ++ ", " ++ Numeral.ofInt 2 ++ ", " ++
      ("instr(" ++ "c.decomposition" ++ ", " ++ ("'" ++ ">" ++ "'") ++ ")" ++ " " ++ "-" ++ " " ++
        Numeral.ofInt 2) ++ ")" = "substr(c.decomposition, 2, instr(c.decomposition, '>') - 2)"
    decide +kernel

namespace Anchor

theorem text_sharedExpr (a : Anchor) : a.sharedExpr.text = a.sharedSql := by
  show "(SELECT COUNT(*) FROM " ++ "name_trigrams t" ++ " WHERE " ++
      ("t.codepoint" ++ " " ++ "=" ++ " " ++ "c.codepoint" ++ " AND " ++
        ("t.trigram" ++ " " ++ "" ++ "IN (" ++ questionMarks a.trigrams.size ++ ")")) ++ ")" =
    "(SELECT COUNT(*) FROM name_trigrams t WHERE t.codepoint = c.codepoint AND t.trigram IN (" ++
      questionMarks a.trigrams.size ++ "))"
  rw [← String.toList_inj]
  simp

theorem text_expr (a : Anchor) : a.expr.text = a.sql := by
  unfold expr sql
  by_cases h : a.trigrams.isEmpty = true
  · rw [if_pos h, if_pos h]
    show Numeral.ofNat 0 ++ "." ++ Numeral.ofNat 0 = "0.0"
    decide +kernel
  · rw [if_neg h, if_neg h]
    have hone : Numeral.ofNat 1 ++ "." ++ Numeral.ofNat 0 = "1.0" := by decide +kernel
    have hsize : Numeral.ofInt a.trigrams.size = Numeral.ofNat a.trigrams.size := rfl
    show "(" ++ (a.sharedExpr.text ++ " " ++ "*" ++ " " ++
        (Numeral.ofNat 1 ++ "." ++ Numeral.ofNat 0) ++ " " ++ "/" ++ " " ++
          ("(" ++ ("c.name_trigram_count" ++ " " ++ "+" ++ " " ++ Numeral.ofInt a.trigrams.size ++
            " " ++ "-" ++ " " ++ a.sharedExpr.text) ++ ")")) ++ ")" = _
    rw [a.text_sharedExpr, hone, hsize, ← String.toList_inj]
    simp

end Anchor

theorem Condition.text_expr (k : Condition) : k.expr.text = k.sql := by
  induction k with
  | isNull c =>
    show c.sql ++ " IS " ++ "" ++ "NULL" = c.sql ++ " IS NULL"
    simp [String.append_assoc]
  | isNotNull c =>
    show c.sql ++ " IS " ++ "NOT " ++ "NULL" = c.sql ++ " IS NOT NULL"
    simp [String.append_assoc]
  | compare c r v => rfl
  | like c negated pattern =>
    show c.sql ++ " " ++ notSql negated ++ "LIKE " ++ ("'" ++ pattern ++ "'") ++ "" =
      c.sql ++ " " ++ notSql negated ++ "LIKE '" ++ pattern ++ "'"
    have hquote : "LIKE '" = "LIKE " ++ "'" := by decide +kernel
    rw [hquote, String.append_empty]
    simp only [String.append_assoc]
  | likeBound c pattern =>
    show c.sql ++ " " ++ "" ++ "LIKE " ++ "?" ++ (" ESCAPE '" ++ String.singleton '\\' ++ "'") =
      c.sql ++ " LIKE ? ESCAPE '\\'"
    simp [String.append_assoc]
  | among o values =>
    show o.expr.text ++ " " ++ "" ++ "IN (" ++ questionMarks values.length ++ ")" =
      o.sql ++ " IN (" ++ questionMarks values.length ++ ")"
    rw [o.text_expr]
    simp [String.append_assoc]
  | paired side negated units =>
    show "c.codepoint" ++ " " ++ notSql negated ++ "IN (SELECT " ++ side.label ++ " FROM " ++
        "confusables" ++ " WHERE " ++ (side.other.label ++ " " ++ "" ++ "IN (" ++
          questionMarks units.length ++ ")") ++ ")" =
      "c.codepoint " ++ notSql negated ++ "IN (SELECT " ++ side.label ++
        " FROM confusables WHERE " ++ side.other.label ++ " IN (" ++ questionMarks units.length ++
          "))"
    simp [String.append_assoc]
  | favorite negated user =>
    show "c.codepoint" ++ " " ++ notSql negated ++ "IN (SELECT " ++ "f.codepoint" ++ " FROM " ++
        "favorites f" ++ " WHERE " ++ ("f.user_id" ++ " " ++ "=" ++ " " ++ "?") ++ ")" =
      "c.codepoint " ++ notSql negated ++
        "IN (SELECT f.codepoint FROM favorites f WHERE f.user_id = ?)"
    simp [String.append_assoc]
  | similar a =>
    have htenths : Numeral.ofNat 0 ++ "." ++ Numeral.ofNat 3 = "0.3" := by decide +kernel
    show a.expr.text ++ " " ++ ">=" ++ " " ++ (Numeral.ofNat 0 ++ "." ++ Numeral.ofNat 3) =
      a.sql ++ " >= 0.3"
    rw [a.text_expr, htenths]
    simp [String.append_assoc]
  | and p q ihp ihq =>
    show p.expr.text ++ " AND " ++ q.expr.text = p.sql ++ " AND " ++ q.sql
    rw [ihp, ihq]
  | or p q ihp ihq =>
    show p.expr.text ++ " OR " ++ q.expr.text = p.sql ++ " OR " ++ q.sql
    rw [ihp, ihq]
  | group p ih =>
    show "(" ++ p.expr.text ++ ")" = "(" ++ p.sql ++ ")"
    rw [ih]

/-- A criterion is written with its direction. -/
theorem Criterion.text_expr (k : Criterion) : k.expr.text ++ " " ++ k.direction.sql = k.sql := by
  cases k with
  | column c dir => rfl
  | distance a dir =>
    have hone : Numeral.ofNat 1 ++ "." ++ Numeral.ofNat 0 = "1.0" := by decide +kernel
    have hzero : Numeral.ofNat 0 ++ "." ++ Numeral.ofNat 0 = "0.0" := by decide +kernel
    show "(" ++ (Numeral.ofNat 1 ++ "." ++ Numeral.ofNat 0 ++ " " ++ "-" ++ " " ++ ("IFNULL(" ++
        a.expr.text ++ ", " ++ (Numeral.ofNat 0 ++ "." ++ Numeral.ofNat 0) ++ ")")) ++ ")" ++ " " ++
          dir.sql =
      "(1.0 - IFNULL(" ++ a.sql ++ ", 0.0)) " ++ dir.sql
    rw [a.text_expr, hone, hzero, ← String.toList_inj]
    simp

/-! ### Whole statements -/

theorem text_joined (e : Expr .test) (ks : List Condition) :
    (joined e ks).text = " AND ".intercalate (e.text :: ks.map Condition.sql) := by
  induction ks generalizing e with
  | nil => exact String.intercalate_singleton.symm
  | cons k ks ih =>
    have hand : (Expr.and e k.expr).text = e.text ++ " AND " ++ k.sql := by
      rw [← k.text_expr]
      rfl
    rw [joined, List.foldl_cons, ← joined, ih, hand]
    cases ks with
    | nil => simp [String.append_assoc]
    | cons k' ks => simp [String.append_assoc]

namespace Query

theorem text_expr (q : Query) : q.expr.text = q.sql := by
  unfold expr sql
  cases q.conditions with
  | nil =>
    show Numeral.ofInt 1 ++ " " ++ "=" ++ " " ++ Numeral.ofInt 1 = "1 = 1"
    decide +kernel
  | cons k ks => exact (text_joined _ _).trans (by rw [k.text_expr]; rfl)

theorem text_counting (q : Query) : q.counting.text = "WHERE " ++ q.sql := by
  show "WHERE " ++ q.expr.text ++ "" ++ "" = "WHERE " ++ q.sql
  rw [q.text_expr, String.append_empty, String.append_empty]

theorem text_paging (q : Query) (key : SortKey) (dir : Direction) : (q.paging key dir).text =
    "WHERE " ++ q.sql ++ " " ++ orderSql (key.criteria dir q.anchor) ++ " LIMIT ? OFFSET ?" := by
  have hlist : (q.paging key dir).order.map (fun o => o.1.text ++ " " ++ o.2.sql) =
      (key.criteria dir q.anchor).map Criterion.sql := by
    unfold paging
    rw [List.map_map]
    exact List.map_congr_left fun k _ => k.text_expr
  have hsome : (q.paging key dir).order.isEmpty = false := by
    cases key <;> cases h : q.anchor <;> simp [paging, SortKey.criteria, h]
  unfold Select.text orderSql
  rw [hsome, hlist]
  show "WHERE " ++ q.expr.text ++ (" ORDER BY " ++ _) ++ " LIMIT ? OFFSET ?" = _
  rw [q.text_expr, ← String.toList_inj]
  simp

end Query
end CharAtlas
