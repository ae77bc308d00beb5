import CharAtlas.Query.Expression
import CharAtlas.Query.Plan

/-! # Statements of queries

A query is answered by two statements on the table `characters`, one that counts the rows and one
that reads a page of them. `Select.check` is whether the engine takes a statement, and `Select.run`
what it yields for the values that are bound: first those of the predicate, then those of the order,
then the length of the page and its offset. -/

namespace CharAtlas

/-! ### Expressions of conditions -/

def Operand.expr : Operand → Expr .value
  | column c => .field (.character c)
  | decompositionTag =>
    let text := .field (.character .decomposition)
    .stretch text (.literal (.int 2))
      (.arithmetic .minus (.position text (.literal (.text ">"))) (.literal (.int 2)))

namespace Anchor

def sharedExpr (a : Anchor) : Expr .value :=
  .count .nameTrigrams
    (.and (.compare .equal (.field .trigramCodepoint) (.field (.character .codepoint)))
      (.among false (.field .trigram) a.trigrams.size))

def expr (a : Anchor) : Expr .value :=
  if a.trigrams.isEmpty then .tenths 0
  else
    let all := .arithmetic .plus (.field .nameTrigramCount) (.literal (.int a.trigrams.size))
    .group (.arithmetic .divided (.arithmetic .times a.sharedExpr (.tenths 10))
      (.group (.arithmetic .minus all a.sharedExpr)))

end Anchor

def Condition.expr : Condition → Expr .test
  | isNull c => .isNull false (.field (.character c))
  | isNotNull c => .isNull true (.field (.character c))
  | compare c r v => .compare r (.field (.character c)) (.literal v)
  | like c negated pattern =>
    .like negated none (.field (.character c)) (.literal (.text pattern))
  | likeBound c _ => .like false (some '\\') (.field (.character c)) .mark
  | among o values => .among false o.expr values.length
  | paired side negated units =>
    .amongRows negated (.field (.character .codepoint)) (.pair side) .confusables
      (.among false (.field (.pair side.other)) units.length)
  | favorite negated _ =>
    .amongRows negated (.field (.character .codepoint)) .favoriteCodepoint .favorites
      (.compare .equal (.field .favoriteUser) .mark)
  | similar a => .compare .atLeast a.expr (.tenths 3)
  | and p q => .and p.expr q.expr
  | or p q => .or p.expr q.expr
  | group p => .group p.expr

/-- Conditions joined as the engine joins them, each to all that stand before it. -/
def joined (first : Expr .test) (conditions : List Condition) : Expr .test :=
  conditions.foldl (fun e k => .and e k.expr) first

def Query.expr (q : Query) : Expr .test :=
  match q.conditions with
  | [] => .compare .equal (.literal (.int 1)) (.literal (.int 1))
  | k :: ks => joined k.expr ks

def Criterion.expr : Criterion → Expr .value
  | column c _ => .field (.character c)
  | distance a _ => .group (.arithmetic .minus (.tenths 10) (.ifNull a.expr (.tenths 0)))

/-! ### Statements -/

/-- The part of a statement that says which characters are read, and in what order. -/
structure Select where
  predicate : Expr .test
  order : List (Expr .value × Direction) := []
  /-- Whether two more values say how many rows are read and how many are left out before. -/
  isPaged : Bool := false

namespace Select

def text (s : Select) : String :=
  "WHERE " ++ s.predicate.text ++
    (if s.order.isEmpty then ""
    else " ORDER BY " ++ ", ".intercalate (s.order.map fun o => o.1.text ++ " " ++ o.2.sql)) ++
      if s.isPaged then " LIMIT ? OFFSET ?" else ""

def scanOrder : List (Expr .value × Direction) → Nat → Except StoreError Nat
  | [], n => .ok n
  | (e, _) :: order, n => e.scan n >>= scanOrder order

def resolveOrder : List (Expr .value × Direction) → Except StoreError Unit
  | [] => .ok ()
  | (e, _) :: order => e.resolve >>= fun _ => resolveOrder order

def orderMarks : List (Expr .value × Direction) → Nat
  | [] => 0
  | (e, _) :: order => e.marks + orderMarks order

/-- The question marks at the end. -/
def pageMarks (s : Select) : Nat :=
  if s.isPaged then 2 else 0

/-- The statement is read to its end before any name is looked up. -/
def check (s : Select) : Except StoreError Unit :=
  s.predicate.scan 0 >>= scanOrder s.order >>= Expr.number s.pageMarks >>= fun _ =>
    s.predicate.resolve >>= fun _ => resolveOrder s.order

/-- What a row is sorted by. -/
def sortKeys (db : Database) (s : Scope) :
    List (Expr .value × Direction) → List Param → List (Datum × Direction)
  | [], _ => []
  | (e, dir) :: order, values =>
    (e.eval db s values, dir) :: sortKeys db s order (values.drop e.marks)

/-- The first difference decides. -/
def compareKeys : List (Datum × Direction) → List (Datum × Direction) → Ordering
  | (a, dir) :: as, (b, _) :: bs => (dir.apply (a.compare b)).then (compareKeys as bs)
  | _, _ => .eq

/-- Values that are no numbers read no rows. -/
def stretch : List Param → List StoredCharacter → List StoredCharacter
  | [.int limit, .int offset], rows =>
    let rest := rows.drop offset.toNat
    if limit < 0 then rest else rest.take limit.toNat
  | _, _ => []

/-- The rows that the statement reads with these values. -/
def run (s : Select) (db : Database) (values : List Param) : List StoredCharacter :=
  let found := db.characters.rows.filter fun c =>
    s.predicate.eval db { character := c } values = some true
  let ofOrder := values.drop s.predicate.marks
  let sorted := ((found.map fun c => (sortKeys db { character := c } s.order ofOrder, c)).mergeSort
    fun a b => (compareKeys a.1 b.1).isLE).map (·.2)
  if s.isPaged then
    stretch (ofOrder.drop (orderMarks s.order)) sorted
  else sorted

end Select

namespace Query

/-- The statement that counts the rows. -/
def counting (q : Query) : Select where
  predicate := q.expr

/-- The statement that reads a page. -/
def paging (q : Query) (key : SortKey) (dir : Direction) : Select where
  predicate := q.expr
  order := (key.criteria dir q.anchor).map fun k => (k.expr, k.direction)
  isPaged := true

/-- The values of a page in the order of their question marks. -/
def pagingParams (q : Query) (key : SortKey) (dir : Direction) (limit offset : Nat) : List Param :=
  q.params ++ orderParams (key.criteria dir q.anchor) ++ [.int limit, .int offset]

/-- Whether the engine takes both statements. -/
def check (q : Query) (key : SortKey) (dir : Direction) : Except StoreError Unit :=
  q.counting.check >>= fun _ => (q.paging key dir).check

end Query
end CharAtlas
