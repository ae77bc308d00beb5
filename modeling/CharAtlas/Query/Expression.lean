import CharAtlas.Query.Condition
import CharAtlas.Text.Stretch

/-! # Expressions of queries

`Expr` is an expression of a query as the database engine reads it, with a question mark for every
value that is bound. `Expr.text` writes it and `Expr.eval` works it out on the tables, the values
being taken from left to right. The engine sets bounds to what it reads: `Expr.scan` fails where an
expression is nested too deeply or has too many question marks. -/

namespace CharAtlas

/-! ### Values and tests -/

/-- A value that is calculated with. Fractions are exact. -/
inductive Datum where
  | null
  | int (n : Int)
  | real (q : Rat)
  | text (s : String)
deriving DecidableEq

namespace Datum

def ofValue : Value → Datum
  | .null => null
  | .int n => int n
  | .text s => text s

def ofParam : Param → Datum
  | .int n => int n
  | .text s => text s

/-- The number that a datum is. -/
def number : Datum → Rat
  | int n => n
  | real q => q
  | _ => 0

/-- A missing value comes before numbers, numbers come before texts. -/
protected def compare : Datum → Datum → Ordering
  | null, null => .eq
  | null, _ => .lt
  | _, null => .gt
  | text s, text t => Ord.compare s t
  | text _, _ => .gt
  | _, text _ => .lt
  | a, b => compareOfLessAndEq a.number b.number

def isNull : Datum → Bool
  | null => true
  | _ => false

/-- Whether a test that needs two values comes out. -/
def test (p : Datum → Datum → Bool) (a b : Datum) : Truth :=
  if a.isNull || b.isNull then none else some (p a b)

/-- Whether the pattern matches. Numbers are not matched. -/
def like (escape : Option Char) (a pattern : Datum) : Truth :=
  test (fun
    | text s, text p => Text.like escape p s
    | _, _ => false) a pattern

/-- Whether a datum is in a list. What is not found may be one of the missing values of the list. -/
def among (a : Datum) (l : List Datum) : Truth :=
  if l.isEmpty then some false
  else if a.isNull then none
  else if l.any fun b => a.compare b = .eq then some true
  else if l.any isNull then none
  else some false

/-- Where the text `t` begins in `s`. -/
def position : Datum → Datum → Datum
  | text s, text t => int (Text.position s.toList t.toList)
  | _, _ => null

/-- A part of a text, which is seen as far as its first null character. -/
def stretch : Datum → Datum → Datum → Datum
  | text s, int start, int length =>
    text (String.ofList (Text.stretch (Text.visible s.toList) start length))
  | _, _, _ => null

end Datum

inductive Arithmetic where
  | plus
  | minus
  | times
  | divided
deriving DecidableEq

namespace Arithmetic

def sql : Arithmetic → String
  | plus => "+"
  | minus => "-"
  | times => "*"
  | divided => "/"

def onInts : Arithmetic → Int → Int → Int
  | plus => (· + ·)
  | minus => (· - ·)
  | times => (· * ·)
  | divided => Int.tdiv

def onReals : Arithmetic → Rat → Rat → Rat
  | plus => (· + ·)
  | minus => (· - ·)
  | times => (· * ·)
  | divided => (· / ·)

/-- There is no quotient by zero. -/
def apply (op : Arithmetic) (a b : Datum) : Datum :=
  if op = divided ∧ b.number = 0 then .null
  else
    match a, b with
    | .int m, .int n => .int (op.onInts m n)
    | .null, _ => .null
    | _, .null => .null
    | a, b => .real (op.onReals a.number b.number)

end Arithmetic

/-! ### Tables that are asked -/

/-- The columns that expressions name: of the character at hand, or of a row of a subquery. -/
inductive Field where
  | character (c : Column)
  | nameTrigramCount
  | pair (side : Side)
  | favoriteUser
  | favoriteCodepoint
  | trigramCodepoint
  | trigram

/-- Where columns are read: in the character at hand and, within a subquery, in one of its rows. -/
structure Scope where
  character : StoredCharacter
  pair : Option ConfusablePair := none
  favorite : Option Favorite := none
  trigram : Option TrigramRow := none

namespace Field

def sql : Field → String
  | character c => c.sql
  | nameTrigramCount => "c.name_trigram_count"
  | pair side => side.label
  | favoriteUser => "f.user_id"
  | favoriteCodepoint => "f.codepoint"
  | trigramCodepoint => "t.codepoint"
  | trigram => "t.trigram"

/-- A name and the name of its table count apart. -/
def height : Field → Nat
  | pair _ => 1
  | _ => 2

def datum (s : Scope) : Field → Datum
  | character c => .ofValue (s.character.value c)
  | nameTrigramCount => .int s.character.nameTrigramCount
  | pair side => (s.pair.map fun p => .int (side.of p)).getD .null
  | favoriteUser => (s.favorite.map fun f => .text f.user).getD .null
  | favoriteCodepoint => (s.favorite.map fun f => .int f.codepoint).getD .null
  | trigramCodepoint => (s.trigram.map fun r => .int r.codepoint).getD .null
  | trigram => (s.trigram.map fun r => .text r.trigram).getD .null

end Field

/-- The tables that subqueries go through. -/
inductive Source where
  | confusables
  | favorites
  | nameTrigrams

namespace Source

def sql : Source → String
  | confusables => "confusables"
  | favorites => "favorites f"
  | nameTrigrams => "name_trigrams t"

def scopes (db : Database) (s : Scope) : Source → List Scope
  | confusables => db.confusables.map fun p => { s with pair := some p }
  | favorites => db.favorites.map fun f => { s with favorite := some f }
  | nameTrigrams => db.trigramRows.map fun r => { s with trigram := some r }

end Source

/-! ### Expressions -/

/-- Whether an expression has a value or is a test. -/
inductive Kind where
  | value
  | test

abbrev Kind.Outcome : Kind → Type
  | value => Datum
  | test => Truth

inductive Expr : Kind → Type where
  | field (f : Field) : Expr .value
  | literal (v : Value) : Expr .value
  | tenths (n : Nat) : Expr .value
  /-- A question mark. -/
  | mark : Expr .value
  | arithmetic (op : Arithmetic) (a b : Expr .value) : Expr .value
  | position (a b : Expr .value) : Expr .value
  | stretch (a start length : Expr .value) : Expr .value
  | ifNull (a b : Expr .value) : Expr .value
  /-- How many rows there are of which the test is true. -/
  | count (source : Source) (p : Expr .test) : Expr .value
  | isNull (negated : Bool) (a : Expr .value) : Expr .test
  | compare (r : Relation) (a b : Expr .value) : Expr .test
  | like (negated : Bool) (escape : Option Char) (a pattern : Expr .value) : Expr .test
  /-- The value is one of so many question marks. -/
  | among (negated : Bool) (a : Expr .value) (marks : Nat) : Expr .test
  /-- The value is in a row of which the test is true. -/
  | amongRows (negated : Bool) (a : Expr .value) (f : Field) (source : Source)
      (p : Expr .test) : Expr .test
  | and (p q : Expr .test) : Expr .test
  | or (p q : Expr .test) : Expr .test
  | group {k : Kind} (e : Expr k) : Expr k

/-- The bounds that the engine sets to statements. -/
def maxDepth : Nat := 1000

def maxValues : Nat := 32766

namespace Expr

def text : {k : Kind} → Expr k → String
  | _, field f => f.sql
  | _, literal v => v.sql
  | _, tenths n => Numeral.ofNat (n / 10) ++ "." ++ Numeral.ofNat (n % 10)
  | _, mark => "?"
  | _, arithmetic op a b => a.text ++ " " ++ op.sql ++ " " ++ b.text
  | _, position a b => "instr(" ++ a.text ++ ", " ++ b.text ++ ")"
  | _, stretch a start length =>
    "substr(" ++ a.text ++ ", " ++ start.text ++ ", " ++ length.text ++ ")"
  | _, ifNull a b => "IFNULL(" ++ a.text ++ ", " ++ b.text ++ ")"
  | _, count source p => "(SELECT COUNT(*) FROM " ++ source.sql ++ " WHERE " ++ p.text ++ ")"
  | _, isNull negated a => a.text ++ " IS " ++ notSql negated ++ "NULL"
  | _, compare r a b => a.text ++ " " ++ r.sql ++ " " ++ b.text
  | _, like negated escape a pattern =>
    a.text ++ " " ++ notSql negated ++ "LIKE " ++ pattern.text ++
      match escape with
      | some e => " ESCAPE '" ++ String.singleton e ++ "'"
      | none => ""
  | _, among negated a marks =>
    a.text ++ " " ++ notSql negated ++ "IN (" ++ questionMarks marks ++ ")"
  | _, amongRows negated a f source p =>
    a.text ++ " " ++ notSql negated ++ "IN (SELECT " ++ f.sql ++ " FROM " ++ source.sql ++
      " WHERE " ++ p.text ++ ")"
  | _, and p q => p.text ++ " AND " ++ q.text
  | _, or p q => p.text ++ " OR " ++ q.text
  | _, group e => "(" ++ e.text ++ ")"

/-- The number of question marks. -/
def marks : {k : Kind} → Expr k → Nat
  | _, field _ => 0
  | _, literal _ => 0
  | _, tenths _ => 0
  | _, mark => 1
  | _, arithmetic _ a b => a.marks + b.marks
  | _, position a b => a.marks + b.marks
  | _, stretch a start length => a.marks + start.marks + length.marks
  | _, ifNull a b => a.marks + b.marks
  | _, count _ p => p.marks
  | _, isNull _ a => a.marks
  | _, compare _ a b => a.marks + b.marks
  | _, like _ _ a pattern => a.marks + pattern.marks
  | _, among _ a marks => a.marks + marks
  | _, amongRows _ a _ _ p => a.marks + p.marks
  | _, and p q => p.marks + q.marks
  | _, or p q => p.marks + q.marks
  | _, group e => e.marks

/-- How deeply an expression is nested. Parentheses do not count and a negation does; a list of one
value is compared as if the value had a sign. -/
def height : {k : Kind} → Expr k → Nat
  | _, field f => f.height
  | _, literal _ => 1
  | _, tenths _ => 1
  | _, mark => 1
  | _, arithmetic _ a b => max a.height b.height + 1
  | _, position a b => max a.height b.height + 1
  | _, stretch a start length => max a.height (max start.height length.height) + 1
  | _, ifNull a b => max a.height b.height + 1
  | _, count _ p => p.height + 1
  | _, isNull _ a => a.height + 1
  | _, compare _ a b => max a.height b.height + 1
  | _, like negated _ a pattern => max a.height pattern.height + 1 + negated.toNat
  | _, among negated a marks => max a.height (if marks = 1 then 2 else 1) + 1 + negated.toNat
  | _, amongRows negated a f _ p => max a.height (max f.height p.height) + 1 + negated.toNat
  | _, and p q => max p.height q.height + 1
  | _, or p q => max p.height q.height + 1
  | _, group e => e.height

/-- By how much subqueries go deeper than the expression that they stand in. -/
def nested : {k : Kind} → Expr k → Nat
  | _, field _ => 0
  | _, literal _ => 0
  | _, tenths _ => 0
  | _, mark => 0
  | _, arithmetic _ a b => max a.nested b.nested
  | _, position a b => max a.nested b.nested
  | _, stretch a start length => max a.nested (max start.nested length.nested)
  | _, ifNull a b => max a.nested b.nested
  | _, count _ p => p.height + p.nested
  | _, isNull _ a => a.nested
  | _, compare _ a b => max a.nested b.nested
  | _, like _ _ a pattern => max a.nested pattern.nested
  | _, among _ a _ => a.nested
  | _, amongRows _ a f _ p => max a.nested (max f.height (p.height + p.nested))
  | _, and p q => max p.nested q.nested
  | _, or p q => max p.nested q.nested
  | _, group e => e.nested

/-! ### Reading expressions -/

/-- The engine has put an expression together. -/
def bounded {k : Kind} (e : Expr k) (n : Nat) : Except StoreError Nat :=
  if e.height ≤ maxDepth then .ok n else .error .tooDeep

/-- The engine has come to `m` question marks after `n` others. -/
def number (m n : Nat) : Except StoreError Nat :=
  if n + m ≤ maxValues then .ok (n + m) else .error .tooManyValues

/-- The number of question marks so far, before the expression and after it. -/
def scan : {k : Kind} → Expr k → Nat → Except StoreError Nat
  | _, field _, n => .ok n
  | _, literal _, n => .ok n
  | _, tenths _, n => .ok n
  | _, mark, n => number 1 n
  | _, arithmetic op a b, n => a.scan n >>= b.scan >>= bounded (arithmetic op a b)
  | _, position a b, n => a.scan n >>= b.scan >>= bounded (position a b)
  | _, stretch a start length, n =>
    a.scan n >>= start.scan >>= length.scan >>= bounded (stretch a start length)
  | _, ifNull a b, n => a.scan n >>= b.scan >>= bounded (ifNull a b)
  | _, count source p, n => p.scan n >>= bounded (count source p)
  | _, isNull negated a, n => a.scan n >>= bounded (isNull negated a)
  | _, compare r a b, n => a.scan n >>= b.scan >>= bounded (compare r a b)
  | _, like negated escape a pattern, n =>
    a.scan n >>= pattern.scan >>= bounded (like negated escape a pattern)
  | _, among negated a marks, n => a.scan n >>= number marks >>= bounded (among negated a marks)
  | _, amongRows negated a f source p, n =>
    a.scan n >>= p.scan >>= bounded (amongRows negated a f source p)
  | _, and p q, n => p.scan n >>= q.scan >>= bounded (and p q)
  | _, or p q, n => p.scan n >>= q.scan >>= bounded (or p q)
  | _, group e, n => e.scan n

/-- With the names of its columns looked up, an expression counts with its subqueries. -/
def resolve {k : Kind} (e : Expr k) : Except StoreError Unit :=
  if e.height + e.nested ≤ maxDepth then .ok () else .error .tooDeep

/-- What an expression comes to. The first of the values goes to the first question mark; what an
operand has taken is left out for the next one. -/
def eval (db : Database) : {k : Kind} → Expr k → Scope → List Param → k.Outcome
  | _, field f, s, _ => f.datum s
  | _, literal v, _, _ => Datum.ofValue v
  | _, tenths n, _, _ => Datum.real (n / 10)
  | _, mark, _, values => (values.head?.map .ofParam).getD .null
  | _, arithmetic op a b, s, values =>
    op.apply (a.eval db s values) (b.eval db s (values.drop a.marks))
  | _, position a b, s, values =>
    Datum.position (a.eval db s values) (b.eval db s (values.drop a.marks))
  | _, stretch a start length, s, values =>
    Datum.stretch (a.eval db s values) (start.eval db s (values.drop a.marks))
      (length.eval db s (values.drop (a.marks + start.marks)))
  | _, ifNull a b, s, values =>
    let d := a.eval db s values
    if d.isNull then b.eval db s (values.drop a.marks) else d
  | _, count source p, s, values =>
    Datum.int ((source.scopes db s).countP fun s => p.eval db s values = some true)
  | _, isNull negated a, s, values => some ((a.eval db s values).isNull != negated)
  | _, compare r a b, s, values =>
    Datum.test (fun a b => r.holds (a.compare b)) (a.eval db s values)
      (b.eval db s (values.drop a.marks))
  | _, like negated escape a pattern, s, values =>
    (Datum.like escape (a.eval db s values)
      (pattern.eval db s (values.drop a.marks))).map (· != negated)
  | _, among negated a marks, s, values =>
    ((a.eval db s values).among
      (((values.drop a.marks).take marks).map .ofParam)).map (· != negated)
  | _, amongRows negated a f source p, s, values =>
    ((a.eval db s values).among
      (((source.scopes db s).filter fun s =>
        p.eval db s (values.drop a.marks) = some true).map f.datum)).map (· != negated)
  | _, and p q, s, values =>
    (p.eval db s values).and (q.eval db s (values.drop p.marks))
  | _, or p q, s, values =>
    (p.eval db s values).or (q.eval db s (values.drop p.marks))
  | _, group e, s, values => e.eval db s values

end Expr
end CharAtlas
