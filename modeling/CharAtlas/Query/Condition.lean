import CharAtlas.Corpus.Decomposition
import CharAtlas.Query.Similarity
import CharAtlas.Query.Value
import CharAtlas.Store.Favorites

/-! # Conditions on characters

A `Condition` is a test on a row of the table `characters`. It is written as SQL by `Condition.sql`,
with a question mark for every value that `Condition.params` lists, and decided on the tables
themselves by `Condition.holds`. -/

namespace CharAtlas

/-- A value bound to a question mark. -/
inductive Param where
  | int (n : Int)
  | text (s : String)
deriving DecidableEq

inductive Relation where
  | equal
  | unequal
  | greater
  | atLeast
deriving DecidableEq

namespace Relation

def sql : Relation → String
  | equal => "="
  | unequal => "!="
  | greater => ">"
  | atLeast => ">="

def holds : Relation → Ordering → Bool
  | equal, o => o.isEq
  | unequal, o => o.isNe
  | greater, o => o.isGT
  | atLeast, o => o.isGE

end Relation

/-- What is looked up in a list of texts. -/
inductive Operand where
  | column (c : Column)
  | decompositionTag
deriving DecidableEq

namespace Operand

def sql : Operand → String
  | column c => c.sql
  | decompositionTag => "substr(c.decomposition, 2, instr(c.decomposition, '>') - 2)"

def value : Operand → StoredCharacter → Value
  | column col, c => c.value col
  | decompositionTag, c => .ofOption (fun d => .text (Decomposition.cutTag d)) c.decomposition

end Operand

/-- The side of a confusable pair that a row stands on. -/
inductive Side where
  | first
  | second
deriving DecidableEq

namespace Side

def label : Side → String
  | first => "codepoint"
  | second => "confusable_with"

def other : Side → Side
  | first => second
  | second => first

def of : Side → ConfusablePair → Nat
  | first, p => p.codepoint
  | second, p => p.confusableWith

end Side

inductive Condition where
  | isNull (c : Column)
  | isNotNull (c : Column)
  | compare (c : Column) (r : Relation) (v : Value)
  /-- A column matches a fixed pattern, or does not. -/
  | like (c : Column) (negated : Bool) (pattern : String)
  /-- A column matches a bound pattern, `\` being the escape character. -/
  | likeBound (c : Column) (pattern : String)
  | among (o : Operand) (values : List String)
  /-- The row stands on `side` of a pair with one of the `units`, or of none. -/
  | paired (side : Side) (negated : Bool) (units : List Nat)
  | favorite (negated : Bool) (user : String)
  /-- The name resembles the anchor. -/
  | similar (a : Anchor)
  | and (p q : Condition)
  | or (p q : Condition)
  | group (p : Condition)

/-- So many question marks. -/
def questionMarks (n : Nat) : String :=
  ", ".intercalate (List.replicate n "?")

def notSql (negated : Bool) : String :=
  if negated then "NOT " else ""

namespace Anchor

/-- The number of trigrams that a row shares with the anchor. -/
def sharedSql (a : Anchor) : String :=
  "(SELECT COUNT(*) FROM name_trigrams t WHERE t.codepoint = c.codepoint AND t.trigram IN (" ++
    questionMarks a.trigrams.size ++ "))"

/-- The score of a row. -/
def sql (a : Anchor) : String :=
  if a.trigrams.isEmpty then "0.0"
  else
    "(" ++ a.sharedSql ++ " * 1.0 / (c.name_trigram_count + " ++ Numeral.ofNat a.trigrams.size ++
      " - " ++ a.sharedSql ++ "))"

/-- The shared trigrams are counted twice. -/
def params (a : Anchor) : List Param :=
  a.trigrams.toList.map .text ++ a.trigrams.toList.map .text

end Anchor

namespace Condition

def sql : Condition → String
  | isNull c => c.sql ++ " IS NULL"
  | isNotNull c => c.sql ++ " IS NOT NULL"
  | compare c r v => c.sql ++ " " ++ r.sql ++ " " ++ v.sql
  | like c negated pattern => c.sql ++ " " ++ notSql negated ++ "LIKE '" ++ pattern ++ "'"
  | likeBound c _ => c.sql ++ " LIKE ? ESCAPE '\\'"
  | among o values => o.sql ++ " IN (" ++ questionMarks values.length ++ ")"
  | paired side negated units =>
    "c.codepoint " ++ notSql negated ++ "IN (SELECT " ++ side.label ++ " FROM confusables WHERE " ++
      side.other.label ++ " IN (" ++ questionMarks units.length ++ "))"
  | favorite negated _ =>
    "c.codepoint " ++ notSql negated ++
      "IN (SELECT f.codepoint FROM favorites f WHERE f.user_id = ?)"
  | similar a => a.sql ++ " >= 0.3"
  | and p q => p.sql ++ " AND " ++ q.sql
  | or p q => p.sql ++ " OR " ++ q.sql
  | group p => "(" ++ p.sql ++ ")"

def params : Condition → List Param
  | isNull _ => []
  | isNotNull _ => []
  | compare _ _ _ => []
  | like _ _ _ => []
  | likeBound _ pattern => [.text pattern]
  | among _ values => values.map .text
  | paired _ _ units => units.map fun (n : Nat) => .int n
  | favorite _ user => [.text user]
  | similar a => a.params
  | and p q => p.params ++ q.params
  | or p q => p.params ++ q.params
  | group p => p.params

/-- A test on the text of a value; a number has none that a pattern or list could hold. -/
def onText (test : String → Bool) : Value → Truth
  | .null => none
  | .int _ => some false
  | .text s => some (test s)

/-- The outcome of a test on the row `c`. -/
def holds (db : Database) (c : StoredCharacter) : Condition → Truth
  | isNull col => some (c.value col = .null)
  | isNotNull col => some (c.value col ≠ .null)
  | compare col r v =>
    match c.value col with
    | .null => none
    | w => some (r.holds (w.compare v))
  | like col negated pattern => onText (fun s => Text.like none pattern s != negated) (c.value col)
  | likeBound col pattern => onText (Text.like (some '\\') pattern) (c.value col)
  | among o values => onText values.contains (o.value c)
  | paired side negated units =>
    .ofBool negated
      (db.confusables.any fun p => side.of p == c.codepoint && units.contains (side.other.of p))
  | favorite negated user => .ofBool negated (db.isFavorite user c.codepoint)
  | similar a => (db.score a c).map Score.isFuzzyMatch
  | and p q => (p.holds db c).and (q.holds db c)
  | or p q => (p.holds db c).or (q.holds db c)
  | group p => p.holds db c

end Condition
end CharAtlas
