import CharAtlas.Query.Condition
import CharAtlas.Text.Blank

/-! # The order of results

What clients sort by (`SortKey`, `Direction`) and the criteria that this comes to
(`SortKey.criteria`), written as SQL by `orderSql` and carried out by `sortRows`. -/

namespace CharAtlas

inductive SortKey where
  | codepoint
  | name
  | script
  | category
  | bidiClass
  | block
  | age
  | combiningClass
  | similarity
deriving DecidableEq

inductive Direction where
  | asc
  | desc
deriving DecidableEq

namespace Direction

def sql : Direction → String
  | asc => "ASC"
  | desc => "DESC"

/-- Everything that is not `desc`, in either case of the letters, means ascending. -/
def ofText (raw : Option String) : Direction :=
  match raw with
  | some s => if (Text.trimmed s.toList).map Char.toLower = ['d', 'e', 's', 'c'] then desc else asc
  | none => asc

def apply : Direction → Ordering → Ordering
  | asc, o => o
  | desc, o => o.swap

end Direction

/-- One thing to sort by. -/
inductive Criterion where
  | column (c : Column) (dir : Direction)
  /-- The distance of the name from the anchor, one less the score. -/
  | distance (a : Anchor) (dir : Direction)

/-- What a row shows under a criterion. -/
inductive Rank where
  | value (v : Value)
  | score (s : Score)

namespace Rank

/-- The greater score is the smaller distance. -/
protected def compare : Rank → Rank → Ordering
  | value a, value b => a.compare b
  | score a, score b => b.compare a
  | value _, score _ => .lt
  | score _, value _ => .gt

end Rank

namespace Criterion

def direction : Criterion → Direction
  | column _ dir => dir
  | distance _ dir => dir

def sql : Criterion → String
  | column c dir => c.sql ++ " " ++ dir.sql
  | distance a dir => "(1.0 - IFNULL(" ++ a.sql ++ ", 0.0)) " ++ dir.sql

def params : Criterion → List Param
  | column _ _ => []
  | distance a _ => a.params

def rank (db : Database) (c : StoredCharacter) : Criterion → Rank
  | column col _ => .value (c.value col)
  | distance a _ => .score ((db.score a c).getD .zero)

end Criterion

namespace SortKey

/-- Unknown texts mean the code point. -/
def ofText (raw : Option String) : SortKey :=
  match raw.map Text.trim with
  | some "name" => name
  | some "script" => script
  | some "category" => category
  | some "generalCategory" => category
  | some "bidiClass" => bidiClass
  | some "block" => block
  | some "age" => age
  | some "version" => age
  | some "combiningClass" => combiningClass
  | some "similarity" => similarity
  | _ => codepoint

def column : SortKey → Column
  | codepoint => .codepoint
  | name => .name
  | script => .script
  | category => .generalCategory
  | bidiClass => .bidiClass
  | block => .block
  | age => .age
  | combiningClass => .combiningClass
  | similarity => .codepoint

/-- Equal values of a column are told apart by code point in the same direction, equal distances by
ascending code point. Without an anchor there is no distance to sort by. -/
def criteria (key : SortKey) (dir : Direction) (anchor : Option Anchor) : List Criterion :=
  match key, anchor with
  | similarity, some a => [.distance a dir, .column .codepoint .asc]
  | similarity, none => [.column .codepoint dir]
  | codepoint, _ => [.column .codepoint dir]
  | k, _ => [.column k.column dir, .column .codepoint dir]

end SortKey

def orderSql (criteria : List Criterion) : String :=
  "ORDER BY " ++ ", ".intercalate (criteria.map Criterion.sql)

def orderParams (criteria : List Criterion) : List Param :=
  criteria.flatMap Criterion.params

/-- The first criterion under which two rows differ decides. -/
def compareRanks : List Criterion → List Rank → List Rank → Ordering
  | k :: ks, a :: as, b :: bs => (k.direction.apply (a.compare b)).then (compareRanks ks as bs)
  | _, _, _ => .eq

def ranks (db : Database) (criteria : List Criterion) (c : StoredCharacter) : List Rank :=
  criteria.map (·.rank db c)

def sortRows (db : Database) (criteria : List Criterion) (rows : List StoredCharacter) :
    List StoredCharacter :=
  ((rows.map fun c => (ranks db criteria c, c)).mergeSort fun a b =>
    (compareRanks criteria a.1 b.1).isLE).map (·.2)

end CharAtlas
