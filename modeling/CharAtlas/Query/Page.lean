import CharAtlas.Corpus.Profile
import CharAtlas.Decimal
import CharAtlas.Query.Statement

/-! # Pages of results

`Database.search` answers a filter text with one page of records and the number of all matches.
Pages hold `Page.size` records and are counted from zero; `Page.ofText` reads the number of one. A
query whose statements the engine does not take is an error (`Query.check`). -/

namespace CharAtlas

namespace Page

def size : Nat := 256

/-- Whole numbers of 64 bits are taken as they are and other numbers cut to the whole number of
their nearest double; either is moved into the range. What is no number means the first page. -/
def ofText (raw : Option String) : Nat :=
  match raw.map Text.trim with
  | none => 0
  | some s =>
    match (Numeral.integer? s).filter Numeral.fits64 with
    | some n => min n.toNat Numeral.max32
    | none =>
      match (Decimal.ofText? s).bind Decimal.whole? with
      | some n => min n Numeral.max32
      | none => 0

end Page

/-- Which page of the results, and in what order. -/
structure Paging where
  page : Nat := 0
  sort : SortKey := .codepoint
  direction : Direction := .asc
deriving DecidableEq

namespace Paging

/-- How many results come before the page. -/
def offset (r : Paging) : Nat :=
  r.page * Page.size

end Paging

structure ResultPage where
  characters : List CharacterProfile
  total : Nat
deriving DecidableEq

namespace Database

def matching (db : Database) (q : Query) : List StoredCharacter :=
  db.characters.rows.filter (q.isMatch db)

/-- All matching rows in the order asked for. -/
def sorted (db : Database) (q : Query) (key : SortKey) (dir : Direction) :
    List StoredCharacter :=
  sortRows db (key.criteria dir q.anchor) (db.matching q)

def pageOf (db : Database) (q : Query) (r : Paging) : List StoredCharacter :=
  ((db.sorted q r.sort r.direction).drop r.offset).take Page.size

/-- The names of those code points that have one. -/
def readNames (db : Database) : List Nat → Except Error (List (Nat × String))
  | [] => .ok []
  | n :: ns =>
    match db.readName n, db.readNames ns with
    | .ok (some name), .ok names => .ok ((n, name) :: names)
    | .ok none, .ok names => .ok names
    | .error e, _ => .error e
    | _, .error e => .error e

def runPlan (db : Database) (r : Paging) : Plan → Except Error ResultPage
  | .nothing => .ok ⟨[], 0⟩
  | .query q =>
    (db.access () >>= fun _ => q.check r.sort r.direction >>= fun _ => .ok {
      characters := (db.pageOf q r).map fun c => .ofRow (db.row c)
      total := (db.matching q).length }).mapError .store

/-- Answers a filter text. Only the names that its search terms ask for are looked up. -/
def search (db : Database) (catalog : Catalog) (filters : String) (user : Option String)
    (r : Paging) : Except Error ResultPage := do
  let f ← Filter.ofText filters
  let names ← db.readNames f.namedCodepoints.toList
  let plan ← f.plan catalog user (names.lookup ·)
  db.runPlan r plan

end Database
end CharAtlas
