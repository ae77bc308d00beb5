import CharAtlas.Catalog
import CharAtlas.Filter.Clause
import CharAtlas.Query.Order

/-! # From filters to queries

A `Query` is a list of conditions that have to hold together. `Filter.plan` makes one of a filter:
first the selections, then confusables, searches and properties. An empty selection leaves nothing
to ask. -/

namespace CharAtlas

structure Query where
  conditions : List Condition
  /-- What names are compared with when results are sorted by similarity. -/
  anchor : Option Anchor

namespace Query

/-- The predicate of the query as SQL. -/
def sql (q : Query) : String :=
  if q.conditions.isEmpty then "1 = 1" else " AND ".intercalate (q.conditions.map Condition.sql)

def params (q : Query) : List Param :=
  q.conditions.flatMap Condition.params

/-- A condition that is neither true nor false does not match. -/
def isMatch (db : Database) (q : Query) (c : StoredCharacter) : Bool :=
  q.conditions.all fun p => p.holds db c = some true

end Query

inductive Plan where
  /-- Known to match no row. -/
  | nothing
  | query (q : Query)

namespace Filter

/-- The row has no tag. -/
def untagged : Condition :=
  .group (.and (.isNotNull .decomposition) (.like .decomposition true "<%"))

/-- The row has one of the tags. -/
def taggedAmong (tags : List String) : Condition :=
  .group (.and (.like .decomposition false "<%") (.among .decompositionTag tags))

def decompositionCondition (types : OrderedSet String) : Condition :=
  let tags := types.toList.filter (· != Catalog.canonical)
  if types.contains Catalog.canonical then
    if tags.isEmpty then untagged else .or untagged (taggedAmong tags)
  else taggedAmong tags

def selectionCondition (d : Dimension) (values : List String) : Condition :=
  match d with
  | .decompositionTypes => .group (decompositionCondition (.ofList values))
  | _ => .among (.column d.column) (OrderedSet.ofList values).toList

/-- The code points of the characters of a text, blanks at its ends left out. -/
def unitsOf (text : String) : OrderedSet Nat :=
  .ofList ((Text.trimmed text.toList).map Char.toNat)

/-- Pairs count in both directions. -/
def confusableCondition (negated : Bool) (units : OrderedSet Nat) : Condition :=
  let first := .paired .first negated units.toList
  let second := .paired .second negated units.toList
  .group (if negated then .and first second else .or first second)

/-- A blank text asks for nothing. -/
def confusableTextCondition? (negated : Bool) (text : String) : Option Condition :=
  let units := unitsOf text
  if units.isEmpty then none else some (confusableCondition negated units)

def confusableCondition? : Clause → Option Condition
  | .confusableWith t => confusableTextCondition? false t
  | .notConfusableWith t => confusableTextCondition? true t
  | _ => none

/-- The name that a search term stands for, if it names a character that has one. -/
def resolved (names : Nat → Option String) (t : SearchTerm) : Option String :=
  t.codepoint.bind names

def searchAnchor (names : Nat → Option String) (t : SearchTerm) : Anchor :=
  .ofText ((resolved names t).getD t.text)

/-- The pattern of the texts that contain `s`. -/
def containing (s : String) : String :=
  "%" ++ Text.literalPattern s ++ "%"

/-- A term that stands for no name may also occur in the code. -/
def searchCondition (names : Nat → Option String) (t : SearchTerm) : Condition :=
  let similar := .similar (searchAnchor names t)
  match resolved names t with
  | some _ => similar
  | none => .group (.or similar (.likeBound .code (containing t.text)))

def propertyCondition (p : Property) (negated : Bool) (user : Option String) :
    Except Error Condition :=
  match p with
  | .flag f =>
    .ok (if negated then
      .group (.or (.isNull (.flag f)) (.compare (.flag f) .unequal (.int 1)))
    else .compare (.flag f) .equal (.int 1))
  | .present c => .ok (if negated then .isNull c.column else .isNotNull c.column)
  | .combiningClass =>
    .ok (if negated then
      .group (.or (.isNull .combiningClass) (.compare .combiningClass .equal (.int 0)))
    else .compare .combiningClass .greater (.int 0))
  | .mirror => .ok (if negated then .isNull .mirroredGlyph else .isNotNull .mirroredGlyph)
  | .titlecase =>
    .ok (if negated then
      .group (.or (.isNull .generalCategory) (.compare .generalCategory .unequal (.text "Lt")))
    else .compare .generalCategory .equal (.text "Lt"))
  | .favorited =>
    match user with
    | some u => .ok (.favorite negated u)
    | none => .error (.authRequired (Clause.propertyText .favorited negated))

def propertyClauses (f : Filter) : List (Property × Bool) :=
  f.filterMap fun
    | .property p negated => some (p, negated)
    | _ => none

/-- What the property clauses ask for; the first that needs a user and has none is an error. -/
def propertyConditions (f : Filter) (user : Option String) : Except Error (List Condition) :=
  f.propertyClauses.mapM fun (p, negated) => propertyCondition p negated user

/-- The selections that leave something out. -/
def restrictions (f : Filter) (catalog : Catalog) : List (Dimension × List String) :=
  f.selections.filter fun (d, values) => !catalog.isComplete d values

/-- Among several searches the last one gives the anchor. An empty selection is noticed before a
missing user. -/
def plan (f : Filter) (catalog : Catalog) (user : Option String) (names : Nat → Option String) :
    Except Error Plan :=
  if f.selections.any (·.2.isEmpty) then .ok .nothing
  else
    (f.propertyConditions user).map fun properties =>
      .query {
        conditions :=
          (f.restrictions catalog).map (fun (d, values) => selectionCondition d values) ++
            f.filterMap confusableCondition? ++ f.searchTerms.map (searchCondition names) ++
              properties
        anchor := f.searchTerms.getLast?.map (searchAnchor names) }

end Filter
end CharAtlas
