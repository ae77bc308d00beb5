import CharAtlas.Catalog
import CharAtlas.Filter.Clause

/-! # Filter settings

`Controls` is what a client's controls show: a toggle for each property, a selection in each
dimension and three texts. `Controls.ofText` sets them from a filter text and
`Controls.text` writes the text; what leaves nothing out is not written. -/

namespace CharAtlas

inductive Toggle where
  | unset
  | require
  | exclude
deriving DecidableEq

structure Controls where
  toggle : Property → Toggle
  selection : Dimension → OrderedSet String
  search : String
  confusableWith : String
  notConfusableWith : String

namespace Controls

/-- Nothing toggled, everything known selected. -/
def initial (catalog : Catalog) : Controls where
  toggle _ := .unset
  selection d := .ofList (catalog.values d)
  search := ""
  confusableWith := ""
  notConfusableWith := ""

def withToggle (s : Controls) (p : Property) (t : Toggle) : Controls :=
  { s with toggle := fun q => if q = p then t else s.toggle q }

def withSelection (s : Controls) (d : Dimension) (values : List String) : Controls :=
  { s with selection := fun e => if e = d then .ofList values else s.selection e }

def withSearch (s : Controls) (text : String) : Controls :=
  { s with search := Text.trim text }

def withConfusableWith (s : Controls) (text : String) : Controls :=
  { s with confusableWith := Text.trim text }

def withNotConfusableWith (s : Controls) (text : String) : Controls :=
  { s with notConfusableWith := Text.trim text }

/-- What a clause other than a selection says. -/
def apply (s : Controls) : Clause → Controls
  | .property p negated => s.withToggle p (if negated then .exclude else .require)
  | .members _ _ => s
  | .search t => s.withSearch t
  | .confusableWith t => s.withConfusableWith t
  | .notConfusableWith t => s.withNotConfusableWith t

/-- The settings that a filter stands for: of several selections in a dimension the first counts, of
several other clauses on one control the last. -/
def ofFilter (catalog : Catalog) (f : Filter) : Controls :=
  f.foldl apply
    (f.selections.foldl (fun s (d, values) => s.withSelection d values) (initial catalog))

def ofText (text : String) (catalog : Catalog) : Except Error Controls :=
  (Filter.ofText text).map (ofFilter catalog)

def toggleClause? (s : Controls) (p : Property) : Option Clause :=
  match s.toggle p with
  | .unset => none
  | .require => some (.property p false)
  | .exclude => some (.property p true)

/-- Whether everything known is selected; where nothing is known, nothing may be selected. -/
def isFull (s : Controls) (catalog : Catalog) (d : Dimension) : Bool :=
  (catalog.values d).all (s.selection d).contains &&
    (s.selection d).isEmpty == (catalog.values d).isEmpty

def selectionClause? (s : Controls) (catalog : Catalog) (d : Dimension) : Option Clause :=
  if s.isFull catalog d then none else some (.members d (s.selection d).toList)

def textClause? (clause : String → Clause) (text : String) : Option Clause :=
  if text = "" then none else some (clause text)

/-- The clauses that these settings stand for. -/
def toFilter (s : Controls) (catalog : Catalog) : Filter :=
  Property.all.filterMap s.toggleClause? ++
    Dimension.all.filterMap (s.selectionClause? catalog) ++
      [textClause? .search s.search, textClause? .confusableWith s.confusableWith,
        textClause? .notConfusableWith s.notConfusableWith].filterMap id

def text (s : Controls) (catalog : Catalog) : String :=
  (s.toFilter catalog).text

/-- Whether two settings agree in every control. -/
def agrees (s t : Controls) : Bool :=
  Property.all.all (fun p => s.toggle p = t.toggle p) &&
    Dimension.all.all (fun d => s.selection d = t.selection d) &&
      s.search = t.search && s.confusableWith = t.confusableWith &&
        s.notConfusableWith = t.notConfusableWith

end Controls
end CharAtlas
