import CharAtlas.Error
import CharAtlas.OrderedSet
import CharAtlas.Property.Key
import CharAtlas.SearchTerm
import CharAtlas.Text.Pieces

/-! # The filter language

A filter is a list of clauses, all of which have to hold; in text they stand between commas.
`Filter.ofText` reads it, `Filter.text` writes it. Free text is not escaped: a comma in it ends the
clause. -/

namespace CharAtlas

inductive Clause where
  /-- The key of a property, after `not_` if the property has to be lacking. -/
  | property (p : Property) (negated : Bool)
  /-- `scripts:Latin|Greek`; no value at all is a selection too. -/
  | members (d : Dimension) (values : List String)
  | search (text : String)
  | confusableWith (text : String)
  | notConfusableWith (text : String)
deriving DecidableEq

abbrev Filter := List Clause

namespace Clause

def negation : String := "not_"
def searchKey : String := "search"
def confusableKey : String := "confusableWith"
def notConfusableKey : String := "notConfusableWith"

/-- The key of a property as a clause shows it. -/
def propertyText (p : Property) (negated : Bool) : String :=
  if negated then negation ++ p.key else p.key

def text : Clause → String
  | property p negated => propertyText p negated
  | members d values => d.key ++ ":" ++ "|".intercalate values
  | search t => searchKey ++ ":" ++ t
  | confusableWith t => confusableKey ++ ":" ++ t
  | notConfusableWith t => notConfusableKey ++ ":" ++ t

/-- The values between bars, without blanks around them and without empty ones. -/
def valuesOf (s : String) : List String :=
  ((Text.pieces '|' s).map Text.trim).filter (· != "")

/-- A clause with a colon: a selection or a free text. -/
def ofKeyed? (key rest : String) : Option Clause :=
  match Dimension.ofKey? key with
  | some d => some (members d (valuesOf rest))
  | none =>
    if key = searchKey then some (search rest)
    else if key = confusableKey then some (confusableWith rest)
    else if key = notConfusableKey then some (notConfusableWith rest)
    else none

def ofPropertyText? (s : String) : Option Clause :=
  match Text.tailAfter negation s with
  | some key => (Property.ofKey? key).map (property · true)
  | none => (Property.ofKey? s).map (property · false)

def ofText? (s : String) : Option Clause :=
  match Text.cutAt ':' s with
  | some (key, rest) => (ofKeyed? key rest).or (ofPropertyText? s)
  | none => ofPropertyText? s

def ofText (s : String) : Except Error Clause :=
  match ofText? s with
  | some c => .ok c
  | none => .error (.unknownFilter s)

end Clause

namespace Filter

def text (f : Filter) : String :=
  ",".intercalate (f.map Clause.text)

/-- The pieces between commas, without blanks around them and without empty ones. -/
def clauseTexts (s : String) : List String :=
  ((Text.pieces ',' s).map Text.trim).filter (· != "")

/-- The first clause that cannot be read refuses the whole. -/
def ofText (s : String) : Except Error Filter :=
  (clauseTexts s).mapM Clause.ofText

/-- The first selection in each dimension other than those of `seen`; later ones do not count. -/
def selectionsFrom (seen : List Dimension) : Filter → List (Dimension × List String)
  | [] => []
  | .members d values :: f =>
    if seen.contains d then selectionsFrom seen f
    else (d, values) :: selectionsFrom (d :: seen) f
  | _ :: f => selectionsFrom seen f

def selections (f : Filter) : List (Dimension × List String) :=
  selectionsFrom [] f

/-- What the search clauses ask for; blank ones ask for nothing. -/
def searchTerms (f : Filter) : List SearchTerm :=
  f.filterMap fun
    | .search t => SearchTerm.ofText? t
    | _ => none

/-- The code points that search terms name. -/
def namedCodepoints (f : Filter) : OrderedSet Nat :=
  .ofList (f.searchTerms.filterMap (·.codepoint))

end Filter
end CharAtlas
