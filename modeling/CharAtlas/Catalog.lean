import CharAtlas.Property.Key
import CharAtlas.Text.NaturalOrder
import CharAtlas.Version

/-! # The catalog of known values

A `Catalog` lists the values that occur in each dimension, in the order in which they are shown.
`Catalog.ofValues` sorts raw lists; `Catalog.isComplete` holds of a selection that leaves nothing
out. -/

namespace CharAtlas

structure Catalog where
  values : Dimension → List String

namespace Catalog

/-- The type of decompositions that carry no tag. -/
def canonical : String := "canonical"

/-- Texts that naturally compare equal keep their order; of equal texts in a row one stays. -/
def inNaturalOrder (values : List String) : List String :=
  (values.mergeSort fun a b => (Text.naturalCompare a b).isLE).eraseReps

def inVersionOrder (versions : List String) : List String :=
  (versions.mergeSort fun a b => (Version.compare a b).isLE).eraseReps

/-- Raw values put in order. Those of the decomposition types are the tags; the canonical type goes
in front of them. -/
def ofValues (raw : Dimension → List String) : Catalog where
  values
    | .versions => inVersionOrder (raw .versions)
    | .decompositionTypes =>
      canonical :: (inNaturalOrder (raw .decompositionTypes)).filter (· != canonical)
    | d => inNaturalOrder (raw d)

/-- Whether a selection includes every known value. Where nothing is known, none does. -/
def isComplete (c : Catalog) (d : Dimension) (selected : List String) : Bool :=
  !(c.values d).isEmpty && (c.values d).all selected.contains

end Catalog
end CharAtlas
