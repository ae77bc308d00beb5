import CharAtlas.Numeral

/-! # What can go wrong

`Error` is a refused request or a failed store; `Error.message` words it. -/

namespace CharAtlas

/-- Why the store could not do its work. -/
inductive StoreError where
  | closed
  | noRow
  /-- A row names a user that there is not. -/
  | foreignKey
  /-- A row with the same primary key exists. -/
  | duplicateKey (column : String)
  /-- A row exists with the same value in a column that allows each value once. -/
  | duplicateValue (column : String)
  /-- A row does not pass a check of its table. -/
  | check (condition : String)
  /-- An expression of the statement is nested too deeply. -/
  | tooDeep
  /-- Too many values are bound to the statement. -/
  | tooManyValues
deriving DecidableEq

namespace StoreError

def message : StoreError → String
  | closed => "attempted to acquire a connection on a closed pool"
  | noRow => "no rows returned by a query that expected to return at least one row"
  | foreignKey => "error returned from database: (code: 787) FOREIGN KEY constraint failed"
  | duplicateKey column =>
    "error returned from database: (code: 1555) UNIQUE constraint failed: " ++ column
  | duplicateValue column =>
    "error returned from database: (code: 2067) UNIQUE constraint failed: " ++ column
  | check condition =>
    "error returned from database: (code: 275) CHECK constraint failed: " ++ condition
  | tooDeep =>
    "error returned from database: (code: 1) Expression tree is too large (maximum depth 1000)"
  | tooManyValues => "error returned from database: (code: 1) too many SQL variables"

end StoreError

inductive Error where
  /-- A clause that is none of the filter language, as it was written. -/
  | unknownFilter (clause : String)
  /-- A filter on favorites, as it was written, without a user. -/
  | authRequired (key : String)
  | invalidCodepoint (given : String)
  | selfConfusable (codepoint : Nat)
  | notFound (codepoint : Nat)
  | store (cause : StoreError)
deriving DecidableEq

namespace Error

def message : Error → String
  | unknownFilter clause => "Unknown filter: " ++ clause
  | authRequired key => "Authentication required for filter: " ++ key
  | invalidCodepoint given => "Invalid codepoint: " ++ given
  | selfConfusable n => "Codepoint " ++ Numeral.ofNat n ++ " cannot be confusable with itself"
  | notFound n => "Character not found: " ++ Numeral.ofNat n
  | store cause => "Database error: " ++ cause.message

/-- Whether the request is to blame and not the store. -/
def isRefusal : Error → Bool
  | store _ => false
  | _ => true

end Error
end CharAtlas
