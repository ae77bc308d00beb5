import CharAtlas.Corpus.Table
import CharAtlas.Error

/-! # The database

`Database` holds the tables: characters with the trigrams of their names, confusable pairs, and what
belongs to users. A closed database refuses every access. -/

namespace CharAtlas

structure User where
  id : String
  googleId : String
  email : Option String := none
  name : Option String := none
  lastLogin : Option String := none
  createdAt : String
deriving DecidableEq

structure Favorite where
  user : String
  codepoint : Nat
deriving DecidableEq

/-- A session that a cookie can name, and until when. -/
structure SessionRow where
  id : String
  user : String
  expiresAt : String
deriving DecidableEq

/-- A sign-in that has begun, and the page to go back to. -/
structure SignInRow where
  state : String
  returnTo : String
  expiresAt : String
deriving DecidableEq

/-- The trigrams kept of the name of one character. -/
structure NameTrigrams where
  codepoint : Nat
  trigrams : OrderedSet String
deriving DecidableEq

/-- One of them, as a row. -/
structure TrigramRow where
  codepoint : Nat
  trigram : String
deriving DecidableEq

def NameTrigrams.rows (e : NameTrigrams) : List TrigramRow :=
  e.trigrams.toList.map fun t => ⟨e.codepoint, t⟩

structure ConfusablePair where
  codepoint : Nat
  confusableWith : Nat
deriving DecidableEq

structure Database where
  isOpen : Bool := true
  characters : CharacterTable := .empty
  nameTrigrams : List NameTrigrams := []
  confusables : List ConfusablePair := []
  users : List User := []
  favorites : List Favorite := []
  sessions : List SessionRow := []
  signIns : List SignInRow := []
deriving DecidableEq

namespace Database

def empty : Database := {}

def close (db : Database) : Database :=
  { db with isOpen := false }

/-- What an access yields that cannot fail but for a closed database. -/
def access {α : Type} (db : Database) (result : α) : Except StoreError α :=
  if db.isOpen then .ok result else .error .closed

/-- The tables are made once; making them again changes nothing. -/
def migrate (db : Database) : Except StoreError Database :=
  db.access db

/-- The table of trigrams row by row. -/
def trigramRows (db : Database) : List TrigramRow :=
  db.nameTrigrams.flatMap NameTrigrams.rows

def userExists (db : Database) (id : String) : Bool :=
  db.users.any (·.id == id)

/-- Ids and identities at the provider are each taken once; a clash of the latter is noticed
first. -/
def addUser (db : Database) (u : User) : Except StoreError Database :=
  if !db.isOpen then .error .closed
  else if db.users.any (·.googleId == u.googleId) then .error (.duplicateValue "users.google_id")
  else if db.userExists u.id then .error (.duplicateKey "users.id")
  else .ok { db with users := db.users ++ [u] }

def addSession (db : Database) (s : SessionRow) : Except StoreError Database :=
  if !db.isOpen then .error .closed
  else if db.sessions.any (·.id == s.id) then .error (.duplicateKey "sessions.id")
  else if !db.userExists s.user then .error .foreignKey
  else .ok { db with sessions := db.sessions ++ [s] }

def addSignIn (db : Database) (s : SignInRow) : Except StoreError Database :=
  if !db.isOpen then .error .closed
  else if db.signIns.any (·.state == s.state) then .error (.duplicateKey "oauth_states.state")
  else .ok { db with signIns := db.signIns ++ [s] }

end Database
end CharAtlas
