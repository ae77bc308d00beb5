import CharAtlas.Store.Database

/-! # Identities

What the provider says of somebody who has signed in, and the row of a user that is kept of it
(`Database.upsertUser`). -/

namespace CharAtlas

structure Identity where
  sub : String
  email : Option String := none
  name : Option String := none
deriving DecidableEq

namespace User

/-- What the provider says now replaces what it said before. -/
def refreshed (u : User) (i : Identity) (stamp : String) : User :=
  { u with email := i.email, name := i.name, lastLogin := some stamp }

end User

namespace Database

/-- The id of the user with that identity, and the database with the row brought up to date; a user
who is new gets the id `freshId`. The time is given as `stamp`. -/
def upsertUser (db : Database) (i : Identity) (freshId stamp : String) :
    Except StoreError (String × Database) :=
  if !db.isOpen then .error .closed
  else
    match db.users.find? (·.googleId == i.sub) with
    | some u =>
      .ok (u.id, { db with
        users := db.users.map fun v => if v.googleId == i.sub then v.refreshed i stamp else v })
    | none => (db.addUser ⟨freshId, i.sub, i.email, i.name, some stamp, stamp⟩).map (freshId, ·)

end Database
end CharAtlas
