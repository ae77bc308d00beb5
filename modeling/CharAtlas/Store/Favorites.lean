import CharAtlas.Store.Database

/-! # Favorites

Each user's set of favorite code points: `Database.favoritesOf`, `Database.addFavorite` and
`Database.removeFavorite`. -/

namespace CharAtlas.Database

def isFavorite (db : Database) (user : String) (codepoint : Nat) : Bool :=
  db.favorites.contains ⟨user, codepoint⟩

/-- The code points in the rows of a user. -/
def favoriteCodepoints (db : Database) (user : String) : List Nat :=
  (db.favorites.filter (·.user == user)).map (·.codepoint)

/-- Numbers of more than 32 bits are left out. -/
def favoritesOf (db : Database) (user : String) : Except Error (OrderedSet Nat) :=
  (db.access (.ofList ((db.favoriteCodepoints user).filter (· ≤ Numeral.max32)))).mapError .store

/-- Whether the favorite is new, and the database with it; a favorite added twice is no error. -/
def addFavorite (db : Database) (user : String) (codepoint : Nat) :
    Except Error (Bool × Database) :=
  if Codepoint.max < codepoint then .error (Codepoint.invalid codepoint)
  else if !db.isOpen then .error (.store .closed)
  else if db.isFavorite user codepoint then .ok (false, db)
  else if !db.userExists user then .error (.store .foreignKey)
  else .ok (true, { db with favorites := db.favorites ++ [⟨user, codepoint⟩] })

/-- Whether there was such a favorite, and the database without it. -/
def removeFavorite (db : Database) (user : String) (codepoint : Nat) :
    Except Error (Bool × Database) :=
  (db.access (db.isFavorite user codepoint,
    { db with favorites := db.favorites.filter (· != ⟨user, codepoint⟩) })).mapError .store

end CharAtlas.Database
