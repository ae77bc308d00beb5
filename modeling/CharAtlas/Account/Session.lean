import CharAtlas.Store.Database
import CharAtlas.Timestamp

/-! # Sessions

A session begins when its row is written and its id put into the browser's cookie jar
(`Database.logIn`), and ends when both are gone (`Database.logOut`). In between the
cookie tells who is there (`Database.visitor`). Session ids and the time are given, not made
here. -/

namespace CharAtlas

structure Session where
  id : String
  user : String
  expiresAt : Timestamp
deriving DecidableEq

/-- The cookie that names a session. -/
structure Cookie where
  value : String
  path : Option String := none
  httpOnly : Bool := false
  /-- In seconds. -/
  maxAge : Option Int := none
deriving DecidableEq

/-- The session cookie that a browser holds, if any. -/
structure CookieJar where
  session : Option Cookie := none
deriving DecidableEq

/-- A session lasts one day at least. -/
def sessionDays (days : Int) : Int :=
  max days 1

namespace Session

def create (user : String) (days : Int) (id : String) (now : Timestamp) : Session :=
  ⟨id, user, now.addDays (sessionDays days)⟩

def row (s : Session) : SessionRow :=
  ⟨s.id, s.user, s.expiresAt.text⟩

def cookie (s : Session) (days : Int) : Cookie where
  value := s.id
  path := some "/"
  httpOnly := true
  maxAge := some (sessionDays days * Timestamp.secondsPerDay)

end Session

namespace Database

/-- The jar gets its cookie only if the row could be written. -/
def logIn (db : Database) (user : String) (days : Int) (id : String) (now : Timestamp) :
    Except StoreError (Session × Database × CookieJar) :=
  let s := Session.create user days id now
  (db.addSession s.row).map fun db => (s, db, ⟨some (s.cookie days)⟩)

/-- Without a cookie there is no row to delete. -/
def logOut (db : Database) (jar : CookieJar) : Except StoreError (Database × CookieJar) :=
  match jar.session with
  | none => .ok (db, ⟨none⟩)
  | some c =>
    (db.access { db with sessions := db.sessions.filter (·.id != c.value) }).map (·, ⟨none⟩)

/-- The session of that id if it has not run out. -/
def liveSession? (db : Database) (id : String) (now : Timestamp) : Option SessionRow :=
  db.sessions.find? fun s => s.id == id && now.text < s.expiresAt

def userOf? (db : Database) (id : String) (now : Timestamp) : Option User :=
  (db.liveSession? id now).bind fun s => db.users.find? (·.id == s.user)

/-- `none` without a session that is known and has not run out. -/
def visitor (db : Database) (jar : CookieJar) (now : Timestamp) :
    Except StoreError (Option User) :=
  match jar.session with
  | none => .ok none
  | some c => db.access (db.userOf? c.value now)

end Database
end CharAtlas
