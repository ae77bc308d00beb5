import CharAtlas.Account.Session
import CharAtlas.Account.SignIn
import CharAtlas.Service.Response
import CharAtlas.Store.Favorites

/-! # The service

`Service.handle` answers a `Request` that comes with a browser's cookies, and says what becomes of
the service and the cookies. -/

namespace CharAtlas

structure Service where
  database : Database := .empty
  /-- The values that were known when the service began. -/
  catalog : Catalog
  settings : Settings := {}

inductive Request where
  | values (d : Dimension)
  | characters (filters page sort dir : Option String)
  | character (codepoint : String)
  | favorites
  | addFavorite (codepoint : Option Int)
  | removeFavorite (codepoint : String)
  | health
  | me
  | logout
  | signIn (returnTo : Option String)
  /-- The way back from the provider. -/
  | signInReturn (code state error : Option String)

/-- What a request meets besides the service: the cookies it brings, the time, and an id that nobody
has had. -/
structure Visit where
  jar : CookieJar
  now : Timestamp
  freshId : String

structure Reply where
  response : Response
  service : Service
  jar : CookieJar

namespace Service

/-- An answer that changes nothing. -/
def unchanged (s : Service) (v : Visit) (r : Response) : Reply :=
  ⟨r, s, v.jar⟩

def withDatabase (s : Service) (db : Database) : Service :=
  { s with database := db }

def values (s : Service) (d : Dimension) : Response :=
  .ok (.object [(d.key, .list ((s.catalog.values d).map .text))])

/-- Who asks matters for filters on favorites only. -/
def characters (s : Service) (v : Visit) (filters page sort dir : Option String) : Response :=
  match s.database.visitor v.jar v.now with
  | .error _ => .serverError
  | .ok user =>
    let request : Paging := ⟨Page.ofText page, .ofText sort, .ofText dir⟩
    match s.database.search s.catalog (filters.getD "") (user.map (·.id)) request with
    | .error e => e.response
    | .ok p => .ok p.toJson

def character (s : Service) (raw : String) : Response :=
  match (Codepoint.ofText raw).bind s.database.lookup with
  | .error e => e.response
  | .ok r => .ok r.toJson

/-- What `k` answers to the user who is there. -/
def withUser (s : Service) (v : Visit) (k : User → Reply) : Reply :=
  match s.database.visitor v.jar v.now with
  | .error _ => s.unchanged v .serverError
  | .ok none => s.unchanged v (.failure 401 "Authentication required")
  | .ok (some u) => k u

def favorites (s : Service) (v : Visit) : Reply :=
  s.withUser v fun u =>
    match s.database.favoritesOf u.id with
    | .error e => s.unchanged v e.response
    | .ok codepoints =>
      s.unchanged v (.ok (.object
        [("favorites", .list (codepoints.toList.map fun (n : Nat) => .int n))]))

def addFavorite (s : Service) (v : Visit) (codepoint : Option Int) : Reply :=
  s.withUser v fun u =>
    match codepoint with
    | none => s.unchanged v (.failure 400 "Codepoint is required")
    | some n =>
      if 0 ≤ n ∧ n ≤ Codepoint.max then
        match s.database.addFavorite u.id n.toNat with
        | .error e => s.unchanged v e.response
        | .ok (added, db) =>
          ⟨.ok (.object [("success", .bool true), ("added", .bool added),
            ("favorite", .object [("codepoint", .int n)])]), s.withDatabase db, v.jar⟩
      else s.unchanged v (.failure 400 "Invalid codepoint")

def removeFavorite (s : Service) (v : Visit) (raw : String) : Reply :=
  s.withUser v fun u =>
    match (Codepoint.ofText raw).bind (s.database.removeFavorite u.id) with
    | .error e => s.unchanged v e.response
    | .ok (removed, db) =>
      ⟨.ok (.object [("success", .bool true), ("removed", .bool removed)]),
        s.withDatabase db, v.jar⟩

def health (s : Service) : Response :=
  .ok (.object [("status", .text (if s.database.isOpen then "ok" else "degraded")),
    ("message", .text "Unicode explorer is running"), ("database", .bool s.database.isOpen)])

def me (s : Service) (v : Visit) : Response :=
  match s.database.visitor v.jar v.now with
  | .error _ => .serverError
  | .ok (some u) => .ok u.toJson
  | .ok none => .json 401 (.object [("message", .text "Not authenticated")])

def logout (s : Service) (v : Visit) : Reply :=
  match s.database.logOut v.jar with
  | .error _ => s.unchanged v .serverError
  | .ok (db, jar) =>
    ⟨.ok (.object [("message", .text "Logged out successfully")]), s.withDatabase db, jar⟩

/-- The fresh id becomes the state of the sign-in. -/
def signIn (s : Service) (v : Visit) (returnTo : Option String) : Reply :=
  if s.settings.canSignIn then
    let (outcome, db) := s.database.beginSignIn v.freshId (returnPath returnTo) v.now
    match outcome with
    | .error _ => ⟨.serverError, s.withDatabase db, v.jar⟩
    | .ok () => ⟨.redirect (s.settings.consentUrl v.freshId), s.withDatabase db, v.jar⟩
  else s.unchanged v (.failure 503 "Google sign-in is not configured")

/-- The provider cannot be reached from here, so that every way back ends on the page for signing
in; a state that comes with a code is spent all the same. -/
def signInReturn (s : Service) (v : Visit) (code state error : Option String) : Reply :=
  let failed := Response.redirect (s.settings.clientPage "/login")
  match error, code, state with
  | none, some _, some state =>
    match s.database.redeemSignIn state v.now with
    | .error _ => s.unchanged v failed
    | .ok (_, db) => ⟨failed, s.withDatabase db, v.jar⟩
  | _, _, _ => s.unchanged v failed

def handle (s : Service) (v : Visit) : Request → Reply
  | .values d => s.unchanged v (s.values d)
  | .characters filters page sort dir => s.unchanged v (s.characters v filters page sort dir)
  | .character codepoint => s.unchanged v (s.character codepoint)
  | .favorites => s.favorites v
  | .addFavorite codepoint => s.addFavorite v codepoint
  | .removeFavorite codepoint => s.removeFavorite v codepoint
  | .health => s.unchanged v s.health
  | .me => s.unchanged v (s.me v)
  | .logout => s.logout v
  | .signIn returnTo => s.signIn v returnTo
  | .signInReturn code state error => s.signInReturn v code state error

end Service
end CharAtlas
