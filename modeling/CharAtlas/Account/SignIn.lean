import CharAtlas.Settings.Basic
import CharAtlas.Store.Database
import CharAtlas.Text.PercentEncoding
import CharAtlas.Timestamp

/-! # Signing in

A sign-in leaves for the provider with a state of its own, kept with the page to return to
(`Database.beginSignIn`), and comes back with it; a state can be redeemed once and in time
(`Database.redeemSignIn`). -/

namespace CharAtlas

/-- The pages to return to lie on this site: one slash in front, no second one, no backslash
anywhere. Everything else leads to the first page. -/
def returnPath (raw : Option String) : String :=
  match raw with
  | none => "/"
  | some s =>
    match Text.trimmed s.toList with
    | ['/'] => "/"
    | '/' :: c :: cs =>
      if c = '/' ∨ '\\' ∈ (c :: cs) then "/" else String.ofList ('/' :: c :: cs)
    | _ => "/"

/-- How long a sign-in may take. -/
def signInMinutes : Int := 10

namespace Settings

/-- Where the provider asks for consent; `state` comes back with the answer. -/
def consentUrl (s : Settings) (state : String) : String :=
  "https://accounts.google.com/o/oauth2/v2/auth" ++
    "?client_id=" ++ Text.percentEncoded s.auth.clientId ++
    "&redirect_uri=" ++ Text.percentEncoded s.callbackUrl ++
    "&response_type=code&scope=" ++ Text.percentEncoded "openid email profile" ++
    "&state=" ++ Text.percentEncoded state

end Settings

namespace Database

/-- Without the sign-ins that have run out. -/
def purgeSignIns (db : Database) (now : Timestamp) : Database :=
  { db with signIns := db.signIns.filter fun r => now.text < r.expiresAt }

/-- Keeps a new state. A failure to tidy up first is no failure to begin. -/
def beginSignIn (db : Database) (state returnTo : String) (now : Timestamp) :
    Except StoreError Unit × Database :=
  let tidy := if db.isOpen then db.purgeSignIns now else db
  match tidy.addSignIn ⟨state, returnTo, (now.addMinutes signInMinutes).text⟩ with
  | .ok db => (.ok (), db)
  | .error e => (.error e, tidy)

/-- The sign-in of that state if it has not run out. -/
def liveSignIn? (db : Database) (state : String) (now : Timestamp) : Option SignInRow :=
  db.signIns.find? fun r => r.state == state && now.text < r.expiresAt

/-- The page to return to, and the database without the state. -/
def redeemSignIn (db : Database) (state : String) (now : Timestamp) :
    Except StoreError (Option String × Database) :=
  if !db.isOpen then .error .closed
  else
    match db.liveSignIn? state now with
    | none => .ok (none, db)
    | some r => .ok (some r.returnTo, { db with signIns := db.signIns.filter (· != r) })

end Database
end CharAtlas
