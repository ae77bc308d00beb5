import CharAtlas.Json.Text
import CharAtlas.Settings.Basic

/-! # The settings file

Settings are kept as JSON. `Settings.load` reads the file, and writes one with the defaults where
there is none; `Settings.save` writes it. -/

namespace CharAtlas

/-- What is found under the name of the settings file. -/
inductive SettingsFile where
  | missing
  | directory
  | file (content : String)
deriving DecidableEq

inductive SettingsError where
  | unreadable
  | malformed
  | unwritable
deriving DecidableEq

namespace SettingsError

def message : SettingsError → String
  | unreadable => "Failed to read config file"
  | malformed => "Failed to parse config file"
  | unwritable => "Failed to write config file"

end SettingsError

namespace Settings

open Json in
def serverOf? (cs : List Char) : Option ServerSettings := do
  let fields ← record? ["host", "port", "static_dir"] cs
  let host ← (fields.lookup "host").bind textOf?
  let port ← (fields.lookup "port").bind integerOf?
  let staticDir ← match fields.lookup "static_dir" with
    | some value => textOf? value
    | none => some ""
  if 0 ≤ port ∧ port < 65536 then some ⟨host, .ofNat port.toNat, staticDir⟩ else none

open Json in
def databaseOf? (cs : List Char) : Option DatabaseSettings := do
  let fields ← record? ["data_dir", "db_file"] cs
  let dataDir ← (fields.lookup "data_dir").bind textOf?
  let dbFile ← (fields.lookup "db_file").bind textOf?
  some ⟨dataDir, dbFile⟩

open Json in
def authOf? (cs : List Char) : Option AuthSettings := do
  let fields ←
    record? ["client_id", "client_secret", "server_base_url", "client_base_url", "session_days"] cs
  let clientId ← (fields.lookup "client_id").bind textOf?
  let clientSecret ← (fields.lookup "client_secret").bind textOf?
  let serverBaseUrl ← (fields.lookup "server_base_url").bind textOf?
  let clientBaseUrl ← (fields.lookup "client_base_url").bind textOf?
  let sessionDays ← (fields.lookup "session_days").bind integerOf?
  if Numeral.fits64 sessionDays then
    some ⟨clientId, clientSecret, serverBaseUrl, clientBaseUrl, .ofInt sessionDays⟩
  else none

/-- A section that is missing has its default. -/
def sectionOf? {α : Type} (read : List Char → Option α) (default : α) :
    Option (List Char) → Option α
  | some cs => read cs
  | none => some default

def ofText? (s : String) : Option Settings := do
  let value ← Json.document? s
  let fields ← Json.record? ["server", "database", "auth"] value
  let server ← sectionOf? serverOf? {} (fields.lookup "server")
  let database ← sectionOf? databaseOf? {} (fields.lookup "database")
  let auth ← sectionOf? authOf? {} (fields.lookup "auth")
  some ⟨server, database, auth⟩

def save (s : Settings) : SettingsFile :=
  .file s.toJson.pretty

/-- The settings and the file as it is afterwards. -/
def load : SettingsFile → Except SettingsError (Settings × SettingsFile)
  | .missing => .ok ({}, save {})
  | .directory => .error .unreadable
  | .file content =>
    match ofText? content with
    | some s => .ok (s, .file content)
    | none => .error .malformed

end Settings
end CharAtlas
