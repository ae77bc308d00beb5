import CharAtlas.Json
import CharAtlas.Text.Blank

/-! # Settings

How the service is set up: its address, its database and its sign-in. What follows from the settings
are the addresses `Settings.databaseUrl`, `Settings.bindAddress` and `Settings.callbackUrl`. -/

namespace CharAtlas

structure ServerSettings where
  host : String := "0.0.0.0"
  port : UInt16 := 3000
  /-- Where the built client lies; empty for none. -/
  staticDir : String := "client/dist"
deriving DecidableEq

structure DatabaseSettings where
  dataDir : String := "data"
  /-- Relative to `dataDir`. -/
  dbFile : String := "unicode.db"
deriving DecidableEq

structure AuthSettings where
  clientId : String := ""
  clientSecret : String := ""
  serverBaseUrl : String := "http://localhost:3000"
  clientBaseUrl : String := "http://localhost:5173"
  sessionDays : Int64 := 7
deriving DecidableEq

structure Settings where
  server : ServerSettings := {}
  database : DatabaseSettings := {}
  auth : AuthSettings := {}
deriving DecidableEq

namespace Settings

/-- An absolute file stands on its own; one slash separates a relative one from its directory. -/
def joinPath (dir file : String) : String :=
  if file.toList.head? = some '/' then file
  else if dir = "" ∨ dir.toList.getLast? = some '/' then dir ++ file
  else dir ++ "/" ++ file

def databaseUrl (s : Settings) : String :=
  "sqlite:" ++ joinPath s.database.dataDir s.database.dbFile ++ "?mode=rwc"

def bindAddress (s : Settings) : String :=
  s.server.host ++ ":" ++ Numeral.ofNat s.server.port.toNat

/-- Where the provider sends the browser back to. -/
def callbackUrl (s : Settings) : String :=
  Text.dropTrailing '/' s.auth.serverBaseUrl ++ "/auth/google/callback"

/-- A page of the client. -/
def clientPage (s : Settings) (path : String) : String :=
  Text.dropTrailing '/' s.auth.clientBaseUrl ++ path

def canSignIn (s : Settings) : Bool :=
  s.auth.clientId != "" && s.auth.clientSecret != ""

end Settings

namespace ServerSettings

def toJson (s : ServerSettings) : Json :=
  .object [("host", .text s.host), ("port", .int s.port.toNat), ("static_dir", .text s.staticDir)]

end ServerSettings

namespace DatabaseSettings

def toJson (s : DatabaseSettings) : Json :=
  .object [("data_dir", .text s.dataDir), ("db_file", .text s.dbFile)]

end DatabaseSettings

namespace AuthSettings

def toJson (s : AuthSettings) : Json :=
  .object [("client_id", .text s.clientId), ("client_secret", .text s.clientSecret),
    ("server_base_url", .text s.serverBaseUrl), ("client_base_url", .text s.clientBaseUrl),
    ("session_days", .int s.sessionDays.toInt)]

end AuthSettings

namespace Settings

def toJson (s : Settings) : Json :=
  .object [("server", s.server.toJson), ("database", s.database.toJson), ("auth", s.auth.toJson)]

end Settings
end CharAtlas
