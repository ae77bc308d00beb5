import CharAtlas.Proofs.Json.Pretty
import CharAtlas.Settings.File

/-! # Settings kept in their file

Every section is read back from its text, and so are the settings as a whole
(`Settings.ofText?_pretty`). The file is read and written by actions that may fail halfway
(`SettingsFile.Action`); they do the same as `Settings.load` and `Settings.save`
(`SettingsFile.perform_loading`, `SettingsFile.perform_saving`). Settings that have been saved are
loaded again, and a file that is rejected stays as it is (`SettingsFile.keeps_loaded`). -/

namespace CharAtlas

namespace Settings
open Json

/-! ### Sections and their texts -/

theorem fits64_toInt (i : Int64) : Numeral.fits64 i.toInt = true := by
  have hle := i.le_toInt
  have hlt := i.toInt_lt
  rw [Numeral.fits64, Bool.and_eq_true, decide_eq_true_eq, decide_eq_true_eq]
  omega

theorem serverOf?_pretty (s : ServerSettings) (depth : Nat) :
    serverOf? (prettyChars depth s.toJson) = some s := by
  have hbound : (0 : Int) ≤ s.port.toNat ∧ (s.port.toNat : Int) < 65536 := by
    have hport := s.port.toNat_lt
    omega
  have hrecord := record?_pretty ["host", "port", "static_dir"]
    [("host", .text s.host), ("port", .int s.port.toNat), ("static_dir", .text s.staticDir)]
    rfl (by decide) depth
  -- one bind at a time, as the bounds of the port are not to be evaluated
  rw [serverOf?, ServerSettings.toJson, hrecord, Option.bind_eq_bind, Option.bind_some,
    lookup_text _ rfl, Option.bind_eq_bind, Option.bind_some,
    lookup_int _ rfl, Option.bind_eq_bind, Option.bind_some, lookup_fieldTexts]
  simp -zeta only [if_pos hbound]
  simp [List.lookup_cons, prettyChars, textOf?_quoted]

theorem databaseOf?_pretty (s : DatabaseSettings) (depth : Nat) :
    databaseOf? (prettyChars depth s.toJson) = some s := by
  have hrecord := record?_pretty ["data_dir", "db_file"]
    [("data_dir", .text s.dataDir), ("db_file", .text s.dbFile)] rfl (by decide) depth
  rw [databaseOf?, DatabaseSettings.toJson, hrecord]
  simp only [Option.bind_eq_bind, Option.bind_some]
  rw [lookup_text _ rfl, lookup_text _ rfl]
  rfl

theorem authOf?_pretty (s : AuthSettings) (depth : Nat) :
    authOf? (prettyChars depth s.toJson) = some s := by
  have hrecord := record?_pretty
    ["client_id", "client_secret", "server_base_url", "client_base_url", "session_days"]
    [("client_id", .text s.clientId), ("client_secret", .text s.clientSecret),
      ("server_base_url", .text s.serverBaseUrl), ("client_base_url", .text s.clientBaseUrl),
      ("session_days", .int s.sessionDays.toInt)] rfl (by decide) depth
  rw [authOf?, AuthSettings.toJson, hrecord]
  simp only [Option.bind_eq_bind, Option.bind_some]
  rw [lookup_text _ rfl, lookup_text _ rfl, lookup_text _ rfl, lookup_text _ rfl, lookup_int _ rfl]
  simp only [Option.bind_some, fits64_toInt, if_true, Int64.ofInt_toInt]

/-- Settings are read back from their text. -/
theorem ofText?_pretty (s : Settings) : ofText? s.toJson.pretty = some s := by
  have hrecord := record?_pretty ["server", "database", "auth"]
    [("server", s.server.toJson), ("database", s.database.toJson), ("auth", s.auth.toJson)]
    rfl (by decide) 0
  rw [ofText?, document?_pretty, toJson]
  simp only [Option.bind_eq_bind, Option.bind_some, hrecord, lookup_fieldTexts]
  simp [List.lookup_cons, sectionOf?, serverOf?_pretty, databaseOf?_pretty, authOf?_pretty]

end Settings

namespace SettingsFile

/-! ### One step at a time -/

/-- What an action has done to the file before it fails stays done. -/
abbrev Action (α : Type) :=
  ExceptT SettingsError (StateM SettingsFile) α

def perform {α : Type} (f : SettingsFile) (x : Action α) : Except SettingsError α × SettingsFile :=
  x.run.run f

def reading : Action String := do
  match ← get with
  | .file content => return content
  | _ => throw .unreadable

def writing (content : String) : Action Unit := do
  match ← get with
  | .directory => throw .unwritable
  | _ => set (file content)

def saving (s : Settings) : Action Unit :=
  writing s.toJson.pretty

def loading : Action Settings := do
  if (← get) = .missing then
    saving {}
    return {}
  else
    match Settings.ofText? (← reading) with
    | some s => return s
    | none => throw .malformed

section Steps
variable {α β : Type}

theorem perform_bind (f : SettingsFile) (x : Action α) (k : α → Action β) : f.perform (x >>= k) =
    match f.perform x with
    | (.ok a, g) => g.perform (k a)
    | (.error e, g) => (.error e, g) := by
  show (ExceptT.bindCont k (f.perform x).1).run (f.perform x).2 = _
  rcases f.perform x with ⟨e | a, g⟩
  · rfl
  · rfl

theorem perform_saving (f : SettingsFile) (s : Settings) : f.perform (saving s) =
    if f = .directory then (.error .unwritable, f) else (.ok (), s.save) := by
  cases f <;> rfl

theorem perform_loading (f : SettingsFile) : f.perform loading =
    match Settings.load f with
    | .ok (s, g) => (.ok s, g)
    | .error e => (.error e, f) := by
  have hget : f.perform get = (.ok f, f) := rfl
  unfold loading
  rw [perform_bind, hget]
  dsimp only
  cases f with
  | missing => rfl
  | directory => rfl
  | file content =>
    have hread : (file content).perform reading = (.ok content, file content) := rfl
    rw [if_neg nofun, perform_bind, hread, Settings.load]
    dsimp only
    cases Settings.ofText? content with
    | none => rfl
    | some s => rfl

end Steps

/-! ### Loading what has been saved -/

/-- Settings that are saved over `f` are loaded again, and saving what has been loaded leaves the text
as it is. -/
def Keeps (f : SettingsFile) (s : Settings) : Prop :=
  f.perform (saving s) = (.ok (), s.save) ∧
  f.perform (do saving s; loading) = (.ok s, s.save) ∧
  f.perform (do saving s; saving (← loading)) = (.ok (), s.save)

section Loading
variable {f g : SettingsFile} {s : Settings} {e : SettingsError}

theorem perform_loading_save (s : Settings) : s.save.perform loading = (.ok s, s.save) := by
  rw [perform_loading, Settings.save, Settings.load, Settings.ofText?_pretty]

theorem keeps_of_ne_directory (hf : f ≠ .directory) (s : Settings) : f.Keeps s := by
  have hsave : f.perform (saving s) = (.ok (), s.save) := by
    rw [perform_saving, if_neg hf]
  refine ⟨hsave, ?_, ?_⟩
  · rw [perform_bind, hsave]
    exact perform_loading_save s
  · rw [perform_bind, hsave]
    show s.save.perform (loading >>= saving) = _
    rw [perform_bind, perform_loading_save]
    rfl

theorem perform_loading_missing : missing.perform loading = (.ok {}, Settings.save {}) :=
  perform_loading missing

/-- A file that is there is left as it is, whether it is accepted or not. -/
theorem perform_loading_of_ne_missing (hf : f ≠ .missing) :
    (∃ s, f ≠ .directory ∧ f.perform loading = (.ok s, f)) ∨
    ∃ e, f.perform loading = (.error e, f) := by
  rw [perform_loading]
  cases f with
  | missing => exact absurd rfl hf
  | directory => exact .inr ⟨_, rfl⟩
  | file content =>
    rw [Settings.load]
    cases Settings.ofText? content with
    | none => exact .inr ⟨_, rfl⟩
    | some s => exact .inl ⟨s, nofun, rfl⟩

theorem keeps_of_loaded (hload : f.perform loading = (.ok s, g)) (hf : f ≠ .missing) :
    g = f ∧ g.Keeps s := by
  rcases perform_loading_of_ne_missing hf with ⟨t, hdir, hok⟩ | ⟨e, herror⟩
  · rw [hok] at hload
    cases hload
    exact ⟨rfl, keeps_of_ne_directory hdir s⟩
  · rw [herror] at hload
    cases hload

theorem eq_of_perform_loading_error (hload : f.perform loading = (.error e, g)) : g = f := by
  by_cases hf : f = .missing
  · subst hf
    rw [perform_loading_missing] at hload
    cases hload
  · rcases perform_loading_of_ne_missing hf with ⟨t, -, hok⟩ | ⟨e', herror⟩
    · rw [hok] at hload
      cases hload
    · rw [herror] at hload
      cases hload
      rfl

/-- All settings are kept, and so are those that a file is loaded with, however it is written. A missing
file is made up for by the defaults, which are loaded the next time, and a file that is rejected stays as
it is. -/
theorem keeps_loaded :
    (∀ (f : SettingsFile) (s : Settings), f ≠ .directory → f.Keeps s) ∧
    (∀ (content : String) (s : Settings) (g : SettingsFile),
      (file content).perform loading = (.ok s, g) → g = file content ∧ g.Keeps s) ∧
    (missing.perform loading = (.ok {}, Settings.save {}) ∧
      missing.perform (do let _ ← loading; loading) = (.ok {}, Settings.save {})) ∧
    ∀ (f g : SettingsFile) (e : SettingsError), f.perform loading = (.error e, g) → g = f := by
  refine ⟨fun f s hf => keeps_of_ne_directory hf s, fun content s g hload => ?_,
    ⟨perform_loading_missing, ?_⟩, fun f g e hload => eq_of_perform_loading_error hload⟩
  · exact keeps_of_loaded hload nofun
  · rw [perform_bind, perform_loading_missing]
    exact perform_loading_save {}

/-- A text with escapes, a section that is a list, a field that is not known, and a section and a field
that are missing. -/
def sparseText : String :=
  "\x7b\"auth\":[\"\\u00e9\\\"\",\"\\ud83d\\ude00\",\"\",\"http:\\/\\/x\",-9223372036854775808],
  \"x\":\x7b\"y\":[1.5e3,null]\x7d,\"server\":\x7b\"port\":65535,\"host\":\"h\"\x7d\x7d"

def sparseSettings : Settings where
  server := ⟨"h", 65535, ""⟩
  auth := ⟨"é\"", "😀", "", "http://x", .ofInt (-9223372036854775808)⟩

theorem keeps_loaded_sparse :
    (file sparseText).Keeps sparseSettings ∧ missing.Keeps sparseSettings ∧
    ((file sparseText).perform loading).1 = .ok sparseSettings ∧
    ∃ g, (file "[0]").perform loading = (.error .malformed, g) ∧ g = file "[0]" := by
  have htext : Settings.ofText? sparseText = some sparseSettings := by decide +kernel
  have hload : (file sparseText).perform loading = (.ok sparseSettings, file sparseText) := by
    rw [perform_loading, Settings.load, htext]
  have hrejected : Settings.ofText? "[0]" = none := by decide +kernel
  have herror : (file "[0]").perform loading = (.error .malformed, file "[0]") := by
    rw [perform_loading, Settings.load, hrejected]
  obtain ⟨hsave, hkeep, -, hleave⟩ := keeps_loaded
  exact ⟨(hkeep _ _ _ hload).2, hsave missing _ nofun, by rw [hload], _, herror, hleave _ _ _ herror⟩

end Loading

end SettingsFile
end CharAtlas
