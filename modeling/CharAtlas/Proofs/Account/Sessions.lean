import CharAtlas.Proofs.Account.SignIn
import CharAtlas.Service.Handler

/-! # How sessions come and go

A browser and the database change together (`Browsing`), one statement or cookie at a time, and a
step that fails does not take back the steps before it. Taken step by step, signing in and out do
the same as `Database.logIn` and `Database.logOut` (`Browsing.perform_startSession`,
`Browsing.perform_endSession`), so no failure leaves a session half begun or half ended. Whatever
happens, a session goes only when the browser that holds its cookie signs out
(`Browsing.exists_finish_of_not_mem`), and does not come back (`Browsing.mem_sessionIds_afterAll`).
-/

namespace CharAtlas

namespace Database

/-- Sessions are left alone by all that is written besides. -/
theorem sessions_after (db : Database) (w : Write) : (db.after w).sessions = db.sessions := by
  cases hw : db.perform w with
  | error e => rw [after_of_error hw]
  | ok db' =>
    rw [after_of_ok hw]
    cases w with
    | character c =>
      obtain ⟨-, -, rfl⟩ := putCharacter_eq_ok_iff.1 hw
      rfl
    | confusable p =>
      obtain ⟨⟨fresh, db₁⟩, hadd, rfl⟩ := map_eq_ok_iff.1 hw
      obtain ⟨-, -, ⟨-, -, rfl⟩ | ⟨-, -, rfl⟩⟩ := addConfusable_eq_ok_iff.1 hadd <;> rfl
    | addFavorite user n =>
      obtain ⟨⟨fresh, db₁⟩, hadd, rfl⟩ := map_eq_ok_iff.1 hw
      obtain ⟨_, rfl⟩ := addFavorite_eq_ok hadd
      rfl
    | removeFavorite user n =>
      obtain ⟨⟨fresh, db₁⟩, hrem, rfl⟩ := map_eq_ok_iff.1 hw
      obtain ⟨_, rfl⟩ := removeFavorite_eq_ok hrem
      rfl
    | user u =>
      obtain ⟨_, rfl⟩ := addUser_eq_ok (mapError_eq_ok_iff.1 hw)
      rfl
    | migrate => rw [migrate_eq_ok (mapError_eq_ok_iff.1 hw)]
    | close =>
      cases hw
      rfl

end Database

/-- The database, and the cookies of a browser. -/
structure Browsing where
  database : Database
  jar : CookieJar := {}

namespace Browsing

/-! ### One step at a time -/

/-- What an action has done before it fails stays done. -/
abbrev Action (α : Type) :=
  ExceptT StoreError (StateM Browsing) α

def perform {α : Type} (b : Browsing) (x : Action α) : Except StoreError α × Browsing :=
  x.run.run b

/-- A statement does all that it has to do, or nothing. -/
def statement (run : Database → Except StoreError Database) : Action Unit :=
  .mk fun b =>
    match run b.database with
    | .ok db => (.ok (), { b with database := db })
    | .error e => (.error e, b)

def putCookie (cookie : Option Cookie) : Action Unit :=
  modify fun b => { b with jar := ⟨cookie⟩ }

def startSession (user : String) (days : Int) (id : String) (now : Timestamp) :
    Action Session := do
  let s := Session.create user days id now
  statement (·.addSession s.row)
  putCookie (some (s.cookie days))
  return s

def endSession : Action Unit := do
  if let some c := (← get).jar.session then
    statement fun db => db.access { db with sessions := db.sessions.filter (·.id != c.value) }
  putCookie none

def currentUser (now : Timestamp) : Action (Option User) := do
  let b ← get
  b.database.visitor b.jar now

section Steps
variable {α β : Type} {x : Action α} {k : α → Action β}

theorem perform_bind (b : Browsing) : b.perform (x >>= k) =
    match b.perform x with
    | (.ok a, b') => b'.perform (k a)
    | (.error e, b') => (.error e, b') := by
  show (ExceptT.bindCont k (b.perform x).1).run (b.perform x).2 = _
  rcases b.perform x with ⟨e | a, b'⟩
  · rfl
  · rfl

theorem perform_statement (b : Browsing) (run : Database → Except StoreError Database) :
    b.perform (statement run) =
      match run b.database with
      | .ok db => (.ok (), { b with database := db })
      | .error e => (.error e, b) :=
  rfl

theorem perform_currentUser (b : Browsing) (now : Timestamp) :
    b.perform (currentUser now) = (b.database.visitor b.jar now, b) :=
  rfl

theorem perform_startSession (b : Browsing) (user : String) (days : Int) (id : String)
    (now : Timestamp) : b.perform (startSession user days id now) =
      match b.database.logIn user days id now with
      | .ok (s, db, jar) => (.ok s, ⟨db, jar⟩)
      | .error e => (.error e, b) := by
  unfold startSession Database.logIn
  dsimp only
  rw [perform_bind, perform_statement]
  cases b.database.addSession (Session.create user days id now).row with
  | ok db => rfl
  | error e => rfl

theorem perform_endSession (b : Browsing) : b.perform endSession =
    match b.database.logOut b.jar with
    | .ok (db, jar) => (.ok (), ⟨db, jar⟩)
    | .error e => (.error e, b) := by
  have hget : b.perform get = (.ok b, b) := rfl
  unfold endSession Database.logOut
  rw [perform_bind, hget]
  dsimp only
  cases b.jar.session with
  | none => rfl
  | some c =>
    dsimp only
    rw [perform_bind, perform_statement]
    cases b.database.access
        { b.database with sessions := b.database.sessions.filter (·.id != c.value) } with
    | ok db => rfl
    | error e => rfl

end Steps

/-! ### Beginning and end -/

section Effects
variable {b b' : Browsing} {s : Session} {jar : CookieJar} {now : Timestamp} {u : User}

/-- The session is there, none else has changed, and the jar names it. -/
structure Starts (b b' : Browsing) (s : Session) : Prop where
  new : s.id ∉ b.database.sessionIds
  database : b'.database = { b.database with sessions := b.database.sessions ++ [s.row] }
  jar : ∃ c, b'.jar.session = some c ∧ c.value = s.id

/-- The session that the jar named is gone, none else has changed, and the jar is empty. -/
structure Ends (b b' : Browsing) : Prop where
  database : b'.database =
    { b.database with sessions := b.database.sessions.filter (!b.jar.names ·) }
  jar : b'.jar = {}

theorem starts_of_logIn {user id : String} {days : Int} {db : Database}
    (h : b.database.logIn user days id now = .ok (s, db, jar)) : b.Starts ⟨db, jar⟩ s := by
  obtain ⟨rfl, rfl, hcan, rfl⟩ := Database.logIn_eq_ok h
  exact ⟨hcan.new, rfl, _, rfl, rfl⟩

theorem ends_of_logOut {db : Database} (h : b.database.logOut b.jar = .ok (db, jar)) :
    b.Ends ⟨db, jar⟩ := by
  obtain ⟨rfl, rfl⟩ := Database.logOut_eq_ok h
  exact ⟨rfl, rfl⟩

theorem Ends.not_mem_sessionIds (h : b.Ends b') {c : Cookie} (hc : b.jar.session = some c) :
    c.value ∉ b'.database.sessionIds := by
  rw [h.database]
  intro hmem
  obtain ⟨r, hr, hid⟩ := List.mem_map.1 hmem
  have hnamed : b.jar.names r = true := CookieJar.names_iff.2 ⟨c, hc, hid.symm⟩
  simp [hnamed] at hr

/-- Who has come with another cookie stays signed in. -/
theorem Ends.signedIn_iff (h : b.Ends b')
    (hjar : jar.session.map (·.value) ≠ b.jar.session.map (·.value)) :
    b'.database.SignedIn jar now u ↔ b.database.SignedIn jar now u := by
  have hkept : ∀ c r, jar.session = some c → r.id = c.value →
      (r ∈ b'.database.sessions ↔ r ∈ b.database.sessions) := by
    intro c r hc hid
    have hother : b.jar.names r = false := by
      rw [Bool.eq_false_iff, Ne, CookieJar.names_iff]
      rintro ⟨d, hd, hvalue⟩
      refine hjar ?_
      rw [hc, hd, Option.map_some, Option.map_some, hvalue, hid]
    rw [h.database]
    simp [hother]
  have husers : b'.database.users = b.database.users := by rw [h.database]
  constructor
  · rintro ⟨⟨c, r, hc, hr, hid, hrest⟩, hu⟩
    exact ⟨⟨c, r, hc, (hkept c r hc hid).1 hr, hid, hrest⟩, husers ▸ hu⟩
  · rintro ⟨⟨c, r, hc, hr, hid, hrest⟩, hu⟩
    exact ⟨⟨c, r, hc, (hkept c r hc hid).2 hr, hid, hrest⟩, husers ▸ hu⟩

end Effects

end Browsing

/-! ### Runs -/

/-- What can happen to a browser and the database. -/
inductive SessionCall where
  | start (user : String) (days : Int) (id : String) (now : Timestamp)
  | finish
  /-- Whoever holds the browser can put any cookie into it, or take it out. -/
  | cookie (c : Option Cookie)
  | visitor (now : Timestamp)
  | write (w : Write)

def SessionCall.startedId? : SessionCall → Option String
  | .start _ _ id _ => some id
  | _ => none

namespace Browsing
variable {b b' t : Browsing} {call : SessionCall} {calls : List SessionCall} {id : String}
  {r : SessionRow}

def after (b : Browsing) : SessionCall → Browsing
  | .start user days id now => (b.perform (startSession user days id now)).2
  | .finish => (b.perform endSession).2
  | .cookie c => { b with jar := ⟨c⟩ }
  | .visitor now => (b.perform (currentUser now)).2
  | .write w => { b with database := b.database.after w }

def afterAll (b : Browsing) (calls : List SessionCall) : Browsing :=
  calls.foldl after b

/-- What one call can do. -/
inductive Step (b : Browsing) : SessionCall → Browsing → Prop
  | started {user id : String} {days : Int} {now : Timestamp} {s : Session} {db : Database}
    {jar : CookieJar} (h : b.database.logIn user days id now = .ok (s, db, jar)) :
    Step b (.start user days id now) ⟨db, jar⟩
  | ended {db : Database} {jar : CookieJar} (h : b.database.logOut b.jar = .ok (db, jar)) :
    Step b .finish ⟨db, jar⟩
  | wrote (w : Write) : Step b (.write w) { b with database := b.database.after w }
  | kept (call : SessionCall) (jar : CookieJar) : Step b call { b with jar := jar }

theorem step_after (b : Browsing) (call : SessionCall) : b.Step call (b.after call) := by
  cases call with
  | start user days id now =>
    show b.Step _ (b.perform (startSession user days id now)).2
    rw [perform_startSession]
    cases h : b.database.logIn user days id now with
    | ok result => exact .started h
    | error e => exact .kept _ b.jar
  | finish =>
    show b.Step _ (b.perform endSession).2
    rw [perform_endSession]
    cases h : b.database.logOut b.jar with
    | ok result => exact .ended h
    | error e => exact .kept _ b.jar
  | cookie c => exact .kept _ ⟨c⟩
  | visitor now => exact .kept _ b.jar
  | write w => exact .wrote w

theorem Step.keyed (h : b.Step call b') (hb : b.database.Keyed) : b'.database.Keyed := by
  cases h with
  | started h => exact (Database.KeepsFavorites.logIn h).keyed hb
  | ended h => exact (Database.KeepsFavorites.logOut h).keyed hb
  | wrote w => exact hb.after w
  | kept => exact hb

theorem Step.mem_sessionIds (h : b.Step call b') (hid : id ∈ b'.database.sessionIds) :
    id ∈ b.database.sessionIds ∨ id ∈ call.startedId?.toList := by
  unfold Database.sessionIds at hid
  cases h with
  | started h =>
    obtain ⟨rfl, -, -, rfl⟩ := Database.logIn_eq_ok h
    rw [List.map_append, List.mem_append] at hid
    exact hid
  | ended h =>
    obtain ⟨-, rfl⟩ := Database.logOut_eq_ok h
    exact .inl ((List.filter_sublist.map _).subset hid)
  | wrote w =>
    dsimp only at hid
    rw [Database.sessions_after] at hid
    exact .inl hid
  | kept => exact .inl hid

/-- A session goes when its own browser signs out. -/
theorem Step.finish_of_not_mem (h : b.Step call b') (hr : r ∈ b.database.sessions)
    (hgone : r ∉ b'.database.sessions) : call = .finish ∧ b.jar.names r = true := by
  cases h with
  | started h =>
    obtain ⟨-, -, -, rfl⟩ := Database.logIn_eq_ok h
    exact absurd (List.mem_append_left _ hr) hgone
  | ended h =>
    obtain ⟨-, rfl⟩ := Database.logOut_eq_ok h
    refine ⟨rfl, ?_⟩
    by_contra hother
    exact hgone (List.mem_filter.2 ⟨hr, by simpa using hother⟩)
  | wrote w =>
    dsimp only at hgone
    rw [Database.sessions_after] at hgone
    exact absurd hr hgone
  | kept => exact absurd hr hgone

theorem keyed_afterAll (hb : b.database.Keyed) (calls : List SessionCall) :
    (b.afterAll calls).database.Keyed := by
  induction calls generalizing b with
  | nil => exact hb
  | cons call calls ih => exact ih ((step_after b call).keyed hb)

/-- A session that is there was there before, or it has begun. -/
theorem mem_sessionIds_afterAll (calls : List SessionCall)
    (h : id ∈ (b.afterAll calls).database.sessionIds) :
    id ∈ b.database.sessionIds ∨ ∃ call ∈ calls, call.startedId? = some id := by
  induction calls generalizing b with
  | nil => exact .inl h
  | cons call calls ih =>
    rcases ih h with hnext | ⟨later, hlater, hid⟩
    · rcases (step_after b call).mem_sessionIds hnext with hkept | hbegun
      · exact .inl hkept
      · exact .inr ⟨call, List.mem_cons_self .., Option.mem_toList.1 hbegun⟩
    · exact .inr ⟨later, List.mem_cons_of_mem _ hlater, hid⟩

/-- A session that has gone was ended by a browser that held its cookie. -/
theorem exists_finish_of_not_mem (calls : List SessionCall) (hr : r ∈ b.database.sessions)
    (hgone : r ∉ (b.afterAll calls).database.sessions) :
    ∃ before after, calls = before ++ .finish :: after ∧
      r ∈ (b.afterAll before).database.sessions ∧ (b.afterAll before).jar.names r = true := by
  induction calls generalizing b with
  | nil => exact absurd hr hgone
  | cons call calls ih =>
    by_cases hnext : r ∈ (b.after call).database.sessions
    · obtain ⟨before, after, rfl, hlast⟩ := ih hnext hgone
      exact ⟨call :: before, after, rfl, hlast⟩
    · obtain ⟨rfl, hnames⟩ := (step_after b call).finish_of_not_mem hr hnext
      exact ⟨[], calls, rfl, hr, hnames⟩

/-- An id that is unknown signs nobody in until a session begins with it. -/
theorem not_signedIn_afterAll (hid : id ∉ b.database.sessionIds)
    (hnew : ∀ call ∈ calls, call.startedId? ≠ some id) {jar : CookieJar} {now : Timestamp}
    {u : User} (hjar : jar.session.map (·.value) = some id) :
    ¬(b.afterAll calls).database.SignedIn jar now u := by
  rintro ⟨⟨c, r, hc, hr, hvalue, -⟩, -⟩
  rw [hc, Option.map_some, Option.some.injEq] at hjar
  have hmem : id ∈ (b.afterAll calls).database.sessionIds :=
    List.mem_map.2 ⟨r, hr, hvalue.trans hjar⟩
  rcases mem_sessionIds_afterAll calls hmem with hbefore | ⟨call, hcall, hstarted⟩
  · exact hid hbefore
  · exact hnew call hcall hstarted

theorem logout_eq {s : Service} {v : Visit} (hdb : s.database = t.database) (hjar : v.jar = t.jar) :
    s.logout v =
      ⟨match (t.perform endSession).1 with
        | .ok () => .ok (.object [("message", .text "Logged out successfully")])
        | .error _ => .serverError,
        s.withDatabase (t.perform endSession).2.database, (t.perform endSession).2.jar⟩ := by
  unfold Service.logout
  rw [perform_endSession, hdb, hjar]
  cases t.database.logOut t.jar with
  | ok result => rfl
  | error e =>
    dsimp only
    rw [← hdb, ← hjar]
    rfl

/-- At any point of a run, the user who is there is the one whose live session the cookie names. A
session begins with its row and its cookie, or nothing changes, which happens if the database is
closed, the user unknown or the id taken. A session ends when its row and its cookie go, and nobody
is signed in by that id until a session begins with it anew; whoever holds another cookie stays
signed in. On a closed database the cookie stays too. So a session goes only if a browser that holds
its cookie signs out. -/
theorem sessions_lifeCycle (hb : b.database.Keyed) (calls : List SessionCall)
    (ht : b.afterAll calls = t) :
    (∀ now, (t.perform (currentUser now)).2 = t ∧
      ∀ u, (t.perform (currentUser now)).1 = .ok (some u) ↔
        t.database.isOpen = true ∧ t.database.SignedIn t.jar now u) ∧
    (∀ user days id now,
      match t.database.logIn user days id now with
      | .ok (s, db, jar) => t.perform (startSession user days id now) = (.ok s, ⟨db, jar⟩) ∧
          s = .create user days id now ∧ t.database.CanStart user id ∧ t.Starts ⟨db, jar⟩ s
      | .error e => t.perform (startSession user days id now) = (.error e, t) ∧
          ¬t.database.CanStart user id) ∧
    (match t.database.logOut t.jar with
      | .ok (db, jar) => t.perform endSession = (.ok (), ⟨db, jar⟩) ∧ t.Ends ⟨db, jar⟩ ∧
          (∀ c, t.jar.session = some c → ∀ more : List SessionCall,
            (∀ call ∈ more, call.startedId? ≠ some c.value) →
            ∀ own now u, own.session.map (·.value) = some c.value →
              ¬(afterAll ⟨db, jar⟩ more).database.SignedIn own now u) ∧
          ∀ other now u, other.session.map (·.value) ≠ t.jar.session.map (·.value) →
            (db.SignedIn other now u ↔ t.database.SignedIn other now u)
      | .error e => t.perform endSession = (.error e, t) ∧ t.database.isOpen = false) ∧
    (∀ (s : Service) (v : Visit), s.database = t.database → v.jar = t.jar → s.logout v =
      ⟨match (t.perform endSession).1 with
        | .ok () => .ok (.object [("message", .text "Logged out successfully")])
        | .error _ => .serverError,
        s.withDatabase (t.perform endSession).2.database, (t.perform endSession).2.jar⟩) ∧
    ∀ r ∈ b.database.sessions, r ∉ t.database.sessions →
      ∃ before after, calls = before ++ .finish :: after ∧
        r ∈ (b.afterAll before).database.sessions ∧ (b.afterAll before).jar.names r = true := by
  have hkeyed : t.database.Keyed := ht ▸ keyed_afterAll hb calls
  refine ⟨fun now => ⟨rfl, fun u => ?_⟩, fun user days id now => ?_, ?_,
    fun s v hdb hjar => logout_eq hdb hjar, fun r hr hgone => ?_⟩
  · rw [perform_currentUser]
    constructor
    · intro hu
      have hopen := Database.isOpen_of_visitor_eq_some hu
      exact ⟨hopen, (hkeyed.visitor_eq_some_iff hopen).1 hu⟩
    · rintro ⟨hopen, hu⟩
      exact (hkeyed.visitor_eq_some_iff hopen).2 hu
  · rw [perform_startSession]
    cases h : t.database.logIn user days id now with
    | ok result =>
      obtain ⟨s, db, jar⟩ := result
      obtain ⟨hs, -, hcan, -⟩ := Database.logIn_eq_ok h
      exact ⟨rfl, hs, hcan, starts_of_logIn h⟩
    | error e => exact ⟨rfl, Database.not_canStart_of_logIn_eq_error h⟩
  · rw [perform_endSession]
    cases h : t.database.logOut t.jar with
    | ok result =>
      have hends := ends_of_logOut h
      exact ⟨rfl, hends, fun c hc more hnew own now u hown =>
        not_signedIn_afterAll (hends.not_mem_sessionIds hc) hnew hown,
        fun other now u hother => hends.signedIn_iff hother⟩
    | error e => exact ⟨rfl, Database.isOpen_of_logOut_eq_error h⟩
  · rw [← ht] at hgone
    exact exists_finish_of_not_mem calls hr hgone

def oneAccount : Browsing where
  database := { users := [{ id := "u1", googleId := "g1", createdAt := "" }] }

/-- The browser gets a second session before the first one has ended. -/
def twoStarts : List SessionCall :=
  [.start "u1" 7 "s1" ⟨0⟩, .start "u1" 7 "s2" ⟨0⟩]

theorem sessions_lifeCycle_twoStarts :
    oneAccount.database.Keyed ∧
    (oneAccount.afterAll twoStarts).database.sessionIds = ["s1", "s2"] ∧
    ∃ db, (oneAccount.afterAll twoStarts).perform endSession = (.ok (), ⟨db, {}⟩) ∧
      db.sessionIds = ["s1"] ∧
      (∀ more : List SessionCall, (∀ call ∈ more, call.startedId? ≠ some "s2") →
        ∀ now u, ¬(afterAll ⟨db, {}⟩ more).database.SignedIn ⟨some { value := "s2" }⟩ now u) ∧
      ∃ u, db.SignedIn ⟨some { value := "s1" }⟩ ⟨604799⟩ u := by
  have hkeyed : oneAccount.database.Keyed :=
    Database.Keyed.empty.afterAll [.user ⟨"u1", "g1", none, none, none, ""⟩]
  have hids : (oneAccount.afterAll twoStarts).database.sessionIds = ["s1", "s2"] := by
    decide +kernel
  obtain ⟨-, -, hend, -⟩ := sessions_lifeCycle hkeyed twoStarts rfl
  have hjar : (oneAccount.afterAll twoStarts).jar.session.map (·.value) = some "s2" := by
    decide +kernel
  refine ⟨hkeyed, hids, ?_⟩
  generalize hrun : oneAccount.afterAll twoStarts = t at hend hids hjar ⊢
  obtain ⟨c, hc, hvalue⟩ := Option.map_eq_some_iff.1 hjar
  cases hout : t.database.logOut t.jar with
  | error e =>
    rw [hout] at hend
    have hopen : t.database.isOpen = true := by
      subst hrun
      decide +kernel
    exact absurd hend.2 (by simp [hopen])
  | ok result =>
    obtain ⟨db, jar⟩ := result
    rw [hout] at hend
    obtain ⟨hperform, hends, hgone, hothers⟩ := hend
    obtain rfl : jar = {} := hends.jar
    have hdb : db.sessions = t.database.sessions.filter (!t.jar.names ·) :=
      congrArg Database.sessions hends.database
    refine ⟨db, hperform, ?_, fun more hnew now u => ?_,
      { id := "u1", googleId := "g1", createdAt := "" }, (hothers _ _ _ ?_).2 ⟨?_, ?_⟩⟩
    · unfold Database.sessionIds
      rw [hdb, ← hrun]
      decide +kernel
    · exact hgone c hc more (hvalue.symm ▸ hnew) _ now u (congrArg some hvalue.symm)
    · rw [hjar]
      decide
    · refine ⟨_, ⟨"s1", "u1", "1970-01-08 00:00:00"⟩, rfl, ?_, rfl, by decide +kernel, rfl⟩
      rw [← hrun]
      decide +kernel
    · rw [← hrun]
      decide +kernel

end Browsing
end CharAtlas
