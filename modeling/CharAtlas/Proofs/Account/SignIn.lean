import CharAtlas.Account.Identity
import CharAtlas.Account.Session
import CharAtlas.Account.SignIn
import CharAtlas.Proofs.Store.Accounts

/-! # Signing in and out

What changes when a session begins or ends (`Database.logIn_eq_ok`, `Database.logOut_eq_ok`).
Whatever is written when users come and go, favorites stay as they are and ids are taken once
(`Database.KeepsFavorites`). The visitor is the user of the live session that the cookie names, if
there is one (`Database.Keyed.visitor_eq_some_iff`). -/

namespace CharAtlas

/-- Where keys are taken once, a search by key finds what has the key. -/
theorem find?_eq_some_iff_of_nodup {α : Type} {key : α → String} {l : List α}
    (h : (l.map key).Nodup) {p : α → Bool} {k : String} {a : α} :
    l.find? (fun b => key b == k && p b) = some a ↔ a ∈ l ∧ key a = k ∧ p a = true := by
  induction l with
  | nil => simp
  | cons b l ih =>
    obtain ⟨hb, hl⟩ := List.nodup_cons.1 h
    by_cases hbk : key b = k ∧ p b = true
    · rw [List.find?_cons_of_pos (by simpa using hbk), Option.some.injEq, List.mem_cons]
      constructor
      · rintro rfl
        exact ⟨.inl rfl, hbk⟩
      · rintro ⟨rfl | ha, hak, -⟩
        · rfl
        · exact absurd (List.mem_map.2 ⟨a, ha, hak.trans hbk.1.symm⟩) hb
    · rw [List.find?_cons_of_neg (by simpa using hbk), ih hl, List.mem_cons]
      constructor
      · exact fun ⟨ha, hak⟩ => ⟨.inr ha, hak⟩
      · rintro ⟨rfl | ha, hak⟩
        · exact absurd hak hbk
        · exact ⟨ha, hak⟩

/-- The cookie of the jar names the session. -/
def CookieJar.names (jar : CookieJar) (r : SessionRow) : Bool :=
  jar.session.any (·.value == r.id)

theorem CookieJar.names_iff {jar : CookieJar} {r : SessionRow} :
    jar.names r = true ↔ ∃ c, jar.session = some c ∧ c.value = r.id := by
  unfold names
  simp [Option.any_eq_true]

namespace Database
variable {db db' db'' : Database} {jar jar' : CookieJar} {now : Timestamp} {user id : String}
  {days : Int} {s : Session} {r : SessionRow} {e : StoreError}

/-! ### What signing in and out do -/

def sessionIds (db : Database) : List String :=
  db.sessions.map (·.id)

/-- A session of that user and with that id can begin. -/
structure CanStart (db : Database) (user id : String) : Prop where
  isOpen : db.isOpen = true
  known : db.userExists user = true
  new : id ∉ db.sessionIds

theorem addSession_eq_ok_iff : db.addSession r = .ok db' ↔
    db.CanStart r.user r.id ∧ db' = { db with sessions := db.sessions ++ [r] } := by
  have hids : db.sessions.any (·.id == r.id) = true ↔ r.id ∈ db.sessionIds := by
    unfold sessionIds
    simp
  unfold addSession
  constructor
  · intro h
    split_ifs at h with hclosed hid huser
    exact ⟨⟨by simpa using hclosed, by simpa using huser, fun hmem => hid (hids.2 hmem)⟩,
      (Except.ok.inj h).symm⟩
  · rintro ⟨⟨hopen, huser, hnew⟩, rfl⟩
    rw [if_neg (by simp [hopen]), if_neg fun hid => hnew (hids.1 hid), if_neg (by simp [huser])]

theorem logIn_eq_ok (h : db.logIn user days id now = .ok (s, db', jar)) :
    s = .create user days id now ∧ jar = ⟨some (s.cookie days)⟩ ∧ db.CanStart user id ∧
      db' = { db with sessions := db.sessions ++ [s.row] } := by
  obtain ⟨_, hadd, he⟩ := map_eq_ok_iff.1 h
  cases he
  obtain ⟨hcan, rfl⟩ := addSession_eq_ok_iff.1 hadd
  exact ⟨rfl, rfl, hcan, rfl⟩

theorem not_canStart_of_logIn_eq_error (h : db.logIn user days id now = .error e) :
    ¬db.CanStart user id := by
  intro hcan
  have hadd : db.addSession (Session.create user days id now).row = .ok _ :=
    addSession_eq_ok_iff.2 ⟨hcan, rfl⟩
  unfold logIn at h
  dsimp only at h
  rw [hadd] at h
  cases h

theorem logOut_eq_ok (h : db.logOut jar = .ok (db', jar')) :
    jar' = {} ∧ db' = { db with sessions := db.sessions.filter (!jar.names ·) } := by
  rcases jar with ⟨_ | c⟩
  · have hall : db.sessions.filter (!CookieJar.names ⟨none⟩ ·) = db.sessions :=
      List.filter_eq_self.2 fun r _ => rfl
    cases h
    rw [hall]
    exact ⟨rfl, rfl⟩
  · have hnamed : db.sessions.filter (!CookieJar.names ⟨some c⟩ ·) =
        db.sessions.filter (·.id != c.value) :=
      List.filter_congr fun r _ => congrArg not (Bool.beq_comm ..)
    unfold logOut access at h
    dsimp only at h
    split_ifs at h
    · cases h
      rw [hnamed]
      exact ⟨rfl, rfl⟩
    · cases h

theorem isOpen_of_logOut_eq_error (h : db.logOut jar = .error e) : db.isOpen = false := by
  unfold logOut access at h
  split at h
  · cases h
  · split_ifs at h with hopen
    · cases h
    · simpa using hopen

/-! ### What stays as it is -/

/-- The favorites are as they were, and the tables of users in order if they were in order. -/
structure KeepsFavorites (db db' : Database) : Prop where
  isOpen : db'.isOpen = db.isOpen
  favorites : db'.favorites = db.favorites
  keyed : db.Keyed → db'.Keyed

namespace KeepsFavorites

theorem refl (db : Database) : KeepsFavorites db db :=
  ⟨rfl, rfl, id⟩

theorem trans (h : KeepsFavorites db db') (h' : KeepsFavorites db' db'') : KeepsFavorites db db'' :=
  ⟨h'.isOpen.trans h.isOpen, h'.favorites.trans h.favorites, h'.keyed ∘ h.keyed⟩

theorem logOut (h : db.logOut jar = .ok (db', jar')) : KeepsFavorites db db' := by
  obtain ⟨-, rfl⟩ := logOut_eq_ok h
  exact ⟨rfl, rfl, fun hk => ⟨hk.users, hk.sessions.sublist (List.filter_sublist.map _),
    hk.favorites, hk.owned, hk.bounded⟩⟩

theorem with_signIns (db : Database) (signIns : List SignInRow) :
    KeepsFavorites db { db with signIns := signIns } :=
  ⟨rfl, rfl, fun hk => hk.congr rfl rfl rfl⟩

theorem addSignIn {r : SignInRow} (h : db.addSignIn r = .ok db') : KeepsFavorites db db' := by
  unfold Database.addSignIn at h
  split_ifs at h
  cases h
  exact with_signIns db _

theorem beginSignIn (db : Database) (state returnTo : String) (now : Timestamp) :
    KeepsFavorites db (db.beginSignIn state returnTo now).2 := by
  have htidy : KeepsFavorites db (if db.isOpen then db.purgeSignIns now else db) := by
    split_ifs
    · exact with_signIns db _
    · exact refl db
  unfold Database.beginSignIn
  dsimp only
  split
  · exact htidy.trans (addSignIn ‹_›)
  · exact htidy

theorem redeemSignIn {state : String} {returnTo : Option String}
    (h : db.redeemSignIn state now = .ok (returnTo, db')) : KeepsFavorites db db' := by
  unfold Database.redeemSignIn at h
  split_ifs at h
  split at h
  · cases h
    exact refl db
  · cases h
    exact with_signIns db _

theorem addSession (h : db.addSession r = .ok db') : KeepsFavorites db db' := by
  obtain ⟨-, rfl⟩ := addSession_eq_ok_iff.1 h
  exact ⟨rfl, rfl, fun hk => hk.addSession h⟩

theorem addUser {u : User} (h : db.addUser u = .ok db') : KeepsFavorites db db' := by
  refine ⟨?_, ?_, fun hk => hk.addUser h⟩ <;>
  · obtain ⟨_, rfl⟩ := addUser_eq_ok h
    rfl

theorem logIn {user id : String} {days : Int} {s : Session}
    (h : db.logIn user days id now = .ok (s, db', jar)) : KeepsFavorites db db' := by
  obtain ⟨_, hadd, he⟩ := map_eq_ok_iff.1 h
  cases he
  exact addSession hadd

theorem upsertUser {i : Identity} {freshId stamp id : String}
    (h : db.upsertUser i freshId stamp = .ok (id, db')) : KeepsFavorites db db' := by
  unfold Database.upsertUser at h
  split_ifs at h
  split at h
  · cases h
    -- a row that is brought up to date keeps its id
    have hid : ∀ v : User,
        (if v.googleId == i.sub then v.refreshed i stamp else v).id = v.id := by
      intro v
      split_ifs <;> rfl
    refine ⟨rfl, rfl, fun hk => hk.with_users ?_ fun id hexists => ?_⟩
    · rw [List.map_map]
      exact (List.map_congr_left fun v _ => hid v) ▸ hk.users
    · rw [List.any_map]
      unfold userExists at hexists
      simpa only [Function.comp_def, hid] using hexists
  · obtain ⟨_, hadd, he⟩ := map_eq_ok_iff.1 h
    cases he
    exact addUser hadd

end KeepsFavorites

/-! ### Who is there -/

/-- The cookie names a session of the user that has not run out. -/
structure SignedIn (db : Database) (jar : CookieJar) (now : Timestamp) (u : User) : Prop where
  session : ∃ c s, jar.session = some c ∧ s ∈ db.sessions ∧ s.id = c.value ∧
    now.text < s.expiresAt ∧ s.user = u.id
  stored : u ∈ db.users

theorem visitor_of_isOpen (hopen : db.isOpen = true) (jar : CookieJar) (now : Timestamp) :
    db.visitor jar now = .ok (jar.session.bind fun c => db.userOf? c.value now) := by
  unfold visitor access
  simp only [if_pos hopen]
  cases jar.session <;> rfl

theorem isOpen_of_visitor_eq_some {u : User} (h : db.visitor jar now = .ok (some u)) :
    db.isOpen = true := by
  unfold visitor access at h
  split at h
  · cases h
  · split_ifs at h with hopen
    exact hopen

theorem Keyed.liveSession?_eq_some_iff (h : db.Keyed) {id : String} {s : SessionRow} :
    db.liveSession? id now = some s ↔ s ∈ db.sessions ∧ s.id = id ∧ now.text < s.expiresAt := by
  unfold liveSession?
  rw [find?_eq_some_iff_of_nodup h.sessions (p := fun s => now.text < s.expiresAt),
    decide_eq_true_iff]

theorem Keyed.find?_user_eq_some_iff (h : db.Keyed) {id : String} {u : User} :
    db.users.find? (·.id == id) = some u ↔ u ∈ db.users ∧ u.id = id := by
  have hfind := @find?_eq_some_iff_of_nodup _ _ _ h.users (fun _ => true) id u
  simpa using hfind

theorem Keyed.visitor_eq_some_iff (h : db.Keyed) (hopen : db.isOpen = true) {u : User} :
    db.visitor jar now = .ok (some u) ↔ db.SignedIn jar now u := by
  rw [visitor_of_isOpen hopen, Except.ok.injEq, Option.bind_eq_some_iff]
  unfold userOf?
  simp only [Option.bind_eq_some_iff, h.liveSession?_eq_some_iff, h.find?_user_eq_some_iff]
  constructor
  · rintro ⟨c, hc, s, ⟨hs, hid, hlive⟩, hu, huser⟩
    exact ⟨⟨c, s, hc, hs, hid, hlive, huser.symm⟩, hu⟩
  · rintro ⟨⟨c, s, hc, hs, hid, hlive, huser⟩, hu⟩
    exact ⟨c, hc, s, ⟨hs, hid, hlive⟩, hu, huser.symm⟩

/-- There is one user at a time. -/
theorem Keyed.signedIn_unique (h : db.Keyed) (hopen : db.isOpen = true) {u u' : User}
    (hu : db.SignedIn jar now u) (hu' : db.SignedIn jar now u') : u = u' := by
  have hvisitor := (h.visitor_eq_some_iff hopen).2 hu
  rw [(h.visitor_eq_some_iff hopen).2 hu', Except.ok.injEq, Option.some.injEq] at hvisitor
  exact hvisitor.symm

end Database
end CharAtlas
