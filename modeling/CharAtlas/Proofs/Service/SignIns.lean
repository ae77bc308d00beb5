import CharAtlas.Proofs.Service.Access
import CharAtlas.Proofs.Text.Trim

/-! # A sign-in is redeemed once

A state is kept from the beginning of a sign-in until a way back from the provider brings it in
time (`Service.Redeems`), or until it has run out and is tidied away. `Service.StateStep` says what
a visit can do to the states that are kept. Whatever visitors do, a state is redeemed once at most
(`Service.redeems_once`), and the pages to return to lie on this site (`isSitePath_returnPath`). -/

namespace CharAtlas

/-! ### Pages to return to -/

/-- A path that leads nowhere but to a page of the same site. -/
structure IsSitePath (path : String) : Prop where
  slash : ['/'] <+: path.toList
  single : ¬['/', '/'] <+: path.toList
  noBackslash : '\\' ∉ path.toList
  trimmed : Text.trim path = path

theorem isSitePath_root : IsSitePath "/" :=
  ⟨by decide, by decide, by decide, by rfl⟩

theorem isSitePath_returnPath (raw : Option String) : IsSitePath (returnPath raw) := by
  unfold returnPath
  split
  · exact isSitePath_root
  · rename_i s
    have hends := Text.hasNoBlankEnds_trimmed s.toList
    split
    · exact isSitePath_root
    · rename_i c cs hcs
      split_ifs with hbad
      · exact isSitePath_root
      · obtain ⟨hslash, hback⟩ := not_or.1 hbad
        rw [hcs] at hends
        refine ⟨?_, ?_, ?_, ?_⟩
        · simp
        · simpa using Ne.symm hslash
        · simpa using hback
        · rwa [Text.trim_eq_self_iff, String.toList_ofList]
    · exact isSitePath_root

/-- A path on this site is kept, less the blanks around it. -/
theorem returnPath_of_isSitePath {s : String} (h : IsSitePath (Text.trim s)) :
    returnPath (some s) = Text.trim s := by
  obtain ⟨hslash, hsingle, hback, -⟩ := h
  rw [Text.toList_trim] at hslash hsingle hback
  obtain ⟨tail, htail⟩ := hslash
  rw [← htail] at hsingle hback
  unfold returnPath Text.trim
  dsimp only
  rw [← htail]
  cases tail with
  | nil => rfl
  | cons c cs =>
    have hgood : ¬(c = '/' ∨ '\\' ∈ c :: cs) := by
      rintro (rfl | hmem)
      · exact hsingle ⟨cs, rfl⟩
      · exact hback (List.mem_cons_of_mem _ hmem)
    exact if_neg hgood

/-! ### The table of states -/

namespace Database
variable {db db' : Database} {now : Timestamp} {state : String} {r : SignInRow}

def states (db : Database) : List String :=
  db.signIns.map (·.state)

/-- A working database that keeps each state once. -/
structure Admitting (db : Database) : Prop extends Working db where
  states_nodup : db.states.Nodup

theorem states_purgeSignIns_sublist (db : Database) (now : Timestamp) :
    (db.purgeSignIns now).states.Sublist db.states :=
  List.filter_sublist.map _

namespace Admitting

theorem eq_of_state_eq (h : db.Admitting) {r' : SignInRow} (hr : r ∈ db.signIns)
    (hr' : r' ∈ db.signIns) (he : r.state = r'.state) : r = r' :=
  List.inj_on_of_nodup_map h.states_nodup hr hr' he

theorem liveSignIn?_eq_some_iff (h : db.Admitting) : db.liveSignIn? state now = some r ↔
    r ∈ db.signIns ∧ r.state = state ∧ now.text < r.expiresAt := by
  unfold liveSignIn?
  rw [find?_eq_some_iff_of_nodup h.states_nodup (p := fun r => now.text < r.expiresAt),
    decide_eq_true_iff]

theorem redeemSignIn_of_mem (h : db.Admitting) (hr : r ∈ db.signIns)
    (hlive : now.text < r.expiresAt) : db.redeemSignIn r.state now =
      .ok (some r.returnTo, { db with signIns := db.signIns.filter (· != r) }) := by
  have hfound : db.liveSignIn? r.state now = some r :=
    h.liveSignIn?_eq_some_iff.2 ⟨hr, rfl, hlive⟩
  unfold redeemSignIn
  rw [if_neg (by simp [h.isOpen]), hfound]

theorem redeemSignIn_of_forall (h : db.Admitting)
    (hnone : ∀ r ∈ db.signIns, r.state = state → ¬now.text < r.expiresAt) :
    db.redeemSignIn state now = .ok (none, db) := by
  have hmissing : db.liveSignIn? state now = none := by
    rw [Option.eq_none_iff_forall_ne_some]
    intro r hr
    obtain ⟨hmem, hstate, hlive⟩ := h.liveSignIn?_eq_some_iff.1 hr
    exact hnone r hmem hstate hlive
  unfold redeemSignIn
  rw [if_neg (by simp [h.isOpen]), hmissing]

end Admitting

theorem addSignIn_of_not_mem (hopen : db.isOpen = true) (h : r.state ∉ db.states) :
    db.addSignIn r = .ok { db with signIns := db.signIns ++ [r] } := by
  have hnew : ¬db.signIns.any (·.state == r.state) = true := by
    rw [List.any_eq_true]
    rintro ⟨q, hq, hstate⟩
    exact h (List.mem_map.2 ⟨q, hq, beq_iff_eq.1 hstate⟩)
  unfold addSignIn
  rw [if_neg (by simp [hopen]), if_neg hnew]

theorem addSignIn_of_mem (hopen : db.isOpen = true) (h : r.state ∈ db.states) :
    db.addSignIn r = .error (.duplicateKey "oauth_states.state") := by
  have htaken : db.signIns.any (·.state == r.state) = true := by
    obtain ⟨q, hq, hstate⟩ := List.mem_map.1 h
    exact List.any_eq_true.2 ⟨q, hq, beq_iff_eq.2 hstate⟩
  unfold addSignIn
  rw [if_neg (by simp [hopen]), if_pos htaken]

theorem signIns_addUser {u : User} (h : db.addUser u = .ok db') : db'.signIns = db.signIns := by
  obtain ⟨_, rfl⟩ := addUser_eq_ok h
  rfl

theorem signIns_upsertUser {i : Identity} {freshId stamp id : String}
    (h : db.upsertUser i freshId stamp = .ok (id, db')) : db'.signIns = db.signIns := by
  unfold upsertUser at h
  split_ifs at h
  split at h
  · cases h
    rfl
  · obtain ⟨_, hadd, he⟩ := map_eq_ok_iff.1 h
    cases he
    exact signIns_addUser hadd

theorem signIns_logIn {user id : String} {days : Int} {session : Session} {jar : CookieJar}
    (h : db.logIn user days id now = .ok (session, db', jar)) : db'.signIns = db.signIns := by
  obtain ⟨-, -, -, rfl⟩ := logIn_eq_ok h
  rfl

/-- The row that the beginning of a sign-in leaves. -/
def begunRow (state returnTo : String) (now : Timestamp) : SignInRow :=
  ⟨state, returnTo, (now.addMinutes signInMinutes).text⟩

theorem beginSignIn_of_not_mem (hopen : db.isOpen = true) (returnTo : String)
    (hfresh : state ∉ (db.purgeSignIns now).states) : db.beginSignIn state returnTo now =
      (.ok (), { db with
        signIns := (db.purgeSignIns now).signIns ++ [begunRow state returnTo now] }) := by
  have hadd :=
    @addSignIn_of_not_mem (db.purgeSignIns now) (begunRow state returnTo now) hopen hfresh
  unfold begunRow at hadd
  unfold beginSignIn
  rw [if_pos hopen]
  dsimp only
  rw [hadd]
  rfl

theorem beginSignIn_of_mem (hopen : db.isOpen = true) (returnTo : String)
    (htaken : state ∈ (db.purgeSignIns now).states) : db.beginSignIn state returnTo now =
      (.error (.duplicateKey "oauth_states.state"), db.purgeSignIns now) := by
  have hadd := @addSignIn_of_mem (db.purgeSignIns now) (begunRow state returnTo now) hopen htaken
  unfold begunRow at hadd
  unfold beginSignIn
  rw [if_pos hopen]
  dsimp only
  rw [hadd]

end Database

/-- The state that a sign-in begins with. -/
def Event.begunState? (e : Event) : Option String :=
  match e.request with
  | .signIn _ => some e.visit.freshId
  | _ => none

namespace Service
variable {s t : Service} {v : Visit} {a : Arrival} {e : Event} {r : SignInRow}

/-! ### Ways back -/

/-- The way back brings the state of a row that is kept, in time, with a code and no error. -/
structure Redeems (s : Service) (e : Event) (r : SignInRow) : Prop where
  request : ∃ code, e.request = .signInReturn (some code) (some r.state) none
  stored : r ∈ s.database.signIns
  inTime : e.visit.now.text < r.expiresAt

theorem Redeems.unique (hs : s.database.Admitting) {r' : SignInRow} (hr : s.Redeems e r)
    (hr' : s.Redeems e r') : r = r' := by
  obtain ⟨code, hcode⟩ := hr.request
  obtain ⟨code', hcode'⟩ := hr'.request
  have hrequest := hcode.symm.trans hcode'
  injection hrequest with _ hstate
  exact hs.eq_of_state_eq hr.stored hr'.stored (Option.some.inj hstate)

/-- The page for signing in, where a way back ends that the provider says nothing about. -/
def turnedAway (s : Service) : Response :=
  .redirect (s.settings.clientPage "/login")

theorem signInReturn_of_redeems (hs : s.database.Admitting) {code state error : Option String}
    (hr : s.Redeems ⟨v, a, .signInReturn code state error⟩ r) :
    s.signInReturn v code state error = ⟨s.turnedAway, s.withDatabase
      { s.database with signIns := s.database.signIns.filter (· != r) }, v.jar⟩ := by
  obtain ⟨⟨given, hrequest⟩, hstored, hlive⟩ := hr
  injection hrequest with hcode hstate herror
  subst hcode hstate herror
  have hredeemed := hs.redeemSignIn_of_mem hstored hlive
  unfold signInReturn
  dsimp only
  rw [hredeemed]
  rfl

theorem signInReturn_of_forall (hs : s.database.Admitting) {code state error : Option String}
    (hnone : ∀ r, ¬s.Redeems ⟨v, a, .signInReturn code state error⟩ r) :
    s.signInReturn v code state error = s.unchanged v s.turnedAway := by
  unfold signInReturn
  rcases error with _ | error
  · rcases code with _ | code
    · rfl
    · rcases state with _ | state
      · rfl
      · have hmissing : s.database.redeemSignIn state v.now = .ok (none, s.database) := by
          refine hs.redeemSignIn_of_forall fun r hr hstate hlive => hnone r ⟨⟨code, ?_⟩, hr, hlive⟩
          rw [hstate]
        dsimp only
        rw [hmissing]
        rfl
  · rfl

/-- Whoever the provider says has come back, the states that are kept are the same. -/
theorem signIns_complete (s : Service) (v : Visit) (a : Arrival)
    (code state error : Option String) :
    (s.complete v a code state error).service.database.signIns =
      (s.signInReturn v code state error).service.database.signIns := by
  unfold complete signInReturn
  dsimp only
  rcases error with _ | error
  · rcases code with _ | code
    · rfl
    · rcases state with _ | state
      · rfl
      · dsimp only
        rcases s.database.redeemSignIn state v.now with err | ⟨_ | returnTo, db⟩
        · rfl
        · rfl
        · dsimp only
          rcases a.identity with _ | i
          · rfl
          · dsimp only
            cases hupsert : db.upsertUser i a.userId a.stamp with
            | error err => rfl
            | ok result =>
              obtain ⟨user, db'⟩ := result
              have hkept : db'.signIns = db.signIns := Database.signIns_upsertUser hupsert
              dsimp only
              cases hlogin : db'.logIn user s.settings.auth.sessionDays.toInt v.freshId v.now with
              | error err => exact hkept
              | ok result =>
                obtain ⟨session, db'', jar⟩ := result
                exact (Database.signIns_logIn hlogin).trans hkept
  · rfl

/-! ### What a visit does to the states -/

theorem signIns_withUser {k : User → Reply}
    (h : ∀ u, (k u).service.database.signIns = s.database.signIns) :
    (s.withUser v k).service.database.signIns = s.database.signIns := by
  unfold withUser
  split
  · rfl
  · rfl
  · exact h _

theorem signIns_addFavorite (s : Service) (v : Visit) (codepoint : Option Int) :
    (s.addFavorite v codepoint).service.database.signIns = s.database.signIns := by
  refine signIns_withUser fun u => ?_
  cases codepoint with
  | none => rfl
  | some n =>
    dsimp only
    split_ifs
    · cases hadd : s.database.addFavorite u.id n.toNat with
      | error err => rfl
      | ok result =>
        obtain ⟨added, db⟩ := result
        obtain ⟨favorites, rfl⟩ := Database.addFavorite_eq_ok hadd
        rfl
    · rfl

theorem signIns_removeFavorite (s : Service) (v : Visit) (raw : String) :
    (s.removeFavorite v raw).service.database.signIns = s.database.signIns := by
  refine signIns_withUser fun u => ?_
  cases hraw : Codepoint.ofText raw with
  | error err => rfl
  | ok n =>
    dsimp only [Except.bind]
    cases hrem : s.database.removeFavorite u.id n with
    | error err => rfl
    | ok result =>
      obtain ⟨removed, db⟩ := result
      obtain ⟨favorites, rfl⟩ := Database.removeFavorite_eq_ok hrem
      rfl

theorem signIns_favorites (s : Service) (v : Visit) :
    (s.favorites v).service.database.signIns = s.database.signIns := by
  refine signIns_withUser fun u => ?_
  split <;> rfl

theorem signIns_logout (s : Service) (v : Visit) :
    (s.logout v).service.database.signIns = s.database.signIns := by
  unfold logout
  split
  · rfl
  · rename_i hout
    obtain ⟨-, rfl⟩ := Database.logOut_eq_ok hout
    rfl

/-- What a visit can do to the states that are kept. -/
inductive StateStep (s : Service) (e : Event) : List SignInRow → Prop
  /-- A sign-in begins; those that have run out are tidied away. -/
  | begun {returnTo : Option String} (request : e.request = .signIn returnTo)
    (fresh : e.visit.freshId ∉ (s.database.purgeSignIns e.visit.now).states) :
    StateStep s e ((s.database.purgeSignIns e.visit.now).signIns ++
      [Database.begunRow e.visit.freshId (returnPath returnTo) e.visit.now])
  /-- The state of a sign-in is one that is kept already. -/
  | taken {returnTo : Option String} (request : e.request = .signIn returnTo) :
    StateStep s e (s.database.purgeSignIns e.visit.now).signIns
  | redeemed {r : SignInRow} (redeems : s.Redeems e r) :
    StateStep s e (s.database.signIns.filter (· != r))
  | kept : StateStep s e s.database.signIns

theorem StateStep.of_eq {rows : List SignInRow} (h : rows = s.database.signIns) :
    s.StateStep e rows :=
  h ▸ .kept

theorem stateStep_after (hs : s.database.Admitting) (e : Event) :
    s.StateStep e (s.after e).database.signIns := by
  obtain ⟨v, a, request⟩ := e
  cases request with
  | addFavorite codepoint => exact .of_eq (signIns_addFavorite s v codepoint)
  | removeFavorite raw => exact .of_eq (signIns_removeFavorite s v raw)
  | favorites => exact .of_eq (signIns_favorites s v)
  | logout => exact .of_eq (signIns_logout s v)
  | signIn returnTo =>
    show StateStep s _ (s.signIn v returnTo).service.database.signIns
    unfold signIn
    split_ifs
    · by_cases hfresh : v.freshId ∈ (s.database.purgeSignIns v.now).states
      · rw [Database.beginSignIn_of_mem hs.isOpen _ hfresh]
        exact .taken rfl
      · rw [Database.beginSignIn_of_not_mem hs.isOpen _ hfresh]
        exact .begun rfl hfresh
    · exact .kept
  | signInReturn code state error =>
    show StateStep s _ (s.complete v a code state error).service.database.signIns
    rw [signIns_complete]
    by_cases hredeems : ∃ r, s.Redeems ⟨v, a, .signInReturn code state error⟩ r
    · obtain ⟨r, hr⟩ := hredeems
      rw [signInReturn_of_redeems hs hr]
      exact .redeemed hr
    · rw [signInReturn_of_forall hs (not_exists.1 hredeems)]
      exact .kept
  | _ => exact .kept

/-- A state that is kept after a visit was kept before, or it is the state of a sign-in that has
begun. -/
theorem mem_states_after (hs : s.database.Admitting) {state : String}
    (h : state ∈ (s.after e).database.states) :
    state ∈ s.database.states ∨ state ∈ e.begunState?.toList := by
  have hpurged := (s.database.states_purgeSignIns_sublist e.visit.now).subset
  have hstep := stateStep_after hs e
  unfold Database.states at h
  generalize (s.after e).database.signIns = rows at h hstep
  cases hstep with
  | begun hrequest hfresh =>
    rw [List.map_append, List.mem_append] at h
    rcases h with h | h
    · exact .inl (hpurged h)
    · right
      simpa [Event.begunState?, hrequest, Database.begunRow] using h
  | taken hrequest => exact .inl (hpurged h)
  | redeemed hr => exact .inl ((List.filter_sublist.map _).subset h)
  | kept => exact .inl h

theorem admitting_after (hs : s.database.Admitting) (e : Event) :
    (s.after e).database.Admitting := by
  refine ⟨working_after hs.toWorking e, ?_⟩
  have hpurged := s.database.states_purgeSignIns_sublist e.visit.now
  have hstep := stateStep_after hs e
  unfold Database.states
  generalize (s.after e).database.signIns = rows at hstep
  cases hstep with
  | begun hrequest hfresh =>
    rw [List.map_append]
    exact (hs.states_nodup.sublist hpurged).append (List.nodup_singleton _)
      (List.disjoint_singleton.2 hfresh)
  | taken hrequest => exact hs.states_nodup.sublist hpurged
  | redeemed hr => exact hs.states_nodup.sublist (List.filter_sublist.map _)
  | kept => exact hs.states_nodup

theorem admitting_afterAll (hs : s.database.Admitting) (es : List Event) :
    (s.afterAll es).database.Admitting := by
  induction es generalizing s with
  | nil => exact hs
  | cons e es ih => exact ih (admitting_after hs e)

/-! ### Runs -/

theorem afterAll_append (s : Service) (es es' : List Event) :
    s.afterAll (es ++ es') = (s.afterAll es).afterAll es' :=
  List.foldl_append

theorem mem_states_afterAll (hs : s.database.Admitting) {state : String} (es : List Event)
    (h : state ∈ (s.afterAll es).database.states) :
    state ∈ s.database.states ∨ state ∈ es.filterMap Event.begunState? := by
  induction es generalizing s with
  | nil => exact .inl h
  | cons e es ih =>
    have hcons : (e :: es).filterMap Event.begunState? =
        e.begunState?.toList ++ es.filterMap Event.begunState? := by
      rw [List.filterMap_cons]
      cases e.begunState? <;> rfl
    rw [hcons, List.mem_append]
    rcases ih (admitting_after hs e) h with hkept | hbegun
    · rcases mem_states_after hs hkept with hkept | hbegun
      · exact .inl hkept
      · exact .inr (.inl hbegun)
    · exact .inr (.inr hbegun)

theorem signIns_after_of_redeems (hs : s.database.Admitting) (hr : s.Redeems e r) :
    (s.after e).database.signIns = s.database.signIns.filter (· != r) := by
  obtain ⟨v, a, request⟩ := e
  obtain ⟨code, hrequest⟩ := hr.request
  dsimp only at hrequest
  subst hrequest
  show (s.complete v a _ _ _).service.database.signIns = _
  rw [signIns_complete, signInReturn_of_redeems hs hr]
  rfl

/-- What has been redeemed is gone. -/
theorem not_mem_states_of_redeems (hs : s.database.Admitting) (hr : s.Redeems e r) :
    r.state ∉ (s.after e).database.states := by
  unfold Database.states
  rw [signIns_after_of_redeems hs hr]
  intro hmem
  obtain ⟨q, hq, hstate⟩ := List.mem_map.1 hmem
  obtain ⟨hstored, hne⟩ := List.mem_filter.1 hq
  exact (bne_iff_ne.1 hne) (hs.eq_of_state_eq hstored hr.stored hstate)

/-- In a run whose sign-ins begin with states of their own, no state is redeemed twice. -/
theorem redeems_once (hs : s.database.Admitting) {before mid after : List Event} {e e' : Event}
    {r r' : SignInRow}
    (hfresh : (s.database.states ++
      (before ++ e :: (mid ++ e' :: after)).filterMap Event.begunState?).Nodup)
    (hr : (s.afterAll before).Redeems e r)
    (hr' : (s.afterAll (before ++ e :: mid)).Redeems e' r') : r.state ≠ r'.state := by
  intro hsame
  have hbefore := admitting_afterAll hs before
  have hstored : r.state ∈ (s.afterAll before).database.states :=
    List.mem_map.2 ⟨r, hr.stored, rfl⟩
  have hstored' : r.state ∈ (((s.afterAll before).after e).afterAll mid).database.states := by
    rw [afterAll_append] at hr'
    exact hsame ▸ List.mem_map.2 ⟨r', hr'.stored, rfl⟩
  -- the state was there before the first of the two, so it did not begin between them
  have hbegun : r.state ∈ mid.filterMap Event.begunState? :=
    (mem_states_afterAll (admitting_after hbefore e) mid hstored').resolve_left
      (not_mem_states_of_redeems hbefore hr)
  have hlater : r.state ∈ (e :: (mid ++ e' :: after)).filterMap Event.begunState? := by
    refine (List.Sublist.filterMap _ ?_).subset hbegun
    exact (List.sublist_append_left mid _).cons e
  rw [List.filterMap_append, ← List.append_assoc] at hfresh
  refine List.disjoint_of_nodup_append hfresh ?_ hlater
  exact List.mem_append.2 (mem_states_afterAll hs before hstored)

/-! ### Answers -/

def reply (s : Service) (e : Event) : Reply :=
  s.handleArrival e.visit e.arrival e.request

theorem reply_signInReturn (hs : s.database.Admitting) {code state error : Option String}
    (hreq : e.request = .signInReturn code state error) (hunanswered : e.arrival.identity = none) :
    s.reply e = ⟨.redirect (s.settings.clientPage "/login"), s.withDatabase
        { s.database with signIns := (s.after e).database.signIns }, e.visit.jar⟩ ∧
      ∀ r, r ∈ (s.after e).database.signIns ↔ r ∈ s.database.signIns ∧ ¬s.Redeems e r := by
  obtain ⟨v, a, request⟩ := e
  dsimp only at hreq hunanswered
  subst hreq
  have hreply : s.reply ⟨v, a, .signInReturn code state error⟩ =
      s.signInReturn v code state error :=
    complete_unanswered hunanswered code state error
  have hafter : (s.after ⟨v, a, .signInReturn code state error⟩) =
      (s.reply ⟨v, a, .signInReturn code state error⟩).service := rfl
  rw [hafter, hreply]
  by_cases hredeems : ∃ r, s.Redeems ⟨v, a, .signInReturn code state error⟩ r
  · obtain ⟨r, hr⟩ := hredeems
    rw [signInReturn_of_redeems hs hr]
    refine ⟨rfl, fun q => ?_⟩
    show q ∈ s.database.signIns.filter (· != r) ↔ _
    rw [List.mem_filter, bne_iff_ne]
    refine and_congr_right fun _ => not_congr ⟨?_, fun hq => hq.unique hs hr⟩
    rintro rfl
    exact hr
  · have hnone := not_exists.1 hredeems
    rw [signInReturn_of_forall hs hnone]
    exact ⟨rfl, fun q => (and_iff_left (hnone q)).symm⟩

theorem reply_signIn (hopen : s.database.isOpen = true) {returnTo : Option String}
    (hreq : e.request = .signIn returnTo) (hset : s.settings.canSignIn = true)
    (hfresh : e.visit.freshId ∉ s.database.states) :
    s.reply e = ⟨.redirect (s.settings.consentUrl e.visit.freshId), s.withDatabase
      { s.database with
        signIns := s.database.signIns.filter (fun r => e.visit.now.text < r.expiresAt) ++
          [Database.begunRow e.visit.freshId (returnPath returnTo) e.visit.now] },
      e.visit.jar⟩ := by
  obtain ⟨v, a, request⟩ := e
  dsimp only at hreq hfresh
  subst hreq
  have hnew : v.freshId ∉ (s.database.purgeSignIns v.now).states := fun hmem =>
    hfresh ((s.database.states_purgeSignIns_sublist v.now).subset hmem)
  show s.signIn v returnTo = _
  unfold signIn
  rw [if_pos hset, Database.beginSignIn_of_not_mem hopen _ hnew]
  rfl

/-- At any point of a run, a way back from a provider that says nothing ends on the page for signing
in. It takes away the row whose state it brings, if it brings a code, no error, and the state in
time, and changes nothing else. A sign-in keeps a new state with a page of this site and takes away
what has run out; where nobody can sign in, it is refused and nothing changes. If sign-ins begin
with states of their own, each state is redeemed once at most. -/
theorem signIns_oneShot (hs : s.database.Admitting) (es : List Event) (ht : s.afterAll es = t) :
    (∀ e code state error, e.request = .signInReturn code state error →
      e.arrival.identity = none →
      t.reply e = ⟨.redirect (t.settings.clientPage "/login"), t.withDatabase
        { t.database with signIns := (t.after e).database.signIns }, e.visit.jar⟩ ∧
      (∀ r, r ∈ (t.after e).database.signIns ↔ r ∈ t.database.signIns ∧ ¬t.Redeems e r) ∧
      ∀ r r', t.Redeems e r → t.Redeems e r' → r = r') ∧
    (∀ e returnTo, e.request = .signIn returnTo → t.settings.canSignIn = true →
      e.visit.freshId ∉ t.database.states →
      ∃ row : SignInRow, row.state = e.visit.freshId ∧
        row.expiresAt = (e.visit.now.addMinutes signInMinutes).text ∧ IsSitePath row.returnTo ∧
        (∀ given, returnTo = some given → IsSitePath (Text.trim given) →
          row.returnTo = Text.trim given) ∧
        t.reply e = ⟨.redirect (t.settings.consentUrl e.visit.freshId), t.withDatabase
          { t.database with
            signIns := t.database.signIns.filter (fun r => e.visit.now.text < r.expiresAt) ++
              [row] }, e.visit.jar⟩) ∧
    (∀ e returnTo, e.request = .signIn returnTo → t.settings.canSignIn = false →
      t.reply e = t.unchanged e.visit (.failure 503 "Google sign-in is not configured")) ∧
    ((s.database.states ++ es.filterMap Event.begunState?).Nodup →
      ∀ before e mid e' after r r', es = before ++ e :: (mid ++ e' :: after) →
        (s.afterAll before).Redeems e r → (s.afterAll (before ++ e :: mid)).Redeems e' r' →
          r.state ≠ r'.state) := by
  subst ht
  have ht := admitting_afterAll hs es
  refine ⟨fun e code state error hreq hunanswered => ?_, fun e returnTo hreq hset hfresh => ?_,
    fun e returnTo hreq hset => ?_, fun hfresh before e mid e' after r r' hes hr hr' => ?_⟩
  · obtain ⟨hreply, hrows⟩ := reply_signInReturn ht hreq hunanswered
    exact ⟨hreply, hrows, fun r r' hr hr' => hr.unique ht hr'⟩
  · refine ⟨_, rfl, rfl, isSitePath_returnPath returnTo, ?_,
      reply_signIn ht.isOpen hreq hset hfresh⟩
    rintro given rfl hgiven
    exact returnPath_of_isSitePath hgiven
  · obtain ⟨v, a, request⟩ := e
    dsimp only at hreq
    subst hreq
    exact if_neg (by simp [hset])
  · subst hes
    exact redeems_once hs hfresh hr hr'

def signInService : Service where
  catalog := ⟨fun _ => []⟩
  settings := { auth := { clientId := "id", clientSecret := "key" } }

/-- A sign-in that asks for a page of another site. -/
def strayReturn : Event :=
  ⟨⟨{}, ⟨0⟩, "x"⟩, ⟨none, "", ""⟩, .signIn (some " //elsewhere ")⟩

/-- The way back of that sign-in, so many seconds later. -/
def backAfter (seconds : Int) : Event :=
  ⟨⟨{}, ⟨seconds⟩, "y"⟩, ⟨none, "", ""⟩, .signInReturn (some "code") (some "x") none⟩

/-- The first way back redeems the state; the second does not, nor does one that is late. -/
theorem signIns_oneShot_strayReturn :
    signInService.database.Admitting ∧
    (signInService.after strayReturn).database.signIns = [⟨"x", "/", "1970-01-01 00:10:00"⟩] ∧
    ((signInService.after strayReturn).after (backAfter 599)).database.signIns = [] ∧
    (∀ r, ¬((signInService.after strayReturn).after (backAfter 599)).Redeems (backAfter 599) r) ∧
    ⟨"x", "/", "1970-01-01 00:10:00"⟩ ∈
      ((signInService.after strayReturn).after (backAfter 600)).database.signIns := by
  have hs : signInService.database.Admitting :=
    ⟨@Database.working_afterAll [] (by simp), List.nodup_nil⟩
  have hbegun : (signInService.after strayReturn).database.signIns =
      [⟨"x", "/", "1970-01-01 00:10:00"⟩] := by
    decide +kernel
  have hredeems : (signInService.after strayReturn).Redeems (backAfter 599)
      ⟨"x", "/", "1970-01-01 00:10:00"⟩ :=
    ⟨⟨_, rfl⟩, hbegun ▸ List.mem_singleton_self _, by decide +kernel⟩
  obtain ⟨hback, -⟩ := signIns_oneShot hs [strayReturn] rfl
  obtain ⟨-, -, -, honce⟩ :=
    signIns_oneShot hs [strayReturn, backAfter 599, backAfter 599] rfl
  refine ⟨hs, hbegun, ?_, fun r hr => ?_, ?_⟩
  · refine List.eq_nil_iff_forall_not_mem.2 fun r hr => ?_
    obtain ⟨hstored, hkept⟩ : r ∈ (signInService.after strayReturn).database.signIns ∧
        ¬(signInService.after strayReturn).Redeems (backAfter 599) r :=
      ((hback (backAfter 599) _ _ _ rfl rfl).2.1 r).1 hr
    rw [hbegun, List.mem_singleton] at hstored
    exact hkept (hstored ▸ hredeems)
  · refine honce (by decide) [strayReturn] _ [] _ [] _ r rfl hredeems hr ?_
    obtain ⟨code, hcode⟩ := hr.request
    injection hcode with _ hstate
    exact Option.some.inj hstate
  · refine ((hback (backAfter 600) _ _ _ rfl rfl).2.1 _).2
      ⟨hbegun ▸ List.mem_singleton_self _, fun hlate => ?_⟩
    exact absurd hlate.inTime (by decide +kernel)

end Service
end CharAtlas
