import CharAtlas.Proofs.Account.SignIn
import CharAtlas.Proofs.Codepoint
import CharAtlas.Proofs.Store.Favorites
import CharAtlas.Service.Arrival

/-! # Who may touch favorites

A run is a list of visits (`Event`). Whatever happens in it, the tables of users stay in order
(`Service.working_afterAll`), and a visit that changes favorites is one of a user who is signed in
and asks for it (`Service.after_cases`, `Service.favorites_guarded`). -/

namespace CharAtlas

/-- An open database whose tables of users are in order. -/
structure Database.Working (db : Database) : Prop extends Keyed db where
  isOpen : db.isOpen = true

theorem Database.working_afterAll {ws : List Write} (hws : .close ∉ ws) :
    (empty.afterAll ws).Working :=
  ⟨Keyed.empty.afterAll ws, isOpen_afterAll hws⟩

theorem Database.KeepsFavorites.working {db db' : Database} (h : db.KeepsFavorites db')
    (hdb : db.Working) : db'.Working :=
  ⟨h.keyed hdb.toKeyed, h.isOpen.trans hdb.isOpen⟩

namespace Request

/-- The request asks to have `n` among the favorites, or no longer. -/
inductive Favors : Request → Nat → Prop
  | add {n : Nat} (hmax : n ≤ Codepoint.max) : Favors (.addFavorite (some n)) n
  | remove {raw : String} {n : Nat} (hraw : Numeral.integer? (Text.trim raw) = some n)
    (hmax : n ≤ Codepoint.max) : Favors (.removeFavorite raw) n

/-- The request is for those who are signed in. -/
def isPrivate : Request → Bool
  | .favorites => true
  | .addFavorite _ => true
  | .removeFavorite _ => true
  | _ => false

end Request

structure Event where
  visit : Visit
  arrival : Arrival
  request : Request

namespace Service
variable {s t : Service} {v : Visit} {u : User} {e : Event}

def after (s : Service) (e : Event) : Service :=
  (s.handleArrival e.visit e.arrival e.request).service

def afterAll (s : Service) (es : List Event) : Service :=
  es.foldl after s

theorem withUser_of_signedIn (hs : s.database.Working) (hu : s.database.SignedIn v.jar v.now u)
    (k : User → Reply) : s.withUser v k = k u := by
  unfold withUser
  rw [(hs.visitor_eq_some_iff hs.isOpen).2 hu]

theorem withUser_of_not_signedIn (hs : s.database.Working)
    (h : ∀ u, ¬s.database.SignedIn v.jar v.now u) (k : User → Reply) :
    s.withUser v k = s.unchanged v (.failure 401 "Authentication required") := by
  have hnone : s.database.visitor v.jar v.now = .ok none := by
    rw [Database.visitor_of_isOpen hs.isOpen, Except.ok.injEq, Option.eq_none_iff_forall_ne_some]
    intro u hu
    refine h u ((hs.visitor_eq_some_iff hs.isOpen).1 ?_)
    rw [Database.visitor_of_isOpen hs.isOpen, hu]
  unfold withUser
  rw [hnone]

theorem withUser_cases (hs : s.database.Working) (v : Visit) :
    (∃ u, s.database.SignedIn v.jar v.now u ∧ ∀ k, s.withUser v k = k u) ∨
      ∀ k, s.withUser v k = s.unchanged v (.failure 401 "Authentication required") := by
  by_cases hu : ∃ u, s.database.SignedIn v.jar v.now u
  · obtain ⟨u, hu⟩ := hu
    exact .inl ⟨u, hu, withUser_of_signedIn hs hu⟩
  · exact .inr (withUser_of_not_signedIn hs (not_exists.1 hu))

/-! ### What a visit does -/

theorem keepsFavorites_complete (s : Service) (v : Visit) (a : Arrival)
    (code state error : Option String) :
    s.database.KeepsFavorites (s.complete v a code state error).service.database := by
  unfold complete
  dsimp only
  split
  · split
    · exact .refl _
    · exact .redeemSignIn ‹_›
    · have hredeemed := Database.KeepsFavorites.redeemSignIn ‹_›
      split
      · exact hredeemed
      · split
        · exact hredeemed
        · have hupserted := hredeemed.trans (.upsertUser ‹_›)
          split
          · exact hupserted
          · exact hupserted.trans (.logIn ‹_›)
  · exact .refl _

theorem keepsFavorites_logout (s : Service) (v : Visit) :
    s.database.KeepsFavorites (s.logout v).service.database := by
  unfold logout
  split
  · exact .refl _
  · exact .logOut ‹_›

theorem keepsFavorites_signIn (s : Service) (v : Visit) (returnTo : Option String) :
    s.database.KeepsFavorites (s.signIn v returnTo).service.database := by
  have hbegun :=
    Database.KeepsFavorites.beginSignIn s.database v.freshId (returnPath returnTo) v.now
  unfold signIn
  split_ifs
  · dsimp only
    split <;> exact hbegun
  · exact .refl _

/-- Either of the two writes to favorites, for a user who is signed in and asks for it. -/
structure Edits (s : Service) (e : Event) (u : User) (n : Nat) (db : Database) : Prop where
  signedIn : s.database.SignedIn e.visit.jar e.visit.now u
  favors : e.request.Favors n
  written : (∃ fresh, s.database.addFavorite u.id n = .ok (fresh, db)) ∨
    ∃ gone, s.database.removeFavorite u.id n = .ok (gone, db)

namespace Edits
variable {n : Nat} {db : Database}

/-- One row comes or goes, and nothing else changes. -/
theorem database_eq (h : s.Edits e u n db) :
    (db.favorites = s.database.favorites ∨
      db.favorites = s.database.favorites ++ [⟨u.id, n⟩] ∨
        db.favorites = s.database.favorites.filter (· != ⟨u.id, n⟩)) ∧
      db = { s.database with favorites := db.favorites } := by
  rcases h.written with ⟨_, hadd⟩ | ⟨_, hrem⟩
  · obtain ⟨-, -, ⟨-, -, rfl⟩ | ⟨-, -, -, rfl⟩⟩ := Database.addFavorite_eq_ok_iff.1 hadd
    · exact ⟨.inl rfl, rfl⟩
    · exact ⟨.inr (.inl rfl), rfl⟩
  · obtain ⟨-, -, rfl⟩ := Database.removeFavorite_eq_ok_iff.1 hrem
    exact ⟨.inr (.inr rfl), rfl⟩

theorem mem_favorites_iff (h : s.Edits e u n db) {f : Favorite} (hne : f ≠ ⟨u.id, n⟩) :
    f ∈ db.favorites ↔ f ∈ s.database.favorites := by
  rcases h.written with ⟨_, hadd⟩ | ⟨_, hrem⟩
  · exact Database.mem_favorites_addFavorite hadd hne
  · exact Database.mem_favorites_removeFavorite hrem hne

theorem working (h : s.Edits e u n db) (hs : s.database.Working) : db.Working := by
  obtain ⟨-, hrest⟩ := h.database_eq
  refine ⟨?_, ?_⟩
  · rcases h.written with ⟨_, hadd⟩ | ⟨_, hrem⟩
    · exact hs.addFavorite hadd
    · exact hs.removeFavorite hrem
  · rw [hrest]
    exact hs.isOpen

end Edits

theorem addFavorite_cases (hs : s.database.Working) (v : Visit) (a : Arrival)
    (codepoint : Option Int) :
    s.database.KeepsFavorites (s.addFavorite v codepoint).service.database ∨
      ∃ u n, s.Edits ⟨v, a, .addFavorite codepoint⟩ u n
        (s.addFavorite v codepoint).service.database := by
  unfold addFavorite
  rcases withUser_cases hs v with ⟨u, hu, huser⟩ | hrefused
  · rw [huser]
    cases codepoint with
    | none => exact .inl (.refl _)
    | some m =>
      dsimp only
      split_ifs with hm
      · obtain ⟨n, rfl⟩ := Int.eq_ofNat_of_zero_le hm.1
        rw [Int.toNat_natCast]
        cases hadd : s.database.addFavorite u.id n with
        | error err => exact .inl (.refl _)
        | ok result => exact .inr ⟨u, n, hu, .add (by omega), .inl ⟨_, hadd⟩⟩
      · exact .inl (.refl _)
  · rw [hrefused]
    exact .inl (.refl _)

theorem removeFavorite_cases (hs : s.database.Working) (v : Visit) (a : Arrival) (raw : String) :
    s.database.KeepsFavorites (s.removeFavorite v raw).service.database ∨
      ∃ u n, s.Edits ⟨v, a, .removeFavorite raw⟩ u n
        (s.removeFavorite v raw).service.database := by
  unfold removeFavorite
  rcases withUser_cases hs v with ⟨u, hu, huser⟩ | hrefused
  · rw [huser]
    cases hraw : Codepoint.ofText raw with
    | error err => exact .inl (.refl _)
    | ok n =>
      obtain ⟨hn, hmax⟩ := Codepoint.ofText_eq_ok_iff.1 hraw
      dsimp only [Except.bind]
      cases hrem : s.database.removeFavorite u.id n with
      | error err => exact .inl (.refl _)
      | ok result => exact .inr ⟨u, n, hu, .remove hn hmax, .inr ⟨_, hrem⟩⟩
  · rw [hrefused]
    exact .inl (.refl _)

theorem keepsFavorites_favorites (s : Service) (v : Visit) :
    s.database.KeepsFavorites (s.favorites v).service.database := by
  unfold favorites withUser
  split
  · exact .refl _
  · exact .refl _
  · dsimp only
    split <;> exact .refl _

/-- A visit leaves favorites as they are, or is that of a user who is signed in and asks to change
them. -/
theorem after_cases (hs : s.database.Working) (e : Event) :
    s.database.KeepsFavorites (s.after e).database ∨ ∃ u n, s.Edits e u n (s.after e).database := by
  obtain ⟨v, a, request⟩ := e
  cases request with
  | addFavorite codepoint => exact addFavorite_cases hs v a codepoint
  | removeFavorite raw => exact removeFavorite_cases hs v a raw
  | favorites => exact .inl (keepsFavorites_favorites s v)
  | logout => exact .inl (keepsFavorites_logout s v)
  | signIn returnTo => exact .inl (keepsFavorites_signIn s v returnTo)
  | signInReturn code state error => exact .inl (keepsFavorites_complete s v a code state error)
  | _ => exact .inl (.refl _)

theorem working_after (hs : s.database.Working) (e : Event) : (s.after e).database.Working := by
  rcases after_cases hs e with hkeeps | ⟨u, n, hedits⟩
  · exact hkeeps.working hs
  · exact hedits.working hs

theorem working_afterAll (hs : s.database.Working) (es : List Event) :
    (s.afterAll es).database.Working := by
  induction es generalizing s with
  | nil => exact hs
  | cons e es ih => exact ih (working_after hs e)

theorem exists_edits_of_ne (hs : s.database.Working)
    (hne : (s.after e).database.favorites ≠ s.database.favorites) :
    ∃ u n, s.Edits e u n (s.after e).database :=
  (after_cases hs e).resolve_left fun hkeeps => hne hkeeps.favorites

/-- A row that a run has changed was changed by its own user. -/
theorem exists_edits_of_afterAll (hs : s.database.Working) {f : Favorite} (es : List Event)
    (hf : ¬(f ∈ (s.afterAll es).database.favorites ↔ f ∈ s.database.favorites)) :
    ∃ before e after u, es = before ++ e :: after ∧
      (s.afterAll before).Edits e u f.codepoint ((s.afterAll before).after e).database ∧
        u.id = f.user := by
  induction es generalizing s with
  | nil => exact absurd Iff.rfl hf
  | cons e es ih =>
    -- the first visit changed the row, or a later one did
    by_cases hrest : f ∈ ((s.after e).afterAll es).database.favorites ↔
        f ∈ (s.after e).database.favorites
    · have hfirst : ¬(f ∈ (s.after e).database.favorites ↔ f ∈ s.database.favorites) :=
        fun hiff => hf (hrest.trans hiff)
      obtain ⟨u, n, hedits⟩ := exists_edits_of_ne hs fun he => hfirst (by rw [he])
      have hrow : f = ⟨u.id, n⟩ := by
        by_contra hne
        exact hfirst (hedits.mem_favorites_iff hne)
      subst hrow
      exact ⟨[], e, es, u, rfl, hedits, rfl⟩
    · obtain ⟨before, e', after, u, rfl, hedits, huser⟩ := ih (working_after hs e) hrest
      exact ⟨e :: before, e', after, u, rfl, hedits, huser⟩

/-! ### Answers -/

theorem handleArrival_of_not_signedIn (hs : s.database.Working)
    (h : ∀ u, ¬s.database.SignedIn v.jar v.now u) {request : Request} (hreq : request.isPrivate)
    (a : Arrival) : s.handleArrival v a request =
      s.unchanged v (.failure 401 "Authentication required") := by
  cases request with
  | favorites => exact withUser_of_not_signedIn hs h _
  | addFavorite codepoint => exact withUser_of_not_signedIn hs h _
  | removeFavorite raw => exact withUser_of_not_signedIn hs h _
  | _ => cases hreq

theorem exists_favorites_of_signedIn (hs : s.database.Working)
    (hu : s.database.SignedIn v.jar v.now u) : ∃ l : List Nat,
      s.favorites v =
        s.unchanged v (.ok (.object [("favorites", .list (l.map fun (n : Nat) => .int n))])) ∧
      ∀ n, n ∈ l ↔ ⟨u.id, n⟩ ∈ s.database.favorites := by
  obtain ⟨favs, hfavs, hmem, -⟩ := hs.exists_favoritesOf hs.isOpen u.id
  refine ⟨favs.toList, ?_, hmem⟩
  unfold favorites
  rw [withUser_of_signedIn hs hu, hfavs]

/-- At any point of a run, a visit changes the favorites only if the cookie names a session that is
known and has not run out, its user is known, and the visit asks to add or remove a code point. Then
the row of that user and code point comes or goes and all else stays. Whoever is not signed in is
refused and changes nothing; whoever is sees the own favorites. So each row that a run has changed
was changed by a visit of its own user. -/
theorem favorites_guarded (hs : s.database.Working) (es : List Event) (ht : s.afterAll es = t) :
    (∀ e, (t.after e).database.favorites ≠ t.database.favorites →
      ∃ u n, t.database.SignedIn e.visit.jar e.visit.now u ∧ e.request.Favors n ∧
        ((t.after e).database.favorites = t.database.favorites ++ [⟨u.id, n⟩] ∨
          (t.after e).database.favorites = t.database.favorites.filter (· != ⟨u.id, n⟩)) ∧
        (t.after e).database =
          { t.database with favorites := (t.after e).database.favorites }) ∧
    (∀ v, (∀ u, ¬t.database.SignedIn v.jar v.now u) → ∀ request, request.isPrivate → ∀ a,
      t.handleArrival v a request = t.unchanged v (.failure 401 "Authentication required")) ∧
    (∀ v u, t.database.SignedIn v.jar v.now u →
      (∀ other, t.database.SignedIn v.jar v.now other → other = u) ∧ ∃ l : List Nat,
        t.favorites v =
          t.unchanged v (.ok (.object [("favorites", .list (l.map fun (n : Nat) => .int n))])) ∧
        ∀ n, n ∈ l ↔ ⟨u.id, n⟩ ∈ t.database.favorites) ∧
    ∀ f, ¬(f ∈ t.database.favorites ↔ f ∈ s.database.favorites) →
      ∃ before e after u, es = before ++ e :: after ∧
        (s.afterAll before).database.SignedIn e.visit.jar e.visit.now u ∧ u.id = f.user ∧
          e.request.Favors f.codepoint := by
  subst ht
  have ht := working_afterAll hs es
  refine ⟨fun e hne => ?_, fun v hv request hreq a => handleArrival_of_not_signedIn ht hv hreq a,
    fun v u hu => ⟨fun other hother => ht.signedIn_unique ht.isOpen hother hu,
      exists_favorites_of_signedIn ht hu⟩, fun f hf => ?_⟩
  · obtain ⟨u, n, hedits⟩ := exists_edits_of_ne ht hne
    obtain ⟨hfav, hrest⟩ := hedits.database_eq
    exact ⟨u, n, hedits.signedIn, hedits.favors, hfav.resolve_left hne, hrest⟩
  · obtain ⟨before, e, after, u, hsplit, hedits, huser⟩ := exists_edits_of_afterAll hs es hf
    exact ⟨before, e, after, u, hsplit, hedits.signedIn, huser, hedits.favors⟩

def oneSession : Service where
  database := {
    users := [{ id := "u1", googleId := "g1", createdAt := "" }]
    sessions := [⟨"s1", "u1", "2030-01-01 00:00:00"⟩] }
  catalog := ⟨fun _ => []⟩

def visitWith (cookie : String) : Visit :=
  ⟨⟨some { value := cookie }⟩, ⟨0⟩, "fresh"⟩

/-- The second visit comes with a cookie that names no session. -/
def twoVisits : List Event :=
  [⟨visitWith "s1", ⟨none, "", ""⟩, .addFavorite (some 0x41)⟩,
    ⟨visitWith "s2", ⟨none, "", ""⟩, .removeFavorite "65"⟩]

theorem favorites_guarded_twoVisits :
    oneSession.database.Working ∧
    (∀ a, (oneSession.afterAll twoVisits).handleArrival (visitWith "s2") a .favorites =
      (oneSession.afterAll twoVisits).unchanged (visitWith "s2")
        (.failure 401 "Authentication required")) ∧
    (oneSession.afterAll twoVisits).database.favorites = [⟨"u1", 0x41⟩] ∧
    ∃ before e after u, twoVisits = before ++ e :: after ∧
      (oneSession.afterAll before).database.SignedIn e.visit.jar e.visit.now u ∧ u.id = "u1" ∧
        e.request.Favors 0x41 := by
  have hworking : oneSession.database.Working := by
    have hsession : (Database.empty.afterAll [.user ⟨"u1", "g1", none, none, none, ""⟩]).addSession
        ⟨"s1", "u1", "2030-01-01 00:00:00"⟩ = .ok oneSession.database := rfl
    exact (Database.KeepsFavorites.addSession hsession).working
      (Database.working_afterAll (by simp))
  have hids : (oneSession.afterAll twoVisits).database.sessions.map (·.id) = ["s1"] := by
    decide +kernel
  have hfavorites : (oneSession.afterAll twoVisits).database.favorites = [⟨"u1", 0x41⟩] := by
    decide +kernel
  obtain ⟨-, hrefused, -, hchanged⟩ := favorites_guarded hworking twoVisits rfl
  refine ⟨hworking, hrefused (visitWith "s2") ?_ .favorites rfl, hfavorites,
    hchanged ⟨"u1", 0x41⟩ ?_⟩
  · rintro u ⟨⟨c, s, hc, hs, hid, -⟩, -⟩
    cases hc
    have hmem : "s2" ∈ ["s1"] := hids ▸ List.mem_map.2 ⟨s, hs, hid⟩
    exact absurd hmem (by decide)
  · rw [hfavorites]
    simp [oneSession]

end Service
end CharAtlas
