import CharAtlas.Proofs.Store.Accounts
import CharAtlas.Proofs.Store.Pairs
import Mathlib.Data.Set.Insert
import Mathlib.Logic.Function.Basic

/-! # Favorites are sets

Users add, remove and list favorites (`FavoriteCall`) while characters are written.
`FavoriteSets.Step` says what a call does where each user has a set of code points, which is one
thing only (`FavoriteSets.Step.unique`), and `Database.run_transcript` that the table of favorites
does the same. What the calls of one user reply does not depend on those of others
(`Database.transcript_filter`), and calls of different users commute (`Database.call_comm`). -/

namespace CharAtlas

inductive FavoriteCall where
  | add (user : String) (codepoint : Nat)
  | remove (user : String) (codepoint : Nat)
  | list (user : String)
  | putCharacter (c : Character)

inductive FavoriteReply where
  /-- Whether there is a row more, or a row less. -/
  | changed (b : Bool)
  | listed (codepoints : List Nat)
  | written
  | refused (e : Error)

/-- Whose favorites the call is about. -/
def FavoriteCall.user? : FavoriteCall → Option String
  | add user _ => some user
  | remove user _ => some user
  | list user => some user
  | putCharacter _ => none

theorem FavoriteCall.user?_eq_none_iff {k : FavoriteCall} :
    k.user? = none ↔ ∃ c, k = .putCharacter c := by
  cases k <;> simp [user?]

/-! ### Sets of code points -/

abbrev FavoriteSets := String → Set Nat

namespace FavoriteSets

def insert (s : FavoriteSets) (user : String) (n : Nat) : FavoriteSets :=
  Function.update s user (Insert.insert n (s user))

def erase (s : FavoriteSets) (user : String) (n : Nat) : FavoriteSets :=
  Function.update s user (s user \ {n})

/-- What a call does to the sets, and its reply. -/
inductive Step (known : String → Prop) (s : FavoriteSets) :
    FavoriteCall → FavoriteReply → FavoriteSets → Prop
  | outOfRange {user n} : Codepoint.max < n →
      Step known s (.add user n) (.refused (Codepoint.invalid n)) s
  | unknownUser {user n} : n ≤ Codepoint.max → ¬known user →
      Step known s (.add user n) (.refused (.store .foreignKey)) s
  | added {user n} : n ≤ Codepoint.max → known user → n ∉ s user →
      Step known s (.add user n) (.changed true) (s.insert user n)
  | present {user n} : n ≤ Codepoint.max → known user → n ∈ s user →
      Step known s (.add user n) (.changed false) s
  | removed {user n} : n ∈ s user → Step known s (.remove user n) (.changed true) (s.erase user n)
  | absent {user n} : n ∉ s user → Step known s (.remove user n) (.changed false) s
  | listed {user l} : l.Pairwise (· < ·) → (∀ n, n ∈ l ↔ n ∈ s user) →
      Step known s (.list user) (.listed l) s
  | written {c} : c.codepoint ≤ Codepoint.max → Step known s (.putCharacter c) .written s
  | unwritten {c} : Codepoint.max < c.codepoint →
      Step known s (.putCharacter c) (.refused (Codepoint.invalid c.codepoint)) s

/-- The sets decide what a call replies and does. -/
theorem Step.unique {known : String → Prop} {s t t' : FavoriteSets} {k : FavoriteCall}
    {reply reply' : FavoriteReply} (h : Step known s k reply t) (h' : Step known s k reply' t') :
    reply = reply' ∧ t = t' := by
  cases h with
  | outOfRange hmax =>
    cases h' with
    | outOfRange => exact ⟨rfl, rfl⟩
    | unknownUser hle | added hle | present hle => exact absurd hmax (Nat.not_lt.2 hle)
  | unknownUser hle hknown =>
    cases h' with
    | outOfRange hmax => exact absurd hmax (Nat.not_lt.2 hle)
    | unknownUser => exact ⟨rfl, rfl⟩
    | added _ huser | present _ huser => exact absurd huser hknown
  | added hle huser hnew =>
    cases h' with
    | outOfRange hmax => exact absurd hmax (Nat.not_lt.2 hle)
    | unknownUser _ hknown => exact absurd huser hknown
    | added => exact ⟨rfl, rfl⟩
    | present _ _ hmem => exact absurd hmem hnew
  | present hle huser hmem =>
    cases h' with
    | outOfRange hmax => exact absurd hmax (Nat.not_lt.2 hle)
    | unknownUser _ hknown => exact absurd huser hknown
    | added _ _ hnew => exact absurd hmem hnew
    | present => exact ⟨rfl, rfl⟩
  | removed hmem =>
    cases h' with
    | removed => exact ⟨rfl, rfl⟩
    | absent hnew => exact absurd hmem hnew
  | absent hnew =>
    cases h' with
    | removed hmem => exact absurd hmem hnew
    | absent => exact ⟨rfl, rfl⟩
  | listed hl hmem =>
    cases h' with
    | listed hl' hmem' =>
      rw [OrderedSet.eq_of_pairwise_of_mem_iff hl hl' fun n => (hmem n).trans (hmem' n).symm]
      exact ⟨rfl, rfl⟩
  | written hle =>
    cases h' with
    | written => exact ⟨rfl, rfl⟩
    | unwritten hmax => exact absurd hmax (Nat.not_lt.2 hle)
  | unwritten hmax =>
    cases h' with
    | written hle => exact absurd hmax (Nat.not_lt.2 hle)
    | unwritten => exact ⟨rfl, rfl⟩

/-- Step after step, from the first call to the last. -/
inductive Run (known : String → Prop) :
    FavoriteSets → List (FavoriteCall × FavoriteReply) → FavoriteSets → Prop
  | nil {s} : Run known s [] s
  | cons {s t u k reply rest} : Step known s k reply t → Run known t rest u →
      Run known s ((k, reply) :: rest) u

end FavoriteSets

namespace Database
variable {db db' : Database} {user other : String} {n : Nat} {j k : FavoriteCall}
  {ws : List Write}

/-! ### Calls -/

/-- A refusal leaves the database as it was. -/
def replying {α : Type} (db : Database) (reply : α → FavoriteReply) :
    Except Error (α × Database) → FavoriteReply × Database
  | .ok (a, db') => (reply a, db')
  | .error e => (.refused e, db)

def call (db : Database) : FavoriteCall → FavoriteReply × Database
  | .add user n => db.replying .changed (db.addFavorite user n)
  | .remove user n => db.replying .changed (db.removeFavorite user n)
  | .list user => db.replying (fun s => .listed s.toList) ((db.favoritesOf user).map (·, db))
  | .putCharacter c => db.replying (fun () => .written) ((db.putCharacter c).map ((), ·))

theorem call_add : db.call (.add user n) = db.replying .changed (db.addFavorite user n) := rfl

theorem call_remove : db.call (.remove user n) = db.replying .changed (db.removeFavorite user n) :=
  rfl

theorem call_list : db.call (.list user) =
    db.replying (fun s => .listed s.toList) ((db.favoritesOf user).map (·, db)) := rfl

theorem call_putCharacter {c : Character} : db.call (.putCharacter c) =
    db.replying (fun () => .written) ((db.putCharacter c).map ((), ·)) := rfl

/-- The calls with their replies. -/
def transcript (db : Database) : List FavoriteCall → List (FavoriteCall × FavoriteReply)
  | [] => []
  | k :: ks => (k, (db.call k).1) :: (db.call k).2.transcript ks

def afterCalls (db : Database) (ks : List FavoriteCall) : Database :=
  ks.foldl (fun db k => (db.call k).2) db

def favoriteSets (db : Database) : FavoriteSets :=
  fun user => {n | ⟨user, n⟩ ∈ db.favorites}

/-- What a call writes, refused or not. -/
def callWrites : FavoriteCall → List Write
  | .add user n => [.addFavorite user n]
  | .remove user n => [.removeFavorite user n]
  | .list _ => []
  | .putCharacter c => [.character c]

theorem call_snd (db : Database) (k : FavoriteCall) :
    (db.call k).2 = db.afterAll (callWrites k) := by
  have hreplying : ∀ {α : Type} {reply : α → FavoriteReply} {x : Except Error (α × Database)} {w},
      db.perform w = x.map (·.2) → (db.replying reply x).2 = db.after w := by
    intro α reply x w hw
    cases x with
    | ok result => exact (after_of_ok hw).symm
    | error e => exact (after_of_error hw).symm
  cases k with
  | add user n => exact hreplying rfl
  | remove user n => exact hreplying rfl
  | list user =>
    rw [call_list]
    cases db.favoritesOf user <;> rfl
  | putCharacter c =>
    refine hreplying ?_
    show db.putCharacter c = _
    cases db.putCharacter c <;> rfl

theorem afterCalls_eq_afterAll (db : Database) (ks : List FavoriteCall) :
    db.afterCalls ks = db.afterAll (ks.flatMap callWrites) := by
  induction ks generalizing db with
  | nil => rfl
  | cons k ks ih =>
    rw [List.flatMap_cons, afterAll_append, ← call_snd]
    exact ih _

theorem close_not_mem_callWrites (k : FavoriteCall) : .close ∉ callWrites k := by
  cases k <;> simp [callWrites]

theorem Keyed.call (h : db.Keyed) (k : FavoriteCall) : (db.call k).2.Keyed :=
  db.call_snd k ▸ h.afterAll _

theorem isOpen_call (db : Database) (k : FavoriteCall) : (db.call k).2.isOpen = db.isOpen := by
  rw [call_snd, isOpen_afterAll (close_not_mem_callWrites k)]

theorem Keyed.afterCalls (h : db.Keyed) (ks : List FavoriteCall) : (db.afterCalls ks).Keyed :=
  db.afterCalls_eq_afterAll ks ▸ h.afterAll _

theorem isOpen_afterCalls (db : Database) (ks : List FavoriteCall) :
    (db.afterCalls ks).isOpen = db.isOpen := by
  rw [afterCalls_eq_afterAll, isOpen_afterAll]
  rw [List.mem_flatMap]
  rintro ⟨k, -, hk⟩
  exact close_not_mem_callWrites k hk

/-- Calls on favorites change the favorites and nothing else. -/
theorem exists_call_favorites (h : k.user? ≠ none) :
    ∃ favorites, (db.call k).2 = { db with favorites := favorites } := by
  cases k with
  | add user n =>
    rw [call_add]
    cases hadd : db.addFavorite user n with
    | ok result => exact addFavorite_eq_ok hadd
    | error e => exact ⟨_, rfl⟩
  | remove user n =>
    rw [call_remove]
    cases hrem : db.removeFavorite user n with
    | ok result => exact removeFavorite_eq_ok hrem
    | error e => exact ⟨_, rfl⟩
  | list user =>
    rw [call_list]
    cases db.favoritesOf user <;> exact ⟨_, rfl⟩
  | putCharacter c => exact absurd rfl h

theorem exists_call_putCharacter (db : Database) (c : Character) :
    ∃ characters trigrams, (db.call (.putCharacter c)).2 =
      { db with characters := characters, nameTrigrams := trigrams } := by
  rw [call_putCharacter]
  cases hput : db.putCharacter c with
  | ok db' =>
    obtain ⟨-, -, rfl⟩ := putCharacter_eq_ok_iff.1 hput
    exact ⟨_, _, rfl⟩
  | error e => exact ⟨_, _, rfl⟩

theorem users_call (db : Database) (k : FavoriteCall) : (db.call k).2.users = db.users := by
  by_cases hk : k.user? = none
  · obtain ⟨c, rfl⟩ := FavoriteCall.user?_eq_none_iff.1 hk
    obtain ⟨_, _, hcall⟩ := exists_call_putCharacter db c
    rw [hcall]
  · obtain ⟨_, hcall⟩ := @exists_call_favorites db k hk
    rw [hcall]

/-- A call is about the rows of its user only. -/
theorem mem_favorites_call {f : Favorite} (hk : k.user? ≠ some f.user) :
    f ∈ (db.call k).2.favorites ↔ f ∈ db.favorites := by
  have hne : ∀ {user n}, FavoriteCall.user? k = some user → f ≠ ⟨user, n⟩ := by
    rintro user n huser rfl
    exact hk huser
  cases k with
  | add user n =>
    rw [call_add]
    cases hadd : db.addFavorite user n with
    | ok result => exact mem_favorites_addFavorite hadd (hne rfl)
    | error e => exact Iff.rfl
  | remove user n =>
    rw [call_remove]
    cases hrem : db.removeFavorite user n with
    | ok result => exact mem_favorites_removeFavorite hrem (hne rfl)
    | error e => exact Iff.rfl
  | list user =>
    rw [call_list]
    cases db.favoritesOf user <;> exact Iff.rfl
  | putCharacter c =>
    obtain ⟨_, _, hcall⟩ := exists_call_putCharacter db c
    rw [hcall]

/-! ### The table refines the sets -/

theorem favoriteSets_append (db : Database) (user : String) (n : Nat) :
    ({ db with favorites := db.favorites ++ [(⟨user, n⟩ : Favorite)] }).favoriteSets =
      db.favoriteSets.insert user n := by
  funext other
  ext m
  unfold favoriteSets FavoriteSets.insert
  by_cases hother : other = user
  · subst hother
    simp [or_comm]
  · simp [hother]

theorem favoriteSets_filter (db : Database) (user : String) (n : Nat) :
    ({ db with favorites := db.favorites.filter (· != (⟨user, n⟩ : Favorite)) }).favoriteSets =
      db.favoriteSets.erase user n := by
  funext other
  ext m
  unfold favoriteSets FavoriteSets.erase
  by_cases hother : other = user
  · subst hother
    simp
  · simp [hother]

theorem removeFavorite_of_not_mem (hopen : db.isOpen = true) (h : ⟨user, n⟩ ∉ db.favorites) :
    db.removeFavorite user n = .ok (false, db) := by
  have hsame : db.favorites.filter (· != ⟨user, n⟩) = db.favorites := by
    rw [List.filter_eq_self]
    rintro f hf
    rw [bne_iff_ne]
    rintro rfl
    exact h hf
  refine removeFavorite_eq_ok_iff.2 ⟨hopen, by simp [h], ?_⟩
  rw [hsame]

theorem mem_favoriteCodepoints : n ∈ db.favoriteCodepoints user ↔ ⟨user, n⟩ ∈ db.favorites := by
  unfold favoriteCodepoints
  rw [List.mem_map]
  constructor
  · rintro ⟨f, hf, rfl⟩
    obtain ⟨hf, huser⟩ := List.mem_filter.1 hf
    rwa [← beq_iff_eq.1 huser]
  · exact fun hf => ⟨_, List.mem_filter.2 ⟨hf, beq_self_eq_true user⟩, rfl⟩

theorem favoritesOf_of_isOpen (hopen : db.isOpen = true) (user : String) : db.favoritesOf user =
    .ok (.ofList ((db.favoriteCodepoints user).filter (· ≤ Numeral.max32))) := by
  unfold favoritesOf access
  rw [if_pos hopen]
  rfl

/-- No favorite is left out. -/
theorem Keyed.filter_favoriteCodepoints (h : db.Keyed) (user : String) :
    (db.favoriteCodepoints user).filter (· ≤ Numeral.max32) = db.favoriteCodepoints user := by
  rw [List.filter_eq_self]
  intro n hn
  have hmax := h.bounded _ (mem_favoriteCodepoints.1 hn)
  exact decide_eq_true (Nat.le_trans hmax (by decide))

theorem Keyed.exists_favoritesOf (h : db.Keyed) (hopen : db.isOpen = true) (user : String) :
    ∃ s, db.favoritesOf user = .ok s ∧ (∀ n, n ∈ s ↔ ⟨user, n⟩ ∈ db.favorites) ∧
      s.toList.Perm (db.favoriteCodepoints user) := by
  have hmem : ∀ n, n ∈ OrderedSet.ofList (db.favoriteCodepoints user) ↔ ⟨user, n⟩ ∈ db.favorites :=
    fun n => by rw [OrderedSet.mem_ofList, mem_favoriteCodepoints]
  have hnodup : (db.favoriteCodepoints user).Nodup := by
    refine (h.favorites.filter _).map_on fun f hf g hg hfg => ?_
    have hfu : f.user = user := beq_iff_eq.1 (List.mem_filter.1 hf).2
    have hgu : g.user = user := beq_iff_eq.1 (List.mem_filter.1 hg).2
    cases f
    cases g
    simp_all
  refine ⟨_, favoritesOf_of_isOpen hopen user, ?_, ?_⟩
  · rw [h.filter_favoriteCodepoints]
    exact hmem
  · rw [h.filter_favoriteCodepoints, List.perm_ext_iff_of_nodup (OrderedSet.nodup _) hnodup]
    intro n
    rw [OrderedSet.mem_toList, OrderedSet.mem_ofList]

theorem step_call (h : db.Keyed) (hopen : db.isOpen = true) (k : FavoriteCall) :
    FavoriteSets.Step (db.userExists · = true) db.favoriteSets k (db.call k).1
      (db.call k).2.favoriteSets := by
  cases k with
  | add user n =>
    rw [call_add]
    cases hadd : db.addFavorite user n with
    | ok result =>
      obtain ⟨fresh, db'⟩ := result
      obtain ⟨hmax, -, ⟨hmem, rfl, rfl⟩ | ⟨hnew, huser, rfl, rfl⟩⟩ := addFavorite_eq_ok_iff.1 hadd
      · exact .present hmax (h.owned _ hmem) hmem
      · show FavoriteSets.Step _ _ _ _ (favoriteSets { db with favorites := _ })
        rw [favoriteSets_append]
        exact .added hmax huser hnew
    | error e =>
      rcases (addFavorite_eq_error_iff hopen).1 hadd with ⟨hmax, rfl⟩ | ⟨hmax, -, huser, rfl⟩
      · exact .outOfRange hmax
      · exact .unknownUser hmax (by simp [huser])
  | remove user n =>
    rw [call_remove]
    by_cases hmem : ⟨user, n⟩ ∈ db.favorites
    · rw [removeFavorite_of_isOpen hopen, isFavorite_iff.2 hmem]
      show FavoriteSets.Step _ _ _ _ (favoriteSets { db with favorites := _ })
      rw [favoriteSets_filter]
      exact .removed hmem
    · rw [removeFavorite_of_not_mem hopen hmem]
      exact .absent hmem
  | list user =>
    rw [call_list]
    obtain ⟨s, hs, hmem, -⟩ := h.exists_favoritesOf hopen user
    rw [hs]
    exact .listed s.ascending hmem
  | putCharacter c =>
    rw [call_putCharacter]
    by_cases hmax : c.codepoint ≤ Codepoint.max
    · rw [putCharacter_eq_ok_iff.2 ⟨hmax, hopen, rfl⟩]
      exact .written hmax
    · rw [putCharacter_of_lt (Nat.not_le.1 hmax)]
      exact .unwritten (Nat.not_le.1 hmax)

/-- Whatever the calls are, the table of favorites replies as the sets do and ends with them. -/
theorem run_transcript (h : db.Keyed) (hopen : db.isOpen = true) (ks : List FavoriteCall) :
    FavoriteSets.Run (db.userExists · = true) db.favoriteSets (db.transcript ks)
      (db.afterCalls ks).favoriteSets := by
  induction ks generalizing db with
  | nil => exact .nil
  | cons k ks ih =>
    have hrest := ih (h.call k) ((isOpen_call db k).trans hopen)
    have hknown : (db.call k).2.userExists = db.userExists := by
      unfold userExists
      rw [users_call]
    rw [hknown] at hrest
    exact .cons (step_call h hopen k) hrest

/-- Replies that tell of no change tell the truth. -/
theorem call_snd_eq_self (hopen : db.isOpen = true)
    (h : (db.call k).1 = .changed false ∨ (∃ l, (db.call k).1 = .listed l) ∨
      ∃ e, (db.call k).1 = .refused e) : (db.call k).2 = db := by
  cases k with
  | add user n =>
    rw [call_add] at h ⊢
    cases hadd : db.addFavorite user n with
    | ok result =>
      obtain ⟨fresh, db'⟩ := result
      rw [hadd] at h
      obtain ⟨-, -, ⟨-, -, rfl⟩ | ⟨-, -, rfl, -⟩⟩ := addFavorite_eq_ok_iff.1 hadd
      · rfl
      · simp [replying] at h
    | error e => rfl
  | remove user n =>
    by_cases hmem : ⟨user, n⟩ ∈ db.favorites
    · rw [call_remove, removeFavorite_of_isOpen hopen, isFavorite_iff.2 hmem] at h
      simp [replying] at h
    · rw [call_remove, removeFavorite_of_not_mem hopen hmem]
      rfl
  | list user =>
    rw [call_list]
    cases db.favoritesOf user <;> rfl
  | putCharacter c =>
    rw [call_putCharacter] at h ⊢
    cases hput : db.putCharacter c with
    | ok db' =>
      rw [hput] at h
      simp [replying, Except.map] at h
    | error e => rfl

/-! ### Users do not meet -/

/-- Whatever a user can notice through favorites is the same. -/
structure SameFor (user : String) (db db' : Database) : Prop where
  isOpen : db.isOpen = db'.isOpen
  known : db.userExists user = db'.userExists user
  favorites : ∀ n, ⟨user, n⟩ ∈ db.favorites ↔ ⟨user, n⟩ ∈ db'.favorites

namespace SameFor

theorem refl (user : String) (db : Database) : SameFor user db db :=
  ⟨rfl, rfl, fun _ => Iff.rfl⟩

theorem symm (h : SameFor user db db') : SameFor user db' db :=
  ⟨h.isOpen.symm, h.known.symm, fun n => (h.favorites n).symm⟩

theorem trans {db'' : Database} (h : SameFor user db db') (h' : SameFor user db' db'') :
    SameFor user db db'' :=
  ⟨h.isOpen.trans h'.isOpen, h.known.trans h'.known,
    fun n => (h.favorites n).trans (h'.favorites n)⟩

theorem isFavorite_eq (h : SameFor user db db') (n : Nat) :
    db.isFavorite user n = db'.isFavorite user n := by
  rw [Bool.eq_iff_iff, isFavorite_iff, isFavorite_iff, h.favorites]

/-- Calls of the user do the same and reply the same. -/
theorem call (h : SameFor user db db') (hk : k.user? = some user) :
    (db.call k).1 = (db'.call k).1 ∧ SameFor user (db.call k).2 (db'.call k).2 := by
  cases k with
  | add other n =>
    cases hk
    rw [call_add, call_add]
    unfold addFavorite
    rw [h.isOpen, h.isFavorite_eq, h.known]
    split_ifs
    · exact ⟨rfl, h⟩
    · exact ⟨rfl, h⟩
    · exact ⟨rfl, h⟩
    · exact ⟨rfl, h⟩
    · refine ⟨rfl, rfl, h.known, fun m => ?_⟩
      show _ ∈ db.favorites ++ [_] ↔ _ ∈ db'.favorites ++ [_]
      rw [List.mem_append, List.mem_append, h.favorites]
  | remove other n =>
    cases hk
    rw [call_remove, call_remove]
    unfold removeFavorite access
    rw [h.isOpen, h.isFavorite_eq]
    split_ifs
    · refine ⟨rfl, rfl, h.known, fun m => ?_⟩
      show _ ∈ db.favorites.filter _ ↔ _ ∈ db'.favorites.filter _
      rw [List.mem_filter, List.mem_filter, h.favorites]
    · exact ⟨rfl, h⟩
  | list other =>
    cases hk
    have hlist : OrderedSet.ofList ((db.favoriteCodepoints user).filter (· ≤ Numeral.max32)) =
        .ofList ((db'.favoriteCodepoints user).filter (· ≤ Numeral.max32)) := by
      refine OrderedSet.ext fun n => ?_
      rw [OrderedSet.mem_ofList, OrderedSet.mem_ofList, List.mem_filter, List.mem_filter,
        mem_favoriteCodepoints, mem_favoriteCodepoints, h.favorites]
    rw [call_list, call_list]
    unfold favoritesOf access
    rw [h.isOpen, hlist]
    split_ifs <;> exact ⟨rfl, h⟩
  | putCharacter c => cases hk

/-- Calls of others change nothing for the user. -/
theorem of_call (db : Database) (hk : k.user? ≠ some user) : SameFor user db (db.call k).2 := by
  refine ⟨(isOpen_call db k).symm, ?_, fun n => (mem_favorites_call hk).symm⟩
  unfold userExists
  rw [users_call]

end SameFor

theorem transcript_filter_congr (h : SameFor user db db') (ks : List FavoriteCall) :
    (db.transcript ks).filter (·.1.user? = some user) =
      db'.transcript (ks.filter (·.user? = some user)) := by
  -- calls of others drive the databases apart, but not for this user
  induction ks generalizing db db' with
  | nil => rfl
  | cons k ks ih =>
    rw [transcript]
    by_cases hk : k.user? = some user
    · obtain ⟨hreply, hafter⟩ := h.call hk
      rw [List.filter_cons_of_pos (by simpa using hk), List.filter_cons_of_pos (by simpa using hk),
        transcript, ih hafter, hreply]
    · rw [List.filter_cons_of_neg (by simpa using hk), List.filter_cons_of_neg (by simpa using hk)]
      exact ih ((SameFor.of_call db hk).symm.trans h)

/-- The replies to a user are those that there would be without the others. -/
theorem transcript_filter (db : Database) (user : String) (ks : List FavoriteCall) :
    (db.transcript ks).filter (·.1.user? = some user) =
      db.transcript (ks.filter (·.user? = some user)) :=
  transcript_filter_congr (.refl user db) ks

/-- The same database, but for the order of the favorites. -/
def SameButOrder (db db' : Database) : Prop :=
  ∃ favorites, db' = { db with favorites := favorites } ∧ favorites.Perm db.favorites

/-- Calls of two users reply the same in either order, and end with the same database. -/
theorem call_comm (h : db.Keyed) (hj : j.user? = some user) (hk : k.user? = some other)
    (hne : user ≠ other) :
    ((db.call j).2.call k).1 = (db.call k).1 ∧ ((db.call k).2.call j).1 = (db.call j).1 ∧
      SameButOrder ((db.call j).2.call k).2 ((db.call k).2.call j).2 := by
  have hjo : j.user? ≠ some other := fun he => hne (Option.some.inj (hj.symm.trans he))
  have hku : k.user? ≠ some user := fun he => hne (Option.some.inj (he.symm.trans hk))
  obtain ⟨hreplyk, hafterk⟩ := (SameFor.of_call db hjo).call hk
  obtain ⟨hreplyj, hafterj⟩ := (SameFor.of_call db hku).call hj
  refine ⟨hreplyk.symm, hreplyj.symm, ?_⟩
  -- a row changes by the call of its own user only, whenever that comes
  have hmem : ∀ f, f ∈ ((db.call k).2.call j).2.favorites ↔
      f ∈ ((db.call j).2.call k).2.favorites := by
    intro f
    by_cases hf : f.user = other
    · subst hf
      exact (mem_favorites_call hjo).trans (hafterk.favorites f.codepoint)
    · have hkf : k.user? ≠ some f.user := fun he => hf (Option.some.inj (he.symm.trans hk))
      refine Iff.trans ?_ (mem_favorites_call hkf).symm
      by_cases hfu : f.user = user
      · subst hfu
        exact (hafterj.favorites f.codepoint).symm
      · have hjf : j.user? ≠ some f.user := fun he => hfu (Option.some.inj (he.symm.trans hj))
        rw [mem_favorites_call hjf, mem_favorites_call hjf, mem_favorites_call hkf]
  refine ⟨_, ?_, (List.perm_ext_iff_of_nodup ((h.call k).call j).favorites
    ((h.call j).call k).favorites).2 hmem⟩
  have hrest : ∀ {j k}, FavoriteCall.user? j ≠ none → FavoriteCall.user? k ≠ none →
      ((db.call j).2.call k).2 = { db with favorites := ((db.call j).2.call k).2.favorites } := by
    intro j k hj hk
    obtain ⟨_, hfirst⟩ := @exists_call_favorites db j hj
    obtain ⟨_, hboth⟩ := @exists_call_favorites (db.call j).2 k hk
    rw [hboth, hfirst]
  have hjn : j.user? ≠ none := hj ▸ Option.some_ne_none user
  have hkn : k.user? ≠ none := hk ▸ Option.some_ne_none other
  rw [hrest hjn hkn]
  exact hrest hkn hjn

end Database
end CharAtlas
