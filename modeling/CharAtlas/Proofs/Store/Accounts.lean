import CharAtlas.Proofs.Store.History

/-! # Users and what belongs to them

`Database.Keyed` says that ids are taken once and that each favorite is a code point kept once for a
user who is known. Whatever is written keeps this (`Database.Keyed.afterAll`). -/

namespace CharAtlas

theorem nodup_map_append_of_new {α : Type} {key : α → String} {l : List α} {a : α}
    (h : (l.map key).Nodup) (hnew : ¬l.any (key · == key a) = true) :
    ((l ++ [a]).map key).Nodup := by
  rw [List.map_append]
  refine h.append (List.nodup_singleton _) (List.disjoint_singleton.2 fun hmem => hnew ?_)
  obtain ⟨b, hb, hba⟩ := List.mem_map.1 hmem
  exact List.any_eq_true.2 ⟨b, hb, beq_iff_eq.2 hba⟩

namespace Database
variable {db db' : Database} {user : String} {n : Nat} {fresh : Bool} {e : Error} {w : Write}
  {ws : List Write}

/-! ### Favorites one by one -/

theorem addFavorite_eq_error_iff (hopen : db.isOpen = true) : db.addFavorite user n = .error e ↔
    Codepoint.max < n ∧ e = Codepoint.invalid n ∨
      n ≤ Codepoint.max ∧ ⟨user, n⟩ ∉ db.favorites ∧ db.userExists user = false ∧
        e = .store .foreignKey := by
  rw [← isFavorite_iff]
  unfold addFavorite
  constructor
  · intro h
    split_ifs at h with hmax hclosed hfav huser
    · exact .inl ⟨hmax, (Except.error.inj h).symm⟩
    · simp [hopen] at hclosed
    · exact .inr ⟨Nat.not_lt.1 hmax, hfav, by simpa using huser, (Except.error.inj h).symm⟩
  · rintro (⟨hmax, rfl⟩ | ⟨hmax, hfav, huser, rfl⟩)
    · rw [if_pos hmax]
    · rw [if_neg (Nat.not_lt.2 hmax), if_neg (by simp [hopen]), if_neg hfav,
        if_pos (by simp [huser])]

theorem removeFavorite_of_isOpen (hopen : db.isOpen = true) (user : String) (n : Nat) :
    db.removeFavorite user n = .ok (db.isFavorite user n,
      { db with favorites := db.favorites.filter (· != ⟨user, n⟩) }) := by
  unfold removeFavorite access
  rw [if_pos hopen]
  rfl

/-- Adding a favorite leaves all other rows as they are. -/
theorem mem_favorites_addFavorite (h : db.addFavorite user n = .ok (fresh, db')) {f : Favorite}
    (hne : f ≠ ⟨user, n⟩) : f ∈ db'.favorites ↔ f ∈ db.favorites := by
  obtain ⟨-, -, ⟨-, -, rfl⟩ | ⟨-, -, -, rfl⟩⟩ := addFavorite_eq_ok_iff.1 h
  · exact Iff.rfl
  · rw [List.mem_append, List.mem_singleton, or_iff_left hne]

theorem mem_favorites_removeFavorite (h : db.removeFavorite user n = .ok (fresh, db'))
    {f : Favorite} (hne : f ≠ ⟨user, n⟩) : f ∈ db'.favorites ↔ f ∈ db.favorites := by
  obtain ⟨-, -, rfl⟩ := removeFavorite_eq_ok_iff.1 h
  rw [List.mem_filter, and_iff_left (bne_iff_ne.2 hne)]

/-! ### The invariant -/

structure Keyed (db : Database) : Prop where
  users : (db.users.map (·.id)).Nodup
  sessions : (db.sessions.map (·.id)).Nodup
  favorites : db.favorites.Nodup
  owned : ∀ f ∈ db.favorites, db.userExists f.user = true
  bounded : ∀ f ∈ db.favorites, f.codepoint ≤ Codepoint.max

namespace Keyed

theorem empty : Keyed empty where
  users := .nil
  sessions := .nil
  favorites := .nil
  owned _ h := absurd h List.not_mem_nil
  bounded _ h := absurd h List.not_mem_nil

/-- Only the tables of users matter. -/
theorem congr (h : Keyed db) (hu : db'.users = db.users) (hs : db'.sessions = db.sessions)
    (hf : db'.favorites = db.favorites) : Keyed db' where
  users := hu ▸ h.users
  sessions := hs ▸ h.sessions
  favorites := hf ▸ h.favorites
  owned f hmem := by
    have hexists := h.owned f (hf ▸ hmem)
    unfold userExists at hexists ⊢
    rwa [hu]
  bounded f hmem := h.bounded f (hf ▸ hmem)

theorem addFavorite (h : Keyed db) (hadd : db.addFavorite user n = .ok (fresh, db')) :
    Keyed db' := by
  obtain ⟨hmax, -, ⟨-, -, rfl⟩ | ⟨hnew, huser, -, rfl⟩⟩ := addFavorite_eq_ok_iff.1 hadd
  · exact h
  · refine ⟨h.users, h.sessions, ?_, fun f hf => ?_, fun f hf => ?_⟩
    · exact h.favorites.append (List.nodup_singleton _) (List.disjoint_singleton.2 hnew)
    · rcases List.mem_append.1 hf with hf | hf
      · exact h.owned f hf
      · rw [List.mem_singleton.1 hf]
        exact huser
    · rcases List.mem_append.1 hf with hf | hf
      · exact h.bounded f hf
      · rw [List.mem_singleton.1 hf]
        exact hmax

theorem removeFavorite (h : Keyed db) (hrem : db.removeFavorite user n = .ok (fresh, db')) :
    Keyed db' := by
  obtain ⟨-, -, rfl⟩ := removeFavorite_eq_ok_iff.1 hrem
  exact ⟨h.users, h.sessions, h.favorites.filter _, fun f hf => h.owned f (List.mem_filter.1 hf).1,
    fun f hf => h.bounded f (List.mem_filter.1 hf).1⟩

/-- More users are no harm, as long as their ids are new. -/
theorem with_users (h : Keyed db) {users : List User} (hnodup : (users.map (·.id)).Nodup)
    (hmore : ∀ id, db.userExists id = true → users.any (·.id == id) = true) :
    Keyed { db with users := users } :=
  ⟨hnodup, h.sessions, h.favorites, fun f hf => hmore f.user (h.owned f hf), h.bounded⟩

theorem addUser {u : User} (h : Keyed db) (hadd : db.addUser u = .ok db') : Keyed db' := by
  unfold Database.addUser at hadd
  split_ifs at hadd with hopen hgoogle hid
  cases hadd
  refine h.with_users (nodup_map_append_of_new h.users hid) fun id hexists => ?_
  rw [List.any_append]
  exact Bool.or_eq_true_iff.2 (.inl hexists)

theorem addSession {s : SessionRow} (h : Keyed db) (hadd : db.addSession s = .ok db') :
    Keyed db' := by
  unfold Database.addSession at hadd
  split_ifs at hadd with hopen hid huser
  cases hadd
  exact ⟨h.users, nodup_map_append_of_new h.sessions hid, h.favorites, h.owned, h.bounded⟩

theorem perform (h : Keyed db) (hw : db.perform w = .ok db') : Keyed db' := by
  cases w with
  | character c =>
    obtain ⟨-, -, rfl⟩ := putCharacter_eq_ok_iff.1 hw
    exact h.congr rfl rfl rfl
  | confusable p =>
    obtain ⟨⟨fresh, db₁⟩, hadd, rfl⟩ := map_eq_ok_iff.1 hw
    obtain ⟨-, -, ⟨-, -, rfl⟩ | ⟨-, -, rfl⟩⟩ := addConfusable_eq_ok_iff.1 hadd
    · exact h
    · exact h.congr rfl rfl rfl
  | addFavorite user n =>
    obtain ⟨⟨fresh, db₁⟩, hadd, rfl⟩ := map_eq_ok_iff.1 hw
    exact h.addFavorite hadd
  | removeFavorite user n =>
    obtain ⟨⟨fresh, db₁⟩, hrem, rfl⟩ := map_eq_ok_iff.1 hw
    exact h.removeFavorite hrem
  | user u => exact h.addUser (mapError_eq_ok_iff.1 hw)
  | migrate =>
    rw [migrate_eq_ok (mapError_eq_ok_iff.1 hw)]
    exact h
  | close =>
    cases hw
    exact h.congr rfl rfl rfl

theorem after (h : Keyed db) (w : Write) : Keyed (db.after w) := by
  cases hw : db.perform w with
  | ok db' =>
    rw [after_of_ok hw]
    exact h.perform hw
  | error e =>
    rw [after_of_error hw]
    exact h

theorem afterAll (h : Keyed db) (ws : List Write) : Keyed (db.afterAll ws) := by
  induction ws generalizing db with
  | nil => exact h
  | cons w ws ih => exact ih (h.after w)

end Keyed
end Database
end CharAtlas
