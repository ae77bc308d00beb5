import CharAtlas.Proofs.Corpus.Table
import CharAtlas.Proofs.OrderedSet
import CharAtlas.Proofs.Store.Statements
import CharAtlas.Proofs.Traversal
import CharAtlas.Store.Favorites

/-! # What a database goes through

A history is a list of writes (`Write`), some of which may be refused. Whatever the history, the
derived data agree with the characters that they were derived from (`Consistent`): each write keeps
this (`Consistent.perform`), so every history does (`Consistent.afterAll`). -/

namespace CharAtlas

inductive Write where
  | character (c : Character)
  | confusable (p : ConfusablePair)
  | addFavorite (user : String) (codepoint : Nat)
  | removeFavorite (user : String) (codepoint : Nat)
  | user (u : User)
  | migrate
  | close

namespace Database
variable {db db' : Database} {c : Character} {d : StoredCharacter} {p : ConfusablePair} {w : Write}
  {user : String} {n : Nat} {fresh : Bool}

def perform (db : Database) : Write → Except Error Database
  | .character c => db.putCharacter c
  | .confusable p => (db.addConfusable p).map (·.2)
  | .addFavorite user n => (db.addFavorite user n).map (·.2)
  | .removeFavorite user n => (db.removeFavorite user n).map (·.2)
  | .user u => (db.addUser u).mapError .store
  | .migrate => db.migrate.mapError .store
  | .close => .ok db.close

/-- A write that is refused is rolled back. -/
def after (db : Database) (w : Write) : Database :=
  match db.perform w with
  | .ok db' => db'
  | .error _ => db

def afterAll (db : Database) (ws : List Write) : Database :=
  ws.foldl after db

theorem after_of_ok (h : db.perform w = .ok db') : db.after w = db' := by
  unfold after
  rw [h]

theorem after_of_error {e : Error} (h : db.perform w = .error e) : db.after w = db := by
  unfold after
  rw [h]

theorem afterAll_append (db : Database) (ws ws' : List Write) :
    db.afterAll (ws ++ ws') = (db.afterAll ws).afterAll ws' :=
  List.foldl_append

/-! ### What each write does -/

theorem addConfusable_eq_ok_iff : db.addConfusable p = .ok (fresh, db') ↔
    (p.codepoint ≠ p.confusableWith ∧ p.codepoint ≤ Codepoint.max ∧
      p.confusableWith ≤ Codepoint.max) ∧ db.isOpen = true ∧
        (p ∈ db.confusables ∧ fresh = false ∧ db' = db ∨
          p ∉ db.confusables ∧ fresh = true ∧
            db' = { db with confusables := db.confusables ++ [p] }) := by
  unfold addConfusable
  by_cases hself : p.codepoint = p.confusableWith
  · simp [hself]
  · by_cases hfirst : Codepoint.max < p.codepoint
    · simp [hself, hfirst, Nat.not_le.2 hfirst]
    · by_cases hsecond : Codepoint.max < p.confusableWith
      · simp [hself, hfirst, hsecond, Nat.not_le.2 hsecond]
      · by_cases hopen : db.isOpen = true
        · by_cases hp : p ∈ db.confusables <;>
            simp [hself, hfirst, hsecond, hopen, hp, Nat.not_lt.1 hfirst, Nat.not_lt.1 hsecond,
              eq_comm]
        · simp [hself, hfirst, hsecond, hopen]

theorem isFavorite_iff : db.isFavorite user n = true ↔ ⟨user, n⟩ ∈ db.favorites :=
  List.contains_iff_mem

theorem addFavorite_eq_ok_iff : db.addFavorite user n = .ok (fresh, db') ↔
    n ≤ Codepoint.max ∧ db.isOpen = true ∧
      (⟨user, n⟩ ∈ db.favorites ∧ fresh = false ∧ db' = db ∨
        ⟨user, n⟩ ∉ db.favorites ∧ db.userExists user = true ∧ fresh = true ∧
          db' = { db with favorites := db.favorites ++ [⟨user, n⟩] }) := by
  rw [← isFavorite_iff]
  unfold addFavorite
  constructor
  · intro h
    split_ifs at h with hmax hclosed hfav huser
    · obtain ⟨rfl, rfl⟩ := Prod.mk.inj (Except.ok.inj h)
      exact ⟨Nat.not_lt.1 hmax, by simpa using hclosed, .inl ⟨hfav, rfl, rfl⟩⟩
    · obtain ⟨rfl, rfl⟩ := Prod.mk.inj (Except.ok.inj h)
      exact ⟨Nat.not_lt.1 hmax, by simpa using hclosed, .inr ⟨hfav, by simpa using huser, rfl, rfl⟩⟩
  · rintro ⟨hmax, hopen, hcases⟩
    rw [if_neg (Nat.not_lt.2 hmax), if_neg (by simp [hopen])]
    rcases hcases with ⟨hfav, rfl, rfl⟩ | ⟨hfav, huser, rfl, rfl⟩
    · rw [if_pos hfav]
    · rw [if_neg hfav, if_neg (by simp [huser])]

/-- Writing a favorite changes the favorites and nothing else. -/
theorem addFavorite_eq_ok (h : db.addFavorite user n = .ok (fresh, db')) :
    ∃ favorites, db' = { db with favorites := favorites } := by
  obtain ⟨-, -, ⟨-, -, rfl⟩ | ⟨-, -, -, rfl⟩⟩ := addFavorite_eq_ok_iff.1 h <;> exact ⟨_, rfl⟩

theorem removeFavorite_eq_ok_iff : db.removeFavorite user n = .ok (fresh, db') ↔
    db.isOpen = true ∧ (fresh = true ↔ ⟨user, n⟩ ∈ db.favorites) ∧
      db' = { db with favorites := db.favorites.filter (· != ⟨user, n⟩) } := by
  rw [← isFavorite_iff]
  unfold removeFavorite access
  by_cases hopen : db.isOpen = true
  · rw [if_pos hopen, ← Bool.eq_iff_iff]
    simp [Except.mapError, hopen, eq_comm]
  · simp [Except.mapError, hopen]

theorem removeFavorite_eq_ok (h : db.removeFavorite user n = .ok (fresh, db')) :
    ∃ favorites, db' = { db with favorites := favorites } := by
  obtain ⟨-, -, rfl⟩ := removeFavorite_eq_ok_iff.1 h
  exact ⟨_, rfl⟩

theorem addUser_eq_ok {u : User} (h : db.addUser u = .ok db') :
    ∃ users, db' = { db with users := users } := by
  unfold addUser at h
  split_ifs at h
  cases h
  exact ⟨_, rfl⟩

theorem migrate_eq_ok (h : db.migrate = .ok db') : db' = db := by
  unfold migrate access at h
  split_ifs at h
  exact (Except.ok.inj h).symm

theorem trigramsOf_putCharacter (h : db.putCharacter c = .ok db') (n : Nat) :
    db'.trigramsOf n = if c.codepoint = n then c.nameTrigrams.toList else db.trigramsOf n := by
  obtain ⟨-, -, rfl⟩ := putCharacter_eq_ok_iff.1 h
  unfold trigramsOf
  rw [List.filter_append, List.filter_filter]
  by_cases hn : c.codepoint = n
  · have hnone : db.nameTrigrams.filter
        (fun e => e.codepoint == n && e.codepoint != c.codepoint) = [] := by
      rw [List.filter_eq_nil_iff]
      intro e _
      simp [hn]
    rw [hnone]
    simp [hn]
  · have hrest : db.nameTrigrams.filter (fun e => e.codepoint == n && e.codepoint != c.codepoint) =
        db.nameTrigrams.filter (·.codepoint == n) := by
      refine List.filter_congr fun e _ => ?_
      by_cases he : e.codepoint = n
      · simp [he, Ne.symm hn]
      · simp [he]
    rw [hrest]
    simp [hn]

/-- What a write that is not refused has done to the tables of the corpus. Only one of them closes the
database. -/
theorem perform_cases (h : db.perform w = .ok db') :
    (∃ c, w = .character c ∧ db.putCharacter c = .ok db') ∨
    (∃ p fresh, w = .confusable p ∧ db.addConfusable p = .ok (fresh, db')) ∨
    db'.characters = db.characters ∧ db'.nameTrigrams = db.nameTrigrams ∧
      db'.confusables = db.confusables ∧ (w ≠ .close → db'.isOpen = db.isOpen) := by
  cases w with
  | character c => exact .inl ⟨c, rfl, h⟩
  | confusable p =>
    obtain ⟨⟨fresh, db₁⟩, hadd, rfl⟩ := map_eq_ok_iff.1 h
    exact .inr (.inl ⟨p, fresh, rfl, hadd⟩)
  | addFavorite user n =>
    obtain ⟨⟨fresh, db₁⟩, hadd, rfl⟩ := map_eq_ok_iff.1 h
    obtain ⟨_, rfl⟩ := addFavorite_eq_ok hadd
    exact .inr (.inr ⟨rfl, rfl, rfl, fun _ => rfl⟩)
  | removeFavorite user n =>
    obtain ⟨⟨fresh, db₁⟩, hrem, rfl⟩ := map_eq_ok_iff.1 h
    obtain ⟨_, rfl⟩ := removeFavorite_eq_ok hrem
    exact .inr (.inr ⟨rfl, rfl, rfl, fun _ => rfl⟩)
  | user u =>
    obtain ⟨_, rfl⟩ := addUser_eq_ok (mapError_eq_ok_iff.1 h)
    exact .inr (.inr ⟨rfl, rfl, rfl, fun _ => rfl⟩)
  | migrate =>
    rw [migrate_eq_ok (mapError_eq_ok_iff.1 h)]
    exact .inr (.inr ⟨rfl, rfl, rfl, fun _ => rfl⟩)
  | close =>
    cases h
    exact .inr (.inr ⟨rfl, rfl, rfl, fun hne => absurd rfl hne⟩)

theorem characters_addConfusable (h : db.addConfusable p = .ok (fresh, db')) :
    db'.characters = db.characters := by
  obtain ⟨-, -, ⟨-, -, rfl⟩ | ⟨-, -, rfl⟩⟩ := addConfusable_eq_ok_iff.1 h <;> rfl

theorem mem_rows_after (h : d ∈ (db.after w).characters.rows) :
    d ∈ db.characters.rows ∨ ∃ c, w = .character c ∧ d = c.stored := by
  cases hp : db.perform w with
  | error e =>
    rw [after_of_error hp] at h
    exact .inl h
  | ok db' =>
    rw [after_of_ok hp] at h
    rcases perform_cases hp with ⟨c, rfl, hput⟩ | ⟨p, fresh, -, hadd⟩ | ⟨hc, -, -⟩
    · obtain ⟨-, -, rfl⟩ := putCharacter_eq_ok_iff.1 hput
      rcases CharacterTable.mem_rows_put.1 h with rfl | ⟨h, -⟩
      · exact .inr ⟨c, rfl, rfl⟩
      · exact .inl h
    · rw [characters_addConfusable hadd] at h
      exact .inl h
    · rw [hc] at h
      exact .inl h

/-! ### The invariant -/

/-- The derived data are those of the characters. -/
structure Consistent (db : Database) : Prop where
  bounded : ∀ c ∈ db.characters.rows, c.codepoint ≤ Codepoint.max
  coded : ∀ c ∈ db.characters.rows, c.code = Codepoint.code c.codepoint
  trigrams : ∀ c ∈ db.characters.rows, db.trigramsOf c.codepoint = c.nameTrigrams.toList
  counted : ∀ c ∈ db.characters.rows, c.nameTrigramCount = c.nameTrigrams.size
  owned : ∀ e ∈ db.nameTrigrams, ∃ c ∈ db.characters.rows, c.codepoint = e.codepoint
  pairs : ∀ p ∈ db.confusables, p.codepoint ≠ p.confusableWith ∧ p.codepoint ≤ Codepoint.max ∧
    p.confusableWith ≤ Codepoint.max

namespace Consistent

theorem empty : Consistent empty where
  bounded _ h := absurd h List.not_mem_nil
  coded _ h := absurd h List.not_mem_nil
  trigrams _ h := absurd h List.not_mem_nil
  counted _ h := absurd h List.not_mem_nil
  owned _ h := absurd h List.not_mem_nil
  pairs _ h := absurd h List.not_mem_nil

/-- Only the tables of the corpus matter. -/
theorem congr (h : Consistent db) (hc : db'.characters = db.characters)
    (ht : db'.nameTrigrams = db.nameTrigrams) (hp : db'.confusables = db.confusables) :
    Consistent db' := by
  have htri : ∀ n, db'.trigramsOf n = db.trigramsOf n := by
    intro n
    unfold trigramsOf
    rw [ht]
  refine ⟨?_, ?_, ?_, ?_, ?_, ?_⟩
  · rw [hc]
    exact h.bounded
  · rw [hc]
    exact h.coded
  · intro c
    rw [hc, htri]
    exact h.trigrams c
  · rw [hc]
    exact h.counted
  · rw [hc, ht]
    exact h.owned
  · rw [hp]
    exact h.pairs

theorem putCharacter (h : Consistent db) (hput : db.putCharacter c = .ok db') : Consistent db' := by
  have htri := trigramsOf_putCharacter hput
  obtain ⟨hmax, -, rfl⟩ := putCharacter_eq_ok_iff.1 hput
  refine ⟨fun d hd => ?_, fun d hd => ?_, fun d hd => ?_, fun d hd => ?_, fun e he => ?_, h.pairs⟩
  · rcases CharacterTable.mem_rows_put.1 hd with rfl | ⟨hd, -⟩
    · exact hmax
    · exact h.bounded d hd
  · rcases CharacterTable.mem_rows_put.1 hd with rfl | ⟨hd, -⟩
    · rfl
    · exact h.coded d hd
  · rw [htri]
    rcases CharacterTable.mem_rows_put.1 hd with rfl | ⟨hd, hne⟩
    · exact if_pos rfl
    · rw [if_neg (show ¬c.codepoint = d.codepoint from Ne.symm hne)]
      exact h.trigrams d hd
  · rcases CharacterTable.mem_rows_put.1 hd with rfl | ⟨hd, -⟩
    · rfl
    · exact h.counted d hd
  · -- a row that was there stays or is replaced by one with its code point
    by_cases hn : e.codepoint = c.codepoint
    · exact ⟨c.stored, CharacterTable.mem_rows_put.2 (.inl rfl), hn.symm⟩
    · rcases List.mem_append.1 he with he | he
      · obtain ⟨d, hd, hde⟩ := h.owned e (List.mem_filter.1 he).1
        exact ⟨d, CharacterTable.mem_rows_put.2 (.inr ⟨hd, hde ▸ hn⟩), hde⟩
      · rw [List.mem_singleton.1 he] at hn
        exact absurd rfl hn

theorem addConfusable (h : Consistent db) (hadd : db.addConfusable p = .ok (fresh, db')) :
    Consistent db' := by
  obtain ⟨hp, -, ⟨-, -, rfl⟩ | ⟨-, -, rfl⟩⟩ := addConfusable_eq_ok_iff.1 hadd
  · exact h
  · refine ⟨h.bounded, h.coded, h.trigrams, h.counted, h.owned, fun q hq => ?_⟩
    rcases List.mem_append.1 hq with hq | hq
    · exact h.pairs q hq
    · rwa [List.mem_singleton.1 hq]

theorem perform (h : Consistent db) (hw : db.perform w = .ok db') : Consistent db' := by
  rcases perform_cases hw with ⟨c, -, hput⟩ | ⟨p, fresh, -, hadd⟩ | ⟨hc, ht, hp, -⟩
  · exact h.putCharacter hput
  · exact h.addConfusable hadd
  · exact h.congr hc ht hp

theorem after (h : Consistent db) (w : Write) : Consistent (db.after w) := by
  cases hw : db.perform w with
  | ok db' =>
    rw [after_of_ok hw]
    exact h.perform hw
  | error e =>
    rw [after_of_error hw]
    exact h

theorem afterAll (h : Consistent db) (ws : List Write) : Consistent (db.afterAll ws) := by
  induction ws generalizing db with
  | nil => exact h
  | cons w ws ih => exact ih (h.after w)

/-! ### The tables row by row -/

theorem mem_trigramRows_iff (h : Consistent db) (hd : d ∈ db.characters.rows) {t : String} :
    ⟨d.codepoint, t⟩ ∈ db.trigramRows ↔ ∃ name, d.name = some name ∧ t ∈ CharAtlas.trigrams name := by
  rw [mem_trigramRows, h.trigrams d hd, Character.nameTrigrams]
  cases d.name with
  | none => simp [OrderedSet.empty]
  | some name => simp [OrderedSet.mem_toList]

theorem nameTrigramCount_eq (h : Consistent db) (hd : d ∈ db.characters.rows) :
    d.nameTrigramCount = db.trigramRows.countP (·.codepoint == d.codepoint) := by
  rw [List.countP_eq_length_filter, trigramRows_filter, List.length_map, h.trigrams d hd,
    h.counted d hd]
  rfl

theorem exists_row (h : Consistent db) {r : TrigramRow} (hr : r ∈ db.trigramRows) :
    ∃ c ∈ db.characters.rows, c.codepoint = r.codepoint := by
  obtain ⟨e, he, hre⟩ := List.mem_flatMap.1 hr
  obtain ⟨t, -, rfl⟩ := List.mem_map.1 hre
  exact h.owned e he

theorem trigramRows_nodup (h : Consistent db) : db.trigramRows.Nodup := by
  rw [List.nodup_iff_count_le_one]
  intro r
  by_cases hr : r ∈ db.trigramRows
  · obtain ⟨d, hd, hdr⟩ := h.exists_row hr
    rw [count_trigramRows, ← hdr, h.trigrams d hd]
    exact List.nodup_iff_count_le_one.1 d.nameTrigrams.nodup r.trigram
  · rw [List.count_eq_zero_of_not_mem hr]
    exact Nat.zero_le 1

end Consistent

/-- Rows come from characters that were written. -/
theorem exists_write_of_mem_rows {ws : List Write} (h : d ∈ (db.afterAll ws).characters.rows) :
    d ∈ db.characters.rows ∨ ∃ c, .character c ∈ ws ∧ d = c.stored := by
  induction ws generalizing db with
  | nil => exact .inl h
  | cons w ws ih =>
    rcases ih h with h | ⟨c, hc, rfl⟩
    · exact (mem_rows_after h).imp_right fun ⟨c, hw, hd⟩ => ⟨c, hw ▸ List.mem_cons_self .., hd⟩
    · exact .inr ⟨c, List.mem_cons_of_mem _ hc, rfl⟩

end Database
end CharAtlas
