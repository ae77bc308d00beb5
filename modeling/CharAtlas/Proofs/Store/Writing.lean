import CharAtlas.Proofs.Store.History
import CharAtlas.Proofs.Store.Transactions

/-! # Writes statement by statement

Over a connection each write is an action of its own (`writing`): it looks at what it has been given and
then carries out its statements, several of them in a transaction. Without a fault the action does what
the write does (`Database.perform_writing`), and wherever the fault comes, a write that fails leaves the
tables as they were (`Database.carried_writing`). -/

namespace CharAtlas

open Connection

/-- The tables and indexes that a migration makes. -/
def schema : List String :=
  ["users", "sessions", "oauth_states", "favorites", "characters", "confusables", "name_trigrams",
    "idx_characters_script", "idx_characters_category", "idx_characters_bidi_class",
    "idx_characters_age", "idx_characters_block", "idx_characters_name", "idx_confusables_target",
    "idx_name_trigrams_trigram", "idx_sessions_user"]

def refuseIf (p : Prop) [Decidable p] (e : Error) : Action Unit :=
  if p then throw e else return

def writing : Write → Action Unit
  | .character c => do
    refuseIf (Codepoint.max < c.codepoint) (Codepoint.invalid c.codepoint)
    atomically (insertion c)
  | .confusable p => do
    refuseIf (p.codepoint = p.confusableWith) (.selfConfusable p.codepoint)
    refuseIf (Codepoint.max < p.codepoint) (Codepoint.invalid p.codepoint)
    refuseIf (Codepoint.max < p.confusableWith) (Codepoint.invalid p.confusableWith)
    separately [.addPair p]
  | .addFavorite user n => do
    refuseIf (Codepoint.max < n) (Codepoint.invalid n)
    separately [.addFavorite ⟨user, n⟩]
  | .removeFavorite user n => separately [.deleteFavorite ⟨user, n⟩]
  | .user u => separately [.addUser u]
  | .migrate => separately (schema.map .make)
  | .close => modify fun c => { c with isOpen := false }

/-- A write with the fault that comes to it, if any. -/
structure Attempt where
  write : Write
  fault : Option (Nat × StoreError) := none

/-- What a run of attempts leaves behind. -/
def Connection.afterAll (c : Connection) (l : List Attempt) : Connection :=
  l.foldl (fun c a => ({ c with fault := a.fault }.perform (writing a.write)).2) c

namespace Database
variable {db : Database} {w : Write} {fault : Option (Nat × StoreError)}

/-- A connection to the database, with a fault to come or without one. -/
def connect (db : Database) (fault : Option (Nat × StoreError)) : Connection where
  tables := db.tables
  isOpen := db.isOpen
  fault := fault

/-- How a write comes out: it is carried out, or it fails and leaves the tables as they were. -/
inductive Carried (db : Database) (w : Write) (fault : Option (Nat × StoreError)) :
    Except Error Unit × Connection → Prop
  | done {db' : Database} {c : Connection} (h : db.perform w = .ok db')
    (hc : Kept (db'.connect fault) c) (htables : c.tables = db'.tables) : Carried db w fault (.ok (), c)
  | failed {e : Error} {c : Connection} (h : fault = none → db.perform w = .error e)
    (hc : Kept (db.connect fault) c) (htables : c.tables = db.tables) : Carried db w fault (.error e, c)

theorem isOpen_of_perform {db' : Database} (h : db.perform w = .ok db') (hw : w ≠ .close) :
    db'.isOpen = db.isOpen := by
  rcases perform_cases h with ⟨c, rfl, hput⟩ | ⟨p, fresh, rfl, hadd⟩ | ⟨-, -, -, hopen⟩
  · obtain ⟨-, -, rfl⟩ := putCharacter_eq_ok_iff.1 hput
    rfl
  · obtain ⟨-, -, ⟨-, -, rfl⟩ | ⟨-, -, rfl⟩⟩ := addConfusable_eq_ok_iff.1 hadd <;> rfl
  · exact hopen hw

/-! ### What statements do to a database -/

theorem transaction_singleton (s : Statement) (t : Tables) : transaction [s] t = s.exec t := by
  rw [transaction_cons]
  cases s.exec t <;> rfl

theorem transaction_make (names : List String) (t : Tables) :
    transaction (names.map .make) t = .ok t := by
  induction names with
  | nil => rfl
  | cons name names ih => exact ih

theorem transaction_putCharacter {c : Character} (hmax : c.codepoint ≤ Codepoint.max)
    (hopen : db.isOpen = true) :
    (transaction (insertion c) db.tables).mapError .store =
      (db.perform (.character c)).map tables := by
  have htables := tables_putCharacter db c hopen
  rw [putCharacter_eq_ok_iff.2 ⟨hmax, hopen, rfl⟩, transaction_insertion db hmax] at htables
  rw [perform, putCharacter_eq_ok_iff.2 ⟨hmax, hopen, rfl⟩, transaction_insertion db hmax]
  exact congrArg Except.ok (Option.some.inj htables).symm

theorem exec_addPair {p : ConfusablePair} (hself : p.codepoint ≠ p.confusableWith)
    (hfirst : p.codepoint ≤ Codepoint.max) (hsecond : p.confusableWith ≤ Codepoint.max)
    (hopen : db.isOpen = true) :
    ((Statement.addPair p).exec db.tables).mapError .store =
      (db.perform (.confusable p)).map tables := by
  rw [perform, Statement.exec]
  by_cases hp : p ∈ db.tables.confusables
  · rw [addConfusable_eq_ok_iff.2 ⟨⟨hself, hfirst, hsecond⟩, hopen, .inl ⟨hp, rfl, rfl⟩⟩,
      if_pos (.inr hp)]
    rfl
  · rw [addConfusable_eq_ok_iff.2 ⟨⟨hself, hfirst, hsecond⟩, hopen, .inr ⟨hp, rfl, rfl⟩⟩,
      if_neg (not_or.2 ⟨hself, hp⟩)]
    rfl

theorem exec_addFavorite {user : String} {n : Nat} (hmax : n ≤ Codepoint.max)
    (hopen : db.isOpen = true) :
    ((Statement.addFavorite ⟨user, n⟩).exec db.tables).mapError .store =
      (db.perform (.addFavorite user n)).map tables := by
  rw [perform, Statement.exec]
  by_cases hfav : ⟨user, n⟩ ∈ db.tables.favorites
  · rw [addFavorite_eq_ok_iff.2 ⟨hmax, hopen, .inl ⟨hfav, rfl, rfl⟩⟩, if_pos hfav]
    rfl
  · rw [if_neg hfav]
    by_cases huser : db.tables.users.any (·.id == user) = true
    · rw [addFavorite_eq_ok_iff.2 ⟨hmax, hopen, .inr ⟨hfav, huser, rfl, rfl⟩⟩, if_pos huser]
      rfl
    · have hnone : db.userExists user = false := Bool.eq_false_of_not_eq_true huser
      rw [if_neg huser, addFavorite, if_neg (Nat.not_lt.2 hmax), hopen, hnone]
      simp only [Bool.not_true, Bool.false_eq_true, if_false, Bool.not_false, if_true]
      rw [if_neg (mt isFavorite_iff.1 hfav)]
      rfl

theorem exec_deleteFavorite (user : String) (n : Nat) (hopen : db.isOpen = true) :
    ((Statement.deleteFavorite ⟨user, n⟩).exec db.tables).mapError .store =
      (db.perform (.removeFavorite user n)).map tables := by
  rw [perform, removeFavorite_eq_ok_iff.2 ⟨hopen, isFavorite_iff, rfl⟩]
  rfl

theorem exec_addUser (u : User) (hopen : db.isOpen = true) :
    ((Statement.addUser u).exec db.tables).mapError .store = (db.perform (.user u)).map tables := by
  have hid : db.tables.users.any (·.id == u.id) = db.userExists u.id := rfl
  have hgoogle : db.tables.users.any (·.googleId == u.googleId) =
    db.users.any (·.googleId == u.googleId) := rfl
  rw [perform, Statement.exec, addUser, hopen, hid, hgoogle]
  simp only [Bool.not_true, Bool.false_eq_true, if_false]
  split_ifs <;> rfl

/-! ### Writes over a connection -/

theorem perform_refuseIf (c : Connection) (p : Prop) [Decidable p] (e : Error) (x : Action Unit) :
    c.perform (do refuseIf p e; x) = if p then (.error e, c) else c.perform x := by
  unfold refuseIf
  split_ifs <;> rfl

/-- What a list of statements does is what the write does. -/
structure Means (db : Database) (l : List Statement) (w : Write) : Prop where
  keeps : w ≠ .close
  closed : db.isOpen = false → db.perform w = .error (.store .closed)
  does : db.isOpen = true →
    (transaction l db.tables).mapError .store = (db.perform w).map tables

theorem Means.done {l : List Statement} {c : Connection} (h : db.Means l w) (hopen : db.isOpen = true)
    (hc : Kept (db.connect fault) c) (ht : transaction l db.tables = .ok c.tables) :
    Carried db w fault (.ok (), c) := by
  have hdo := h.does hopen
  rw [ht] at hdo
  obtain ⟨db', hdb, htables⟩ := map_eq_ok_iff.1 hdo.symm
  exact .done hdb ⟨hc.isOpen.trans (isOpen_of_perform hdb h.keeps).symm, hc.saved, hc.fault⟩
    htables.symm

theorem Means.failed {l : List Statement} {c : Connection} {e : StoreError} (h : db.Means l w)
    (hc : Kept (db.connect fault) c) (ht : c.tables = db.tables)
    (he : fault = none → db.isOpen = false ∧ e = .closed ∨
      db.isOpen = true ∧ transaction l db.tables = .error e) :
    Carried db w fault (.error (.store e), c) := by
  refine .failed (fun hf => ?_) hc ht
  rcases he hf with ⟨hclosed, rfl⟩ | ⟨hopen, herror⟩
  · exact h.closed hclosed
  · have hdo := h.does hopen
    rw [herror] at hdo
    exact map_eq_error_iff.1 hdo.symm

theorem carried_atomically {l : List Statement} (h : db.Means l w) :
    Carried db w fault ((db.connect fault).perform (atomically l)) := by
  obtain ⟨c, hc, ⟨hrun, hopen, htables⟩ | ⟨e, hrun, htables, he⟩⟩ :=
    @perform_atomically (db.connect fault) rfl l
  · rw [hrun]
    exact h.done hopen hc htables
  · rw [hrun]
    exact h.failed hc htables he

/-- Without a transaction, no statement but the last one may have changed a table. -/
theorem carried_separately {l : List Statement} (h : db.Means l w)
    (hl : ∀ before after t, l = before ++ after → (after = [] → l = []) →
      transaction before db.tables = .ok t → t = db.tables) :
    Carried db w fault ((db.connect fault).perform (separately l)) := by
  obtain ⟨c, hc, ⟨hrun, hopen, htables⟩ | ⟨before, after, e, hsplit, hlast, hrun, htables, he⟩⟩ :=
    perform_separately (db.connect fault) l
  · rw [hrun]
    exact h.done hopen hc htables
  · rw [hrun]
    exact h.failed hc (hl before after _ hsplit hlast htables) he

theorem carried_singleton {s : Statement} (h : db.Means [s] w) :
    Carried db w fault ((db.connect fault).perform (separately [s])) := by
  refine carried_separately h fun before after t hsplit hlast ht => ?_
  cases before with
  | nil => exact (Except.ok.inj ht).symm
  | cons s' before =>
    obtain ⟨-, hnil⟩ := List.cons.inj hsplit
    exact absurd (hlast (List.append_eq_nil_iff.1 hnil.symm).2) (List.cons_ne_nil _ _)

theorem Carried.refused {c : Connection} {e : Error} (h : db.perform w = .error e)
    (hc : c = db.connect fault) : Carried db w fault (.error e, c) := by
  subst hc
  exact .failed (fun _ => h) (.refl _) rfl

theorem carried_migrate : Carried db .migrate fault ((db.connect fault).perform (writing .migrate)) := by
  refine carried_separately ⟨by simp, fun hclosed => ?_, fun hopen => ?_⟩ fun before after t hsplit _ ht => ?_
  · rw [perform, migrate, access, hclosed]
    rfl
  · rw [transaction_make, perform, migrate, access, hopen]
    rfl
  · obtain ⟨names, -, -, rfl, -⟩ := List.map_eq_append_iff.1 hsplit
    rw [transaction_make] at ht
    exact (Except.ok.inj ht).symm

/-- Wherever the fault comes, a write is carried out or leaves the tables as they were. -/
theorem carried_writing (db : Database) (w : Write) (fault : Option (Nat × StoreError)) :
    Carried db w fault ((db.connect fault).perform (writing w)) := by
  cases w with
  | character c =>
    rw [writing, perform_refuseIf]
    split_ifs with hmax
    · exact .refused (putCharacter_of_lt hmax) rfl
    · refine carried_atomically ⟨by simp, fun hclosed => ?_,
        transaction_putCharacter (Nat.not_lt.1 hmax)⟩
      simp [perform, putCharacter, hmax, hclosed]
  | confusable p =>
    rw [writing, perform_refuseIf, perform_refuseIf, perform_refuseIf]
    split_ifs with hself hfirst hsecond
    · exact .refused (by simp [perform, addConfusable, hself, Except.map]) rfl
    · exact .refused (by simp [perform, addConfusable, hself, hfirst, Except.map]) rfl
    · exact .refused (by simp [perform, addConfusable, hself, hfirst, hsecond, Except.map]) rfl
    · refine carried_singleton ⟨by simp, fun hclosed => ?_, fun hopen => ?_⟩
      · simp [perform, addConfusable, hself, hfirst, hsecond, hclosed, Except.map]
      · rw [transaction_singleton]
        exact exec_addPair hself (Nat.not_lt.1 hfirst) (Nat.not_lt.1 hsecond) hopen
  | addFavorite user n =>
    rw [writing, perform_refuseIf]
    split_ifs with hmax
    · exact .refused (by simp [perform, addFavorite, hmax, Except.map]) rfl
    · refine carried_singleton ⟨by simp, fun hclosed => ?_, fun hopen => ?_⟩
      · simp [perform, addFavorite, hmax, hclosed, Except.map]
      · rw [transaction_singleton]
        exact exec_addFavorite (Nat.not_lt.1 hmax) hopen
  | removeFavorite user n =>
    refine carried_singleton ⟨by simp, fun hclosed => ?_, fun hopen => ?_⟩
    · simp [perform, removeFavorite, access, hclosed, Except.map, Except.mapError]
    · rw [transaction_singleton]
      exact exec_deleteFavorite user n hopen
  | user u =>
    refine carried_singleton ⟨by simp, fun hclosed => ?_, fun hopen => ?_⟩
    · simp [perform, addUser, hclosed, Except.mapError]
    · rw [transaction_singleton]
      exact exec_addUser u hopen
  | migrate => exact carried_migrate
  | close => exact .done rfl ⟨rfl, rfl, id⟩ rfl

theorem eq_connect {c : Connection} (h : Kept (db.connect fault) c)
    (ht : c.tables = db.tables) : c = db.connect c.fault := by
  obtain ⟨hopen, hsaved, -⟩ := h
  cases c
  cases hopen
  cases hsaved
  cases ht
  rfl

/-- Without a fault the statements of a write do what the write does. -/
theorem perform_writing (db : Database) (w : Write) :
    (db.connect none).perform (writing w) =
      ((db.perform w).map fun _ => (), (db.after w).connect none) := by
  have hcarried := carried_writing db w none
  generalize (db.connect none).perform (writing w) = result at hcarried
  cases hcarried with
  | done h hc htables =>
    rw [h, after_of_ok h, eq_connect hc htables, hc.fault rfl]
    rfl
  | failed h hc htables =>
    rw [h rfl, after_of_error (h rfl), eq_connect hc htables, hc.fault rfl]
    rfl

/-- Whatever faults come, the database is that of the writes that have been carried out. -/
theorem exists_sublist_afterAll (db : Database) (l : List Attempt)
    (fault : Option (Nat × StoreError)) : ∃ ws fault', ws.Sublist (l.map (·.write)) ∧
      (db.connect fault).afterAll l = (db.afterAll ws).connect fault' := by
  induction l generalizing db fault with
  | nil => exact ⟨[], fault, .slnil, rfl⟩
  | cons a l ih =>
    have hcons : (db.connect fault).afterAll (a :: l) =
        ((db.connect a.fault).perform (writing a.write)).2.afterAll l := rfl
    have hcarried := carried_writing db a.write a.fault
    rw [hcons]
    generalize (db.connect a.fault).perform (writing a.write) = result at hcarried
    cases hcarried with
    | @done db' c h hc htables =>
      obtain ⟨ws, fault', hws, hl⟩ := ih db' c.fault
      refine ⟨a.write :: ws, fault', hws.cons_cons _, ?_⟩
      rw [eq_connect hc htables, hl, ← after_of_ok h]
      rfl
    | @failed e c h hc htables =>
      obtain ⟨ws, fault', hws, hl⟩ := ih db c.fault
      refine ⟨ws, fault', hws.cons _, ?_⟩
      rw [eq_connect hc htables, hl]

/-- Whatever has been written and refused, a code point has one row at most, its code and trigrams
are those of the character, no trigrams are left over, and no character is confusable with itself.
Writing a character does all that its statements say or nothing, and whatever is refused leaves the
database as it was. So it is with all writes, statement by statement: they come out as they should, and
where one fails at any of its statements, the tables stay as they were. -/
theorem tables_afterAll (ws : List Write) :
    ((empty.afterAll ws).characters.rows.map (·.codepoint)).Nodup ∧
    (∀ c ∈ (empty.afterAll ws).characters.rows, c.codepoint ≤ 0x10FFFF ∧
      c.code = Codepoint.code c.codepoint ∧
      (∀ t, ⟨c.codepoint, t⟩ ∈ (empty.afterAll ws).trigramRows ↔
        ∃ name, c.name = some name ∧ t ∈ trigrams name) ∧
      c.nameTrigramCount = (empty.afterAll ws).trigramRows.countP (·.codepoint == c.codepoint)) ∧
    (empty.afterAll ws).trigramRows.Nodup ∧
    (∀ r ∈ (empty.afterAll ws).trigramRows,
      ∃ c ∈ (empty.afterAll ws).characters.rows, c.codepoint = r.codepoint) ∧
    (∀ p ∈ (empty.afterAll ws).confusables, p.codepoint ≠ p.confusableWith ∧
      p.codepoint ≤ 0x10FFFF ∧ p.confusableWith ≤ 0x10FFFF) ∧
    ((empty.afterAll ws).isOpen = true → ∀ c,
      ((empty.afterAll ws).putCharacter c).toOption.map tables =
        (transaction (insertion c) (empty.afterAll ws).tables).toOption) ∧
    (∀ w e, (empty.afterAll ws).perform w = .error e →
      empty.afterAll (ws ++ [w]) = empty.afterAll ws) ∧
    (∀ w, ((empty.afterAll ws).connect none).perform (writing w) =
      (((empty.afterAll ws).perform w).map fun _ => (),
        (empty.afterAll (ws ++ [w])).connect none)) ∧
    (∀ w fault e c, ((empty.afterAll ws).connect fault).perform (writing w) = (.error e, c) →
      c.tables = (empty.afterAll ws).tables ∧ c.saved = none) ∧
    ∀ l : List Attempt, l.map (·.write) = ws → ∃ ws' fault, List.Sublist ws' ws ∧
      (empty.connect none).afterAll l = (empty.afterAll ws').connect fault := by
  have h : Consistent (empty.afterAll ws) := Consistent.empty.afterAll ws
  have hafter : ∀ w, empty.afterAll (ws ++ [w]) = (empty.afterAll ws).after w := by
    intro w
    rw [afterAll_append]
    rfl
  refine ⟨CharacterTable.codepoints_nodup _, fun c hc => ⟨h.bounded c hc, h.coded c hc,
    fun t => h.mem_trigramRows_iff hc, h.nameTrigramCount_eq hc⟩, h.trigramRows_nodup,
    fun r hr => h.exists_row hr, h.pairs, fun hopen c => tables_putCharacter _ c hopen, ?_, ?_, ?_,
    ?_⟩
  · intro w e hw
    rw [hafter, after_of_error hw]
  · intro w
    rw [hafter]
    exact perform_writing _ w
  · intro w fault e c hrun
    have hcarried := carried_writing (empty.afterAll ws) w fault
    rw [hrun] at hcarried
    cases hcarried with
    | failed _ hc htables => exact ⟨htables, hc.saved⟩
  · rintro l rfl
    exact exists_sublist_afterAll empty l none

end Database
end CharAtlas
