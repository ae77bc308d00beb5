import CharAtlas.Query.Similarity
import CharAtlas.Store.Corpus
import Mathlib.Data.List.Count
import Mathlib.Data.List.Nodup

/-! # Tables and statements

What is written is written by statements, each of which the keys and checks of its table may refuse
(`Statement.exec`). A character takes several of them (`insertion`). `Database.tables_putCharacter`
says that `Database.putCharacter` is the transaction made of them: all of them succeed, or the
character is refused. -/

namespace CharAtlas

/-- The tables that writes change, row by row. -/
structure Tables where
  characters : CharacterTable
  trigramRows : List TrigramRow
  confusables : List ConfusablePair
  users : List User
  favorites : List Favorite

inductive Statement where
  /-- A table or an index is made if it is not there; all of them are. -/
  | make (name : String)
  /-- In lieu of the row with that code point, if there is one. -/
  | putRow (c : StoredCharacter)
  | deleteTrigrams (codepoint : Nat)
  | addTrigram (r : TrigramRow)
  /-- A pair that may not be there, or is there, is passed over. -/
  | addPair (p : ConfusablePair)
  | addUser (u : User)
  /-- A favorite that is there is passed over. -/
  | addFavorite (f : Favorite)
  | deleteFavorite (f : Favorite)

/-- An error where a check or a key of the table refuses the statement. -/
def Statement.exec (t : Tables) : Statement → Except StoreError Tables
  | make _ => .ok t
  | putRow c =>
    if c.codepoint ≤ Codepoint.max then .ok { t with characters := t.characters.put c }
    else .error (.check "codepoint BETWEEN 0 AND 1114111")
  | deleteTrigrams n =>
    .ok { t with trigramRows := t.trigramRows.filter (·.codepoint != n) }
  | addTrigram r =>
    if r ∈ t.trigramRows then
      .error (.duplicateKey "name_trigrams.codepoint, name_trigrams.trigram")
    else .ok { t with trigramRows := t.trigramRows ++ [r] }
  | addPair p =>
    .ok (if p.codepoint = p.confusableWith ∨ p ∈ t.confusables then t
    else { t with confusables := t.confusables ++ [p] })
  | addUser u =>
    if t.users.any (·.googleId == u.googleId) then .error (.duplicateValue "users.google_id")
    else if t.users.any (·.id == u.id) then .error (.duplicateKey "users.id")
    else .ok { t with users := t.users ++ [u] }
  | addFavorite f =>
    if f ∈ t.favorites then .ok t
    else if t.users.any (·.id == f.user) then .ok { t with favorites := t.favorites ++ [f] }
    else .error .foreignKey
  | deleteFavorite f => .ok { t with favorites := t.favorites.filter (· != f) }

/-- All of the statements, or none of them. -/
def transaction (l : List Statement) (t : Tables) : Except StoreError Tables :=
  l.foldlM Statement.exec t

/-- Old trigrams go before new ones come. -/
def insertion (c : Character) : List Statement :=
  .putRow c.stored :: .deleteTrigrams c.codepoint ::
    c.nameTrigrams.toList.map fun t => .addTrigram ⟨c.codepoint, t⟩

theorem transaction_cons (s : Statement) (l : List Statement) (t : Tables) :
    transaction (s :: l) t = s.exec t >>= transaction l :=
  List.foldlM_cons

theorem transaction_addTrigram {rows : List TrigramRow} (hnd : rows.Nodup) {t : Tables}
    (h : ∀ r ∈ rows, r ∉ t.trigramRows) :
    transaction (rows.map .addTrigram) t = .ok { t with trigramRows := t.trigramRows ++ rows } := by
  induction rows generalizing t with
  | nil =>
    rw [List.append_nil]
    rfl
  | cons r rows ih =>
    obtain ⟨hr, hnd⟩ := List.nodup_cons.1 hnd
    have hexec : Statement.exec t (.addTrigram r) =
        .ok { t with trigramRows := t.trigramRows ++ [r] } := by
      rw [Statement.exec, if_neg (h r (List.mem_cons_self ..))]
    rw [List.map_cons, transaction_cons, hexec]
    refine (ih hnd fun s hs => ?_).trans ?_
    · rw [List.mem_append, List.mem_singleton]
      rintro (hmem | rfl)
      · exact h s (List.mem_cons_of_mem _ hs) hmem
      · exact hr hs
    · simp

theorem NameTrigrams.rows_nodup (e : NameTrigrams) : e.rows.Nodup := by
  refine List.Nodup.map (fun a b h => ?_) (e.trigrams.ascending.imp ?_)
  · exact congrArg TrigramRow.trigram h
  · rintro a b hab rfl
    exact String.lt_irrefl a hab

namespace Database
variable {db db' : Database} {c : Character} {n : Nat} {r : TrigramRow}

def tables (db : Database) : Tables where
  characters := db.characters
  trigramRows := db.trigramRows
  confusables := db.confusables
  users := db.users
  favorites := db.favorites

theorem filter_rows (p : Nat → Bool) (l : List NameTrigrams) :
    (l.flatMap NameTrigrams.rows).filter (fun r => p r.codepoint) =
      (l.filter (fun e => p e.codepoint)).flatMap NameTrigrams.rows := by
  induction l with
  | nil => rfl
  | cons e l ih =>
    rw [List.flatMap_cons, List.filter_append, ih]
    by_cases he : p e.codepoint = true
    · have hall : e.rows.filter (fun r => p r.codepoint) = e.rows := by
        rw [List.filter_eq_self]
        intro r hr
        obtain ⟨t, -, rfl⟩ := List.mem_map.1 hr
        exact he
      rw [hall]
      simp [he]
    · have hnone : e.rows.filter (fun r => p r.codepoint) = [] := by
        rw [List.filter_eq_nil_iff]
        intro r hr
        obtain ⟨t, -, rfl⟩ := List.mem_map.1 hr
        exact he
      rw [hnone]
      simp [he]

/-- What a code point has in the table is what is looked up there. -/
theorem trigramRows_filter (db : Database) (n : Nat) :
    db.trigramRows.filter (·.codepoint == n) = (db.trigramsOf n).map (⟨n, ·⟩) := by
  unfold trigramRows trigramsOf
  rw [filter_rows (· == n), List.map_flatMap]
  refine List.flatMap_congr fun e he => ?_
  have hn : e.codepoint = n := by simpa using (List.mem_filter.1 he).2
  rw [NameTrigrams.rows, hn]

theorem mem_trigramRows : r ∈ db.trigramRows ↔ r.trigram ∈ db.trigramsOf r.codepoint := by
  have hfilter : r ∈ db.trigramRows ↔ r ∈ db.trigramRows.filter (·.codepoint == r.codepoint) := by
    rw [List.mem_filter]
    simp
  rw [hfilter, trigramRows_filter, List.mem_map]
  constructor
  · rintro ⟨t, ht, he⟩
    rwa [← he]
  · exact fun h => ⟨_, h, rfl⟩

theorem count_trigramRows (db : Database) (r : TrigramRow) :
    db.trigramRows.count r = (db.trigramsOf r.codepoint).count r.trigram := by
  have hinj : Function.Injective (TrigramRow.mk r.codepoint) :=
    fun a b h => congrArg TrigramRow.trigram h
  rw [← List.count_filter (l := db.trigramRows) (p := (·.codepoint == r.codepoint)) (by simp),
    trigramRows_filter]
  exact List.count_map_of_injective _ _ hinj r.trigram

/-! ### Writing a character -/

theorem putCharacter_of_lt (h : Codepoint.max < c.codepoint) :
    db.putCharacter c = .error (Codepoint.invalid c.codepoint) :=
  if_pos h

theorem putCharacter_eq_ok_iff : db.putCharacter c = .ok db' ↔
    c.codepoint ≤ Codepoint.max ∧ db.isOpen = true ∧
      db' = { db with
        characters := db.characters.put c.stored
        nameTrigrams := db.nameTrigrams.filter (·.codepoint != c.codepoint) ++
          [⟨c.codepoint, c.nameTrigrams⟩] } := by
  unfold putCharacter
  by_cases hmax : Codepoint.max < c.codepoint
  · rw [if_pos hmax]
    simp [Nat.not_le.2 hmax]
  · rw [if_neg hmax]
    cases db.isOpen with
    | false => simp
    | true => simp [Nat.not_lt.1 hmax, eq_comm]

theorem transaction_insertion (db : Database) (hmax : c.codepoint ≤ Codepoint.max) :
    transaction (insertion c) db.tables = .ok { db.tables with
      characters := db.characters.put c.stored
      trigramRows := db.trigramRows.filter (·.codepoint != c.codepoint) ++
        NameTrigrams.rows ⟨c.codepoint, c.nameTrigrams⟩ } := by
  have hput : (Statement.putRow c.stored).exec db.tables =
      .ok { db.tables with characters := db.characters.put c.stored } := if_pos hmax
  have hadd := transaction_addTrigram (NameTrigrams.rows_nodup ⟨c.codepoint, c.nameTrigrams⟩)
    (t := { db.tables with
      characters := db.characters.put c.stored
      trigramRows := db.trigramRows.filter (·.codepoint != c.codepoint) })
    fun r hr => by
      obtain ⟨t, -, rfl⟩ := List.mem_map.1 hr
      simp
  rw [NameTrigrams.rows, List.map_map] at hadd
  unfold insertion
  rw [transaction_cons, hput]
  exact hadd

/-- Writing a character to an open database is the transaction of its statements: either all of them
succeed or, its code point being out of range, it is refused. -/
theorem tables_putCharacter (db : Database) (c : Character) (hopen : db.isOpen = true) :
    (db.putCharacter c).toOption.map tables = (transaction (insertion c) db.tables).toOption := by
  by_cases hmax : c.codepoint ≤ Codepoint.max
  · rw [putCharacter_eq_ok_iff.2 ⟨hmax, hopen, rfl⟩, transaction_insertion db hmax]
    simp only [Except.toOption, Option.map_some, tables, trigramRows, List.flatMap_append,
      List.flatMap_singleton]
    rw [filter_rows (· != c.codepoint)]
  · have hput : (Statement.putRow c.stored).exec db.tables =
        .error (.check "codepoint BETWEEN 0 AND 1114111") := if_neg hmax
    rw [putCharacter_of_lt (Nat.not_le.1 hmax), insertion, transaction_cons, hput]
    rfl

end Database
end CharAtlas
