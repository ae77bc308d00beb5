import CharAtlas.Proofs.Store.History

/-! # Pairs in a history

Which pairs of confusables a history leaves behind: those of the writes that were not refused
(`Database.mem_confusables_afterAll`). A pair and its reverse are both refused or neither
(`ConfusablePair.isValid_swap_iff`), and a database stays open until it is closed
(`Database.isOpen_afterAll`). -/

namespace CharAtlas

namespace ConfusablePair

/-- Two code points that differ. -/
def IsValid (p : ConfusablePair) : Prop :=
  p.codepoint ≠ p.confusableWith ∧ p.codepoint ≤ Codepoint.max ∧ p.confusableWith ≤ Codepoint.max

def swap (p : ConfusablePair) : ConfusablePair :=
  ⟨p.confusableWith, p.codepoint⟩

theorem isValid_swap_iff {p : ConfusablePair} : p.swap.IsValid ↔ p.IsValid := by
  unfold IsValid swap
  rw [ne_comm, and_comm (a := _ ≤ _)]

end ConfusablePair

namespace Database
variable {db : Database} {p q : ConfusablePair} {w : Write} {ws : List Write}

theorem exists_addConfusable_iff :
    (∃ result, db.addConfusable p = .ok result) ↔ p.IsValid ∧ db.isOpen = true := by
  constructor
  · rintro ⟨⟨fresh, db'⟩, h⟩
    obtain ⟨hp, hopen, -⟩ := addConfusable_eq_ok_iff.1 h
    exact ⟨hp, hopen⟩
  · rintro ⟨hp, hopen⟩
    by_cases hmem : p ∈ db.confusables
    · exact ⟨_, addConfusable_eq_ok_iff.2 ⟨hp, hopen, .inl ⟨hmem, rfl, rfl⟩⟩⟩
    · exact ⟨_, addConfusable_eq_ok_iff.2 ⟨hp, hopen, .inr ⟨hmem, rfl, rfl⟩⟩⟩

/-- Writing a pair changes the pairs and nothing else. -/
theorem exists_after_confusable (db : Database) (p : ConfusablePair) :
    ∃ pairs, db.after (.confusable p) = { db with confusables := pairs } ∧
      ∀ q, q ∈ pairs ↔ q ∈ db.confusables ∨ q = p ∧ p.IsValid ∧ db.isOpen = true := by
  cases h : db.addConfusable p with
  | error e =>
    have hrefused : ¬(p.IsValid ∧ db.isOpen = true) := by
      rw [← exists_addConfusable_iff, h]
      rintro ⟨_, ⟨⟩⟩
    have hperform : db.perform (.confusable p) = .error e := congrArg (Except.map Prod.snd) h
    exact ⟨db.confusables, after_of_error hperform, by simp [hrefused]⟩
  | ok result =>
    obtain ⟨fresh, db'⟩ := result
    have hperform : db.perform (.confusable p) = .ok db' := map_eq_ok_iff.2 ⟨_, h, rfl⟩
    rw [after_of_ok hperform]
    obtain ⟨hp, hopen, ⟨hmem, -, rfl⟩ | ⟨-, -, rfl⟩⟩ := addConfusable_eq_ok_iff.1 h
    · refine ⟨_, rfl, fun q => (or_iff_left_of_imp ?_).symm⟩
      rintro ⟨rfl, -⟩
      exact hmem
    · have hvalid : p.IsValid := hp
      exact ⟨_, rfl, by simp [hvalid, hopen]⟩

/-- A pair that is there already can be written again to no effect. -/
theorem after_confusable_of_mem (h : p ∈ db.confusables) : db.after (.confusable p) = db := by
  cases hw : db.perform (.confusable p) with
  | error e => exact after_of_error hw
  | ok db' =>
    rw [after_of_ok hw]
    obtain ⟨⟨fresh, db₁⟩, hadd, rfl⟩ := map_eq_ok_iff.1 hw
    obtain ⟨-, -, ⟨-, -, hsame⟩ | ⟨hnew, -, -⟩⟩ := addConfusable_eq_ok_iff.1 hadd
    · exact hsame
    · exact absurd h hnew

/-- All other writes do the same, whatever pairs there are, and leave these alone. -/
theorem after_with_confusables (hw : ∀ p, w ≠ .confusable p) (pairs : List ConfusablePair) :
    ({ db with confusables := pairs }).after w = { db.after w with confusables := pairs } := by
  unfold after
  cases w with
  | confusable p => exact absurd rfl (hw p)
  | character c =>
    unfold perform putCharacter
    dsimp only
    split_ifs <;> rfl
  | addFavorite user n =>
    unfold perform addFavorite isFavorite userExists
    dsimp only
    split_ifs <;> rfl
  | removeFavorite user n =>
    unfold perform removeFavorite access isFavorite
    dsimp only
    split_ifs <;> rfl
  | user u =>
    unfold perform addUser userExists
    dsimp only
    split_ifs <;> rfl
  | migrate =>
    unfold perform migrate access
    dsimp only
    split_ifs <;> rfl
  | close => rfl

theorem confusables_after (hw : ∀ p, w ≠ .confusable p) :
    (db.after w).confusables = db.confusables :=
  (congrArg Database.confusables (@after_with_confusables db w hw db.confusables) :)

/-! ### Histories -/

/-- The pair is among those written, and not refused there. -/
def Accepts (db : Database) (ws : List Write) (p : ConfusablePair) : Prop :=
  ∃ before after, ws = before ++ .confusable p :: after ∧
    ∃ result, (db.afterAll before).addConfusable p = .ok result

theorem accepts_cons_iff : db.Accepts (w :: ws) p ↔
    (w = .confusable p ∧ ∃ result, db.addConfusable p = .ok result) ∨ (db.after w).Accepts ws p := by
  constructor
  · rintro ⟨before, after, hws, hadd⟩
    cases before with
    | nil =>
      obtain ⟨rfl, rfl⟩ := List.cons.inj hws
      exact .inl ⟨rfl, hadd⟩
    | cons v before =>
      obtain ⟨rfl, rfl⟩ := List.cons.inj hws
      exact .inr ⟨before, after, rfl, hadd⟩
  · rintro (⟨rfl, hadd⟩ | ⟨before, after, rfl, hadd⟩)
    · exact ⟨[], ws, rfl, hadd⟩
    · exact ⟨w :: before, after, rfl, hadd⟩

theorem mem_confusables_after : p ∈ (db.after w).confusables ↔ p ∈ db.confusables ∨
    w = .confusable p ∧ ∃ result, db.addConfusable p = .ok result := by
  by_cases hw : ∀ q, w ≠ .confusable q
  · rw [confusables_after hw]
    exact (or_iff_left fun h => hw p h.1).symm
  · obtain ⟨q, rfl⟩ : ∃ q, w = .confusable q := by simpa using hw
    obtain ⟨pairs, hafter, hpairs⟩ := exists_after_confusable db q
    rw [hafter, hpairs, Write.confusable.injEq]
    refine or_congr Iff.rfl ⟨?_, ?_⟩
    · rintro ⟨rfl, hvalid⟩
      exact ⟨rfl, exists_addConfusable_iff.2 hvalid⟩
    · rintro ⟨rfl, hadd⟩
      exact ⟨rfl, exists_addConfusable_iff.1 hadd⟩

/-- Pairs come from the writes that were not refused, and none goes away. -/
theorem mem_confusables_afterAll :
    p ∈ (db.afterAll ws).confusables ↔ p ∈ db.confusables ∨ db.Accepts ws p := by
  induction ws generalizing db with
  | nil =>
    refine (or_iff_left ?_).symm
    rintro ⟨before, after, hws, -⟩
    simp at hws
  | cons w ws ih =>
    have hrun : p ∈ (db.afterAll (w :: ws)).confusables ↔
        p ∈ (db.after w).confusables ∨ (db.after w).Accepts ws p := ih
    rw [hrun, mem_confusables_after, or_assoc, accepts_cons_iff]

theorem isOpen_after (hw : w ≠ .close) : (db.after w).isOpen = db.isOpen := by
  cases h : db.perform w with
  | error e => rw [after_of_error h]
  | ok db' =>
    rw [after_of_ok h]
    rcases perform_cases h with ⟨c, -, hput⟩ | ⟨p, fresh, -, hadd⟩ | ⟨-, -, -, hopen⟩
    · obtain ⟨-, -, rfl⟩ := putCharacter_eq_ok_iff.1 hput
      rfl
    · obtain ⟨-, -, ⟨-, -, rfl⟩ | ⟨-, -, rfl⟩⟩ := addConfusable_eq_ok_iff.1 hadd <;> rfl
    · exact hopen hw

theorem isOpen_afterAll (hws : .close ∉ ws) : (db.afterAll ws).isOpen = db.isOpen := by
  induction ws generalizing db with
  | nil => rfl
  | cons w ws ih =>
    have hw : w ≠ .close := fun h => hws (h ▸ List.mem_cons_self ..)
    have hrun : (db.afterAll (w :: ws)).isOpen = (db.after w).isOpen :=
      ih fun h => hws (List.mem_cons_of_mem _ h)
    rw [hrun, isOpen_after hw]

end Database
end CharAtlas
