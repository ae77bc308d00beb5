import CharAtlas.Proofs.Query.Similarity
import Mathlib.Algebra.Order.Field.Rat
import Mathlib.Tactic.Positivity

/-! # Scores as numbers

As a number (`Score.ratio`) the score of a row is the similarity of two sets of trigrams, those of
its name and those of the anchor (`OrderedSet.similarity`). With the tables that any history of
writes leaves behind there is always something to divide by, and three tenths are a match
(`Database.score_afterAll`). -/

namespace CharAtlas

namespace OrderedSet
variable {a b : OrderedSet String}

theorem toFinset_inj : a.toFinset = b.toFinset ↔ a = b := by
  refine ⟨fun h => ext fun t => ?_, fun h => h ▸ rfl⟩
  rw [← mem_toFinset, h, mem_toFinset]

/-- How much of all that is in two sets is in both. -/
def similarity (a b : OrderedSet String) : ℚ :=
  (a.toFinset ∩ b.toFinset).card / (a.toFinset ∪ b.toFinset).card

theorem card_inter_le_card_union (a b : OrderedSet String) :
    (a.toFinset ∩ b.toFinset).card ≤ (a.toFinset ∪ b.toFinset).card :=
  Finset.card_le_card (Finset.inter_subset_left.trans Finset.subset_union_left)

theorem similarity_nonneg (a b : OrderedSet String) : 0 ≤ similarity a b := by
  unfold similarity
  positivity

theorem similarity_le_one (a b : OrderedSet String) : similarity a b ≤ 1 :=
  div_le_one_of_le₀ (Nat.cast_le.2 (card_inter_le_card_union a b)) (Nat.cast_nonneg _)

/-- Only a set that is not empty is all of itself. -/
theorem similarity_eq_one_iff (hb : b.isEmpty = false) : similarity a b = 1 ↔ a = b := by
  have hpos : (a.toFinset ∪ b.toFinset).card ≠ 0 :=
    Finset.card_ne_zero.2 (toFinset_nonempty_iff.2 hb).inr
  unfold similarity
  rw [div_eq_one_iff_eq (Nat.cast_ne_zero.2 hpos), Nat.cast_inj]
  constructor
  · intro hcard
    have hunion : a.toFinset ∩ b.toFinset = a.toFinset ∪ b.toFinset :=
      Finset.eq_of_subset_of_card_le (Finset.inter_subset_left.trans Finset.subset_union_left)
        hcard.ge
    exact toFinset_inj.1 (inf_eq_sup.1 hunion)
  · rintro rfl
    rw [Finset.inter_self, Finset.union_self]

end OrderedSet

namespace Score
variable {s t : Score}

def ratio (s : Score) : ℚ :=
  s.shared / s.total

theorem isFuzzyMatch_iff (h : 0 < s.total) : s.isFuzzyMatch = true ↔ 3 / 10 ≤ s.ratio := by
  unfold isFuzzyMatch ratio
  rw [decide_eq_true_iff, div_le_div_iff₀ (by norm_num) (Nat.cast_pos.2 h), mul_comm (s.shared : ℚ)]
  exact_mod_cast Iff.rfl

theorem ratio_lt_ratio_iff (hs : 0 < s.total) (ht : 0 < t.total) :
    s.ratio < t.ratio ↔ s.shared * t.total < t.shared * s.total := by
  unfold ratio
  rw [div_lt_div_iff₀ (Nat.cast_pos.2 hs) (Nat.cast_pos.2 ht)]
  exact_mod_cast Iff.rfl

/-- Scores compare as the numbers do. -/
theorem compare_eq (hs : 0 < s.total) (ht : 0 < t.total) :
    s.compare t = Ord.compare s.ratio t.ratio := by
  have hlt := ratio_lt_ratio_iff hs ht
  have hgt := ratio_lt_ratio_iff ht hs
  unfold Score.compare
  rcases lt_trichotomy (s.shared * t.total) (t.shared * s.total) with h | h | h
  · rw [compare_lt_iff_lt.2 h, compare_lt_iff_lt.2 (hlt.2 h)]
  · have heq : s.ratio = t.ratio :=
      le_antisymm (not_lt.1 fun hr => (hgt.1 hr).ne h.symm) (not_lt.1 fun hr => (hlt.1 hr).ne h)
    rw [compare_eq_iff_eq.2 h, compare_eq_iff_eq.2 heq]
  · rw [compare_gt_iff_gt.2 h, compare_gt_iff_gt.2 (hgt.2 h)]

end Score

namespace Database
variable {db : Database} {a : Anchor} {c : StoredCharacter} {s : Score}

theorem total_pos_of_score (h : db.score a c = some s) : 0 < s.total := by
  unfold score at h
  split at h
  · obtain rfl := Option.some.inj h
    decide
  · simp only [Option.ite_none_left_eq_some, Option.some.injEq] at h
    obtain ⟨hne, rfl⟩ := h
    exact Nat.pos_of_ne_zero hne

/-- How many rows of the table of trigrams say that the name has a trigram of the anchor. -/
def sharedCount (db : Database) (a : Anchor) (c : StoredCharacter) : Nat :=
  db.trigramRows.countP fun r => r.codepoint == c.codepoint && a.trigrams.contains r.trigram

theorem sharedCount_eq (db : Database) (a : Anchor) (c : StoredCharacter) :
    db.sharedCount a c = (db.trigramsOf c.codepoint).countP a.trigrams.contains := by
  have hrows : db.sharedCount a c = (db.trigramRows.filter (·.codepoint == c.codepoint)).countP
      fun r => a.trigrams.contains r.trigram := by
    rw [List.countP_filter]
    exact List.countP_congr fun r _ => by simp [and_comm]
  rw [hrows, trigramRows_filter, List.countP_map]
  rfl

theorem sharedCount_eq_card (h : Consistent db) (hc : c ∈ db.characters.rows) :
    db.sharedCount a c = (c.nameTrigrams.toFinset ∩ a.trigrams.toFinset).card := by
  rw [sharedCount_eq, h.trigrams c hc, OrderedSet.card_inter]

/-- What a score is divided by, the count of the name's trigrams being the one that is kept. -/
theorem total_eq_card (h : Consistent db) (hc : c ∈ db.characters.rows) :
    (c.nameTrigramCount : ℤ) + a.trigrams.size - db.sharedCount a c =
      (c.nameTrigrams.toFinset ∪ a.trigrams.toFinset).card := by
  have hcard := Finset.card_union_add_card_inter c.nameTrigrams.toFinset a.trigrams.toFinset
  rw [OrderedSet.card_toFinset, OrderedSet.card_toFinset] at hcard
  rw [sharedCount_eq_card h hc, h.counted c hc]
  omega

/-- Whatever has been written, the kept trigrams and their kept count give the similarity of name
and anchor, and it is a match from three tenths on. An anchor without trigrams matches nothing. -/
theorem score_afterAll (ws : List Write) (a : Anchor) {c : StoredCharacter}
    (hc : c ∈ (empty.afterAll ws).characters.rows) :
    (a.trigrams.isEmpty = false →
      1 ≤ (c.nameTrigramCount : ℤ) + a.trigrams.size - (empty.afterAll ws).sharedCount a c ∧
      ∃ s, (empty.afterAll ws).score a c = some s ∧
        s.ratio = (empty.afterAll ws).sharedCount a c /
          ((c.nameTrigramCount : ℚ) + a.trigrams.size - (empty.afterAll ws).sharedCount a c) ∧
        s.ratio = c.nameTrigrams.similarity (trigrams a.text) ∧
        0 ≤ s.ratio ∧ s.ratio ≤ 1 ∧ (s.ratio = 1 ↔ c.nameTrigrams = trigrams a.text) ∧
        ((Condition.similar a).holds (empty.afterAll ws) c = some true ↔ 3 / 10 ≤ s.ratio) ∧
        ((Condition.similar a).holds (empty.afterAll ws) c = some true ↔
          10 * (c.nameTrigrams.toFinset ∩ (trigrams a.text).toFinset).card ≥
            3 * (c.nameTrigrams.toFinset ∪ (trigrams a.text).toFinset).card)) ∧
    (a.trigrams.isEmpty = true →
      (Condition.similar a).holds (empty.afterAll ws) c ≠ some true) := by
  have h : Consistent (empty.afterAll ws) := Consistent.empty.afterAll ws
  have hholds := similar_holds_iff (a := a) h hc
  constructor
  · intro ha
    have hscore := score_eq h hc ha
    have htotal := total_eq_card (a := a) h hc
    have hpos := total_pos_of_score hscore
    have hone := OrderedSet.similarity_eq_one_iff (a := c.nameTrigrams) ha
    rw [← a.trigrams_eq]
    refine ⟨?_, _, hscore, ?_, rfl, OrderedSet.similarity_nonneg _ _,
      OrderedSet.similarity_le_one _ _, hone, ?_, ?_⟩
    · rw [htotal]
      exact_mod_cast hpos
    · have hq : (c.nameTrigramCount : ℚ) + a.trigrams.size - (empty.afterAll ws).sharedCount a c =
          (c.nameTrigrams.toFinset ∪ a.trigrams.toFinset).card := by
        exact_mod_cast htotal
      rw [hq, sharedCount_eq_card h hc]
      rfl
    · rw [← Score.isFuzzyMatch_iff hpos, Condition.holds, hscore]
      simp
    · rw [hholds, Character.Resembles, ← a.trigrams_eq,
        and_iff_right (OrderedSet.toFinset_nonempty_iff.2 ha)]
  · intro ha
    rw [Ne, hholds, Character.Resembles, ← a.trigrams_eq, OrderedSet.toFinset_nonempty_iff, ha]
    simp

def fiveLetters : Character :=
  { codepoint := 0x41, name := some "ABCDE" }

/-- The character had another name before, of which no trigrams are left. -/
def renamed : List Write :=
  [.character { fiveLetters with name := some "ABCXYZ" }, .character fiveLetters]

/-- Of the ten trigrams that name and anchor have three are in both. -/
theorem score_afterAll_renamed :
    fiveLetters.stored ∈ (empty.afterAll renamed).characters.rows ∧
    (Anchor.ofText "abcxyz").trigrams.isEmpty = false ∧
    ∃ s, (empty.afterAll renamed).score (.ofText "abcxyz") fiveLetters.stored = some s ∧
      s.ratio = 3 / 10 ∧ (Condition.similar (.ofText "abcxyz")).holds (empty.afterAll renamed)
        fiveLetters.stored = some true := by
  have hrow : fiveLetters.stored ∈ (empty.afterAll renamed).characters.rows := by decide +kernel
  have ha : (Anchor.ofText "abcxyz").trigrams.isEmpty = false := by decide +kernel
  obtain ⟨-, s, hs, -, hratio, -, -, -, hmatch, -⟩ :=
    (score_afterAll renamed (.ofText "abcxyz") hrow).1 ha
  have hinter : (fiveLetters.nameTrigrams.toFinset ∩ (trigrams "abcxyz").toFinset).card = 3 := by
    decide +kernel
  have hunion : (fiveLetters.nameTrigrams.toFinset ∪ (trigrams "abcxyz").toFinset).card = 10 := by
    decide +kernel
  have hthree : s.ratio = 3 / 10 := by
    have hsimilar : s.ratio = fiveLetters.nameTrigrams.similarity (trigrams "abcxyz") := hratio
    rw [hsimilar, OrderedSet.similarity, hinter, hunion]
    norm_num
  exact ⟨hrow, ha, s, hs, hthree, hmatch.2 hthree.ge⟩

end Database
end CharAtlas
