import CharAtlas.Proofs.Store.History
import CharAtlas.Query.Condition

/-! # Scores as fractions of sets

With consistent tables the score of a row is the number of trigrams that its name and the anchor
share over the number of those that either has (`Database.score_eq`). -/

namespace CharAtlas

namespace OrderedSet
variable {a b : OrderedSet String}

theorem card_inter (a b : OrderedSet String) :
    (a.toFinset ∩ b.toFinset).card = a.toList.countP b.contains := by
  rw [← Finset.filter_mem_eq_inter, Finset.card_def, Finset.filter_val,
    List.countP_eq_length_filter]
  change (Multiset.filter (· ∈ b.toFinset) (a.toList : Multiset String)).card = _
  rw [Multiset.filter_coe, Multiset.coe_card]
  congr 1
  refine List.filter_congr fun t _ => ?_
  rw [Bool.eq_iff_iff, decide_eq_true_iff, mem_toFinset, contains_iff]

theorem toFinset_nonempty_iff : a.toFinset.Nonempty ↔ a.isEmpty = false := by
  rw [← Bool.not_eq_true, isEmpty_iff, not_forall_not]
  rfl

end OrderedSet

/-- The name of a row, compared with a text, shares three tenths of all trigrams or more. -/
def Character.Resembles (c : Character) (text : String) : Prop :=
  (trigrams text).toFinset.Nonempty ∧
    3 * (c.nameTrigrams.toFinset ∪ (trigrams text).toFinset).card ≤
      10 * (c.nameTrigrams.toFinset ∩ (trigrams text).toFinset).card

namespace Database
variable {db db' : Database} {a a' : Anchor} {c c' : StoredCharacter}

theorem nameTrigrams_of_name {name : String} (h : c.name = some name) :
    c.nameTrigrams = trigrams name := by
  unfold Character.nameTrigrams
  rw [h]

theorem score_eq (h : Consistent db) (hc : c ∈ db.characters.rows)
    (ha : a.trigrams.isEmpty = false) :
    db.score a c = some ⟨(c.nameTrigrams.toFinset ∩ a.trigrams.toFinset).card,
      (c.nameTrigrams.toFinset ∪ a.trigrams.toFinset).card⟩ := by
  have hshared : (db.trigramsOf c.codepoint).countP a.trigrams.contains =
      (c.nameTrigrams.toFinset ∩ a.trigrams.toFinset).card := by
    rw [h.trigrams c hc, OrderedSet.card_inter]
  have htotal : c.nameTrigramCount + a.trigrams.size -
      (c.nameTrigrams.toFinset ∩ a.trigrams.toFinset).card =
        (c.nameTrigrams.toFinset ∪ a.trigrams.toFinset).card := by
    rw [Finset.card_union, OrderedSet.card_toFinset, OrderedSet.card_toFinset, h.counted c hc]
  -- the anchor has a trigram, so there is one to divide by
  have hpos : (c.nameTrigrams.toFinset ∪ a.trigrams.toFinset).card ≠ 0 := by
    rw [Finset.card_ne_zero]
    exact (OrderedSet.toFinset_nonempty_iff.2 ha).inr
  unfold score
  simp only [ha, Bool.false_eq_true, if_false, hshared, htotal, hpos]

/-- Only the trigrams of the name and of the anchor count. -/
theorem score_congr (h : Consistent db) (h' : Consistent db') (hc : c ∈ db.characters.rows)
    (hc' : c' ∈ db'.characters.rows) (hname : c.nameTrigrams = c'.nameTrigrams)
    (ha : a.trigrams = a'.trigrams) : db.score a c = db'.score a' c' := by
  cases hempty : a.trigrams.isEmpty with
  | true =>
    unfold score
    rw [if_pos hempty, if_pos (ha ▸ hempty)]
  | false => rw [score_eq h hc hempty, score_eq h' hc' (ha ▸ hempty), hname, ha]

theorem similar_holds_iff (h : Consistent db) (hc : c ∈ db.characters.rows) :
    (Condition.similar a).holds db c = some true ↔ c.Resembles a.text := by
  unfold Condition.holds Character.Resembles
  rw [← a.trigrams_eq]
  cases ha : a.trigrams.isEmpty with
  | true =>
    have hnone : ¬a.trigrams.toFinset.Nonempty := by
      rw [OrderedSet.toFinset_nonempty_iff, ha]
      decide
    simp [score, ha, hnone, Score.zero, Score.isFuzzyMatch]
  | false =>
    rw [score_eq h hc ha]
    simp [Score.isFuzzyMatch, OrderedSet.toFinset_nonempty_iff.2 ha]

end Database
end CharAtlas
