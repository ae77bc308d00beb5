import CharAtlas.Proofs.Comparison
import CharAtlas.Proofs.Corpus.Table
import CharAtlas.Proofs.Query.Score
import CharAtlas.Query.Order
import Mathlib.Data.List.Sort

/-! # The order of rows

Every list of criteria compares rows by a total preorder (`Database.compareRows`), and the criteria
of a sort key leave no two rows of a table on a par. So there is one way to put rows in order
(`Database.eq_sortRows_iff`), and each page of an answer may sort them anew. -/

namespace CharAtlas

theorem transCmp_apply {β : Type} {cmp : β → β → Ordering} [Std.TransCmp cmp] (dir : Direction) :
    Std.TransCmp fun a b => dir.apply (cmp a b) := by
  cases dir with
  | asc => assumption
  | desc =>
    have hswap : (fun a b => Direction.desc.apply (cmp a b)) = fun a b => cmp b a := by
      funext a b
      exact Std.OrientedCmp.eq_swap.symm
    rw [hswap]
    exact Std.TransCmp.opposite

instance : Std.OrientedCmp Value.compare where
  eq_swap {a b} := by
    cases a <;> cases b <;> first | rfl | exact Std.OrientedOrd.eq_swap

instance : Std.TransCmp Value.compare where
  isLE_trans {a b c} hab hbc := by
    cases a <;> cases b <;> cases c <;>
      first | rfl | contradiction | exact Std.TransOrd.isLE_trans hab hbc

namespace Criterion
variable {k : Criterion} {c d : StoredCharacter}

/-- How one criterion alone compares two rows. -/
def compareRows (db : Database) (k : Criterion) (c d : StoredCharacter) : Ordering :=
  k.direction.apply ((k.rank db c).compare (k.rank db d))

/-- The score that a distance is worked out from. -/
def scoreOrZero (db : Database) (a : Anchor) (c : StoredCharacter) : Score :=
  (db.score a c).getD .zero

theorem total_scoreOrZero_pos (db : Database) (a : Anchor) (c : StoredCharacter) :
    0 < (scoreOrZero db a c).total := by
  unfold scoreOrZero
  cases h : db.score a c with
  | none => decide
  | some s => exact Database.total_pos_of_score h

/-- The ranks under one criterion are all values or all scores with something to divide by. -/
theorem transCmp_rank (db : Database) (k : Criterion) :
    Std.TransCmp fun c d => (k.rank db c).compare (k.rank db d) := by
  cases k with
  | column col dir =>
    exact @transCmp_comap _ _ Value.compare _ fun c : StoredCharacter => c.value col
  | distance a dir =>
    have hratio : (fun c d => (rank db c (.distance a dir)).compare (rank db d (.distance a dir))) =
        fun c d => Ord.compare (scoreOrZero db a d).ratio (scoreOrZero db a c).ratio := by
      funext c d
      exact Score.compare_eq (total_scoreOrZero_pos db a d) (total_scoreOrZero_pos db a c)
    have hasc : Std.TransCmp fun c d =>
        Ord.compare (scoreOrZero db a c).ratio (scoreOrZero db a d).ratio :=
      @transCmp_comap _ ℚ Ord.compare _ fun c => (scoreOrZero db a c).ratio
    rw [hratio]
    exact Std.TransCmp.opposite

instance (db : Database) (k : Criterion) : Std.TransCmp (k.compareRows db) :=
  have := transCmp_rank db k
  transCmp_apply k.direction

end Criterion

namespace Database
variable {db : Database} {criteria : List Criterion} {rows l : List StoredCharacter}
  {c d : StoredCharacter} {key : SortKey} {dir : Direction} {anchor : Option Anchor}

/-- The first criterion that tells two rows apart decides. -/
def compareRows (db : Database) (criteria : List Criterion) (c d : StoredCharacter) : Ordering :=
  compareRanks criteria (ranks db criteria c) (ranks db criteria d)

theorem compareRows_cons (k : Criterion) (criteria : List Criterion) :
    db.compareRows (k :: criteria) = compareLex (k.compareRows db) (db.compareRows criteria) := rfl

instance (db : Database) (criteria : List Criterion) : Std.TransCmp (db.compareRows criteria) := by
  induction criteria with
  | nil => exact { eq_swap := rfl, isLE_trans := fun _ _ => rfl }
  | cons k criteria ih =>
    rw [compareRows_cons]
    infer_instance

/-- Rows that no criterion tells apart have one code point if the code point is a criterion. -/
theorem codepoint_eq_of_compareRows (hk : .column .codepoint dir ∈ criteria)
    (h : db.compareRows criteria c d = .eq) : c.codepoint = d.codepoint := by
  induction criteria with
  | nil => exact absurd hk List.not_mem_nil
  | cons k criteria ih =>
    rw [compareRows_cons, compareLex, Ordering.then_eq_eq] at h
    rcases List.mem_cons.1 hk with rfl | hk
    · have hvalue : dir.apply (Ord.compare (c.codepoint : Int) d.codepoint) = .eq := h.1
      cases dir <;> simpa [Direction.apply] using hvalue
    · exact ih hk h.2

/-- Greater scores come first in the ascending order, and equal ones leave it to the code point. -/
theorem compareRows_similarity (db : Database) (a : Anchor) (dir : Direction)
    (c d : StoredCharacter) : db.compareRows (SortKey.similarity.criteria dir (some a)) c d =
      (dir.apply (Ord.compare (Criterion.scoreOrZero db a d).ratio
        (Criterion.scoreOrZero db a c).ratio)).then
          (Ord.compare (c.codepoint : Int) d.codepoint) := by
  have hscore := Score.compare_eq (Criterion.total_scoreOrZero_pos db a d)
    (Criterion.total_scoreOrZero_pos db a c)
  rw [← hscore]
  show Ordering.then _ (Ordering.then _ .eq) = _
  rw [Ordering.then_eq]
  rfl

theorem ratio_scoreOrZero {a : Anchor} (h : Consistent db) (hc : c ∈ db.characters.rows) :
    (Criterion.scoreOrZero db a c).ratio = c.nameTrigrams.similarity a.trigrams := by
  unfold Criterion.scoreOrZero
  cases ha : a.trigrams.isEmpty with
  | false =>
    rw [score_eq h hc ha]
    rfl
  | true =>
    have hempty : a.trigrams.toFinset = ∅ := by
      rw [← Finset.not_nonempty_iff_eq_empty, OrderedSet.toFinset_nonempty_iff, ha]
      decide
    unfold score OrderedSet.similarity
    rw [if_pos ha, hempty, Finset.inter_empty]
    simp [Score.ratio, Score.zero]

/-- All sort keys come to the code point in the end. -/
theorem exists_codepoint_mem_criteria (key : SortKey) (dir : Direction) (anchor : Option Anchor) :
    ∃ dir', .column .codepoint dir' ∈ key.criteria dir anchor := by
  cases key <;> cases anchor <;> simp [SortKey.criteria]

theorem sortRows_eq_mergeSort (db : Database) (criteria : List Criterion)
    (rows : List StoredCharacter) :
    sortRows db criteria rows = rows.mergeSort fun c d => (db.compareRows criteria c d).isLE := by
  have hranks : ∀ a ∈ rows.map fun c => (ranks db criteria c, c), a.1 = ranks db criteria a.2 := by
    intro a ha
    obtain ⟨c, -, rfl⟩ := List.mem_map.1 ha
    rfl
  unfold sortRows
  rw [List.map_mergeSort (s := fun c d => (db.compareRows criteria c d).isLE), List.map_map]
  · congr 1
    exact List.map_id' rows
  · intro a ha b hb
    rw [hranks a ha, hranks b hb]
    rfl

/-- Sorting yields the rows in order. -/
theorem pairwise_sortRows (db : Database) (criteria : List Criterion)
    (rows : List StoredCharacter) :
    (sortRows db criteria rows).Pairwise fun c d => (db.compareRows criteria c d).isLE := by
  rw [sortRows_eq_mergeSort]
  exact pairwise_mergeSort_isLE rows

theorem sortRows_perm (db : Database) (criteria : List Criterion) (rows : List StoredCharacter) :
    (sortRows db criteria rows).Perm rows := by
  rw [sortRows_eq_mergeSort]
  exact List.mergeSort_perm _ _

/-- Rows of different code points can be put in order in one way only. -/
theorem eq_sortRows_iff
    (hrows : ∀ c ∈ rows, ∀ d ∈ rows, c.codepoint = d.codepoint → c = d) :
    l = sortRows db (key.criteria dir anchor) rows ↔ l.Perm rows ∧
      l.Pairwise fun c d => (db.compareRows (key.criteria dir anchor) c d).isLE := by
  constructor
  · rintro rfl
    exact ⟨sortRows_perm db _ rows, pairwise_sortRows db _ rows⟩
  · rintro ⟨hperm, hsorted⟩
    obtain ⟨dir', hcode⟩ := exists_codepoint_mem_criteria key dir anchor
    have hsort := sortRows_perm db (key.criteria dir anchor) rows
    refine List.Perm.eq_of_pairwise (fun c d hc hd hcd hdc => ?_) hsorted
      (pairwise_sortRows db _ rows) (hperm.trans hsort.symm)
    have htie := Std.OrientedCmp.isLE_antisymm hcd hdc
    exact hrows c (hperm.subset hc) d (hsort.subset hd) (codepoint_eq_of_compareRows hcode htie)

end Database
end CharAtlas
