import CharAtlas.Proofs.Comparison
import CharAtlas.Version
import Mathlib.Order.Compare
import Mathlib.Data.String.Basic

/-! # Versions in order

Versions compare by the numbers that are read in them and then by their texts
(`Version.compare_eq_compareLex`). So no two versions are on a par, and `Version.Precedes` says which
one comes first. -/

namespace CharAtlas.Version

variable {a b : String} {p q : Option (Nat × Nat)}

/-! ### Numbers -/

/-- Versions without numbers come last. -/
def compareNumbers : Option (Nat × Nat) → Option (Nat × Nat) → Ordering
  | some (m, n), some (m', n') => (Ord.compare m m').then (Ord.compare n n')
  | some _, none => .lt
  | none, some _ => .gt
  | none, none => .eq

theorem compareNumbers_eq_eq_iff : compareNumbers p q = .eq ↔ p = q := by
  cases p <;> cases q <;> simp [compareNumbers, Prod.ext_iff]

theorem compareNumbers_eq_lt_iff : compareNumbers p q = .lt ↔
    (∃ m n m' n', p = some (m, n) ∧ q = some (m', n') ∧ (m < m' ∨ m = m' ∧ n < n')) ∨
      p ≠ none ∧ q = none := by
  rcases p with _ | ⟨m, n⟩ <;> rcases q with _ | ⟨m', n'⟩ <;>
    simp [compareNumbers, Ordering.then_eq_lt, compare_lt_iff_lt]

theorem transCmp_pairs : Std.TransCmp
    (compareLex (compareOn Prod.fst) (compareOn Prod.snd) : Nat × Nat → Nat × Nat → Ordering) :=
  inferInstance

instance : Std.OrientedCmp compareNumbers where
  eq_swap {p q} := by
    cases p <;> cases q
    case some.some p q => exact transCmp_pairs.eq_swap
    all_goals rfl

instance : Std.TransCmp compareNumbers where
  isLE_trans {p q r} hpq hqr := by
    cases p <;> cases q <;> cases r
    case some.some.some p q r => exact transCmp_pairs.isLE_trans hpq hqr
    all_goals first | rfl | contradiction

/-! ### Versions -/

theorem compare_eq_compareLex : Version.compare =
    compareLex (fun a b => compareNumbers (numbers? a) (numbers? b)) Ord.compare := by
  funext a b
  show _ = (compareNumbers (numbers? a) (numbers? b)).then (Ord.compare a b)
  unfold Version.compare
  generalize numbers? a = p
  generalize numbers? b = q
  cases p <;> cases q <;> rfl

instance : Std.TransCmp Version.compare := by
  have hnumbers : Std.TransCmp fun a b => compareNumbers (numbers? a) (numbers? b) :=
    transCmp_comap numbers?
  rw [compare_eq_compareLex]
  infer_instance

instance : Std.LawfulEqCmp Version.compare where
  eq_of_compare h := by
    rw [compare_eq_compareLex, compareLex_eq_eq] at h
    exact Std.LawfulEqOrd.eq_of_compare h.2

/-- Of two versions with different numbers the smaller comes first, and every version with numbers
comes before those without. Otherwise the texts decide. -/
inductive Precedes (a b : String) : Prop
  | numbers {m n m' n' : Nat} (ha : numbers? a = some (m, n)) (hb : numbers? b = some (m', n'))
    (h : m < m' ∨ m = m' ∧ n < n')
  | unreadable (ha : numbers? a ≠ none) (hb : numbers? b = none)
  | texts (hab : numbers? a = numbers? b) (h : a < b)

theorem compare_eq_lt_iff : Version.compare a b = .lt ↔ Precedes a b := by
  have htexts : Ord.compare a b = .lt ↔ a < b := compareOfLessAndEq_eq_lt
  rw [compare_eq_compareLex, compareLex, Ordering.then_eq_lt, compareNumbers_eq_eq_iff,
    compareNumbers_eq_lt_iff, htexts]
  constructor
  · rintro ((⟨m, n, m', n', ha, hb, h⟩ | ⟨ha, hb⟩) | ⟨hab, h⟩)
    · exact .numbers ha hb h
    · exact .unreadable ha hb
    · exact .texts hab h
  · rintro (⟨ha, hb, h⟩ | ⟨ha, hb⟩ | ⟨hab, h⟩)
    · exact .inl (.inl ⟨_, _, _, _, ha, hb, h⟩)
    · exact .inl (.inr ⟨ha, hb⟩)
    · exact .inr ⟨hab, h⟩

theorem Precedes.asymm (hab : Precedes a b) : ¬Precedes b a := fun hba =>
  Std.OrientedCmp.not_lt_of_lt (compare_eq_lt_iff.2 hab) (compare_eq_lt_iff.2 hba)

theorem Precedes.ne (h : Precedes a b) : a ≠ b := by
  rintro rfl
  exact h.asymm h

end CharAtlas.Version
