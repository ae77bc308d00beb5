import CharAtlas.Decimal
import CharAtlas.Proofs.Numeral
import Mathlib.Data.List.TakeWhile
import Mathlib.Tactic.Linarith

/-! # Rounding to double precision

A whole number too large for 53 binary digits is rounded. There is a finite number next to it as far as
it is below `Decimal.overflow` (`Decimal.wholeOfRatio?_eq_none_iff`), and it does not become small
(`Decimal.le_of_wholeOfRatio?`). A numeral without a point is read as the whole number that it denotes
(`Decimal.ofText?_of_pos`). -/

namespace CharAtlas.Decimal
variable {n d m : Nat} {ds : List Char}

/-! ### Quotients -/

theorem le_roundRatio (n d : Nat) : n / d ≤ roundRatio n d := by
  unfold roundRatio
  dsimp only
  split_ifs <;> omega

theorem roundRatio_le (n d : Nat) : roundRatio n d ≤ n / d + 1 := by
  unfold roundRatio
  dsimp only
  split_ifs <;> omega

/-- An odd number is not reached from half way to the next one. -/
theorem roundRatio_le_iff (hd : 0 < d) (hm : m % 2 = 1) :
    roundRatio n d ≤ m ↔ 2 * n < (2 * m + 1) * d := by
  have hn : d * (n / d) + n % d = n := Nat.div_add_mod n d
  have hmod : n % d < d := Nat.mod_lt n hd
  have hlow := le_roundRatio n d
  have hhigh := roundRatio_le n d
  rcases Nat.lt_trichotomy (n / d) m with hlt | rfl | hgt
  · have hmul : d * (n / d + 1) ≤ d * m := Nat.mul_le_mul_left d hlt
    refine iff_of_true (by omega) ?_
    nlinarith
  · have hround : roundRatio n d ≤ n / d ↔ 2 * (n % d) < d := by
      unfold roundRatio
      dsimp only
      split_ifs <;> omega
    rw [hround]
    constructor <;> intro h <;> nlinarith
  · have hmul : d * (m + 1) ≤ n :=
      (Nat.mul_le_mul_left d hgt).trans (Nat.mul_div_le n d)
    refine iff_of_false (by omega) ?_
    nlinarith

/-! ### Finite numbers -/

/-- Numbers of `53 + k` binary digits, rounded to 53 of them, stay below a power of two as far as they
are not within half a unit of it. -/
theorem roundRatio_lt_iff {j k : Nat} (hlow : 2 ^ (52 + k) ≤ n) (hhigh : n < 2 ^ (53 + k)) :
    roundRatio n (2 ^ k) * 2 ^ k < 2 ^ (54 + j) ↔ n + 2 ^ j < 2 ^ (54 + j) := by
  have hj : 0 < 2 ^ j := Nat.two_pow_pos j
  have hfloor : 2 ^ 52 ≤ n / 2 ^ k := by
    rwa [Nat.le_div_iff_mul_le (Nat.two_pow_pos k), ← Nat.pow_add]
  have hceil : n / 2 ^ k < 2 ^ 53 := by
    rwa [Nat.div_lt_iff_lt_mul (Nat.two_pow_pos k), ← Nat.pow_add]
  rcases Nat.lt_trichotomy k (j + 1) with hlt | rfl | hgt
  · -- rounding up does not even double the number
    have hround : roundRatio n (2 ^ k) * 2 ^ k ≤ 2 ^ 53 * 2 ^ k :=
      Nat.mul_le_mul_right _ ((roundRatio_le n _).trans hceil)
    have hpow : 2 ^ k ≤ 2 ^ j := Nat.pow_le_pow_right (by decide) (by omega)
    rw [Nat.pow_add] at hhigh
    rw [Nat.pow_add]
    exact iff_of_true (by omega) (by omega)
  · have hodd := roundRatio_le_iff (n := n) (m := 2 ^ 53 - 1) (Nat.two_pow_pos (j + 1)) (by decide)
    have hdouble : 2 ^ (54 + j) = 2 ^ 53 * 2 ^ (j + 1) := by
      rw [← Nat.pow_add]
      congr 1
      omega
    rw [hdouble, Nat.mul_lt_mul_right (Nat.two_pow_pos _), ← Nat.le_sub_one_iff_lt (by decide), hodd,
      Nat.pow_succ]
    omega
  · have hround : 2 ^ 52 * 2 ^ k ≤ roundRatio n (2 ^ k) * 2 ^ k :=
      Nat.mul_le_mul_right _ (hfloor.trans (le_roundRatio n _))
    have hpow : 2 ^ (j + 2) ≤ 2 ^ k := Nat.pow_le_pow_right (by decide) hgt
    rw [Nat.pow_add] at hlow hpow
    rw [Nat.pow_add]
    exact iff_of_false (by omega) (by omega)

/-- From here on the nearest number of double precision is not finite. -/
def overflow : Nat :=
  2 ^ 1024 - 2 ^ 970

/-- A number of 54 binary digits or more, with the number of digits that are rounded away. -/
theorem exists_digits (h : 2 ^ 53 ≤ n) :
    ∃ k, 0 < k ∧ 2 ^ (52 + k) ≤ n ∧ n < 2 ^ (53 + k) := by
  have hne : n ≠ 0 := (Nat.lt_of_lt_of_le (Nat.two_pow_pos _) h).ne'
  have hlog : 53 ≤ Nat.log2 n := (Nat.le_log2 hne).2 h
  refine ⟨Nat.log2 n - 52, by omega, ?_, ?_⟩
  · rw [show 52 + (Nat.log2 n - 52) = Nat.log2 n by omega]
    exact Nat.log2_self_le hne
  · rw [show 53 + (Nat.log2 n - 52) = Nat.log2 n + 1 by omega]
    exact Nat.lt_log2_self

theorem wholeOfRatio?_one {k : Nat} (hk : 0 < k) (hlow : 2 ^ (52 + k) ≤ n) (hhigh : n < 2 ^ (53 + k)) :
    wholeOfRatio? n 1 = if n < overflow then some (roundRatio n (2 ^ k) * 2 ^ k) else none := by
  have hne : n ≠ 0 := (Nat.lt_of_lt_of_le (Nat.two_pow_pos _) hlow).ne'
  have hlog : Nat.log2 n = 52 + k :=
    (Nat.log2_eq_iff hne).2 ⟨hlow, by rwa [show 52 + k + 1 = 53 + k by omega]⟩
  have hwhole : wholeOfRatio? n 1 = if roundRatio n (2 ^ k) * 2 ^ k < 1 <<< 1024 then
      some (roundRatio n (2 ^ k) * 2 ^ k) else none := by
    unfold wholeOfRatio?
    dsimp only
    rw [if_neg (show ¬n < 1 by omega), Nat.div_one, hlog, if_neg (show ¬52 + k ≤ 52 by omega),
      Nat.add_sub_cancel_left, Nat.one_shiftLeft k, Nat.shiftLeft_eq]
  rw [hwhole]
  refine if_congr ?_ rfl rfl
  have hshift : ∀ e, 1 <<< e = 2 ^ e := Nat.one_shiftLeft
  have hround := roundRatio_lt_iff (j := 970) hlow hhigh
  rw [show 54 + 970 = 1024 from rfl] at hround
  rw [hshift, overflow, Nat.lt_sub_iff_add_lt]
  exact hround

/-- The nearest number of double precision is finite up to where rounding arrives at `2 ^ 1024`. -/
theorem wholeOfRatio?_eq_none_iff (h : 2 ^ 53 ≤ n) :
    wholeOfRatio? n 1 = none ↔ overflow ≤ n := by
  obtain ⟨k, hk, hlow, hhigh⟩ := exists_digits h
  rw [wholeOfRatio?_one hk hlow hhigh, ← Nat.not_lt]
  split_ifs with hn <;> simp [hn]

theorem le_of_wholeOfRatio? (h : 2 ^ 53 ≤ n) (hm : wholeOfRatio? n 1 = some m) : 2 ^ 53 ≤ m := by
  obtain ⟨k, hk, hlow, hhigh⟩ := exists_digits h
  rw [wholeOfRatio?_one hk hlow hhigh] at hm
  split_ifs at hm
  obtain rfl := Option.some.inj hm
  have hfloor : 2 ^ 52 ≤ n / 2 ^ k := by
    rwa [Nat.le_div_iff_mul_le (Nat.two_pow_pos k), ← Nat.pow_add]
  calc 2 ^ 53 = 2 ^ 52 * 2 ^ 1 := rfl
    _ ≤ roundRatio n (2 ^ k) * 2 ^ k :=
      Nat.mul_le_mul (hfloor.trans (le_roundRatio n _)) (Nat.pow_le_pow_right (by decide) hk)

theorem overflow_le : overflow ≤ 10 ^ (309 + 1) := by
  decide +kernel

/-! ### Digits alone -/

/-- The shortcut for numbers of many digits is not taken for a finite one. -/
theorem whole?_natural (h : 2 ^ 53 ≤ n) : whole? ⟨n, 0⟩ = wholeOfRatio? n 1 := by
  have hfew : ∀ k, n < 10 ^ (k + 1) → (Numeral.digits 10 n).length ≤ k + 1 :=
    fun _ h => Numeral.length_digitsOnto_le h
  unfold whole?
  dsimp only
  rw [if_neg (Nat.lt_of_lt_of_le (Nat.two_pow_pos _) h).ne', Int.add_zero]
  split_ifs with hmany hneg
  · have hlength : 310 < (Numeral.digits 10 n).length := by exact_mod_cast hmany
    have hlarge : 10 ^ (309 + 1) ≤ n := Nat.not_lt.1 (mt (hfew 309) (by omega))
    exact ((wholeOfRatio?_eq_none_iff h).2 (overflow_le.trans hlarge)).symm
  · omega
  · exact congrArg (wholeOfRatio? · 1) (Nat.mul_one n)
  · omega

theorem unsignedChars?_digits (hne : ds ≠ []) (h : Numeral.Spells 10 ds n) :
    unsignedChars? ds = some ⟨n, 0⟩ := by
  have hdigit := Numeral.isDigit_of_spells h
  unfold unsignedChars?
  rw [List.takeWhile_eq_self_iff.2 hdigit, List.dropWhile_eq_nil_iff.2 hdigit]
  dsimp only
  rw [List.append_nil, (Numeral.value?_eq_some_iff (by decide)).2 ⟨hne, h⟩]
  rfl

theorem ofText?_of_pos {s : String} {v : Int} (h : Numeral.Denotes s.toList v) (hv : 0 < v) :
    ofText? s = some ⟨v.toNat, 0⟩ := by
  unfold ofText?
  generalize s.toList = cs at h
  rcases h with ⟨hne, hds⟩ | ⟨hne, hds⟩ | ⟨-, -⟩
  · split
    · exact absurd (Numeral.isDigit_of_spells hds '+' (List.mem_cons_self ..)) (by decide)
    · exact unsignedChars?_digits hne hds
  · exact unsignedChars?_digits hne hds
  · omega

/-- A minus sign is not read. -/
theorem ofText?_of_neg {s : String} {v : Int} (h : Numeral.Denotes s.toList v) (hv : v < 0) :
    ofText? s = none := by
  unfold ofText?
  generalize s.toList = cs at h
  rcases h with ⟨-, -⟩ | ⟨-, -⟩ | ⟨-, -⟩
  · omega
  · omega
  · rfl

end CharAtlas.Decimal
