import CharAtlas.Proofs.Decimal
import CharAtlas.Proofs.Text.Trim
import CharAtlas.Query.Page

/-! # Page numbers

The number of a page may be a numeral of any length. A whole number out of range stands for the first
or the last number of the range, up to the numbers that double precision has no finite neighbour for:
from `Decimal.overflow` on they mean the first page (`Page.ofText_saturates`). -/

namespace CharAtlas.Page
variable {s t : String} {v w : Int}

theorem integer?_of_denotes (h : Numeral.Denotes (Text.trimmed s.toList) v) :
    Numeral.integer? (Text.trim s) = some v := by
  unfold Numeral.integer?
  rw [Text.toList_trim]
  exact Numeral.integerChars?_eq_some_iff.2 h

theorem ofText_of_fits (h : Numeral.Denotes (Text.trimmed s.toList) v)
    (hv : Numeral.fits64 v = true) : ofText (some s) = min v.toNat Numeral.max32 := by
  unfold ofText
  simp only [Option.map_some, integer?_of_denotes h, Option.filter_some, hv, if_true]

/-- Beyond 64 bits the nearest number of double precision decides. -/
theorem ofText_of_not_fits (h : Numeral.Denotes (Text.trimmed s.toList) v)
    (hv : Numeral.fits64 v = false) : ofText (some s) =
      if 0 < v ∧ v < Decimal.overflow then Numeral.max32 else 0 := by
  have hdenotes : Numeral.Denotes (Text.trim s).toList v := (Text.toList_trim s).symm ▸ h
  have hfar : v < -9223372036854775808 ∨ 9223372036854775807 < v := by
    simpa [Numeral.fits64, imp_iff_not_or] using hv
  unfold ofText
  simp only [Option.map_some, integer?_of_denotes h, Option.filter_some, hv, Bool.false_eq_true,
    if_false]
  rcases hfar with hneg | hlarge
  · rw [Decimal.ofText?_of_neg hdenotes (by omega), if_neg (by omega)]
    rfl
  · obtain ⟨n, rfl⟩ := Int.eq_ofNat_of_zero_le (show 0 ≤ v by omega)
    have hn : 2 ^ 53 ≤ n := by omega
    rw [Decimal.ofText?_of_pos hdenotes (by omega), Int.toNat_natCast, Option.bind_some,
      Decimal.whole?_natural hn]
    cases hwhole : Decimal.wholeOfRatio? n 1 with
    | none =>
      have := (Decimal.wholeOfRatio?_eq_none_iff hn).1 hwhole
      rw [if_neg (by omega)]
    | some m =>
      have hm := Decimal.le_of_wholeOfRatio? hn hwhole
      have hfinite : n < Decimal.overflow := by
        by_contra hle
        rw [(Decimal.wholeOfRatio?_eq_none_iff hn).2 (Nat.not_lt.1 hle)] at hwhole
        cases hwhole
      rw [if_pos (by omega)]
      exact min_eq_right (le_trans (by decide) hm)

theorem ofText_of_denotes (h : Numeral.Denotes (Text.trimmed s.toList) v) :
    (ofText (some s) : Int) = if v < Decimal.overflow then max 0 (min v Numeral.max32) else 0 := by
  have hoverflow : 9223372036854775807 < Decimal.overflow := by decide +kernel
  cases hv : Numeral.fits64 v with
  | true =>
    have hle : v ≤ 9223372036854775807 := by
      simp only [Numeral.fits64, Bool.and_eq_true, decide_eq_true_eq] at hv
      exact hv.2
    rw [ofText_of_fits h hv, if_pos (by omega)]
    omega
  | false =>
    have hfar : v < -9223372036854775808 ∨ 9223372036854775807 < v := by
      simpa [Numeral.fits64, imp_iff_not_or] using hv
    have hmax : Numeral.max32 = 4294967295 := rfl
    rw [ofText_of_not_fits h hv]
    split_ifs <;> omega

/-- The numeral of a whole number, whatever its length, means the page of that number, and the first or
the last page there can be if it is out of range, provided that the number has a finite neighbour of
double precision. If it has none the first page is meant. Up to there larger numbers never mean
earlier pages. -/
theorem ofText_saturates (h : Numeral.Denotes (Text.trimmed s.toList) v) :
    (v < Decimal.overflow → (ofText (some s) : Int) = max 0 (min v 4294967295)) ∧
    (Decimal.overflow ≤ v → ofText (some s) = 0) ∧
    ∀ t w, Numeral.Denotes (Text.trimmed t.toList) w → v ≤ w → w < Decimal.overflow →
      ofText (some s) ≤ ofText (some t) := by
  refine ⟨fun hv => ?_, fun hv => ?_, fun t w ht hvw hw => ?_⟩
  · rw [ofText_of_denotes h, if_pos hv]
    rfl
  · have hzero := ofText_of_denotes h
    rw [if_neg (Int.not_lt.2 hv)] at hzero
    exact_mod_cast hzero
  · have hs := ofText_of_denotes h
    have ht := ofText_of_denotes ht
    rw [if_pos (by omega)] at hs
    rw [if_pos hw] at ht
    omega

/-- A one and so many zeros. -/
def powerOfTen (k : Nat) : String :=
  String.ofList ('1' :: List.replicate k '0')

theorem spells_powerOfTen (k : Nat) : Numeral.Spells 10 ('1' :: List.replicate k '0') (10 ^ k) := by
  have hzeros : List.Forall₂ (Numeral.StandsFor 10) (List.replicate k '0') (List.replicate k 0) := by
    induction k with
    | zero => exact .nil
    | succ k ih => exact .cons ⟨by decide, .inl (by decide)⟩ ih
  refine ⟨1 :: List.replicate k 0, .cons ⟨by decide, .inl (by decide)⟩ hzeros, ?_⟩
  rw [List.reverse_cons, List.reverse_replicate, Nat.ofDigits_append, List.length_replicate,
    Nat.ofDigits_replicate_zero, Nat.ofDigits_singleton, Nat.zero_add, Nat.mul_one]

theorem denotes_powerOfTen (k : Nat) :
    Numeral.Denotes (Text.trimmed (powerOfTen k).toList) ((10 ^ k : Nat) : Int) := by
  have hlist : (powerOfTen k).toList = '1' :: List.replicate k '0' := String.toList_ofList ..
  have hblank : ∀ c ∈ '1' :: List.replicate k '0', Text.isBlank c = false :=
    List.forall_mem_cons.2 ⟨by decide, fun c hc => List.eq_of_mem_replicate hc ▸ by decide⟩
  rw [hlist, (Text.hasNoBlankEnds_of_forall hblank).trimmed_eq]
  exact .unsigned (List.cons_ne_nil _ _) (spells_powerOfTen k)

theorem ofText_saturates_powerOfTen :
    Numeral.Denotes (Text.trimmed " +4294967296 ".toList) 4294967296 ∧
    Numeral.Denotes (Text.trimmed (powerOfTen 308).toList) ((10 ^ 308 : Nat) : Int) ∧
    (4294967296 : Int) < Decimal.overflow ∧ ((10 ^ 308 : Nat) : Int) < Decimal.overflow ∧
    ofText (some " +4294967296 ") = 4294967295 ∧
    ofText (some " +4294967296 ") ≤ ofText (some (powerOfTen 308)) := by
  have hsmall : Numeral.Denotes (Text.trimmed " +4294967296 ".toList) 4294967296 :=
    Numeral.integerChars?_eq_some_iff.1 (by decide +kernel)
  have hlarge := denotes_powerOfTen 308
  have hsmall' : (4294967296 : Int) < Decimal.overflow := by decide +kernel
  have hlarge' : ((10 ^ 308 : Nat) : Int) < Decimal.overflow := by decide +kernel
  obtain ⟨hpage, -, hmono⟩ := ofText_saturates hsmall
  exact ⟨hsmall, hlarge, hsmall', hlarge', Int.ofNat.inj (hpage hsmall'),
    hmono _ _ hlarge (by decide +kernel) hlarge'⟩

/-- A number without a finite neighbour means an earlier page than smaller numbers. -/
theorem ofText_powerOfTen_overflow :
    Numeral.Denotes (Text.trimmed "4294967295".toList) 4294967295 ∧
    Numeral.Denotes (Text.trimmed (powerOfTen 309).toList) ((10 ^ 309 : Nat) : Int) ∧
    (4294967295 : Int) < ((10 ^ 309 : Nat) : Int) ∧
    ofText (some "4294967295") = 4294967295 ∧ ofText (some (powerOfTen 309)) = 0 := by
  have hpage := ofText_of_denotes (denotes_powerOfTen 309)
  rw [if_neg (by decide +kernel)] at hpage
  exact ⟨Numeral.integerChars?_eq_some_iff.1 (by decide +kernel), denotes_powerOfTen 309,
    by decide +kernel, by decide +kernel, Int.ofNat.inj hpage⟩

end CharAtlas.Page
