import CharAtlas.Numeral
import Mathlib.Algebra.Group.Nat.Defs
import Mathlib.Data.List.Basic
import Mathlib.Data.List.Forall2
import Mathlib.Data.Nat.Digits.Defs
import Mathlib.Tactic.Ring

/-! # Digits

The digits of a number, padded or not, read back as the number (`Numeral.value?_paddedDigits`), and
there are no more of them than it takes (`Numeral.length_paddedDigits_le`). What is read is what the
digits spell (`Numeral.value?_eq_some_iff`). -/

namespace CharAtlas.Numeral
variable {base n : Nat} {rest cs : List Char} {c : Char}

theorem mem_digitsOnto (hb : 1 < base) (h : c ∈ digitsOnto base n rest) :
    (∃ d < base, c = digitChar d) ∨ c ∈ rest := by
  fun_induction digitsOnto base n rest with
  | case1 n rest hn =>
    rcases List.mem_cons.1 h with rfl | h
    · exact .inl ⟨n, by omega, rfl⟩
    · exact .inr h
  | case2 n rest hn ih =>
    rcases ih h with hd | h
    · exact .inl hd
    · rcases List.mem_cons.1 h with rfl | h
      · exact .inl ⟨n % base, Nat.mod_lt _ (by omega), rfl⟩
      · exact .inr h

theorem mem_paddedDigits {width : Nat} (hb : 1 < base) (h : c ∈ paddedDigits base width n) :
    ∃ d < base, c = digitChar d := by
  rcases List.mem_append.1 h with h | h
  · exact ⟨0, by omega, List.eq_of_mem_replicate h⟩
  · exact (mem_digitsOnto hb h).resolve_right List.not_mem_nil

/-! ### Reading digits back -/

theorem digitValue?_digitChar {d : Nat} (h : d < 16) : digitValue? (digitChar d) = some d := by
  have hall : ∀ d < 16, digitValue? (digitChar d) = some d := by decide
  exact hall d h

theorem valueFrom?_digitChar {acc d : Nat} (hb : base ≤ 16) (h : d < base) :
    valueFrom? base acc (digitChar d :: rest) = valueFrom? base (acc * base + d) rest := by
  rw [valueFrom?, digitValue?_digitChar (by omega)]
  simp [h]

theorem valueFrom?_digitsOnto (hb : 1 < base) (hb' : base ≤ 16) :
    valueFrom? base 0 (digitsOnto base n rest) = valueFrom? base n rest := by
  fun_induction digitsOnto base n rest with
  | case1 n rest hn =>
    have hlt : n < base := by omega
    rw [valueFrom?_digitChar hb' hlt, Nat.zero_mul, Nat.zero_add]
  | case2 n rest hn ih =>
    rw [ih, valueFrom?_digitChar hb' (Nat.mod_lt _ (by omega)), Nat.div_add_mod']

theorem valueFrom?_zeros (hb : 1 < base) (k : Nat) (ds : List Char) :
    valueFrom? base 0 (List.replicate k '0' ++ ds) = valueFrom? base 0 ds := by
  have hzero : digitValue? '0' = some 0 := by decide
  induction k with
  | zero => rfl
  | succ k ih =>
    rw [List.replicate_succ, List.cons_append, valueFrom?, hzero]
    simpa [show 0 < base by omega] using ih

theorem digitsOnto_ne_nil : digitsOnto base n rest ≠ [] := by
  fun_induction digitsOnto base n rest with
  | case1 => simp
  | case2 n rest hn ih => exact ih

theorem value?_eq_valueFrom? {ds : List Char} (h : ds ≠ []) : value? base ds = valueFrom? base 0 ds := by
  cases ds with
  | nil => exact absurd rfl h
  | cons => rfl

theorem value?_paddedDigits (hb : 1 < base) (hb' : base ≤ 16) (width n : Nat) :
    value? base (paddedDigits base width n) = some n := by
  have hne : paddedDigits base width n ≠ [] := List.append_ne_nil_of_right_ne_nil _ digitsOnto_ne_nil
  rw [value?_eq_valueFrom? hne]
  unfold paddedDigits digits
  rw [valueFrom?_zeros hb, valueFrom?_digitsOnto hb hb']
  rfl

theorem value?_digits (hb : 1 < base) (hb' : base ≤ 16) (n : Nat) :
    value? base (digits base n) = some n := by
  have := value?_paddedDigits hb hb' 0 n
  rwa [paddedDigits, Nat.zero_sub] at this

/-! ### The first digit -/

theorem exists_digitsOnto (hb : 1 < base) (n : Nat) (rest : List Char) :
    ∃ d ds, digitsOnto base n rest = digitChar d :: ds ∧ d < base ∧ (n ≠ 0 → d ≠ 0) := by
  fun_induction digitsOnto base n rest with
  | case1 n rest hn => exact ⟨n, rest, rfl, by omega, id⟩
  | case2 n rest hn ih =>
    obtain ⟨d, ds, heq, hd, hne⟩ := ih
    have hdiv : n / base ≠ 0 := (Nat.div_pos (by omega) (by omega)).ne'
    exact ⟨d, ds, heq, hd, fun _ => hne hdiv⟩

theorem digits_zero (hb : 1 < base) : digits base 0 = ['0'] := by
  unfold digits digitsOnto
  rw [if_pos (.inl (by omega))]
  rfl

theorem isDigit_of_mem_digits (h : c ∈ digits 10 n) : c.isDigit = true := by
  have hdigit : ∀ d < 10, (digitChar d).isDigit = true := by decide
  obtain ⟨d, hd, rfl⟩ := (mem_digitsOnto (by decide) h).resolve_right List.not_mem_nil
  exact hdigit d hd

/-- No zero stands in front of the digits of another number. -/
theorem digits_eq_cons (n : Nat) :
    ∃ c cs, digits 10 n = c :: cs ∧ c.isDigit = true ∧ (n ≠ 0 → c ≠ '0') := by
  have hzero : ∀ d < 10, digitChar d = '0' → d = 0 := by decide
  obtain ⟨d, ds, hdigits, hd, hne⟩ := exists_digitsOnto (show 1 < 10 by decide) n []
  refine ⟨digitChar d, ds, hdigits, ?_, fun hn h => hne hn (hzero d hd h)⟩
  exact isDigit_of_mem_digits (hdigits ▸ List.mem_cons_self ..)

/-! ### How many digits there are -/

theorem length_digitsOnto_le {k : Nat} (h : n < base ^ (k + 1)) :
    (digitsOnto base n rest).length ≤ k + 1 + rest.length := by
  induction k generalizing n rest with
  | zero =>
    have hlt : n < base := by simpa using h
    unfold digitsOnto
    rw [if_pos (.inl hlt), List.length_cons]
    omega
  | succ k ih =>
    unfold digitsOnto
    split
    · rw [List.length_cons]
      omega
    · have hdiv : n / base < base ^ (k + 1) := Nat.div_lt_of_lt_mul (by rwa [← Nat.pow_succ'])
      have := @ih (n / base) (digitChar (n % base) :: rest) hdiv
      rw [List.length_cons] at this
      omega

theorem length_paddedDigits_le {k width : Nat} (h : n < base ^ (k + 1)) (hw : width ≤ k + 1) :
    (paddedDigits base width n).length ≤ k + 1 := by
  have hdigits : (digits base n).length ≤ k + 1 := length_digitsOnto_le h
  unfold paddedDigits
  rw [List.length_append, List.length_replicate]
  omega

/-! ### What digits spell -/

/-- The character is a digit of the base and stands for `d`; letters may be of either case. -/
def StandsFor (base : Nat) (c : Char) (d : Nat) : Prop :=
  d < base ∧ (c = digitChar d ∨ c = (digitChar d).toLower)

/-- The characters are digits, the most significant first, of a number that is `n`. Zeros may stand
in front. -/
def Spells (base : Nat) (cs : List Char) (n : Nat) : Prop :=
  ∃ ds, List.Forall₂ (StandsFor base) cs ds ∧ Nat.ofDigits base ds.reverse = n

theorem digitValue?_toLower_digitChar {d : Nat} (h : d < 16) :
    digitValue? (digitChar d).toLower = some d := by
  have hall : ∀ d < 16, digitValue? (digitChar d).toLower = some d := by decide
  exact hall d h

theorem standsFor_of_digitValue? {d : Nat} (h : digitValue? c = some d) (hd : d < base) :
    StandsFor base c d := by
  have hc : Char.ofNat c.toNat = c := Char.ofNat_toNat c
  have hsmall : ∀ d < 16, 10 ≤ d → (digitChar d).toLower = Char.ofNat (87 + d) := by decide
  unfold digitValue? at h
  simp only [Bool.and_eq_true, decide_eq_true_eq] at h
  split_ifs at h with hnum hcap hlow
  · obtain rfl := Option.some.inj h
    refine ⟨hd, .inl ?_⟩
    unfold digitChar
    rw [if_pos (by omega), show 48 + (c.toNat - 48) = c.toNat by omega, hc]
  · obtain rfl := Option.some.inj h
    refine ⟨hd, .inl ?_⟩
    unfold digitChar
    rw [if_neg (by omega), show 55 + (c.toNat - 55) = c.toNat by omega, hc]
  · obtain rfl := Option.some.inj h
    refine ⟨hd, .inr ?_⟩
    rw [hsmall _ (by omega) (by omega), show 87 + (c.toNat - 87) = c.toNat by omega, hc]

theorem standsFor_iff {d : Nat} (hb : base ≤ 16) :
    StandsFor base c d ↔ digitValue? c = some d ∧ d < base := by
  refine ⟨?_, fun ⟨h, hd⟩ => standsFor_of_digitValue? h hd⟩
  rintro ⟨hd, rfl | rfl⟩
  · exact ⟨digitValue?_digitChar (by omega), hd⟩
  · exact ⟨digitValue?_toLower_digitChar (by omega), hd⟩

theorem valueFrom?_eq_some_iff (hb : base ≤ 16) {acc : Nat} : valueFrom? base acc cs = some n ↔
    ∃ ds, List.Forall₂ (StandsFor base) cs ds ∧
      acc * base ^ cs.length + Nat.ofDigits base ds.reverse = n := by
  induction cs generalizing acc with
  | nil => simp [valueFrom?, List.forall₂_nil_left_iff]
  | cons c cs ih =>
    -- the first digit goes over into the accumulator
    have hvalue : ∀ d ds, List.Forall₂ (StandsFor base) cs ds →
        acc * base ^ (c :: cs).length + Nat.ofDigits base (d :: ds).reverse =
          (acc * base + d) * base ^ cs.length + Nat.ofDigits base ds.reverse := by
      intro d ds h
      rw [List.reverse_cons, Nat.ofDigits_append, Nat.ofDigits_singleton, List.length_reverse,
        ← h.length_eq, List.length_cons, Nat.pow_succ]
      ring
    have hstep : valueFrom? base acc (c :: cs) = some n ↔
        ∃ d, StandsFor base c d ∧ valueFrom? base (acc * base + d) cs = some n := by
      simp only [standsFor_iff hb]
      rw [valueFrom?]
      cases digitValue? c with
      | none => simp
      | some d => by_cases hd : d < base <;> simp [hd]
    rw [hstep]
    constructor
    · rintro ⟨d, hc, h⟩
      obtain ⟨ds, hds, rfl⟩ := ih.1 h
      exact ⟨d :: ds, .cons hc hds, hvalue d ds hds⟩
    · rintro ⟨ds, hds, rfl⟩
      cases hds with
      | @cons _ d _ ds hc hds => exact ⟨d, hc, ih.2 ⟨ds, hds, (hvalue d ds hds).symm⟩⟩

/-- Digits are read as what they spell, and nothing else is read. -/
theorem value?_eq_some_iff (hb : base ≤ 16) :
    value? base cs = some n ↔ cs ≠ [] ∧ Spells base cs n := by
  unfold Spells
  cases cs with
  | nil => simp [value?]
  | cons c cs =>
    rw [value?_eq_valueFrom? (List.cons_ne_nil c cs), valueFrom?_eq_some_iff hb]
    simp

theorem isDigit_of_spells {ds : List Char} (h : Spells 10 ds n) : ∀ c ∈ ds, c.isDigit = true := by
  have hdigit : ∀ d < 10, (digitChar d).isDigit = true ∧ (digitChar d).toLower.isDigit = true := by
    decide
  obtain ⟨vs, hvs, -⟩ := h
  induction hvs with
  | nil => exact fun c hc => absurd hc List.not_mem_nil
  | cons hcd _ ih =>
    obtain ⟨hd, rfl | rfl⟩ := hcd
    · exact List.forall_mem_cons.2 ⟨(hdigit _ hd).1, ih⟩
    · exact List.forall_mem_cons.2 ⟨(hdigit _ hd).2, ih⟩

/-- One or more decimal digits, a sign in front of them or none, are the numeral of a whole number. -/
inductive Denotes : List Char → Int → Prop
  | unsigned {ds : List Char} {n : Nat} : ds ≠ [] → Spells 10 ds n → Denotes ds n
  | plus {ds : List Char} {n : Nat} : ds ≠ [] → Spells 10 ds n → Denotes ('+' :: ds) n
  | minus {ds : List Char} {n : Nat} : ds ≠ [] → Spells 10 ds n → Denotes ('-' :: ds) (-n)

theorem integerChars?_minus (ds : List Char) :
    integerChars? ('-' :: ds) = (value? 10 ds).map fun n : Nat => -(n : Int) := by
  rw [integerChars?]
  cases value? 10 ds <;> rfl

theorem integerChars?_of_ne_minus (h : ∀ ds, cs ≠ '-' :: ds) :
    integerChars? cs = (naturalChars? cs).map fun n : Nat => (n : Int) := by
  unfold integerChars?
  split
  · exact absurd rfl (h _)
  · cases naturalChars? cs <;> rfl

theorem naturalChars?_of_ne_plus (h : ∀ ds, cs ≠ '+' :: ds) : naturalChars? cs = value? 10 cs := by
  unfold naturalChars?
  split
  · exact absurd rfl (h _)
  · rfl

/-- Numerals of whole numbers are read, and nothing else is. -/
theorem integerChars?_eq_some_iff {v : Int} : integerChars? cs = some v ↔ Denotes cs v := by
  have hread : ∀ {ds n}, value? 10 ds = some n ↔ ds ≠ [] ∧ Spells 10 ds n :=
    value?_eq_some_iff (by decide)
  have hfirst : ∀ {c ds n}, c.isDigit = false → ¬Spells 10 (c :: ds) n := fun hc h =>
    Bool.false_ne_true (hc.symm.trans (isDigit_of_spells h _ (List.mem_cons_self ..)))
  constructor
  · intro h
    by_cases hminus : ∃ ds, cs = '-' :: ds
    · obtain ⟨ds, rfl⟩ := hminus
      rw [integerChars?_minus] at h
      obtain ⟨n, hn, rfl⟩ := Option.map_eq_some_iff.1 h
      exact .minus (hread.1 hn).1 (hread.1 hn).2
    · rw [integerChars?_of_ne_minus (not_exists.1 hminus)] at h
      obtain ⟨n, hn, rfl⟩ := Option.map_eq_some_iff.1 h
      by_cases hplus : ∃ ds, cs = '+' :: ds
      · obtain ⟨ds, rfl⟩ := hplus
        exact .plus (hread.1 hn).1 (hread.1 hn).2
      · rw [naturalChars?_of_ne_plus (not_exists.1 hplus)] at hn
        exact .unsigned (hread.1 hn).1 (hread.1 hn).2
  · rintro (⟨hne, hds⟩ | ⟨hne, hds⟩ | ⟨hne, hds⟩)
    · have hminus : ∀ ds, cs ≠ '-' :: ds := by
        rintro ds rfl
        exact hfirst (by decide) hds
      have hplus : ∀ ds, cs ≠ '+' :: ds := by
        rintro ds rfl
        exact hfirst (by decide) hds
      rw [integerChars?_of_ne_minus hminus, naturalChars?_of_ne_plus hplus, hread.2 ⟨hne, hds⟩]
      rfl
    · rw [integerChars?_of_ne_minus (by simp)]
      show (value? 10 _).map _ = _
      rw [hread.2 ⟨hne, hds⟩]
      rfl
    · rw [integerChars?_minus, hread.2 ⟨hne, hds⟩]
      rfl

end CharAtlas.Numeral
