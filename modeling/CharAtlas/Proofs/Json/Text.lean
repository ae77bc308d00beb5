import CharAtlas.Json
import CharAtlas.Json.Text
import CharAtlas.Proofs.Numeral
import Mathlib.Data.List.TakeWhile

/-! # Texts and whole numbers in JSON

A text between quotes is read back as it is, whatever its characters (`Json.textOf?_quoted`), and so is
a whole number (`Json.integerOf?_ofInt`). Where they end does not depend on what follows
(`Json.skipText_escaped`, `Json.skipNumber_ofInt`). -/

namespace CharAtlas.Json
variable {c : Char} {cs rest : List Char} {n : Nat}

/-! ### Escapes -/

/-- The four digits that stand for a control character. -/
def controlDigits (n : Nat) : List Char :=
  ['0', '0', (Numeral.digitChar (n / 16)).toLower, (Numeral.digitChar (n % 16)).toLower]

theorem map_paddedDigits_control (h : n < 32) :
    '0' :: '0' :: (Numeral.paddedDigits 16 2 n).map Char.toLower = controlDigits n := by
  have hall : ∀ n < 32,
      '0' :: '0' :: (Numeral.paddedDigits 16 2 n).map Char.toLower = controlDigits n := by
    decide +kernel
  exact hall n h

/-- A character stands inside a text as it is, or there is an escape of two characters for it, or it is
given by its number. -/
theorem escapedChar_cases (c : Char) :
    (c ≠ '"' ∧ c ≠ '\\' ∧ 32 ≤ c.toNat ∧ escapedChar c = [c]) ∨
    (∃ e, e ≠ 'u' ∧ unescape? e = some c ∧ escapedChar c = ['\\', e]) ∨
    (c.toNat < 32 ∧ escapedChar c = '\\' :: 'u' :: controlDigits c.toNat) := by
  unfold escapedChar
  split_ifs with hquote hback hn hr ht hb hf hcontrol
  · exact .inr (.inl ⟨'"', by decide, by rw [hquote]; rfl, rfl⟩)
  · exact .inr (.inl ⟨'\\', by decide, by rw [hback]; rfl, rfl⟩)
  · exact .inr (.inl ⟨'n', by decide, by rw [hn]; rfl, rfl⟩)
  · exact .inr (.inl ⟨'r', by decide, by rw [hr]; rfl, rfl⟩)
  · exact .inr (.inl ⟨'t', by decide, by rw [ht]; rfl, rfl⟩)
  · exact .inr (.inl ⟨'b', by decide, by rw [hb]; rfl, rfl⟩)
  · exact .inr (.inl ⟨'f', by decide, by rw [hf]; rfl, rfl⟩)
  · exact .inr (.inr ⟨hcontrol, by rw [map_paddedDigits_control hcontrol]⟩)
  · exact .inl ⟨hquote, hback, by omega, rfl⟩

/-! ### Texts -/

theorem skipText_plain (hquote : c ≠ '"') (hback : c ≠ '\\') (hprint : 32 ≤ c.toNat) :
    skipText (c :: rest) = skipText rest := by
  rw [skipText, if_neg (by omega)]
  · exact hquote
  · exact fun _ _ _ _ _ hc => absurd hc hback
  · exact fun _ _ hc => absurd hc hback

theorem skipText_escape {e : Char} (hu : e ≠ 'u') (he : unescape? e = some c) :
    skipText ('\\' :: e :: rest) = skipText rest := by
  rw [skipText, he]
  · rfl
  · exact fun _ _ _ _ _ hc => absurd hc hu

theorem skipText_control (h : n < 32) :
    skipText ('\\' :: 'u' :: controlDigits n ++ rest) = skipText rest := by
  have hhex : ∀ n < 32, (controlDigits n).all isHexDigit = true := by decide
  have hdigits := hhex n h
  simp only [controlDigits, List.all_cons, List.all_nil, Bool.and_true, ← Bool.and_assoc] at hdigits
  show (if _ then skipText rest else none) = _
  rw [if_pos hdigits]

theorem skipText_escapedChar (c : Char) (rest : List Char) :
    skipText (escapedChar c ++ rest) = skipText rest := by
  rcases escapedChar_cases c with ⟨hquote, hback, hprint, h⟩ | ⟨e, hu, he, h⟩ | ⟨hcontrol, h⟩
  · rw [h]
    exact skipText_plain hquote hback hprint
  · rw [h]
    exact skipText_escape hu he
  · rw [h]
    exact skipText_control hcontrol

/-- What follows the quote at the end of a text. -/
theorem skipText_escaped (cs rest : List Char) :
    skipText (escaped cs ++ '"' :: rest) = some rest := by
  induction cs with
  | nil => rfl
  | cons c cs ih =>
    rw [escaped] at ih
    rw [escaped, List.flatMap_cons, List.append_assoc, skipText_escapedChar, ih]

theorem decodeText_plain (hquote : c ≠ '"') (hback : c ≠ '\\') (hprint : 32 ≤ c.toNat) :
    decodeText (c :: rest) = (decodeText rest).map fun (t, r) => (c :: t, r) := by
  rw [decodeText, if_neg (by omega)]
  · exact hquote
  · exact fun _ _ _ _ _ hc => absurd hc hback
  · exact fun _ _ hc => absurd hc hback

theorem decodeText_escape {e : Char} (hu : e ≠ 'u') (he : unescape? e = some c) :
    decodeText ('\\' :: e :: rest) = (decodeText rest).map fun (t, r) => (c :: t, r) := by
  rw [decodeText, he]
  exact fun _ _ _ _ _ hc => absurd hc hu

/-- A control character is no surrogate. -/
theorem decodeText_control (h : c.toNat < 32) :
    decodeText ('\\' :: 'u' :: controlDigits c.toNat ++ rest) =
      (decodeText rest).map fun (t, r) => (c :: t, r) := by
  have hunit : ∀ n < 32, unitOf? '0' '0' (Numeral.digitChar (n / 16)).toLower
      (Numeral.digitChar (n % 16)).toLower = some n := by
    decide
  have hhigh : isHighSurrogate c.toNat = false := by
    unfold isHighSurrogate
    rw [decide_eq_false (by omega), Bool.false_and]
  have hlow : isLowSurrogate c.toNat = false := by
    unfold isLowSurrogate
    rw [decide_eq_false (by omega), Bool.false_and]
  simp only [controlDigits, List.cons_append, List.nil_append]
  rw [decodeText, hunit _ h]
  simp only [hhigh, hlow, Bool.false_eq_true, if_false, Char.ofNat_toNat]

theorem decodeText_escapedChar (c : Char) (rest : List Char) :
    decodeText (escapedChar c ++ rest) = (decodeText rest).map fun (t, r) => (c :: t, r) := by
  rcases escapedChar_cases c with ⟨hquote, hback, hprint, h⟩ | ⟨e, hu, he, h⟩ | ⟨hcontrol, h⟩
  · rw [h]
    exact decodeText_plain hquote hback hprint
  · rw [h]
    exact decodeText_escape hu he
  · rw [h]
    exact decodeText_control hcontrol

theorem decodeText_escaped (cs rest : List Char) :
    decodeText (escaped cs ++ '"' :: rest) = some (cs, rest) := by
  induction cs with
  | nil => rfl
  | cons c cs ih =>
    rw [escaped] at ih
    rw [escaped, List.flatMap_cons, List.append_assoc, decodeText_escapedChar, ih]
    rfl

theorem textOf?_quoted (s : String) : textOf? (quoted s) = some s := by
  have hdecode := decodeText_escaped s.toList []
  rw [quoted, List.cons_append, textOf?, hdecode]
  exact congrArg some (String.ofList_toList ..)

/-! ### Whole numbers -/

/-- A number may end in front of `rest`. -/
def EndsNumber (rest : List Char) : Prop :=
  ∀ c ∈ rest.head?, c.isDigit = false ∧ c ≠ '.' ∧ c ≠ 'e' ∧ c ≠ 'E'

theorem EndsNumber.dropWhile_digits (h : EndsNumber rest) (hcs : ∀ c ∈ cs, c.isDigit = true) :
    (cs ++ rest).dropWhile Char.isDigit = rest := by
  have hrest : rest.dropWhile Char.isDigit = rest := by
    cases rest with
    | nil => rfl
    | cons c rest => exact List.dropWhile_cons_of_neg (by simp [(h c rfl).1])
  rw [List.dropWhile_append, List.dropWhile_eq_nil_iff.2 hcs, hrest]
  rfl

theorem EndsNumber.skipFraction (h : EndsNumber rest) : skipFraction rest = some rest := by
  unfold Json.skipFraction
  split
  · exact absurd rfl (h _ rfl).2.1
  · rfl

theorem EndsNumber.skipExponent (h : EndsNumber rest) : skipExponent rest = some rest := by
  unfold Json.skipExponent
  split
  · rename_i c cs
    obtain ⟨-, -, he, hE⟩ := h c rfl
    rw [if_neg (by simp [he, hE])]
  · rfl

theorem skipDigits_append (hne : cs ≠ []) (hcs : ∀ c ∈ cs, c.isDigit = true) (h : EndsNumber rest) :
    skipDigits (cs ++ rest) = some rest := by
  obtain ⟨c, cs, rfl⟩ := List.exists_cons_of_ne_nil hne
  obtain ⟨hc, hcs⟩ := List.forall_mem_cons.1 hcs
  rw [List.cons_append, skipDigits, if_pos hc, h.dropWhile_digits hcs]

/-- No zero is followed by other digits. -/
theorem skipWhole_digits (h : EndsNumber rest) (n : Nat) :
    skipWhole (Numeral.digits 10 n ++ rest) = some rest := by
  by_cases hn : n = 0
  · subst hn
    rw [Numeral.digits_zero (by decide)]
    cases rest with
    | nil => rfl
    | cons c rest =>
      show (if c.isDigit = true then none else some (c :: rest)) = _
      rw [if_neg (by simp [(h c rfl).1])]
  · obtain ⟨c, cs, hdigits, -, hzero⟩ := Numeral.digits_eq_cons n
    have hskip : skipWhole (Numeral.digits 10 n ++ rest) =
        skipDigits (Numeral.digits 10 n ++ rest) := by
      rw [hdigits, List.cons_append, skipWhole]
      exact fun _ _ hc => absurd (List.cons.inj hc).1 (hzero hn)
    rw [hskip]
    exact skipDigits_append Numeral.digitsOnto_ne_nil (fun _ => Numeral.isDigit_of_mem_digits) h

theorem skipNumber_of_ne_minus (h : ∀ ds, cs ≠ '-' :: ds) :
    skipNumber cs = ((skipWhole cs).bind skipFraction).bind skipExponent := by
  unfold skipNumber
  split
  · exact absurd rfl (h _)
  · rfl

theorem digits_append_ne_minus (n : Nat) (rest ds : List Char) :
    Numeral.digits 10 n ++ rest ≠ '-' :: ds := by
  obtain ⟨c, cs, hdigits, hc, -⟩ := Numeral.digits_eq_cons n
  rw [hdigits]
  intro heq
  rw [(List.cons.inj heq).1] at hc
  exact absurd hc (by decide)

theorem toList_ofInt (i : Int) : (Numeral.ofInt i).toList =
    if i < 0 then '-' :: Numeral.digits 10 i.natAbs else Numeral.digits 10 i.natAbs := by
  cases i with
  | ofNat n =>
    rw [if_neg (by simp)]
    exact String.toList_ofList ..
  | negSucc n =>
    rw [if_pos (Int.negSucc_lt_zero n)]
    show ("-" ++ Numeral.ofNat (n + 1)).toList = _
    rw [String.toList_append]
    exact congrArg ('-' :: ·) (String.toList_ofList ..)

theorem skipNumber_ofInt (h : EndsNumber rest) (i : Int) :
    skipNumber ((Numeral.ofInt i).toList ++ rest) = some rest := by
  have hskip : ((skipWhole (Numeral.digits 10 i.natAbs ++ rest)).bind skipFraction).bind
      skipExponent = some rest := by
    rw [skipWhole_digits h, Option.bind_some, h.skipFraction, Option.bind_some, h.skipExponent]
  rw [toList_ofInt]
  split_ifs
  · exact hskip
  · rw [skipNumber_of_ne_minus (digits_append_ne_minus _ rest), hskip]

theorem wholeOf?_digits (n : Nat) : wholeOf? (Numeral.digits 10 n) = some n := by
  by_cases hn : n = 0
  · subst hn
    rw [Numeral.digits_zero (by decide)]
    rfl
  · obtain ⟨c, cs, hdigits, -, hzero⟩ := Numeral.digits_eq_cons n
    have hread := Numeral.value?_digits (show 1 < 10 by decide) (by decide) n
    rw [hdigits] at hread ⊢
    rw [wholeOf?, hread]
    · exact fun h => hzero hn (List.cons.inj h).1
    · exact fun _ h => hzero hn (List.cons.inj h).1

theorem integerOf?_minus (ds : List Char) : integerOf? ('-' :: ds) =
    ((wholeOf? ds).filter (· != 0)).map fun n : Nat => -(n : Int) := by
  rw [integerOf?]
  cases (wholeOf? ds).filter (· != 0) <;> rfl

theorem integerOf?_of_ne_minus (h : ∀ ds, cs ≠ '-' :: ds) :
    integerOf? cs = (wholeOf? cs).map fun n : Nat => (n : Int) := by
  unfold integerOf?
  split
  · exact absurd rfl (h _)
  · cases wholeOf? cs <;> rfl

theorem integerOf?_ofInt (i : Int) : integerOf? (Numeral.ofInt i).toList = some i := by
  rw [toList_ofInt]
  split_ifs with hneg
  · have hne : i.natAbs ≠ 0 := by omega
    rw [integerOf?_minus, wholeOf?_digits, Option.filter_some, if_pos (by simpa using hne),
      Option.map_some, Option.some.injEq]
    omega
  · have hminus := digits_append_ne_minus i.natAbs []
    rw [List.append_nil] at hminus
    rw [integerOf?_of_ne_minus hminus, wholeOf?_digits, Option.map_some, Option.some.injEq]
    omega

end CharAtlas.Json
