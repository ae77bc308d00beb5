import CharAtlas.Proofs.Codepoint
import CharAtlas.Proofs.Text.Trim
import CharAtlas.SearchTerm

/-! # Terms that name a character

The code of a code point is a term that names it (`SearchTerm.ofText?_code`), and so is a character
that is not blank (`SearchTerm.ofText?_singleton`). Main statement: `SearchTerm.ofText?_notated`,
what every text asks for and which code point it names. -/

namespace CharAtlas.SearchTerm
variable {n : Nat} {a : Char} {cs ds : List Char} {s : String}

theorem ofText?_eq_none_iff : ofText? s = none ↔ Text.trim s = "" := by
  rw [← String.toList_eq_nil_iff, Text.toList_trim]
  unfold ofText?
  cases Text.trimmed s.toList <;> simp

theorem ofText?_of_trimmed (htrim : Text.HasNoBlankEnds s.toList) (hne : s ≠ "")
    (hlength : s.toList.length ≤ maxLength) : ofText? s = some ⟨s, codepoint? s.toList⟩ := by
  unfold ofText?
  rw [htrim.trimmed_eq]
  split
  · rename_i hnil
    exact absurd (String.toList_eq_nil_iff.1 hnil) hne
  · simp only [List.take_of_length_le hlength, String.ofList_toList]

theorem hasNoBlankEnds_code (n : Nat) : Text.HasNoBlankEnds (Codepoint.code n).toList :=
  Text.hasNoBlankEnds_of_forall fun _ hc => Codepoint.isBlank_of_mem_code hc

theorem length_digits_le (h : n ≤ Codepoint.max) : (Numeral.paddedDigits 16 4 n).length ≤ 6 :=
  Numeral.length_paddedDigits_le (Nat.lt_of_le_of_lt h (by decide)) (by decide)

theorem codepoint?_code (h : n ≤ Codepoint.max) :
    codepoint? (Codepoint.code n).toList = some n := by
  have hmark : ∀ ds, afterMark ('U' :: '+' :: ds) = ds := fun _ => rfl
  rw [Codepoint.toList_code]
  show notatedCodepoint? ('U' :: '+' :: Numeral.paddedDigits 16 4 n) = some n
  unfold notatedCodepoint?
  rw [hmark, if_pos (length_digits_le h), Numeral.value?_paddedDigits (by decide) (by decide)]
  simp [h]

theorem ofText?_code (h : n ≤ Codepoint.max) :
    ofText? (Codepoint.code n) = some ⟨Codepoint.code n, some n⟩ := by
  have hlength := length_digits_le h
  rw [ofText?_of_trimmed (hasNoBlankEnds_code n), codepoint?_code h]
  · intro hne
    simpa [Codepoint.toList_code] using congrArg String.toList hne
  · rw [Codepoint.toList_code, List.length_cons, List.length_cons, maxLength]
    omega

theorem ofText?_singleton (ha : Text.isBlank a = false) :
    ofText? (String.singleton a) = some ⟨String.singleton a, some a.toNat⟩ := by
  rw [ofText?_of_trimmed (Text.hasNoBlankEnds_singleton ha)]
  · simp [codepoint?]
  · simp
  · simp [maxLength]

/-! ### Notation -/

/-- What may stand in front of the digits. -/
def marks : List (List Char) :=
  [[], ['U', '+'], ['u', '+'], ['0', 'x'], ['0', 'X']]

/-- One to six hexadecimal digits, with a mark in front of them or without, that spell a code
point. -/
def Notates (cs : List Char) (n : Nat) : Prop :=
  ∃ mark ∈ marks, ∃ ds, cs = mark ++ ds ∧ ds ≠ [] ∧ ds.length ≤ 6 ∧ Numeral.Spells 16 ds n ∧
    n ≤ Codepoint.max

theorem exists_mark (cs : List Char) : ∃ mark ∈ marks, cs = mark ++ afterMark cs := by
  unfold afterMark marks
  split
  · exact ⟨['U', '+'], by simp, rfl⟩
  · exact ⟨['u', '+'], by simp, rfl⟩
  · exact ⟨['0', 'x'], by simp, rfl⟩
  · exact ⟨['0', 'X'], by simp, rfl⟩
  · exact ⟨[], by simp, rfl⟩

/-- The first two characters of a mark are not both digits, so that digits do not begin with a
mark. -/
theorem afterMark_digits (h : Numeral.Spells 16 ds n) : afterMark ds = ds := by
  obtain ⟨vs, hvs, -⟩ := h
  have hnot : ∀ c ∈ ['U', 'u', 'x', 'X'], ∀ d, ¬Numeral.StandsFor 16 c d := by
    intro c hc d hd
    have hread := ((Numeral.standsFor_iff (by decide)).1 hd).1
    simp only [List.mem_cons, List.not_mem_nil, or_false] at hc
    rcases hc with rfl | rfl | rfl | rfl <;> cases hread
  unfold afterMark
  split
  · cases hvs with
    | cons hU _ => exact absurd hU (hnot _ (by simp) _)
  · cases hvs with
    | cons hu _ => exact absurd hu (hnot _ (by simp) _)
  · rcases hvs with _ | ⟨_, _ | ⟨hx, _⟩⟩
    exact absurd hx (hnot _ (by simp) _)
  · rcases hvs with _ | ⟨_, _ | ⟨hX, _⟩⟩
    exact absurd hX (hnot _ (by simp) _)
  · rfl

theorem afterMark_mark {mark : List Char} (hmark : mark ∈ marks) (h : Numeral.Spells 16 ds n) :
    afterMark (mark ++ ds) = ds := by
  simp only [marks, List.mem_cons, List.not_mem_nil, or_false] at hmark
  rcases hmark with rfl | rfl | rfl | rfl | rfl
  · exact afterMark_digits h
  all_goals rfl

theorem notatedCodepoint?_eq_some_iff : notatedCodepoint? cs = some n ↔ Notates cs n := by
  have hread : notatedCodepoint? cs = some n ↔ (afterMark cs).length ≤ 6 ∧
      (afterMark cs ≠ [] ∧ Numeral.Spells 16 (afterMark cs) n) ∧ n ≤ Codepoint.max := by
    rw [← Numeral.value?_eq_some_iff (by decide)]
    unfold notatedCodepoint?
    dsimp only
    split <;> simp [Option.filter_eq_some_iff, *]
  rw [hread]
  constructor
  · rintro ⟨hlength, ⟨hne, hspells⟩, hmax⟩
    obtain ⟨mark, hmark, hcs⟩ := exists_mark cs
    exact ⟨mark, hmark, afterMark cs, hcs, hne, hlength, hspells, hmax⟩
  · rintro ⟨mark, hmark, ds, rfl, hne, hlength, hspells, hmax⟩
    rw [afterMark_mark hmark hspells]
    exact ⟨hlength, ⟨hne, hspells⟩, hmax⟩

theorem codepoint?_of_length_ne_one (h : cs.length ≠ 1) :
    codepoint? cs = some n ↔ Notates cs n := by
  rw [← notatedCodepoint?_eq_some_iff]
  unfold codepoint?
  split
  · exact absurd rfl h
  · rfl

theorem Notates.length_le (h : Notates cs n) : cs.length ≤ 8 := by
  have hmarks : ∀ mark ∈ marks, mark.length ≤ 2 := by decide
  obtain ⟨mark, hmark, ds, rfl, -, hlength, -⟩ := h
  have := hmarks mark hmark
  rw [List.length_append]
  omega

theorem ofText?_eq_some_iff {t : SearchTerm} : ofText? s = some t ↔
    ∃ core, Text.Trims s.toList core ∧ core ≠ [] ∧ t.text.toList = core.take maxLength ∧
      t.codepoint = codepoint? (core.take maxLength) := by
  simp only [← Text.trimmed_eq_iff, exists_eq_left']
  unfold ofText?
  split
  · rename_i h
    simp [h]
  · rename_i hne
    obtain ⟨text, codepoint⟩ := t
    rw [and_iff_right hne, Option.some.injEq, SearchTerm.mk.injEq, ← String.toList_inj,
      String.toList_ofList]
    exact and_congr eq_comm eq_comm

/-- A text without a character that is not blank is no term. Any other text is the term that is left
of it without the blanks at its ends, as far as it is not too long. A term of one character names this
character, be it a digit or not; a longer one names the code point that it notates, if it is such a
notation. The notations of a code point, among them its code, are read as it. -/
theorem ofText?_notated (s : String) :
    (ofText? s = none ↔ ∀ c ∈ s.toList, Text.isBlank c = true) ∧
    (∀ t, ofText? s = some t →
      (∃ core, Text.Trims s.toList core ∧ t.text.toList = core.take 200 ∧ core ≠ []) ∧
      (∀ c, t.text.toList = [c] → t.codepoint = some c.toNat) ∧
      (t.text.toList.length ≠ 1 → ∀ n, t.codepoint = some n ↔ Notates t.text.toList n)) ∧
    (∀ cs n, Text.Trims s.toList cs → 2 ≤ cs.length → Notates cs n →
      ofText? s = some ⟨String.ofList cs, some n⟩) ∧
    ∀ n ≤ Codepoint.max, Notates (Codepoint.code n).toList n ∧
      ofText? (Codepoint.code n) = some ⟨Codepoint.code n, some n⟩ := by
  refine ⟨?_, fun t ht => ?_, fun cs n hcs hlength hn => ?_, fun n hn => ⟨?_, ofText?_code hn⟩⟩
  · rw [ofText?_eq_none_iff, ← String.toList_eq_nil_iff, Text.toList_trim, Text.trimmed_eq_nil_iff]
  · obtain ⟨core, hcore, hne, htext, hcodepoint⟩ := ofText?_eq_some_iff.1 ht
    rw [← htext] at hcodepoint
    refine ⟨⟨core, hcore, htext, hne⟩, fun c hc => ?_, fun hlength n => ?_⟩
    · rw [hcodepoint, hc]
      rfl
    · rw [hcodepoint, codepoint?_of_length_ne_one hlength]
  · have hkept : cs.take maxLength = cs :=
      List.take_of_length_le (hn.length_le.trans (by decide))
    refine ofText?_eq_some_iff.2 ⟨cs, hcs, List.ne_nil_of_length_pos (by omega), ?_, ?_⟩
    · rw [String.toList_ofList, hkept]
    · rw [hkept, (codepoint?_of_length_ne_one (by omega)).2 hn]
  · exact (codepoint?_of_length_ne_one (by simp [Codepoint.toList_code])).1 (codepoint?_code hn)

theorem ofText?_notated_zeros :
    Text.Trims " 0X000e9 ".toList "0X000e9".toList ∧ Notates "0X000e9".toList 0xE9 ∧
    ofText? " 0X000e9 " = some ⟨"0X000e9", some 0xE9⟩ := by
  have htrim : Text.Trims " 0X000e9 ".toList "0X000e9".toList :=
    Text.trimmed_eq_iff.1 (by decide)
  have hnotates : Notates "0X000e9".toList 0xE9 := notatedCodepoint?_eq_some_iff.1 (by decide)
  exact ⟨htrim, hnotates,
    (ofText?_notated " 0X000e9 ").2.2.1 "0X000e9".toList 0xE9 htrim (by decide) hnotates⟩

end CharAtlas.SearchTerm
