import CharAtlas.Text.Like
import Mathlib.Data.List.Basic
import Mathlib.Data.List.TakeWhile

/-! # What patterns match

A literal pattern matches the texts with the same letters, the case of letters of ASCII aside
(`likeChars_literal`). So the pattern of a text between two percent signs matches what contains the
text (`likeChars_containing`); without the second one, it matches what ends with it. -/

namespace CharAtlas.Text

/-- The same text but for the case of letters of ASCII. -/
def SameLetters (a b : List Char) : Prop :=
  a.map Char.toLower = b.map Char.toLower

def EndsWithLetters (text term : List Char) : Prop :=
  ∃ before mid, text = before ++ mid ∧ SameLetters mid term

def ContainsLetters (text term : List Char) : Prop :=
  ∃ before mid after, text = before ++ (mid ++ after) ∧ SameLetters mid term

variable {escape : Option Char} {c : Char} {p s t text : List Char}

theorem sameLetters_nil_iff : SameLetters s [] ↔ s = [] := by
  simp [SameLetters]

theorem sameLetters_cons_iff :
    SameLetters s (c :: t) ↔ ∃ d u, s = d :: u ∧ sameLetter c d = true ∧ SameLetters u t := by
  unfold SameLetters
  cases s with
  | nil => simp
  | cons d u =>
    simp only [List.map_cons, List.cons.injEq, sameLetter, beq_iff_eq]
    constructor
    · rintro ⟨hd, hu⟩
      exact ⟨d, u, ⟨rfl, rfl⟩, hd.symm, hu⟩
    · rintro ⟨d', u', ⟨rfl, rfl⟩, hd, hu⟩
      exact ⟨hd.symm, hu⟩

theorem mem_suffixes : s ∈ suffixes t ↔ s <:+ t := by
  induction t with
  | nil => simp [suffixes]
  | cons c t ih => rw [suffixes, List.mem_cons, ih, List.suffix_cons_iff]

theorem headAnd_iff {test : Char → Bool} {k : List Char → Bool} :
    headAnd test k text = true ↔ ∃ d rest, text = d :: rest ∧ test d = true ∧ k rest = true := by
  cases text <;> simp [headAnd]

/-! ### Patterns by their first character -/

theorem likeChars_nil : likeChars escape [] text = true ↔ text = [] := by
  simp [likeChars]

theorem likeChars_percent : likeChars escape ('%' :: p) text = true ↔
    ∃ before rest, text = before ++ rest ∧ likeChars escape p rest = true := by
  simp only [likeChars, List.any_eq_true, mem_suffixes]
  constructor
  · rintro ⟨rest, ⟨before, h⟩, hp⟩
    exact ⟨before, rest, h.symm, hp⟩
  · rintro ⟨before, rest, h, hp⟩
    exact ⟨rest, ⟨before, h.symm⟩, hp⟩

theorem likeChars_any (text : List Char) : likeChars escape ['%'] text = true :=
  likeChars_percent.2 ⟨text, [], (List.append_nil text).symm, likeChars_nil.2 rfl⟩

theorem likeChars_plain (hp : c ≠ '%') (hu : c ≠ '_') (he : escape ≠ some c) :
    likeChars escape (c :: p) text = headAnd (sameLetter c) (likeChars escape p) text := by
  cases p with
  | nil =>
    rw [likeChars.eq_3 _ _ (by simpa using hp), if_neg he, if_neg hu]
    congr 1
  | cons d p => rw [likeChars.eq_4 _ _ _ _ (by simpa using hp), if_neg he, if_neg hu]

theorem likeChars_escaped (he : escape = some c) (hc : c ≠ '%') (d : Char) :
    likeChars escape (c :: d :: p) text = headAnd (sameLetter d) (likeChars escape p) text := by
  rw [likeChars.eq_4 _ _ _ _ (by simpa using hc), if_pos he]

/-! ### Literals -/

/-- A character as a literal pattern writes it. -/
def escaped (c : Char) : List Char :=
  if c = '\\' ∨ c = '%' ∨ c = '_' then ['\\', c] else [c]

theorem toList_literalPattern (s : String) :
    (literalPattern s).toList = s.toList.flatMap escaped :=
  String.toList_ofList ..

/-- Every `c` replaced by `r`, the other characters left alone. -/
def replaceAll (c : Char) (r cs : List Char) : List Char :=
  cs.flatMap fun d => if d = c then r else [d]

/-- The characters to be escaped can be replaced one after the other. The backslash has to be the
first, since the others bring new backslashes in. -/
theorem flatMap_escaped_eq_replaceAll (cs : List Char) : cs.flatMap escaped =
    replaceAll '_' ['\\', '_'] (replaceAll '%' ['\\', '%'] (replaceAll '\\' ['\\', '\\'] cs)) := by
  unfold replaceAll
  rw [List.flatMap_assoc, List.flatMap_assoc]
  refine List.flatMap_congr fun c _ => ?_
  unfold escaped
  by_cases hb : c = '\\'
  · subst hb
    rfl
  · by_cases hp : c = '%'
    · subst hp
      rfl
    · by_cases hu : c = '_' <;> simp [hb, hp, hu]

theorem length_flatMap_escaped_le (cs : List Char) :
    (cs.flatMap escaped).length ≤ 2 * cs.length := by
  induction cs with
  | nil => exact Nat.le_refl 0
  | cons c cs ih =>
    have hc : (escaped c).length ≤ 2 := by
      unfold escaped
      split <;> simp
    rw [List.flatMap_cons, List.length_append, List.length_cons]
    omega

theorem likeChars_escaped_append (c : Char) : likeChars (some '\\') (escaped c ++ p) text =
    headAnd (sameLetter c) (likeChars (some '\\') p) text := by
  unfold escaped
  split
  · exact likeChars_escaped rfl (by decide) c
  · rename_i hc
    obtain ⟨hb, hp, hu⟩ : c ≠ '\\' ∧ c ≠ '%' ∧ c ≠ '_' := by simpa [not_or] using hc
    exact likeChars_plain hp hu fun h => hb (Option.some.inj h).symm

/-- A literal takes away a stretch with its letters and leaves the rest to the rest of the
pattern. -/
theorem likeChars_literal : likeChars (some '\\') (t.flatMap escaped ++ p) text = true ↔
    ∃ mid rest, text = mid ++ rest ∧ SameLetters mid t ∧ likeChars (some '\\') p rest = true := by
  induction t generalizing text with
  | nil => simp [sameLetters_nil_iff]
  | cons c t ih =>
    rw [List.flatMap_cons, List.append_assoc, likeChars_escaped_append, headAnd_iff]
    constructor
    · rintro ⟨d, rest, rfl, hd, hrest⟩
      obtain ⟨mid, rest, rfl, hmid, hp⟩ := ih.1 hrest
      exact ⟨d :: mid, rest, rfl, sameLetters_cons_iff.2 ⟨d, mid, rfl, hd, hmid⟩, hp⟩
    · rintro ⟨mid, rest, rfl, hmid, hp⟩
      obtain ⟨d, u, rfl, hd, hu⟩ := sameLetters_cons_iff.1 hmid
      exact ⟨d, u ++ rest, rfl, hd, ih.2 ⟨u, rest, rfl, hu, hp⟩⟩

theorem likeChars_ending :
    likeChars (some '\\') ('%' :: t.flatMap escaped) text = true ↔ EndsWithLetters text t := by
  rw [likeChars_percent, ← List.append_nil (t.flatMap escaped)]
  simp only [likeChars_literal, likeChars_nil]
  constructor
  · rintro ⟨before, -, rfl, mid, rest, rfl, hmid, rfl⟩
    exact ⟨before, mid, by rw [List.append_nil], hmid⟩
  · rintro ⟨before, mid, rfl, hmid⟩
    exact ⟨before, mid, rfl, mid, [], (List.append_nil mid).symm, hmid, rfl⟩

theorem likeChars_containing : likeChars (some '\\') ('%' :: (t.flatMap escaped ++ ['%'])) text = true ↔
    ContainsLetters text t := by
  rw [likeChars_percent]
  simp only [likeChars_literal, likeChars_any, and_true]
  constructor
  · rintro ⟨before, -, rfl, mid, after, rfl, hmid⟩
    exact ⟨before, mid, after, rfl, hmid⟩
  · rintro ⟨before, mid, after, rfl, hmid⟩
    exact ⟨before, _, rfl, mid, after, rfl, hmid⟩

/-! ### Null characters -/

theorem visible_eq_self (h : '\x00' ∉ s) : visible s = s := by
  unfold visible
  rw [List.takeWhile_eq_self_iff]
  intro c hc
  have hne : c ≠ '\x00' := fun e => h (e ▸ hc)
  simpa using hne

theorem visible_cons (hc : c ≠ '\x00') (t : List Char) : visible (c :: t) = c :: visible t := by
  simp [visible, hc]

/-- Escaping characters one by one goes together with cutting the text at a null character. -/
theorem visible_flatMap_escaped (t p : List Char) : visible (t.flatMap escaped ++ p) =
    if '\x00' ∈ t then (visible t).flatMap escaped else t.flatMap escaped ++ visible p := by
  induction t with
  | nil => rfl
  | cons c t ih =>
    by_cases hc : c = '\x00'
    · subst hc
      rfl
    · have hkeep : ∀ u, visible (escaped c ++ u) = escaped c ++ visible u := by
        intro u
        unfold visible escaped
        split <;> simp [hc]
      rw [List.flatMap_cons, List.append_assoc, hkeep, ih, visible_cons hc]
      simp only [List.mem_cons, Ne.symm hc, false_or, List.flatMap_cons]
      split
      · rfl
      · rw [List.append_assoc]

/-! ### Brackets -/

/-- Only letters have another case. -/
theorem sameLetter_iff_of_not_isAlpha {b d : Char} (hb : b.isAlpha = false) :
    sameLetter b d = true ↔ d = b := by
  obtain ⟨hupper, hlower⟩ : b.isUpper = false ∧ b.isLower = false := Bool.or_eq_false_iff.1 hb
  have hself : b.toLower = b := dif_neg (of_decide_eq_false hupper)
  unfold sameLetter
  rw [beq_iff_eq, hself]
  unfold Char.toLower
  split
  · rename_i h
    have hlow : 65 ≤ d.val.toNat := UInt32.le_iff_toNat_le.1 h.1
    have hhigh : d.val.toNat ≤ 90 := UInt32.le_iff_toNat_le.1 h.2
    have hval : (d.val + ('a'.val - 'A'.val)).toNat = d.val.toNat + 32 := by
      rw [UInt32.toNat_add]
      show (d.val.toNat + 32) % 2 ^ 32 = _
      omega
    constructor
    · -- what `d` becomes is a small letter
      rintro rfl
      have hge : 97 ≤ (d.val + ('a'.val - 'A'.val)).toNat := by omega
      have hle : (d.val + ('a'.val - 'A'.val)).toNat ≤ 122 := by omega
      rcases Bool.and_eq_false_iff.1 hlower with hbelow | habove
      · exact (of_decide_eq_false hbelow (UInt32.le_iff_toNat_le.2 hge)).elim
      · exact (of_decide_eq_false habove (UInt32.le_iff_toNat_le.2 hle)).elim
    · rintro rfl
      exact absurd h (of_decide_eq_false hupper)
  · exact eq_comm

theorem like_bracket {s : String} : like none "<%" s = true ↔ ∃ rest, s.toList = '<' :: rest := by
  have hpattern : visible "<%".toList = ['<', '%'] := rfl
  unfold like
  rw [hpattern, likeChars_plain (by decide) (by decide) (by simp), headAnd_iff]
  constructor
  · rintro ⟨d, rest, hs, hd, -⟩
    obtain rfl := (sameLetter_iff_of_not_isAlpha (by decide)).1 hd
    obtain ⟨tail, ht⟩ := List.takeWhile_prefix (l := s.toList) (· != '\x00')
    exact ⟨rest ++ tail, by rw [← ht, ← List.cons_append, ← hs]; rfl⟩
  · rintro ⟨rest, hs⟩
    rw [hs, visible_cons (by decide)]
    exact ⟨'<', visible rest, rfl, by decide, likeChars_any _⟩

theorem like_brackets {s : String} : like none "<%>%" s = true ↔
    ∃ rest, visible s.toList = '<' :: rest ∧ '>' ∈ rest := by
  have hpattern : visible "<%>%".toList = ['<', '%', '>', '%'] := rfl
  have hclosing : ∀ rest, likeChars none ['%', '>', '%'] rest = true ↔ '>' ∈ rest := by
    intro rest
    have hplain : ∀ after, likeChars none ['>', '%'] after =
        headAnd (sameLetter '>') (likeChars none ['%']) after :=
      fun _ => likeChars_plain (by decide) (by decide) (by simp)
    rw [likeChars_percent]
    simp only [hplain, headAnd_iff, likeChars_any, and_true]
    constructor
    · rintro ⟨before, -, rfl, d, after, rfl, hd⟩
      rw [(sameLetter_iff_of_not_isAlpha (by decide)).1 hd]
      simp
    · intro h
      obtain ⟨before, after, rfl, -⟩ := List.eq_append_cons_of_mem h
      exact ⟨before, _, rfl, '>', after, rfl, by decide⟩
  unfold like
  rw [hpattern, likeChars_plain (by decide) (by decide) (by simp), headAnd_iff]
  constructor
  · rintro ⟨d, rest, hs, hd, hrest⟩
    obtain rfl := (sameLetter_iff_of_not_isAlpha (by decide)).1 hd
    exact ⟨rest, hs, (hclosing rest).1 hrest⟩
  · rintro ⟨rest, hs, hrest⟩
    exact ⟨'<', rest, hs, by decide, (hclosing rest).2 hrest⟩

end CharAtlas.Text
