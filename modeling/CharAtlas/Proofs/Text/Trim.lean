import CharAtlas.Text.Blank
import Mathlib.Data.List.DropRight

/-! # Trimmed texts

A text is trimmed if neither its first nor its last character is blank (`trimmed_eq_self_iff`).
Trimming a text makes it so and loses nothing but blanks. -/

namespace CharAtlas.Text

/-- No blank at either end. -/
def HasNoBlankEnds (cs : List Char) : Prop :=
  (∀ c ∈ cs.head?, isBlank c = false) ∧ ∀ c ∈ cs.getLast?, isBlank c = false

instance (cs : List Char) : Decidable (HasNoBlankEnds cs) :=
  decidable_of_iff (cs.head?.all (!isBlank ·) = true ∧ cs.getLast?.all (!isBlank ·) = true)
    (by simp only [HasNoBlankEnds, Option.all_eq_true, Option.mem_def, Bool.not_eq_true'])

theorem dropWhile_eq_self {p : Char → Bool} {cs : List Char} (h : ∀ c ∈ cs.head?, p c = false) :
    cs.dropWhile p = cs := by
  cases cs with
  | nil => rfl
  | cons c cs => rw [List.dropWhile_cons_of_neg]; simp [h c rfl]

theorem trimEnd_eq_self {p : Char → Bool} {cs : List Char} (h : ∀ c ∈ cs.getLast?, p c = false) :
    trimEnd p cs = cs := by
  unfold trimEnd
  rw [dropWhile_eq_self, List.reverse_reverse]
  rwa [List.head?_reverse]

theorem trimEnd_prefix_self (p : Char → Bool) (cs : List Char) : trimEnd p cs <+: cs :=
  List.rdropWhile_prefix p cs

theorem getLast?_trimEnd {p : Char → Bool} {cs : List Char} {c : Char}
    (h : c ∈ (trimEnd p cs).getLast?) : p c = false := by
  unfold trimEnd at h
  rw [List.getLast?_reverse] at h
  have := List.head?_dropWhile_not p cs.reverse
  rw [h] at this
  simpa using this

theorem head?_trimEnd {p : Char → Bool} {cs : List Char} {c : Char}
    (h : c ∈ (trimEnd p cs).head?) : c ∈ cs.head? := by
  obtain ⟨tail, ht⟩ := trimEnd_prefix_self p cs
  rw [← ht, List.head?_append, h]
  rfl

/-- What ends in something to be kept is kept whole. -/
theorem trimEnd_append {p : Char → Bool} {a : List Char} (h : ∀ c ∈ a.getLast?, p c = false)
    (b : List Char) : trimEnd p (a ++ b) = a ++ trimEnd p b := by
  unfold trimEnd
  rw [List.reverse_append, List.dropWhile_append]
  split
  · rename_i hb
    rw [List.isEmpty_iff] at hb
    rw [hb, List.reverse_nil, List.append_nil]
    exact trimEnd_eq_self h
  · rw [List.reverse_append, List.reverse_reverse]

/-- What is taken away is all to be dropped. -/
theorem exists_trimEnd_append (p : Char → Bool) (cs : List Char) :
    ∃ b, cs = trimEnd p cs ++ b ∧ ∀ c ∈ b, p c = true := by
  refine ⟨(cs.reverse.takeWhile p).reverse, ?_, fun c hc => ?_⟩
  · unfold trimEnd
    rw [← List.reverse_append, List.takeWhile_append_dropWhile, List.reverse_reverse]
  · exact List.mem_takeWhile_imp (List.mem_reverse.1 hc)

theorem hasNoBlankEnds_of_forall {cs : List Char} (h : ∀ c ∈ cs, isBlank c = false) :
    HasNoBlankEnds cs :=
  ⟨fun c hc => h c (List.mem_of_head? hc), fun c hc => h c (List.mem_of_getLast? hc)⟩

theorem hasNoBlankEnds_trimmed (cs : List Char) : HasNoBlankEnds (trimmed cs) := by
  refine ⟨fun c hc => ?_, fun c hc => getLast?_trimEnd hc⟩
  have := List.head?_dropWhile_not isBlank cs
  rw [head?_trimEnd hc] at this
  simpa using this

theorem HasNoBlankEnds.trimmed_eq {cs : List Char} (h : HasNoBlankEnds cs) : trimmed cs = cs := by
  unfold trimmed
  rw [dropWhile_eq_self h.1, trimEnd_eq_self h.2]

theorem trimmed_eq_self_iff {cs : List Char} : trimmed cs = cs ↔ HasNoBlankEnds cs :=
  ⟨fun h => h ▸ hasNoBlankEnds_trimmed cs, fun h => h.trimmed_eq⟩

theorem trimmed_trimmed (cs : List Char) : trimmed (trimmed cs) = trimmed cs :=
  (hasNoBlankEnds_trimmed cs).trimmed_eq

theorem trimmed_append_blanks {b : List Char} (hb : ∀ c ∈ b, isBlank c = true) (a : List Char) :
    trimmed (a ++ b) = trimmed a := by
  have hstart : b.dropWhile isBlank = [] := List.dropWhile_eq_nil_iff.2 hb
  have hend : b.reverse.dropWhile isBlank = [] :=
    List.dropWhile_eq_nil_iff.2 fun c hc => hb c (List.mem_reverse.1 hc)
  unfold trimmed
  rw [List.dropWhile_append]
  split
  · rename_i ha
    rw [List.isEmpty_iff.1 ha, hstart]
  · unfold trimEnd
    rw [List.reverse_append, List.dropWhile_append, hend]
    rfl

/-- Blanks taken away at the end beforehand are not missed. -/
theorem trimmed_trimEnd (cs : List Char) : trimmed (trimEnd isBlank cs) = trimmed cs := by
  obtain ⟨b, hcs, hb⟩ := exists_trimEnd_append isBlank cs
  conv_rhs => rw [hcs]
  exact (trimmed_append_blanks hb _).symm

theorem trimmed_blanks_append {b : List Char} (hb : ∀ c ∈ b, isBlank c = true) (a : List Char) :
    trimmed (b ++ a) = trimmed a := by
  unfold trimmed
  rw [List.dropWhile_append, List.dropWhile_eq_nil_iff.2 hb]
  rfl

/-- `core` is `cs` without the blanks at its ends. -/
def Trims (cs core : List Char) : Prop :=
  ∃ before after, cs = before ++ (core ++ after) ∧ (∀ c ∈ before, isBlank c = true) ∧
    (∀ c ∈ after, isBlank c = true) ∧ HasNoBlankEnds core

theorem trimmed_eq_iff {cs core : List Char} : trimmed cs = core ↔ Trims cs core := by
  constructor
  · rintro rfl
    obtain ⟨after, hcs, hafter⟩ := exists_trimEnd_append isBlank (cs.dropWhile isBlank)
    refine ⟨cs.takeWhile isBlank, after, ?_, fun c hc => List.mem_takeWhile_imp hc, hafter,
      hasNoBlankEnds_trimmed cs⟩
    unfold trimmed
    rw [← hcs, List.takeWhile_append_dropWhile]
  · rintro ⟨before, after, rfl, hbefore, hafter, hcore⟩
    rw [trimmed_blanks_append hbefore, trimmed_append_blanks hafter, hcore.trimmed_eq]

theorem trimmed_eq_nil_iff {cs : List Char} : trimmed cs = [] ↔ ∀ c ∈ cs, isBlank c = true := by
  constructor
  · intro h
    obtain ⟨before, after, rfl, hbefore, hafter, -⟩ := trimmed_eq_iff.1 h
    simpa [or_imp, forall_and] using And.intro hbefore hafter
  · intro h
    have := trimmed_append_blanks h []
    rwa [List.nil_append] at this

theorem trimmed_sublist (cs : List Char) : (trimmed cs).Sublist cs :=
  (trimEnd_prefix_self isBlank _).sublist.trans (List.dropWhile_suffix _).sublist

theorem mem_of_mem_trimmed {c : Char} {cs : List Char} (h : c ∈ trimmed cs) : c ∈ cs :=
  (trimmed_sublist cs).subset h

@[simp] theorem toList_trim (s : String) : (trim s).toList = trimmed s.toList := by
  simp [trim]

theorem trim_trim (s : String) : trim (trim s) = trim s := by
  unfold trim
  rw [String.toList_ofList, trimmed_trimmed]

theorem trim_trimEnd (t : String) :
    trim (String.ofList (trimEnd isBlank t.toList)) = trim t := by
  unfold trim
  rw [String.toList_ofList, trimmed_trimEnd]

theorem trim_eq_self_iff {s : String} : trim s = s ↔ HasNoBlankEnds s.toList := by
  rw [← trimmed_eq_self_iff, ← String.toList_inj, toList_trim]

theorem hasNoBlankEnds_singleton {c : Char} (h : isBlank c = false) :
    HasNoBlankEnds (String.singleton c).toList := by
  simp [HasNoBlankEnds, h]

theorem trim_singleton {c : Char} (h : isBlank c = false) :
    trim (String.singleton c) = String.singleton c :=
  trim_eq_self_iff.2 (hasNoBlankEnds_singleton h)

theorem mem_of_mem_trim {c : Char} {s : String} (h : c ∈ (trim s).toList) : c ∈ s.toList :=
  mem_of_mem_trimmed (toList_trim s ▸ h)

/-- Putting something without blank ends together with a beginning of the same kind, or with
nothing, leaves no blank ends. -/
theorem HasNoBlankEnds.append {a b : List Char} (ha : HasNoBlankEnds a) (hne : a ≠ [])
    (hb : ∀ c ∈ b.getLast?, isBlank c = false) : HasNoBlankEnds (a ++ b) := by
  refine ⟨fun c hc => ?_, fun c hc => ?_⟩
  · rw [List.head?_append_of_ne_nil _ hne] at hc
    exact ha.1 c hc
  · rw [List.getLast?_append] at hc
    cases hl : b.getLast? with
    | none => rw [hl] at hc; exact ha.2 c hc
    | some d => rw [hl] at hc; exact hb c (hl ▸ hc)

end CharAtlas.Text
