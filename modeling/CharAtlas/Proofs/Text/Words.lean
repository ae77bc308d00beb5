import CharAtlas.Trigram

/-! # Words and separators

A text is words with separators before, between and behind them (`Text.Spaced`). Every text is so in
one way, its words being the pieces of `wordsOf` that are not empty (`Text.spaced_iff`). -/

namespace CharAtlas

theorem wordsOf_cons (a : Char) (cs : List Char) : wordsOf (a :: cs) =
    if Text.isAlphanumeric a then (wordsOf cs).modifyHead (a :: ·) else [] :: wordsOf cs := by
  unfold wordsOf
  rw [List.splitOnP_cons_eq_if_modifyHead]
  cases Text.isAlphanumeric a <;> rfl

theorem wordsOf_ne_nil (cs : List Char) : wordsOf cs ≠ [] :=
  List.splitOnP_ne_nil _ cs

/-- The words of a text together are its alphanumeric characters. -/
theorem flatten_wordsOf (cs : List Char) : (wordsOf cs).flatten = cs.filter Text.isAlphanumeric := by
  induction cs with
  | nil => rfl
  | cons a cs ih =>
    rw [wordsOf_cons, List.filter_cons, ← ih]
    split
    · obtain ⟨w, ws, hws⟩ := List.exists_cons_of_ne_nil (wordsOf_ne_nil cs)
      rw [hws]
      rfl
    · rfl

theorem wordsOf_append {a : Char} (ha : ¬Text.isAlphanumeric a = true) (cs cs' : List Char) :
    wordsOf (cs ++ a :: cs') = wordsOf cs ++ wordsOf cs' :=
  List.splitOnP_append_cons cs cs' (by simpa using ha)

namespace Text
variable {a : Char} {s w cs : List Char} {ws : List (List Char)}

/-- No alphanumeric character is in it. -/
def IsSeparator (s : List Char) : Prop :=
  ∀ a ∈ s, ¬isAlphanumeric a = true

instance (s : List Char) : Decidable (IsSeparator s) :=
  List.decidableBAll (fun a => ¬isAlphanumeric a = true) s

/-- The words of a text in their order. A word ends only where no alphanumeric character follows. -/
inductive Spaced : List (List Char) → List Char → Prop
  | separator {s : List Char} (hs : IsSeparator s) : Spaced [] s
  | word {s w cs : List Char} {ws : List (List Char)} (hs : IsSeparator s) (hne : w ≠ [])
    (hw : ∀ a ∈ w, isAlphanumeric a = true) (hend : ∀ a ∈ cs.head?, ¬isAlphanumeric a = true)
    (h : Spaced ws cs) : Spaced (w :: ws) (s ++ w ++ cs)

def words (cs : List Char) : List (List Char) :=
  (wordsOf cs).filter (· ≠ [])

theorem mem_words : w ∈ words cs ↔ w ∈ wordsOf cs ∧ w ≠ [] := by
  unfold words
  rw [List.mem_filter, decide_eq_true_iff]

theorem words_append (ha : ¬isAlphanumeric a = true) (cs cs' : List Char) :
    words (cs ++ a :: cs') = words cs ++ words cs' := by
  unfold words
  rw [wordsOf_append ha, List.filter_append]

theorem words_separator_append (hs : IsSeparator s) (cs : List Char) :
    words (s ++ cs) = words cs := by
  induction s with
  | nil => rfl
  | cons a s ih =>
    obtain ⟨ha, hs⟩ := List.forall_mem_cons.1 hs
    exact (words_append ha [] (s ++ cs)).trans (ih hs)

theorem words_append_separator_append (hs : IsSeparator s) (hne : s ≠ []) (cs cs' : List Char) :
    words (cs ++ s ++ cs') = words cs ++ words cs' := by
  obtain ⟨a, s, rfl⟩ := List.exists_cons_of_ne_nil hne
  obtain ⟨ha, hs⟩ := List.forall_mem_cons.1 hs
  rw [List.append_assoc, List.cons_append, words_append ha, words_separator_append hs]

theorem words_eq_singleton (hne : w ≠ []) (hw : ∀ a ∈ w, isAlphanumeric a = true) :
    words w = [w] := by
  unfold words wordsOf
  rw [List.splitOnP_eq_singleton fun a ha => by simp [hw a ha]]
  simp [hne]

/-- Words that are each followed by a space. -/
theorem words_flatMap_space (h : ∀ w ∈ ws, w ≠ [] ∧ ∀ a ∈ w, isAlphanumeric a = true) :
    words (ws.flatMap (· ++ [' '])) = ws := by
  have hspace : ¬isAlphanumeric ' ' = true := by decide
  induction ws with
  | nil => rfl
  | cons w ws ih =>
    obtain ⟨⟨hne, hw⟩, hws⟩ := List.forall_mem_cons.1 h
    rw [List.flatMap_cons, List.append_assoc, List.singleton_append, words_append hspace,
      words_eq_singleton hne hw, ih hws]
    rfl

theorem Spaced.words_eq (h : Spaced ws cs) : words cs = ws := by
  induction h with
  | @separator s hs => rw [← List.append_nil s, words_separator_append hs]; rfl
  | @word s w cs ws hs hne hw hend h ih =>
    rw [List.append_assoc, words_separator_append hs]
    cases cs with
    | nil => rw [List.append_nil, words_eq_singleton hne hw, ← ih]; rfl
    | cons a cs =>
      have ha : ¬isAlphanumeric a = true := hend a rfl
      -- the character that ends the word is part of no other
      rw [words_append ha, words_eq_singleton hne hw, ← ih]
      exact congrArg (w :: ·) (words_append ha [] cs).symm

theorem Spaced.cons_separator (ha : ¬isAlphanumeric a = true) (h : Spaced ws cs) :
    Spaced ws (a :: cs) := by
  cases h with
  | separator hs => exact .separator (List.forall_mem_cons.2 ⟨ha, hs⟩)
  | @word s _ _ _ hs hne hw hend h =>
    exact .word (s := a :: s) (List.forall_mem_cons.2 ⟨ha, hs⟩) hne hw hend h

/-- A letter or digit goes with the word that follows, or is a word if none does. -/
theorem Spaced.cons_alphanumeric (ha : isAlphanumeric a = true) (h : Spaced ws cs) :
    ∃ ws', Spaced ws' (a :: cs) := by
  have hnil : IsSeparator [] := fun b hb => absurd hb List.not_mem_nil
  have hone : ∀ b ∈ [a], isAlphanumeric b = true := List.forall_mem_singleton.2 ha
  cases h with
  | separator hs =>
    have hend : ∀ b ∈ cs.head?, ¬isAlphanumeric b = true := fun b hb => hs b (List.mem_of_mem_head? hb)
    exact ⟨[[a]], .word (w := [a]) hnil (List.cons_ne_nil a []) hone hend (.separator hs)⟩
  | @word s w cs ws hs hne hw hend h =>
    cases s with
    | nil =>
      exact ⟨(a :: w) :: ws, .word (w := a :: w) hnil (List.cons_ne_nil a w)
        (List.forall_mem_cons.2 ⟨ha, hw⟩) hend h⟩
    | cons b s =>
      have hb : ∀ b' ∈ (b :: s ++ w ++ cs).head?, ¬isAlphanumeric b' = true := by
        rintro b' ⟨⟩
        exact hs b (List.mem_cons_self ..)
      exact ⟨[a] :: w :: ws, .word (w := [a]) hnil (List.cons_ne_nil a []) hone hb
        (.word hs hne hw hend h)⟩

theorem exists_spaced (cs : List Char) : ∃ ws, Spaced ws cs := by
  induction cs with
  | nil => exact ⟨[], .separator fun a ha => absurd ha List.not_mem_nil⟩
  | cons a cs ih =>
    obtain ⟨ws, h⟩ := ih
    by_cases ha : isAlphanumeric a = true
    · exact h.cons_alphanumeric ha
    · exact ⟨ws, h.cons_separator ha⟩

theorem Spaced.of_mem (h : Spaced ws cs) (hw : w ∈ ws) :
    w ≠ [] ∧ ∀ a ∈ w, isAlphanumeric a = true := by
  induction h with
  | separator hs => exact absurd hw List.not_mem_nil
  | word hs hne hall hend h ih =>
    rcases List.mem_cons.1 hw with rfl | hw
    · exact ⟨hne, hall⟩
    · exact ih hw

theorem spaced_iff : Spaced ws cs ↔ words cs = ws := by
  refine ⟨Spaced.words_eq, ?_⟩
  rintro rfl
  obtain ⟨ws, h⟩ := exists_spaced cs
  rwa [h.words_eq]

/-! ### The same words -/

/-- Either text is made of words that are in the other too. Their order, how often they occur and what
separates them may differ. -/
def SameWords (s t : String) : Prop :=
  ∃ ws vs, Spaced ws s.toList ∧ Spaced vs t.toList ∧ ∀ w, w ∈ ws ↔ w ∈ vs

theorem sameWords_iff {s t : String} :
    SameWords s t ↔ ∀ w, w ∈ words s.toList ↔ w ∈ words t.toList := by
  constructor
  · rintro ⟨ws, vs, hws, hvs, h⟩
    rwa [hws.words_eq, hvs.words_eq]
  · exact fun h => ⟨_, _, spaced_iff.2 rfl, spaced_iff.2 rfl, h⟩

theorem SameWords.symm {s t : String} (h : SameWords s t) : SameWords t s :=
  sameWords_iff.2 fun w => (sameWords_iff.1 h w).symm

/-! ### In lower case -/

theorem exists_lowercase_eq (a : Char) : ∃ b cs, lowercase a = b :: cs := by
  unfold lowercase
  split <;> exact ⟨_, _, rfl⟩

theorem exists_run_of_partnerIn {n : Nat} {b : Char} {runs : List CaseRun}
    (h : partnerIn n runs = some b) : ∃ r ∈ runs, r.first ≤ n ∧ r.partner n = b := by
  induction runs with
  | nil => cases h
  | cons r runs ih =>
    unfold partnerIn at h
    split at h
    · cases h
    · rename_i hfirst
      split at h
      · exact ⟨r, List.mem_cons_self .., Nat.not_lt.1 hfirst, Option.some.inj h⟩
      · obtain ⟨r', hr', hn⟩ := ih h
        exact ⟨r', List.mem_cons_of_mem r hr', hn⟩

/-- All partners lie behind the space. -/
theorem partner_ne_space {r : CaseRun} {n : Nat} (hr : r ∈ caseRuns) (hn : r.first ≤ n) :
    r.partner n ≠ ' ' := by
  have hbehind : ∀ r ∈ caseRuns, 0x20 < (r.first : Int) + r.shift := by decide +kernel
  have hfirst := hbehind r hr
  intro h
  by_cases hvalid : (Int.toNat (n + r.shift)).isValidChar
  · have hchar : r.partner n = Char.ofNatAux (Int.toNat (n + r.shift)) hvalid := dif_pos hvalid
    have hcode : Int.toNat (n + r.shift) = 0x20 := congrArg Char.toNat (hchar.symm.trans h)
    omega
  · have hchar : r.partner n = '\x00' := dif_neg hvalid
    exact absurd (hchar.symm.trans h) (by decide)

theorem space_not_mem_lowercase (ha : a ≠ ' ') : ' ' ∉ lowercase a := by
  unfold lowercase
  split
  · decide
  · rw [List.mem_singleton]
    cases hb : partnerIn a.toNat caseRuns with
    | none => exact ha.symm
    | some b =>
      obtain ⟨r, hr, hn, rfl⟩ := exists_run_of_partnerIn hb
      exact (partner_ne_space hr hn).symm

/-- A word does not begin with a space in lower case either. -/
theorem exists_lowercase_word (hne : w ≠ []) (hw : ∀ a ∈ w, isAlphanumeric a = true) :
    ∃ b cs, w.flatMap lowercase = b :: cs ∧ b ≠ ' ' := by
  obtain ⟨a, w, rfl⟩ := List.exists_cons_of_ne_nil hne
  obtain ⟨b, cs, hb⟩ := exists_lowercase_eq a
  have ha : a ≠ ' ' := by
    rintro rfl
    exact absurd (hw ' ' (List.mem_cons_self ..)) (by decide)
  refine ⟨b, cs ++ w.flatMap lowercase, by rw [List.flatMap_cons, hb]; rfl, ?_⟩
  rintro rfl
  exact space_not_mem_lowercase ha (hb ▸ List.mem_cons_self ..)

end Text
end CharAtlas
