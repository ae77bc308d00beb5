import CharAtlas.Proofs.OrderedSet
import CharAtlas.Proofs.Text.Words

/-! # The trigrams of words

The trigrams of a text are those of its words (`mem_trigrams_iff`), so texts with the same words have
the same trigrams (`trigrams_congr`) and a text has any if some character in it is alphanumeric
(`isEmpty_trigrams_iff`). A word that has `n` characters in lower case has two trigrams at least
(`two_le_size_trigrams`) and `n + 1` at most (`size_trigrams_le`). -/

namespace CharAtlas
variable {cs w : List Char} {s t text x : String}

/-! ### Word by word -/

theorem wordTrigrams_eq_nil_iff : wordTrigrams w = [] ↔ w = [] := by
  cases w with
  | nil => exact iff_of_true rfl rfl
  | cons a w =>
    refine iff_of_false ?_ (List.cons_ne_nil _ _)
    unfold wordTrigrams
    -- two spaces and whatever comes next
    cases (a :: w).flatMap Text.lowercase <;> simp [windows]

theorem isEmpty_trigrams_iff :
    (trigrams text).isEmpty = true ↔ ∀ a ∈ text.toList, ¬Text.isAlphanumeric a = true := by
  unfold trigrams
  rw [OrderedSet.isEmpty_ofList, List.isEmpty_iff, List.flatMap_eq_nil_iff]
  simp only [wordTrigrams_eq_nil_iff]
  rw [← List.flatten_eq_nil_iff, flatten_wordsOf, List.filter_eq_nil_iff]

theorem mem_trigrams_iff :
    x ∈ trigrams text ↔ ∃ w ∈ Text.words text.toList, x ∈ wordTrigrams w := by
  unfold trigrams
  rw [OrderedSet.mem_ofList, List.mem_flatMap]
  constructor
  · rintro ⟨w, hw, hx⟩
    have hne : w ≠ [] := mt wordTrigrams_eq_nil_iff.2 (List.ne_nil_of_mem hx)
    exact ⟨w, Text.mem_words.2 ⟨hw, hne⟩, hx⟩
  · rintro ⟨w, hw, hx⟩
    exact ⟨w, (Text.mem_words.1 hw).1, hx⟩

/-- A word of three characters in lower case is one of its trigrams. -/
theorem mem_trigrams_of_word {a b c : Char} (hword : [a, b, c] ∈ Text.words text.toList)
    (hlower : ∀ u ∈ [a, b, c], Text.lowercase u = [u]) : String.ofList [a, b, c] ∈ trigrams text := by
  refine mem_trigrams_iff.2 ⟨_, hword, ?_⟩
  have hsame : [a, b, c].flatMap Text.lowercase = [a, b, c] :=
    (List.flatMap_congr hlower).trans (List.flatMap_singleton' _)
  show _ ∈ windows (' ' :: ' ' :: [a, b, c].flatMap Text.lowercase ++ [' '])
  rw [hsame]
  exact List.mem_cons_of_mem _ (List.mem_cons_of_mem _ (List.mem_cons_self ..))

theorem trigrams_congr (h : Text.SameWords s t) : trigrams s = trigrams t := by
  refine OrderedSet.ext fun x => ?_
  simp only [mem_trigrams_iff, Text.sameWords_iff.1 h]

/-- A separator keeps the words before it apart from those behind it. -/
theorem toFinset_trigrams_append {a s b : String} (hs : Text.IsSeparator s.toList) (hne : s ≠ "") :
    (trigrams (a ++ s ++ b)).toFinset = (trigrams a).toFinset ∪ (trigrams b).toFinset := by
  have hwords : Text.words (a ++ s ++ b).toList =
      Text.words a.toList ++ Text.words b.toList := by
    rw [String.toList_append, String.toList_append]
    exact Text.words_append_separator_append hs (by simpa using hne) _ _
  ext x
  rw [Finset.mem_union]
  simp only [OrderedSet.mem_toFinset, mem_trigrams_iff, hwords, List.mem_append, or_and_right,
    exists_or]

/-! ### Windows -/

theorem length_of_mem_windows (h : x ∈ windows cs) : x.length = 3 := by
  fun_induction windows cs with
  | case1 a b c cs ih =>
    rcases List.mem_cons.1 h with rfl | h
    · simp
    · exact ih h
  | case2 => exact absurd h List.not_mem_nil

theorem length_windows (cs : List Char) : (windows cs).length = cs.length - 2 := by
  fun_induction windows cs with
  | case1 a b c cs ih =>
    rw [List.length_cons, ih]
    rfl
  | case2 cs hshort =>
    match cs with
    | [] => rfl
    | [_] => rfl
    | [_, _] => rfl
    | a :: b :: c :: cs => exact absurd rfl (hshort a b c cs)

theorem length_of_mem_trigrams (h : x ∈ trigrams text) : x.length = 3 := by
  obtain ⟨w, -, hx⟩ := mem_trigrams_iff.1 h
  unfold wordTrigrams at hx
  split at hx
  · exact absurd hx List.not_mem_nil
  · exact length_of_mem_windows hx

/-! ### A single word -/

theorem wordTrigrams_of_ne_nil (hne : w ≠ []) :
    wordTrigrams w = windows (' ' :: ' ' :: w.flatMap Text.lowercase ++ [' ']) := by
  unfold wordTrigrams
  rw [if_neg (mt List.isEmpty_iff.1 hne)]

theorem length_wordTrigrams (hne : w ≠ []) :
    (wordTrigrams w).length = (w.flatMap Text.lowercase).length + 1 := by
  rw [wordTrigrams_of_ne_nil hne, length_windows]
  simp

/-- One window of a word begins with two spaces and the next with one. -/
theorem exists_wordTrigrams_eq (hne : w ≠ []) (hw : ∀ a ∈ w, Text.isAlphanumeric a = true) :
    ∃ x y xs, wordTrigrams w = x :: y :: xs ∧ x ≠ y := by
  obtain ⟨b, cs, hb, hspace⟩ := Text.exists_lowercase_word hne hw
  obtain ⟨c, cs', hc⟩ : ∃ c cs', cs ++ [' '] = c :: cs' := List.exists_cons_of_ne_nil (by simp)
  have hwindows : wordTrigrams w =
      String.ofList [' ', ' ', b] :: String.ofList [' ', b, c] :: windows (b :: c :: cs') := by
    rw [wordTrigrams_of_ne_nil hne, hb, List.cons_append, List.cons_append, List.cons_append, hc]
    rfl
  refine ⟨_, _, _, hwindows, fun h => hspace ?_⟩
  have hsame : [' ', ' ', b] = [' ', b, c] := String.ofList_injective h
  exact (List.cons.inj (List.cons.inj hsame).2).1.symm

theorem size_trigrams (h : Text.Spaced [w] text.toList) :
    (trigrams text).size = (wordTrigrams w).toFinset.card := by
  have hset : trigrams text = .ofList (wordTrigrams w) := by
    refine OrderedSet.ext fun x => ?_
    rw [mem_trigrams_iff, h.words_eq, OrderedSet.mem_ofList]
    simp
  rw [hset, OrderedSet.size_ofList]

theorem size_trigrams_le (h : Text.Spaced [w] text.toList) :
    (trigrams text).size ≤ (w.flatMap Text.lowercase).length + 1 := by
  obtain ⟨hne, -⟩ := h.of_mem (List.mem_singleton_self w)
  rw [size_trigrams h, ← length_wordTrigrams hne]
  exact List.toFinset_card_le _

theorem two_le_size_trigrams (h : Text.Spaced [w] text.toList) : 2 ≤ (trigrams text).size := by
  obtain ⟨hne, hw⟩ := h.of_mem (List.mem_singleton_self w)
  obtain ⟨x, y, xs, hxs, hxy⟩ := exists_wordTrigrams_eq hne hw
  rw [size_trigrams h, hxs]
  exact Finset.one_lt_card.2 ⟨x, by simp, y, by simp, hxy⟩

end CharAtlas
