import CharAtlas.Proofs.Query.Score
import CharAtlas.Proofs.Trigram

/-! # Names and terms as sets of words

How much a name resembles a search term depends on the words of the two and on nothing else: not on
their order, nor on how often they occur, nor on what stands between them (`trigrams_wordwise`). -/

namespace CharAtlas
open Database (empty)

/-- The trigrams of a text are the trigrams of its words, whatever separates these, so texts with the
same words have the same trigrams, and as names and as anchors they get the same scores. Each trigram
has three characters. There are none only if no character is alphanumeric; a single word that has `n`
characters in lower case has two at least and `n + 1` at most. -/
theorem trigrams_wordwise :
    (∀ a s b : String, s ≠ "" → (∀ c ∈ s.toList, ¬Text.isAlphanumeric c = true) →
      (trigrams (a ++ s ++ b)).toFinset = (trigrams a).toFinset ∪ (trigrams b).toFinset) ∧
    (∀ text : String, ∃! ws, Text.Spaced ws text.toList) ∧
    (∀ s t, Text.SameWords s t → trigrams s = trigrams t ∧
      ∀ u, (trigrams s).similarity u = (trigrams t).similarity u ∧
        u.similarity (trigrams s) = u.similarity (trigrams t)) ∧
    (∀ ws ws' c c' name name' s t, c ∈ (empty.afterAll ws).characters.rows → c.name = some name →
      c' ∈ (empty.afterAll ws').characters.rows → c'.name = some name' →
      Text.SameWords name name' → Text.SameWords s t →
        (empty.afterAll ws).score (.ofText s) c = (empty.afterAll ws').score (.ofText t) c') ∧
    (∀ text : String, (trigrams text).isEmpty = true ↔
      ∀ c ∈ text.toList, ¬Text.isAlphanumeric c = true) ∧
    (∀ text, ∀ x ∈ trigrams text, x.length = 3) ∧
    ∀ (text : String) w, Text.Spaced [w] text.toList → 2 ≤ (trigrams text).size ∧
      (trigrams text).size ≤ (w.flatMap Text.lowercase).length + 1 := by
  refine ⟨fun a s b hne hs => toFinset_trigrams_append hs hne, fun text => ?_, fun s t h => ?_, ?_,
    fun text => isEmpty_trigrams_iff, fun text x hx => length_of_mem_trigrams hx,
    fun text w h => ⟨two_le_size_trigrams h, size_trigrams_le h⟩⟩
  · exact ⟨Text.words text.toList, Text.spaced_iff.2 rfl, fun ws h => h.words_eq.symm⟩
  · rw [trigrams_congr h]
    exact ⟨rfl, fun u => ⟨rfl, rfl⟩⟩
  · intro ws ws' c c' name name' s t hc hname hc' hname' hnames hterms
    have htrigrams : c.nameTrigrams = c'.nameTrigrams := by
      rw [Database.nameTrigrams_of_name hname, Database.nameTrigrams_of_name hname',
        trigrams_congr hnames]
    exact Database.score_congr (Database.Consistent.empty.afterAll ws)
      (Database.Consistent.empty.afterAll ws') hc hc' htrigrams (trigrams_congr hterms)

def smallLetter : Character :=
  { codepoint := 0x61, name := some "SMALL LETTER A" }

/-- The words of the other name, one of them twice. -/
def letterSmall : Character :=
  { codepoint := 0x61, name := some "LETTER-A (SMALL LETTER)" }

theorem sameWords_letters : Text.SameWords "SMALL LETTER A" "LETTER-A (SMALL LETTER)" := by
  have hfirst : Text.words "SMALL LETTER A".toList =
      ["SMALL".toList, "LETTER".toList, "A".toList] := by decide +kernel
  have hsecond : Text.words "LETTER-A (SMALL LETTER)".toList =
      ["LETTER".toList, "A".toList, "SMALL".toList, "LETTER".toList] := by decide +kernel
  rw [Text.sameWords_iff, hfirst, hsecond]
  intro w
  simp only [List.mem_cons, List.not_mem_nil, or_false]
  tauto

/-- In lower case the last word is longer than it was. -/
theorem trigrams_wordwise_letters :
    (∀ c ∈ " - ".toList, ¬Text.isAlphanumeric c = true) ∧
    (trigrams ("A" ++ " - " ++ "B")).toFinset = (trigrams "A").toFinset ∪ (trigrams "B").toFinset ∧
    Text.SameWords "SMALL LETTER A" "LETTER-A (SMALL LETTER)" ∧
    (empty.afterAll [.character smallLetter]).score (.ofText "LETTER-A (SMALL LETTER)")
        smallLetter.stored =
      (empty.afterAll [.character letterSmall]).score (.ofText "SMALL LETTER A")
        letterSmall.stored ∧
    Text.Spaced [['\u0130']] "\u0130".toList ∧
    2 ≤ (trigrams "\u0130").size ∧ (trigrams "\u0130").size ≤ 3 := by
  have hseparator : Text.IsSeparator " - ".toList := by decide +kernel
  have hword : Text.Spaced [['\u0130']] "\u0130".toList := Text.spaced_iff.2 (by decide +kernel)
  obtain ⟨hunion, -, -, hscore, -, -, hsize⟩ := trigrams_wordwise
  exact ⟨hseparator, hunion "A" " - " "B" (by decide) hseparator, sameWords_letters,
    hscore _ _ _ _ _ _ _ _ (by decide +kernel) rfl (by decide +kernel) rfl sameWords_letters
      sameWords_letters.symm,
    hword, hsize _ _ hword⟩

end CharAtlas
