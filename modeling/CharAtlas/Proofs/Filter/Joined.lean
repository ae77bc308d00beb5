import CharAtlas.Proofs.Filter.RoundTrip
import CharAtlas.Proofs.Filter.Selections

/-! # Filters put together

Texts with a comma between them are read as the clauses of the one and then those of the other
(`Filter.ofText_append`); `Filter.ofText_clauseText` and `Filter.ofText_keyed` read single clauses.
Filters that are `Filter.Apart` take no selection from each other
(`Filter.firstSelection_append_eq_some_iff`). -/

namespace CharAtlas

namespace Clause

/-- The clause on confusables that are asked for or that are not. -/
def confusable (negated : Bool) (t : String) : Clause :=
  if negated then notConfusableWith t else confusableWith t

/-- A clause with a key, whatever blanks there are at its end. -/
theorem trim_keyed {key : String} (hk : IsWord key) (t : String) :
    Text.trim (key ++ ":" ++ t) =
      key ++ ":" ++ String.ofList (Text.trimEnd Text.isBlank t.toList) := by
  have hcolon : Text.HasNoBlankEnds [':'] := by decide
  have hkey : Text.HasNoBlankEnds (key.toList ++ [':']) := hk.hasNoBlankEnds.append hk.1 hcolon.2
  have hstart : (key.toList ++ [':'] ++ t.toList).dropWhile Text.isBlank =
      key.toList ++ [':'] ++ t.toList := by
    refine Text.dropWhile_eq_self fun c hc => hkey.1 c ?_
    rwa [List.head?_append_of_ne_nil _ (by simp)] at hc
  rw [← String.toList_inj, Text.toList_trim, String.toList_append, String.toList_append,
    String.toList_append, String.toList_append, String.toList_ofList, String.toList_ofList,
    Text.trimmed, hstart, Text.trimEnd_append hkey.2]

end Clause

namespace Filter
variable {s t : String} {f g : Filter} {c : Clause} {d : Dimension} {values : List String}

/-! ### Texts -/

theorem clauseTexts_joined (s t : String) :
    clauseTexts (s ++ "," ++ t) = clauseTexts s ++ clauseTexts t := by
  unfold clauseTexts
  rw [Text.pieces_append rfl, List.map_append, List.filter_append]

/-- What cannot be read in the first text is noticed before what cannot in the second. -/
theorem ofText_append (s t : String) : ofText (s ++ "," ++ t) =
    match ofText s, ofText t with
    | .ok f, .ok g => .ok (f ++ g)
    | .error e, _ => .error e
    | .ok _, .error e => .error e := by
  have happend : ofText (s ++ "," ++ t) =
      ofText s >>= fun f => ofText t >>= fun g => .ok (f ++ g) := by
    unfold ofText
    rw [clauseTexts_joined, List.mapM_append]
    rfl
  rw [happend]
  cases ofText s with
  | error e => rfl
  | ok f => cases ofText t <;> rfl

theorem ofText_joined (hf : ofText s = .ok f) (hg : ofText t = .ok g) :
    ofText (s ++ "," ++ t) = .ok (f ++ g) := by
  rw [ofText_append, hf, hg]

theorem clauseTexts_intercalate (ts : List String) :
    clauseTexts (",".intercalate ts) = ts.flatMap clauseTexts := by
  induction ts with
  | nil => decide +kernel
  | cons t ts ih =>
    cases ts with
    | nil => rw [String.intercalate_singleton, List.flatMap_singleton]
    | cons u ts =>
      rw [String.intercalate_cons_cons, clauseTexts_joined, ih]
      rfl

/-- A text that can be read, among others of which this need not be so. -/
theorem ofText_among (hs : ofText s = .ok f) (before after : List String) :
    ofText (",".intercalate (before ++ s :: after)) =
      (before.flatMap clauseTexts).mapM Clause.ofText >>= fun g =>
        (after.flatMap clauseTexts).mapM Clause.ofText >>= fun h => .ok (g ++ (f ++ h)) := by
  have hread : (clauseTexts s).mapM Clause.ofText = .ok f := hs
  unfold ofText
  rw [clauseTexts_intercalate, List.flatMap_append, List.flatMap_cons, List.mapM_append,
    List.mapM_append, hread]
  simp only [bind_assoc]
  rfl

theorem ofText_clauseText (h : c.WellFormed) : ofText c.text = .ok [c] := by
  have hread := @ofText_text [c] fun d hd => List.mem_singleton.1 hd ▸ h
  rwa [text, List.map_singleton, String.intercalate_singleton] at hread

/-- A clause with a key and no comma is read without the blanks at its end. -/
theorem ofText_keyed {key : String} (hk : IsWord key) (ht : ',' ∉ t.toList)
    (hc : Clause.ofText? (key ++ ":" ++ String.ofList (Text.trimEnd Text.isBlank t.toList)) =
      some c) : ofText (key ++ ":" ++ t) = .ok [c] := by
  have hcomma : ',' ∉ (key ++ ":" ++ t).toList := by
    simp [hk.not_mem (c := ',') (by decide), ht]
  have hne : Text.trim (key ++ ":" ++ t) ≠ "" := by
    rw [Clause.trim_keyed hk]
    intro h
    simpa using congrArg String.toList h
  have hpiece : clauseTexts (key ++ ":" ++ t) = [Text.trim (key ++ ":" ++ t)] := by
    unfold clauseTexts
    rw [Text.pieces_of_not_mem hcomma, List.map_singleton,
      List.filter_cons_of_pos (by simpa using hne), List.filter_nil]
  unfold ofText
  rw [hpiece, Clause.trim_keyed hk, mapM_eq_ok_iff]
  exact .cons (Clause.ofText_eq_ok_iff.2 hc) .nil

theorem ofText_confusable (negated : Bool) (ht : ',' ∉ t.toList) :
    ofText (Clause.confusable negated t).text =
      .ok [.confusable negated (String.ofList (Text.trimEnd Text.isBlank t.toList))] := by
  cases negated with
  | false =>
    refine ofText_keyed (by decide) ht ?_
    rw [Clause.ofText?_keyed (by decide)]
    rfl
  | true =>
    refine ofText_keyed (by decide) ht ?_
    rw [Clause.ofText?_keyed (by decide)]
    rfl

/-! ### Selections -/

/-- No dimension is selected from in both. -/
def Apart (f g : Filter) : Prop :=
  ∀ d v w, .members d v ∈ f → .members d w ∉ g

theorem Apart.symm (h : f.Apart g) : g.Apart f :=
  fun d v w hv hw => h d w v hw hv

theorem apart_singleton (h : ∀ d, c.valuesIn? d = none) : f.Apart [c] := by
  intro d v w _ hw
  obtain rfl := List.mem_singleton.1 hw
  have := h d
  simp [Clause.valuesIn?] at this

theorem firstSelection_append_eq_some_iff (h : f.Apart g) :
    (f ++ g).firstSelection d = some values ↔
      f.firstSelection d = some values ∨ g.firstSelection d = some values := by
  have happend : (f ++ g).firstSelection d = (f.firstSelection d).or (g.firstSelection d) :=
    List.findSome?_append
  rw [happend, Option.or_eq_some_iff]
  refine or_congr_right ⟨And.right, fun hg => ⟨?_, hg⟩⟩
  rw [firstSelection_eq_none_iff]
  exact fun v hv => h d v values hv (mem_of_firstSelection hg)

/-- A clause that selects nothing makes no difference to what is selected. -/
theorem selectionsFrom_of_unselective (hc : ∀ d, c.valuesIn? d = none) (seen : List Dimension)
    (before after : Filter) : selectionsFrom seen (before ++ c :: after) =
      selectionsFrom seen (before ++ after) := by
  induction before generalizing seen with
  | nil =>
    cases c with
    | members d values =>
      have := hc d
      simp [Clause.valuesIn?] at this
    | _ => rfl
  | cons b before ih =>
    cases b with
    | members d values =>
      simp only [List.cons_append, selectionsFrom]
      split
      · exact ih _
      · rw [ih]
    | _ => exact ih seen

theorem searchTerms_append (f g : Filter) : (f ++ g).searchTerms = f.searchTerms ++ g.searchTerms :=
  List.filterMap_append

end Filter
end CharAtlas
