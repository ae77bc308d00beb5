import CharAtlas.Proofs.Filter.Joined

/-! # The grammar of filters

`Clause.Written` lists the forms that a clause can have in a text. The reader accepts these forms
and no others (`Clause.ofText?_eq_some_iff`), so a filter text can be read if all of its pieces have
one (`Filter.ofText_eq_ok_iff`), and otherwise the first piece that has none is to blame
(`Filter.ofText_eq_error_iff`). `Filter.ofText_grammar` puts this together with what is read of two
texts in one. -/

namespace CharAtlas

theorem Property.key_of_ofKey? {key : String} {p : Property} (h : ofKey? key = some p) :
    p.key = key := by
  simpa using List.find?_some h

theorem Dimension.key_of_ofKey? {key : String} {d : Dimension} (h : ofKey? key = some d) :
    d.key = key := by
  simpa using List.find?_some h

namespace Clause
variable {s key rest : String} {c : Clause}

/-- `Written s c`: the text `s`, which has no blanks at its ends, is a form of the clause `c`. -/
inductive Written : String → Clause → Prop
  | property (p : Property) : Written p.key (.property p false)
  | lacking (p : Property) : Written ("not_" ++ p.key) (.property p true)
  | members (d : Dimension) (values : String) :
    Written (d.key ++ ":" ++ values) (.members d (valuesOf values))
  | search (t : String) : Written ("search:" ++ t) (.search t)
  | confusableWith (t : String) : Written ("confusableWith:" ++ t) (.confusableWith t)
  | notConfusableWith (t : String) : Written ("notConfusableWith:" ++ t) (.notConfusableWith t)

theorem written_of_ofKeyed? (h : ofKeyed? key rest = some c) : Written (key ++ ":" ++ rest) c := by
  unfold ofKeyed? at h
  split at h
  · rename_i d hd
    obtain rfl := Option.some.inj h
    rw [← Dimension.key_of_ofKey? hd]
    exact .members d rest
  · split_ifs at h with hsearch hconf hnot
    · obtain rfl := Option.some.inj h
      rw [hsearch]
      exact .search rest
    · obtain rfl := Option.some.inj h
      rw [hconf]
      exact .confusableWith rest
    · obtain rfl := Option.some.inj h
      rw [hnot]
      exact .notConfusableWith rest

theorem written_of_ofPropertyText? (h : ofPropertyText? s = some c) : Written s c := by
  unfold ofPropertyText? at h
  split at h
  · rename_i key hkey
    obtain ⟨p, hp, rfl⟩ := Option.map_eq_some_iff.1 h
    rw [Text.tailAfter_eq_some_iff.1 hkey, ← Property.key_of_ofKey? hp]
    exact .lacking p
  · obtain ⟨p, hp, rfl⟩ := Option.map_eq_some_iff.1 h
    rw [← Property.key_of_ofKey? hp]
    exact .property p

theorem ofText?_eq_some_iff : ofText? s = some c ↔ Written s c := by
  constructor
  · intro h
    unfold ofText? at h
    split at h
    · rename_i key rest hcut
      have hs : s = key ++ ":" ++ rest := by
        rw [← String.toList_inj, (Text.cutAt_eq_some hcut).2]
        simp
      rcases Option.or_eq_some_iff.1 h with h | ⟨-, h⟩
      · rw [hs]
        exact written_of_ofKeyed? h
      · exact written_of_ofPropertyText? h
    · exact written_of_ofPropertyText? h
  · intro h
    cases h with
    | property p => exact ofText?_propertyText p false
    | lacking p => exact ofText?_propertyText p true
    | members d values =>
      rw [ofText?_keyed d.isWord_key, ofKeyed?, Dimension.ofKey?_key]
      rfl
    | search t => exact @ofText?_keyed searchKey t (by decide)
    | confusableWith t => exact @ofText?_keyed confusableKey t (by decide)
    | notConfusableWith t => exact @ofText?_keyed notConfusableKey t (by decide)

theorem ofText_eq_error_iff {e : Error} :
    ofText s = .error e ↔ (∀ c, ¬Written s c) ∧ e = .unknownFilter s := by
  simp only [← ofText?_eq_some_iff]
  unfold ofText
  cases ofText? s <;> simp [eq_comm]

end Clause

namespace Filter
variable {s : String} {f : Filter}

/-- The pieces of `s` between commas, blanks at their ends left out, are the clauses of `f`; blank
pieces stand for nothing. -/
def Written (s : String) (f : Filter) : Prop :=
  List.Forall₂ Clause.Written (clauseTexts s) f

theorem ofText_eq_ok_iff : ofText s = .ok f ↔ Written s f := by
  have hclause : ∀ t c, Clause.ofText t = .ok c ↔ Clause.Written t c := fun t c =>
    Clause.ofText_eq_ok_iff.trans Clause.ofText?_eq_some_iff
  unfold ofText Written
  simp only [mapM_eq_ok_iff, hclause]

theorem ofText_eq_error_iff {e : Error} : ofText s = .error e ↔
    ∃ before t after, clauseTexts s = before ++ t :: after ∧
      (∀ u ∈ before, ∃ c, Clause.Written u c) ∧ (∀ c, ¬Clause.Written t c) ∧
        e = .unknownFilter t := by
  unfold ofText
  simp only [mapM_eq_error_iff, Clause.ofText_eq_error_iff, Clause.ofText_eq_ok_iff,
    Clause.ofText?_eq_some_iff]

/-- A text can be read, or one of its pieces is the first that is no clause. -/
theorem written_or_unknown (s : String) : (∃ f, Written s f) ∨
    ∃ before t after, clauseTexts s = before ++ t :: after ∧
      (∀ u ∈ before, ∃ c, Clause.Written u c) ∧ ∀ c, ¬Clause.Written t c := by
  cases h : ofText s with
  | ok f => exact .inl ⟨f, ofText_eq_ok_iff.1 h⟩
  | error e =>
    obtain ⟨before, t, after, hpieces, hbefore, ht, -⟩ := ofText_eq_error_iff.1 h
    exact .inr ⟨before, t, after, hpieces, hbefore, ht⟩

theorem exists_ofText_eq_ok_iff : (∃ f, ofText s = .ok f) ↔
    ∀ u ∈ Text.pieces ',' s, Text.trim u = "" ∨ ∃ c, Clause.Written (Text.trim u) c := by
  constructor
  · rintro ⟨f, hf⟩ u hu
    by_cases hblank : Text.trim u = ""
    · exact .inl hblank
    · have ht : Text.trim u ∈ clauseTexts s :=
        List.mem_filter.2 ⟨List.mem_map_of_mem hu, by simpa using hblank⟩
      obtain ⟨c, hc⟩ := exists_of_mapM_eq_ok hf ht
      exact .inr ⟨c, Clause.ofText?_eq_some_iff.1 (Clause.ofText_eq_ok_iff.1 hc)⟩
  · intro h
    refine exists_mapM_eq_ok fun t ht => ?_
    obtain ⟨hmem, hne⟩ := List.mem_filter.1 ht
    obtain ⟨u, hu, rfl⟩ := List.mem_map.1 hmem
    obtain ⟨c, hc⟩ := (h u hu).resolve_left (by simpa using hne)
    exact ⟨c, Clause.ofText_eq_ok_iff.2 (Clause.ofText?_eq_some_iff.2 hc)⟩

/-- The pieces of a text are what separators stand between. A filter text can be read if each piece
between commas, without the blanks at its ends, is empty or the form of a clause, and then these
clauses are read in order. Otherwise the first piece that is neither is reported. Of two texts with
a comma between them the clauses of the one are read and then those of the other, and what cannot be
read in the first is reported before what cannot in the second. -/
theorem ofText_grammar (s : String) :
    (∀ sep u us, Text.pieces sep u = us ↔
      us ≠ [] ∧ (∀ v ∈ us, sep ∉ v.toList) ∧ (String.singleton sep).intercalate us = u) ∧
    ((∃ f, ofText s = .ok f) ↔
      ∀ u ∈ Text.pieces ',' s, Text.trim u = "" ∨ ∃ c, Clause.Written (Text.trim u) c) ∧
    (∀ f, ofText s = .ok f ↔ List.Forall₂ Clause.Written
      (((Text.pieces ',' s).map Text.trim).filter (· != "")) f) ∧
    (∀ e, ofText s = .error e ↔ ∃ before t after,
      ((Text.pieces ',' s).map Text.trim).filter (· != "") = before ++ t :: after ∧
        (∀ u ∈ before, ∃ c, Clause.Written u c) ∧ (∀ c, ¬Clause.Written t c) ∧
          e = .unknownFilter t) ∧
    ∀ t, ofText (s ++ "," ++ t) =
      match ofText s, ofText t with
      | .ok f, .ok g => .ok (f ++ g)
      | .error e, _ => .error e
      | .ok _, .error e => .error e :=
  ⟨fun _ _ _ => Text.pieces_eq_iff (by simp), exists_ofText_eq_ok_iff, fun _ => ofText_eq_ok_iff,
    fun _ => ofText_eq_error_iff, ofText_append s⟩

end Filter
end CharAtlas
