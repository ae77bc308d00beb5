import CharAtlas.Filter.Clause
import CharAtlas.Proofs.Text.Pieces
import CharAtlas.Proofs.Text.Trim
import CharAtlas.Proofs.Traversal

/-! # Reading filters back

A clause is well formed if nothing in it gets lost in its text: its values are not empty, have no
blank ends and contain neither of the separators, its free text contains no comma and does not end in
a blank. Well-formed filters are read back from their texts (`Filter.ofText_text`), and what is read
from any text is well formed (`Filter.wellFormed_of_ofText`). -/

namespace CharAtlas

/-! ### Keys -/

/-- Nothing but letters of ASCII, and at least one. -/
def IsWord (s : String) : Prop :=
  s.toList ≠ [] ∧ ∀ c ∈ s.toList, c.isAlpha = true

instance (s : String) : Decidable (IsWord s) :=
  decidable_of_iff (s.toList.isEmpty = false ∧ s.toList.all Char.isAlpha = true) (by simp [IsWord])

theorem Property.isWord_key (p : Property) : IsWord p.key := by
  cases p with
  | flag f => cases f <;> decide
  | present c => cases c <;> decide
  | _ => decide

theorem Dimension.isWord_key (d : Dimension) : IsWord d.key := by
  cases d <;> decide

theorem isBlank_of_isAlpha {c : Char} (h : c.isAlpha = true) : Text.isBlank c = false := by
  change (decide (65 ≤ c.val ∧ c.val ≤ 90) || (decide (97 ≤ c.val) && decide (c.val ≤ 122))) =
    true at h
  simp only [Bool.or_eq_true, Bool.and_eq_true, decide_eq_true_eq, UInt32.le_iff_toNat_le] at h
  change (65 ≤ c.toNat ∧ c.toNat ≤ 90) ∨ (97 ≤ c.toNat ∧ c.toNat ≤ 122) at h
  simp only [Text.isBlank, Bool.or_eq_false_iff, Bool.and_eq_false_iff, decide_eq_false_iff_not,
    beq_eq_false_iff_ne]
  omega

namespace IsWord
variable {s : String}

theorem not_mem {c : Char} (h : IsWord s) (hc : c.isAlpha = false) : c ∉ s.toList := by
  intro hmem
  rw [h.2 c hmem] at hc
  cases hc

theorem hasNoBlankEnds (h : IsWord s) : Text.HasNoBlankEnds s.toList :=
  Text.hasNoBlankEnds_of_forall fun c hc => isBlank_of_isAlpha (h.2 c hc)

theorem ne_empty (h : IsWord s) : s ≠ "" :=
  fun e => h.1 (by rw [e, String.toList_empty])

end IsWord

/-! ### Trimmed pieces -/

namespace Text
variable {sep c : Char} {joint s t : String} {ts : List String}

/-- Texts that keep their extent under trimming come out of the joined text as they went in. -/
theorem trimmedPieces_intercalate (hj : joint.toList = [sep])
    (h : ∀ t ∈ ts, t ≠ "" ∧ trim t = t ∧ sep ∉ t.toList) :
    ((pieces sep (joint.intercalate ts)).map trim).filter (· != "") = ts := by
  by_cases hts : ts = []
  · rw [hts, String.intercalate_nil, pieces_empty]
    decide
  · rw [pieces_intercalate hj (fun t ht => (h t ht).2.2) hts,
      List.map_congr_left fun t ht => (h t ht).2.1, List.map_id', List.filter_eq_self]
    intro t ht
    simpa using (h t ht).1

theorem of_mem_trimmedPieces (h : t ∈ ((pieces sep s).map trim).filter (· != "")) :
    t ≠ "" ∧ trim t = t ∧ sep ∉ t.toList ∧ ∀ c ∈ t.toList, c ∈ s.toList := by
  obtain ⟨ht, hne⟩ := List.mem_filter.1 h
  obtain ⟨u, hu, rfl⟩ := List.mem_map.1 ht
  exact ⟨by simpa using hne, trim_trim u, fun hs => not_mem_of_mem_pieces hu (mem_of_mem_trim hs),
    fun c hc => mem_of_mem_pieces hu (mem_of_mem_trim hc)⟩

theorem mem_intercalate (hj : joint.toList = [sep]) (h : c ∈ (joint.intercalate ts).toList) :
    c = sep ∨ ∃ t ∈ ts, c ∈ t.toList := by
  induction ts with
  | nil => simp at h
  | cons t ts ih =>
    by_cases hts : ts = []
    · rw [hts, String.intercalate_singleton] at h
      exact .inr ⟨t, List.mem_cons_self .., h⟩
    · rw [String.intercalate_cons_of_ne_nil hts] at h
      simp only [String.toList_append, hj, List.mem_append, List.mem_singleton] at h
      rcases h with (h | h) | h
      · exact .inr ⟨t, List.mem_cons_self .., h⟩
      · exact .inl h
      · exact (ih h).imp_right fun ⟨u, hu, hc⟩ => ⟨u, List.mem_cons_of_mem _ hu, hc⟩

/-- The end of a joined text is the end of a part or a separator. -/
theorem getLast?_intercalate (hj : joint.toList = [sep])
    (h : c ∈ (joint.intercalate ts).toList.getLast?) :
    c = sep ∨ ∃ t ∈ ts, c ∈ t.toList.getLast? := by
  induction ts with
  | nil => simp at h
  | cons t ts ih =>
    by_cases hts : ts = []
    · rw [hts, String.intercalate_singleton] at h
      exact .inr ⟨t, List.mem_cons_self .., h⟩
    · rw [String.intercalate_cons_of_ne_nil hts, String.toList_append, String.toList_append, hj,
        List.getLast?_append] at h
      cases hl : (joint.intercalate ts).toList.getLast? with
      | none =>
        rw [hl, List.getLast?_concat] at h
        exact .inl (Option.some.inj h).symm
      | some d =>
        rw [hl] at h
        obtain rfl : d = c := Option.some.inj h
        exact (ih hl).imp_right fun ⟨u, hu, hc⟩ => ⟨u, List.mem_cons_of_mem _ hu, hc⟩

end Text

/-! ### Clauses -/

namespace Clause

/-- What a selection is read back with. -/
def IsValue (v : String) : Prop :=
  v ≠ "" ∧ Text.trim v = v ∧ ',' ∉ v.toList ∧ '|' ∉ v.toList

def IsFreeText (t : String) : Prop :=
  ',' ∉ t.toList ∧ ∀ c ∈ t.toList.getLast?, Text.isBlank c = false

def WellFormed : Clause → Prop
  | property _ _ => True
  | members _ values => ∀ v ∈ values, IsValue v
  | search t => IsFreeText t
  | confusableWith t => IsFreeText t
  | notConfusableWith t => IsFreeText t

theorem isFreeText_of_trim {t : String} (ht : Text.trim t = t) (h : ',' ∉ t.toList) :
    IsFreeText t :=
  ⟨h, (Text.trim_eq_self_iff.1 ht).2⟩

/-- Values joined by bars are a free text. -/
theorem isFreeText_values {values : List String} (h : ∀ v ∈ values, IsValue v) :
    IsFreeText ("|".intercalate values) := by
  refine ⟨fun hc => ?_, fun c hc => ?_⟩
  · rcases Text.mem_intercalate rfl hc with he | ⟨v, hv, hc⟩
    · cases he
    · exact (h v hv).2.2.1 hc
  · rcases Text.getLast?_intercalate rfl hc with rfl | ⟨v, hv, hc⟩
    · decide
    · exact (Text.trim_eq_self_iff.1 (h v hv).2.1).2 c hc

theorem valuesOf_intercalate {values : List String} (h : ∀ v ∈ values, IsValue v) :
    valuesOf ("|".intercalate values) = values :=
  Text.trimmedPieces_intercalate rfl fun v hv => ⟨(h v hv).1, (h v hv).2.1, (h v hv).2.2.2⟩

theorem isValue_of_mem_valuesOf {v s : String} (hs : ',' ∉ s.toList) (h : v ∈ valuesOf s) :
    IsValue v := by
  obtain ⟨hne, htrim, hbar, hmem⟩ := Text.of_mem_trimmedPieces h
  exact ⟨hne, htrim, fun hc => hs (hmem _ hc), hbar⟩

/-- What a clause's text has to be for the clause to be found in a filter text. -/
def IsPiece (s : String) : Prop :=
  s ≠ "" ∧ Text.trim s = s ∧ ',' ∉ s.toList

theorem isPiece_keyed {key rest : String} (hk : IsWord key) (hr : IsFreeText rest) :
    IsPiece (key ++ ":" ++ rest) := by
  have hcolon : Text.HasNoBlankEnds ":".toList := by decide
  have hhead : Text.HasNoBlankEnds (key.toList ++ ":".toList) :=
    hk.hasNoBlankEnds.append hk.1 hcolon.2
  have hcomma : ',' ∉ key.toList := hk.not_mem (by decide)
  refine ⟨fun h => ?_, ?_, ?_⟩
  · have := congrArg String.toList h
    simp at this
  · rw [Text.trim_eq_self_iff, String.toList_append, String.toList_append]
    exact hhead.append (by simp) hr.2
  · simp [hcomma, hr.1]

theorem isPiece_propertyText (p : Property) (negated : Bool) : IsPiece (propertyText p negated) := by
  have hk := p.isWord_key
  have hcomma : ',' ∉ p.key.toList := hk.not_mem (by decide)
  cases negated with
  | false =>
    exact ⟨hk.ne_empty, Text.trim_eq_self_iff.2 hk.hasNoBlankEnds, hcomma⟩
  | true =>
    refine ⟨fun h => ?_, ?_, ?_⟩
    · have := congrArg String.toList h
      simp [propertyText, negation] at this
    · rw [Text.trim_eq_self_iff]
      change Text.HasNoBlankEnds (negation ++ p.key).toList
      rw [String.toList_append]
      exact Text.HasNoBlankEnds.append (by decide) (by decide) hk.hasNoBlankEnds.2
    · simp [propertyText, negation, hcomma]

theorem isPiece_text {c : Clause} (h : c.WellFormed) : IsPiece c.text := by
  cases c with
  | property p negated => exact isPiece_propertyText p negated
  | members d values => exact isPiece_keyed d.isWord_key (isFreeText_values h)
  | search t => exact isPiece_keyed (by decide) h
  | confusableWith t => exact isPiece_keyed (by decide) h
  | notConfusableWith t => exact isPiece_keyed (by decide) h

theorem ofText?_keyed {key rest : String} (hk : IsWord key) :
    ofText? (key ++ ":" ++ rest) =
      (ofKeyed? key rest).or (ofPropertyText? (key ++ ":" ++ rest)) := by
  unfold ofText?
  rw [Text.cutAt_append rfl (hk.not_mem (by decide))]

theorem ofPropertyText?_propertyText (p : Property) (negated : Bool) :
    ofPropertyText? (propertyText p negated) = some (property p negated) := by
  unfold ofPropertyText?
  cases negated with
  | false =>
    -- keys have no underscore, so none begins as a negation does
    have hnone : Text.tailAfter negation p.key = none := by
      rw [Text.tailAfter_eq_none_iff]
      intro hpre
      exact p.isWord_key.not_mem (c := '_') (by decide) (hpre.subset (by decide))
    simp [propertyText, hnone, Property.ofKey?_key]
  | true => simp [propertyText, Text.tailAfter_eq_some_iff.2, Property.ofKey?_key]

theorem ofText?_propertyText (p : Property) (negated : Bool) :
    ofText? (propertyText p negated) = some (property p negated) := by
  have hcolon : ':' ∉ (propertyText p negated).toList := by
    have hk : ':' ∉ p.key.toList := p.isWord_key.not_mem (by decide)
    cases negated <;> simp [propertyText, negation, hk]
  unfold ofText?
  rw [Text.cutAt_eq_none hcolon]
  exact ofPropertyText?_propertyText p negated

theorem ofText?_text {c : Clause} (h : c.WellFormed) : ofText? c.text = some c := by
  cases c with
  | property p negated => exact ofText?_propertyText p negated
  | members d values =>
    rw [text, ofText?_keyed d.isWord_key, ofKeyed?, Dimension.ofKey?_key]
    simp [valuesOf_intercalate h]
  | search t =>
    rw [text, ofText?_keyed (by decide)]
    rfl
  | confusableWith t =>
    rw [text, ofText?_keyed (by decide)]
    rfl
  | notConfusableWith t =>
    rw [text, ofText?_keyed (by decide)]
    rfl

/-- What follows the colon of a piece is a free text. -/
theorem isFreeText_of_cutAt {s key rest : String} (hs : IsPiece s)
    (h : Text.cutAt ':' s = some (key, rest)) : IsFreeText rest := by
  obtain ⟨-, he⟩ := Text.cutAt_eq_some h
  refine ⟨fun hc => hs.2.2 (by simp [he, hc]), fun c hc => ?_⟩
  refine (Text.trim_eq_self_iff.1 hs.2.1).2 c ?_
  rw [he, List.getLast?_append, List.getLast?_cons, hc]
  rfl

theorem wellFormed_of_ofKeyed? {key rest : String} {c : Clause} (hr : IsFreeText rest)
    (h : ofKeyed? key rest = some c) : c.WellFormed := by
  unfold ofKeyed? at h
  split at h
  · obtain rfl := Option.some.inj h
    exact fun v hv => isValue_of_mem_valuesOf hr.1 hv
  · split_ifs at h <;> obtain rfl := Option.some.inj h <;> exact hr

theorem wellFormed_of_ofPropertyText? {s : String} {c : Clause} (h : ofPropertyText? s = some c) :
    c.WellFormed := by
  unfold ofPropertyText? at h
  split at h <;>
  · obtain ⟨p, -, rfl⟩ := Option.map_eq_some_iff.1 h
    exact trivial

theorem wellFormed_of_ofText? {s : String} {c : Clause} (hs : IsPiece s) (h : ofText? s = some c) :
    c.WellFormed := by
  unfold ofText? at h
  split at h
  · rename_i key rest hcut
    rcases Option.or_eq_some_iff.1 h with h | ⟨-, h⟩
    · exact wellFormed_of_ofKeyed? (isFreeText_of_cutAt hs hcut) h
    · exact wellFormed_of_ofPropertyText? h
  · exact wellFormed_of_ofPropertyText? h

theorem ofText_eq_ok_iff {s : String} {c : Clause} : ofText s = .ok c ↔ ofText? s = some c := by
  unfold ofText
  split <;> simp_all

end Clause

/-! ### Filters -/

namespace Filter

def WellFormed (f : Filter) : Prop :=
  ∀ c ∈ f, c.WellFormed

theorem clauseTexts_text {f : Filter} (h : f.WellFormed) : clauseTexts f.text = f.map Clause.text :=
  Text.trimmedPieces_intercalate rfl fun t ht => by
    obtain ⟨c, hc, rfl⟩ := List.mem_map.1 ht
    exact Clause.isPiece_text (h c hc)

theorem ofText_text {f : Filter} (h : f.WellFormed) : ofText f.text = .ok f := by
  unfold ofText
  rw [clauseTexts_text h, mapM_eq_ok_iff, List.forall₂_map_left_iff, List.forall₂_same]
  intro c hc
  exact Clause.ofText_eq_ok_iff.2 (Clause.ofText?_text (h c hc))

theorem isPiece_of_mem_clauseTexts {s t : String} (h : t ∈ clauseTexts s) : Clause.IsPiece t := by
  obtain ⟨hne, htrim, hcomma, -⟩ := Text.of_mem_trimmedPieces h
  exact ⟨hne, htrim, hcomma⟩

/-- Every clause that is read comes from a piece of the text. -/
theorem exists_piece_of_mem {s : String} {f : Filter} (h : ofText s = .ok f) {c : Clause}
    (hc : c ∈ f) : ∃ t ∈ clauseTexts s, Clause.ofText? t = some c := by
  obtain ⟨t, ht, hr⟩ := (mem_mapM_iff h).1 hc
  exact ⟨t, ht, Clause.ofText_eq_ok_iff.1 hr⟩

theorem wellFormed_of_ofText {s : String} {f : Filter} (h : ofText s = .ok f) : f.WellFormed := by
  intro c hc
  obtain ⟨t, ht, hr⟩ := exists_piece_of_mem h hc
  exact Clause.wellFormed_of_ofText? (isPiece_of_mem_clauseTexts ht) hr

/-- The well-formed filters, and no others, are read back from their texts; whatever is read from
a text is one of them. -/
theorem ofText_text_eq_ok_iff (f : Filter) :
    (ofText f.text = .ok f ↔ f.WellFormed) ∧ ∀ s, ofText s = .ok f → f.WellFormed := by
  refine ⟨⟨fun h => ?_, fun h => ?_⟩, fun s h => ?_⟩
  · exact wellFormed_of_ofText h
  · exact ofText_text h
  · exact wellFormed_of_ofText h

/-- Blanks in front of a free text are kept, those at its end are not. -/
theorem ofText_text_blanks :
    ofText (text [.members .scripts [], .search " a:b|c"]) =
      .ok [.members .scripts [], .search " a:b|c"] ∧
    ofText (text [.search "a ", .members .scripts []]) ≠
      .ok [.search "a ", .members .scripts []] ∧
    ofText "search: b ,, scripts:Han| " = .ok [.search " b", .members .scripts ["Han"]] ∧
    WellFormed [.search " b", .members .scripts ["Han"]] := by
  have hread : ofText "search: b ,, scripts:Han| " =
      .ok [.search " b", .members .scripts ["Han"]] := by rfl
  refine ⟨?_, ?_, hread, (ofText_text_eq_ok_iff _).2 _ hread⟩
  · rw [(ofText_text_eq_ok_iff _).1]
    intro c hc
    rcases List.mem_pair.1 hc with rfl | rfl
    · intro v hv
      exact absurd hv List.not_mem_nil
    · refine ⟨by decide, fun b hb => ?_⟩
      obtain rfl : 'c' = b := by simpa using hb
      rfl
  · rw [Ne, (ofText_text_eq_ok_iff _).1]
    intro h
    have hfree : Clause.IsFreeText "a " := h (.search "a ") (by simp)
    exact absurd (hfree.2 ' ' (by simp)) (by decide)

end Filter
end CharAtlas
