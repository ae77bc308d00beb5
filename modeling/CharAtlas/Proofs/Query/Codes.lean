import CharAtlas.Proofs.Query.Meaning

/-! # Codes that contain a term

A term that stands for no name is looked for in the codes of characters. Wildcards and backslashes in
it stand for themselves: it is found where it occurs, the case of letters of ASCII aside
(`Filter.codeCondition_holds_iff`). -/

namespace CharAtlas.Filter
variable {names : Nat → Option String} {t : SearchTerm} {db : Database} {c : StoredCharacter}

/-- The condition that the code contains the text. -/
def codeCondition (s : String) : Condition :=
  .likeBound .code (containing s)

theorem searchCondition_of_unresolved (h : resolved names t = none) : searchCondition names t =
    .group (.or (.similar (searchAnchor names t)) (codeCondition t.text)) := by
  unfold searchCondition
  rw [h]
  rfl

/-- Terms are cut, so no pattern comes near the 50000 bytes that the engine allows. -/
theorem length_containing_le {raw : String} (ht : SearchTerm.ofText? raw = some t) :
    (containing t.text).toList.length ≤ 402 := by
  have htext : t.text.toList.length ≤ 200 := by
    unfold SearchTerm.ofText? at ht
    split at ht
    · cases ht
    · obtain rfl := Option.some.inj ht
      rw [String.toList_ofList]
      exact List.length_take_le _ _
  have hpattern := Text.length_flatMap_escaped_le t.text.toList
  rw [toList_containing, List.length_cons, List.length_append, List.length_singleton]
  omega

theorem codeCondition_holds_iff_of_code {s : String} (hs : '\x00' ∉ s.toList)
    (hcode : '\x00' ∉ c.code.toList) : (codeCondition s).holds db c = some true ↔
      Text.ContainsLetters c.code.toList s.toList := by
  have hoccurs : Reading.untilNull.occurs c.code s ↔
      Text.ContainsLetters c.code.toList s.toList := by
    show (if '\x00' ∈ s.toList then _ else _) ↔ _
    rw [if_neg hs]
    rfl
  rw [← hoccurs, ← like_containing_iff hcode]
  unfold codeCondition
  rw [Condition.holds, Condition.onText_eq_true_iff]
  simp [StoredCharacter.value]

/-- A search that is not for a name also asks whether the code contains the term. The bound pattern is
the term between percent signs, in which a backslash stands in front of each backslash, percent sign
and underscore. A code matches it if the term, in which no null character stands, occurs in the code,
the case of letters of ASCII aside. -/
theorem codeCondition_holds_iff {s : String} (hs : '\x00' ∉ s.toList) :
    (∀ names n, resolved names ⟨s, n⟩ = none → searchCondition names ⟨s, n⟩ =
      .group (.or (.similar (searchAnchor names ⟨s, n⟩)) (codeCondition s))) ∧
    (codeCondition s).sql = "c.code LIKE ? ESCAPE '\\'" ∧
    (codeCondition s).params = [.text (containing s)] ∧
    (containing s).toList = '%' :: (Text.replaceAll '_' ['\\', '_'] (Text.replaceAll '%' ['\\', '%']
      (Text.replaceAll '\\' ['\\', '\\'] s.toList)) ++ ['%']) ∧
    (∀ db (c : StoredCharacter), '\x00' ∉ c.code.toList →
      ((codeCondition s).holds db c = some true ↔
        Text.ContainsLetters c.code.toList s.toList)) ∧
    ∀ ws, ∀ c ∈ (Database.empty.afterAll ws).characters.rows,
      ((codeCondition s).holds (Database.empty.afterAll ws) c = some true ↔
        Text.ContainsLetters (Codepoint.code c.codepoint).toList s.toList) := by
  refine ⟨fun names n h => searchCondition_of_unresolved h, ?_, rfl, ?_,
    fun db c hcode => codeCondition_holds_iff_of_code hs hcode, fun ws c hc => ?_⟩
  · show Column.code.sql ++ " LIKE ? ESCAPE '\\'" = _
    decide
  · rw [toList_containing, Text.flatMap_escaped_eq_replaceAll]
  · have hcode : c.code = Codepoint.code c.codepoint :=
      (Database.Consistent.empty.afterAll ws).coded c hc
    rw [codeCondition_holds_iff_of_code hs (hcode ▸ Codepoint.null_not_mem_code _), hcode]

/-- An underscore in the term is no wildcard, and small letters are found. -/
theorem codeCondition_holds_iff_capitalA :
    '\x00' ∉ "U_0".toList ∧ '\x00' ∉ "u+00".toList ∧
    (Database.empty.afterAll [.character { codepoint := 0x41 }]).characters.rows.map (·.code) =
      ["U+0041"] ∧
    ¬Text.ContainsLetters "U+0041".toList "U_0".toList ∧
    Text.ContainsLetters "U+0041".toList "u+00".toList := by
  have hcode : Codepoint.code 0x41 = "U+0041" := by decide +kernel
  have hrow : ({ codepoint := 0x41 } : Character).stored ∈
      (Database.empty.afterAll [.character { codepoint := 0x41 }]).characters.rows := by decide +kernel
  have hplain : '\x00' ∉ "U_0".toList := by decide
  have hsmall : '\x00' ∉ "u+00".toList := by decide
  refine ⟨hplain, hsmall, by decide +kernel, fun h => ?_, ?_⟩
  · have := ((codeCondition_holds_iff hplain).2.2.2.2.2 _ _ hrow).2 (hcode ▸ h)
    revert this
    decide +kernel
  · exact hcode ▸ ((codeCondition_holds_iff hsmall).2.2.2.2.2 _ _ hrow).1 (by decide +kernel)

end CharAtlas.Filter
