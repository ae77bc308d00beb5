import CharAtlas.Corpus.Profile
import CharAtlas.Proofs.Query.Meaning
import CharAtlas.Proofs.Store.History

/-! # Selecting a tag

A selection of one tag finds the rows whose record shows that tag, and under the tag `<` also those
whose leading bracket is never closed, although their records show none
(`Database.isMatch_tag_iff`). -/

namespace CharAtlas

namespace Filter
variable {d : Dimension} {values : List String} {catalog : Catalog} {user : Option String}
  {names : Nat → Option String} {k : Condition} {db : Database} {c : StoredCharacter} {t : String}

theorem asks_members_iff : Asks [.members d values] catalog user names k ↔
    catalog.isComplete d values = false ∧ selectionCondition d values = k := by
  constructor
  · intro hk
    cases hk with
    | selection h hc =>
      cases List.mem_singleton.1 (mem_of_firstSelection h)
      exact ⟨hc, rfl⟩
    | @confusable negated t _ h _ =>
      obtain ⟨c, hc, ht⟩ := List.mem_filterMap.1 h
      rw [List.mem_singleton.1 hc] at ht
      cases negated <;> cases ht
    | search h => exact absurd h List.not_mem_nil
    | property h _ => cases List.mem_singleton.1 h
  · rintro ⟨hc, rfl⟩
    refine .selection (firstSelection_eq_some (List.mem_singleton_self _) fun v hv => ?_) hc
    cases List.mem_singleton.1 hv
    rfl

/-- A filter of one selection asks for it unless it leaves nothing out. -/
theorem exists_plan_members (hne : values ≠ []) (d : Dimension) (catalog : Catalog)
    (user : Option String) (names : Nat → Option String) :
    ∃ q, Filter.plan [.members d values] catalog user names = .ok (.query q) ∧
      ∀ db c, q.isMatch db c = true ↔ (catalog.isComplete d values = false →
        (selectionCondition d values).holds db c = some true) := by
  obtain ⟨q, hq⟩ : ∃ q, Filter.plan [.members d values] catalog user names = .ok (.query q) := by
    rw [exists_plan_eq_query_iff]
    refine ⟨fun e he => ?_, fun _ negated h => ?_⟩
    · cases List.mem_singleton.1 (mem_of_firstSelection he)
      exact hne rfl
    · cases List.mem_singleton.1 h
  refine ⟨q, hq, fun db c => ?_⟩
  rw [isMatch_iff hq]
  simp only [asks_members_iff]
  constructor
  · exact fun h hc => h _ ⟨hc, rfl⟩
  · rintro h _ ⟨hc, rfl⟩
    exact h hc

theorem selectionCondition_tag_holds_iff (hcan : t ≠ Catalog.canonical) :
    (selectionCondition .decompositionTypes [t]).holds db c = some true ↔
      ∃ d, c.decomposition = some d ∧ Decomposition.IsBracketed d ∧ Decomposition.cutTag d = t := by
  unfold selectionCondition
  rw [Condition.group_holds, decompositionCondition_holds_iff]
  simp only [OrderedSet.mem_ofList, List.mem_singleton]
  refine exists_congr fun d => and_congr_right fun _ => ?_
  constructor
  · rintro (⟨hc, -⟩ | ⟨hb, hcut, -⟩)
    · exact absurd hc.symm hcan
    · exact ⟨hb, hcut⟩
  · rintro ⟨hb, rfl⟩
    exact .inr ⟨hb, rfl, hcan⟩

/-- What is found is what is shown, but for brackets that are never closed. -/
theorem selectionCondition_tag_holds_iff_tag
    (hnull : ∀ d, c.decomposition = some d → '\x00' ∉ d.toList) (hne : t ≠ "")
    (hcan : t ≠ Catalog.canonical) :
    (selectionCondition .decompositionTypes [t]).holds db c = some true ↔
      Decomposition.tag c.decomposition = t ∨
        t = "<" ∧ ∃ d, c.decomposition = some d ∧ Decomposition.IsUnclosed d := by
  rw [selectionCondition_tag_holds_iff hcan, Decomposition.tag_eq_iff hne]
  constructor
  · rintro ⟨d, hd, hb, hcut⟩
    rcases (Decomposition.cutTag_eq_iff (hnull d hd) hb).1 hcut with ht | ⟨ht, hopen⟩
    · exact .inl ⟨d, hd, ht⟩
    · exact .inr ⟨ht, d, hd, hopen⟩
  · rintro (⟨d, hd, ht⟩ | ⟨ht, d, hd, hopen⟩)
    · exact ⟨d, hd, ht.isBracketed,
        (Decomposition.cutTag_eq_iff (hnull d hd) ht.isBracketed).2 (.inl ht)⟩
    · exact ⟨d, hd, hopen.1, (Decomposition.cutTag_eq_iff (hnull d hd) hopen.1).2 (.inr ⟨ht, hopen⟩)⟩

end Filter

namespace Database

/-- Rows keep the decompositions that were written. -/
theorem forall_decompositions {ws : List Write} {P : String → Prop}
    (h : ∀ c, .character c ∈ ws → ∀ d, c.decomposition = some d → P d) :
    ∀ c ∈ (empty.afterAll ws).characters.rows, ∀ d, c.decomposition = some d → P d := by
  intro c hc
  obtain ⟨x, hx, rfl⟩ := (exists_write_of_mem_rows hc).resolve_left List.not_mem_nil
  exact h x hx

/-- Selecting one tag out of several finds the rows whose record shows it as the type of the
decomposition, provided that they close the bracket or that the tag is not `<`. Under `<` are found,
besides, the rows that do not close it. -/
theorem isMatch_tag_iff {ws : List Write} {catalog : Catalog} {t : String}
    (hnull : ∀ c, .character c ∈ ws → ∀ d, c.decomposition = some d → '\x00' ∉ d.toList)
    (hne : t ≠ "") (hcan : t ≠ Catalog.canonical)
    (hleft : catalog.isComplete .decompositionTypes [t] = false)
    (user : Option String) (names : Nat → Option String) :
    ∃ q, Filter.plan [.members .decompositionTypes [t]] catalog user names = .ok (.query q) ∧
      ∀ c ∈ (empty.afterAll ws).characters.rows,
        (t ≠ "<" ∨ c.HasClosedTag → (q.isMatch (empty.afterAll ws) c = true ↔
          (CharacterProfile.ofRow ((empty.afterAll ws).row c)).decompositionTag = t)) ∧
        (q.isMatch (empty.afterAll ws) c = true ↔
          (CharacterProfile.ofRow ((empty.afterAll ws).row c)).decompositionTag = t ∨
            t = "<" ∧ ∃ d, c.decomposition = some d ∧ Decomposition.IsUnclosed d) := by
  obtain ⟨q, hq, hmatch⟩ :=
    Filter.exists_plan_members (List.cons_ne_nil t []) .decompositionTypes catalog user names
  refine ⟨q, hq, fun c hc => ?_⟩
  have hfound : q.isMatch (empty.afterAll ws) c = true ↔ Decomposition.tag c.decomposition = t ∨
      t = "<" ∧ ∃ d, c.decomposition = some d ∧ Decomposition.IsUnclosed d := by
    rw [hmatch, forall_prop_of_true hleft]
    exact Filter.selectionCondition_tag_holds_iff_tag (forall_decompositions hnull c hc) hne hcan
  refine ⟨fun hclosed => hfound.trans (or_iff_left ?_), hfound⟩
  rintro ⟨ht, d, hd, hb, hopen⟩
  rcases hclosed with hlt | hclosed
  · exact hlt ht
  · exact hopen (hclosed d hd hb)

def unclosed : Character :=
  { codepoint := 0x41, decomposition := some "<foo" }

/-- A bracket that is closed and one that is not. -/
def twoBrackets : List Write :=
  [.character { codepoint := 0x1D400, decomposition := some "<font> 0041" }, .character unclosed]

theorem not_mem_null_twoBrackets :
    ∀ c, .character c ∈ twoBrackets → ∀ d, c.decomposition = some d → '\x00' ∉ d.toList := by
  intro c hc d hd
  simp only [twoBrackets, List.mem_cons, Write.character.injEq, List.not_mem_nil, or_false] at hc
  rcases hc with rfl | rfl <;> obtain rfl := Option.some.inj hd <;> decide

theorem isMatch_tag_iff_twoBrackets :
    (∀ c, .character c ∈ twoBrackets → ∀ d, c.decomposition = some d → '\x00' ∉ d.toList) ∧
    (Catalog.ofValues (empty.afterAll twoBrackets).valuesIn).isComplete
      .decompositionTypes ["font"] = false ∧
    ∃ q, Filter.plan [.members .decompositionTypes ["font"]]
        (.ofValues (empty.afterAll twoBrackets).valuesIn) none (fun _ => none) = .ok (.query q) ∧
      ∀ c ∈ (empty.afterAll twoBrackets).characters.rows,
        (q.isMatch (empty.afterAll twoBrackets) c = true ↔
          (CharacterProfile.ofRow ((empty.afterAll twoBrackets).row c)).decompositionTag =
            "font") := by
  have hleft : (Catalog.ofValues (empty.afterAll twoBrackets).valuesIn).isComplete
      .decompositionTypes ["font"] = false := by decide +kernel
  obtain ⟨q, hq, hmatch⟩ :=
    isMatch_tag_iff not_mem_null_twoBrackets (by decide) (by decide) hleft none fun _ => none
  exact ⟨not_mem_null_twoBrackets, hleft, q, hq, fun c hc => (hmatch c hc).1 (.inl (by decide))⟩

/-- What is found under `<` need not show a tag. -/
theorem isMatch_tag_unclosed :
    '\x00' ∉ "<foo".toList ∧ unclosed.decomposition = some "<foo" ∧
    (Catalog.ofValues (empty.afterAll [.character unclosed]).valuesIn).isComplete
      .decompositionTypes ["<"] = false ∧
    Filter.ofText "decompositionTypes:<" = .ok [.members .decompositionTypes ["<"]] ∧
    ((empty.afterAll [.character unclosed]).search
        (.ofValues (empty.afterAll [.character unclosed]).valuesIn)
        "decompositionTypes:<" none {}).map
      (fun page => (page.characters.map fun r => (r.codepoint, r.decompositionTag), page.total)) =
        .ok ([(0x41, "")], 1) := by
  decide +kernel

end Database
end CharAtlas
