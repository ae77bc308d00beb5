import CharAtlas.Proofs.Catalog
import CharAtlas.Proofs.Query.Tags
import CharAtlas.Proofs.Store.Pairs

/-! # Known values

The catalog of a database lists the values that occur (`Database.mem_valuesIn_iff`,
`Database.mem_tags_iff`), each once, and nothing else. None is idle: each finds a row when it is
selected. Main statement: `Database.catalog_afterAll`. -/

namespace CharAtlas.Database

variable {db : Database} {d : Dimension} {v : String} {ws : List Write}

/-! ### Values that occur -/

theorem mem_columnTexts {text : StoredCharacter → Option String} :
    v ∈ db.columnTexts text ↔ ∃ c ∈ db.characters.rows, text c = some v := by
  unfold columnTexts
  rw [OrderedSet.mem_toList, OrderedSet.mem_ofList, List.mem_filterMap]

theorem mem_valuesIn_iff (hd : d ≠ .decompositionTypes) :
    v ∈ db.valuesIn d ↔ ∃ c ∈ db.characters.rows, c.value d.column = .text v := by
  cases d with
  | decompositionTypes => exact absurd rfl hd
  | _ =>
    simp only [valuesIn, mem_columnTexts, Dimension.column, StoredCharacter.value,
      Value.ofOption_text_eq_iff]

theorem mem_tags_iff
    (hnull : ∀ c ∈ db.characters.rows, ∀ d, c.decomposition = some d → '\x00' ∉ d.toList) :
    v ∈ db.tags ↔ v ≠ "" ∧ ∃ c ∈ db.characters.rows, Decomposition.tag c.decomposition = v := by
  unfold tags
  simp only [List.mem_filter, List.mem_eraseDups, List.mem_map, List.mem_filterMap, bne_iff_ne]
  constructor
  · rintro ⟨⟨d, ⟨⟨c, hc, hd⟩, hlike⟩, hcut⟩, hne⟩
    obtain ⟨t, ht⟩ := (Decomposition.like_brackets_iff (hnull c hc d hd)).1 hlike
    have hcut' := (Decomposition.cutTag_eq_iff (hnull c hc d hd) ht.isBracketed).2 (.inl ht)
    obtain rfl : t = v := hcut'.symm.trans hcut
    exact ⟨hne, c, hc, hd ▸ Decomposition.tag_of_tagged ht⟩
  · rintro ⟨hne, c, hc, htag⟩
    obtain ⟨d, hd, ht⟩ := (Decomposition.tag_eq_iff hne).1 htag
    exact ⟨⟨d, ⟨⟨c, hc, hd⟩, (Decomposition.like_brackets_iff (hnull c hc d hd)).2 ⟨v, ht⟩⟩,
      (Decomposition.cutTag_eq_iff (hnull c hc d hd) ht.isBracketed).2 (.inl ht)⟩, hne⟩

theorem nodup_valuesIn (db : Database) (d : Dimension) : (db.valuesIn d).Nodup := by
  cases d with
  | decompositionTypes => exact (nodup_eraseDups _).filter _
  | _ => exact OrderedSet.nodup _

/-! ### Values that can be selected -/

/-- Whatever is known, a selection finds the rows that meet its condition. -/
theorem exists_match
    (h : ∃ c ∈ db.characters.rows, (Filter.selectionCondition d [v]).holds db c = some true)
    (catalog : Catalog) (user : Option String) (names : Nat → Option String) :
    ∃ q, Filter.plan [.members d [v]] catalog user names = .ok (.query q) ∧
      ∃ c ∈ db.characters.rows, q.isMatch db c = true := by
  obtain ⟨c, hc, hholds⟩ := h
  obtain ⟨q, hq, hmatch⟩ :=
    Filter.exists_plan_members (List.cons_ne_nil v []) d catalog user names
  exact ⟨q, hq, c, hc, (hmatch db c).2 fun _ => hholds⟩

/-- The catalog lists, each once, the texts that stand in the columns, and after the canonical type the
other tags that records show. Every value listed but the canonical type is found in some row when it
is selected alone. -/
theorem catalog_afterAll (hws : .close ∉ ws)
    (hnull : ∀ c, .character c ∈ ws → ∀ d, c.decomposition = some d → '\x00' ∉ d.toList) :
    ∃ catalog, (empty.afterAll ws).catalog = .ok catalog ∧
      (∀ d, d ≠ .decompositionTypes → (catalog.values d).Nodup ∧ ∀ v, v ∈ catalog.values d ↔
        ∃ c ∈ (empty.afterAll ws).characters.rows, c.value d.column = .text v) ∧
      (∃ tags, catalog.values .decompositionTypes = Catalog.canonical :: tags ∧ tags.Nodup ∧
        ∀ v, v ∈ tags ↔ v ≠ "" ∧ v ≠ Catalog.canonical ∧
          ∃ c ∈ (empty.afterAll ws).characters.rows,
            (CharacterProfile.ofRow ((empty.afterAll ws).row c)).decompositionTag = v) ∧
      ∀ d v, v ∈ catalog.values d → (d = .decompositionTypes → v ≠ Catalog.canonical) →
        ∀ user names, ∃ q, Filter.plan [.members d [v]] catalog user names = .ok (.query q) ∧
          ∃ c ∈ (empty.afterAll ws).characters.rows, q.isMatch (empty.afterAll ws) c = true := by
  have hrows : ∀ c ∈ (empty.afterAll ws).characters.rows,
      ∀ d, c.decomposition = some d → '\x00' ∉ d.toList := forall_decompositions hnull
  have hcolumns : ∀ d v, d ≠ .decompositionTypes →
      (v ∈ (Catalog.ofValues (empty.afterAll ws).valuesIn).values d ↔
        ∃ c ∈ (empty.afterAll ws).characters.rows, c.value d.column = .text v) :=
    fun d v hd => (Catalog.mem_values_ofValues hd).trans (mem_valuesIn_iff hd)
  have htags : ∀ v, v ∈ (Catalog.inNaturalOrder (empty.afterAll ws).tags).filter
      (· != Catalog.canonical) ↔ v ≠ "" ∧ v ≠ Catalog.canonical ∧
        ∃ c ∈ (empty.afterAll ws).characters.rows, Decomposition.tag c.decomposition = v := by
    intro v
    rw [(Catalog.inNaturalOrder_filter _ _).mem, List.mem_filter, mem_tags_iff hrows, bne_iff_ne,
      and_assoc]
    exact and_congr_right fun _ => and_comm
  refine ⟨.ofValues (empty.afterAll ws).valuesIn, ?_, fun d hd => ⟨?_, fun v => hcolumns d v hd⟩,
    ⟨_, rfl, ?_, htags⟩, fun d v hv hcan user names => ?_⟩
  · have hopen : (empty.afterAll ws).isOpen = true := isOpen_afterAll hws
    unfold catalog access
    rw [if_pos hopen]
    rfl
  · exact Catalog.nodup_values_ofValues hd (nodup_valuesIn _ d)
  · exact (Catalog.inNaturalOrder_filter _ _).nodup ((nodup_valuesIn _ .decompositionTypes).filter _)
  · by_cases hd : d = .decompositionTypes
    · subst hd
      obtain ⟨hne, -, c, hc, htag⟩ := (htags v).1 ((List.mem_cons.1 hv).resolve_left (hcan rfl))
      refine exists_match ⟨c, hc, ?_⟩ _ user names
      exact (Filter.selectionCondition_tag_holds_iff_tag (hrows c hc) hne (hcan rfl)).2 (.inl htag)
    · obtain ⟨c, hc, hvalue⟩ := (hcolumns d v hd).1 hv
      refine exists_match ⟨c, hc, ?_⟩ _ user names
      exact (Filter.selectionCondition_holds_iff_of_column hd).2
        ⟨v, List.mem_singleton_self v, hvalue⟩

/-- Two letters of the same version, one of which has a script. -/
def twoBracketsAndLetters : List Write :=
  .character { codepoint := 0x61, script := some "Latin", age := some "1.1" } ::
    .character { codepoint := 0x62, age := some "1.1" } :: twoBrackets

theorem catalog_afterAll_twoBracketsAndLetters :
    .close ∉ twoBracketsAndLetters ∧
    (∀ c, .character c ∈ twoBracketsAndLetters →
      ∀ d, c.decomposition = some d → '\x00' ∉ d.toList) ∧
    ∃ catalog, (empty.afterAll twoBracketsAndLetters).catalog = .ok catalog ∧
      (catalog.values .versions).Nodup ∧ "1.1" ∈ catalog.values .versions ∧
      "font" ∈ catalog.values .decompositionTypes ∧ "<" ∉ catalog.values .decompositionTypes ∧
      ∃ q, Filter.plan [.members .decompositionTypes ["font"]] catalog none (fun _ => none) =
          .ok (.query q) ∧
        ∃ c ∈ (empty.afterAll twoBracketsAndLetters).characters.rows,
          q.isMatch (empty.afterAll twoBracketsAndLetters) c = true := by
  have hws : .close ∉ twoBracketsAndLetters := by simp [twoBracketsAndLetters, twoBrackets]
  have hnull : ∀ c, .character c ∈ twoBracketsAndLetters →
      ∀ d, c.decomposition = some d → '\x00' ∉ d.toList := by
    intro c hc d hd
    rcases List.mem_cons.1 hc with hc | hc
    · cases hc
      cases hd
    · rcases List.mem_cons.1 hc with hc | hc
      · cases hc
        cases hd
      · exact not_mem_null_twoBrackets c hc d hd
  obtain ⟨catalog, hcatalog, hcolumns, ⟨tags, htypes, -, htags⟩, hfound⟩ :=
    catalog_afterAll hws hnull
  obtain ⟨hnodup, hversions⟩ := hcolumns .versions (by decide)
  have hfont : "font" ∈ catalog.values .decompositionTypes := by
    rw [htypes]
    exact List.mem_cons_of_mem _ ((htags "font").2 ⟨by decide, by decide, by decide +kernel⟩)
  have hopen : "<" ∉ catalog.values .decompositionTypes := by
    rw [htypes, List.mem_cons, htags]
    decide +kernel
  exact ⟨hws, hnull, catalog, hcatalog, hnodup, (hversions "1.1").2 (by decide +kernel), hfont, hopen,
    hfound .decompositionTypes "font" hfont (fun _ => by decide) none fun _ => none⟩

end CharAtlas.Database
