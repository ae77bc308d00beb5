import CharAtlas.Proofs.Filter.Grammar
import CharAtlas.Proofs.Filter.Joined
import CharAtlas.Proofs.Query.Answer
import CharAtlas.Proofs.Query.Matches
import CharAtlas.Proofs.Query.Taken

/-! # How a query ends

A piece that is no clause is noticed first, then an empty selection, then a favorite without a user;
an open database answers everything else that the engine takes (`Database.search_outcome`), but not
a text of 999 clauses (`Database.search_outcome_dashes`). A selection in a dimension that
was selected from before plays no part in this or in anything else (`Filter.plan_later`). -/

namespace CharAtlas

namespace Filter
variable {before after : Filter} {d : Dimension} {values : List String} {user : Option String}
  {catalog : Catalog} {names : Nat → Option String} {negated : Bool}

/-! ### Later selections -/

theorem selectionsFrom_later {seen : List Dimension} (after : Filter)
    (h : d ∈ seen ∨ ∃ v, .members d v ∈ before) :
    selectionsFrom seen (before ++ .members d values :: after) =
      selectionsFrom seen (before ++ after) := by
  induction before generalizing seen with
  | nil =>
    have hd : d ∈ seen := h.resolve_right fun ⟨v, hv⟩ => absurd hv List.not_mem_nil
    simp [selectionsFrom, hd]
  | cons c before ih =>
    cases c with
    | members e v =>
      simp only [List.cons_append, selectionsFrom]
      by_cases he : e ∈ seen
      · have hd : d ∈ seen ∨ ∃ v, .members d v ∈ before := by
          rcases h with hd | ⟨w, hw⟩
          · exact .inl hd
          · rcases List.mem_cons.1 hw with heq | hw
            · cases heq
              exact .inl he
            · exact .inr ⟨w, hw⟩
        simp [he, ih hd]
      · have hd : d ∈ e :: seen ∨ ∃ v, .members d v ∈ before := by
          rcases h with hd | ⟨w, hw⟩
          · exact .inl (List.mem_cons_of_mem _ hd)
          · rcases List.mem_cons.1 hw with heq | hw
            · cases heq
              exact .inl (List.mem_cons_self ..)
            · exact .inr ⟨w, hw⟩
        simp [he, ih hd]
    | _ => exact ih (h.imp_right (.imp fun w hw => by simpa using hw))

/-- A filter asks for the same without a selection in a dimension that was selected from before. -/
theorem plan_later (after : Filter) (h : ∃ v, .members d v ∈ before) :
    (before ++ .members d values :: after).plan catalog user names =
      (before ++ after).plan catalog user names := by
  have hsel : (before ++ .members d values :: after).selections = (before ++ after).selections :=
    selectionsFrom_later after (.inr h)
  have hfilter : ∀ {β : Type} {make? : Clause → Option β}, make? (.members d values) = none →
      (before ++ .members d values :: after).filterMap make? =
        (before ++ after).filterMap make? := by
    intro β make? hnone
    rw [List.filterMap_append, List.filterMap_cons_none hnone, List.filterMap_append]
  exact plan_congr_of_selections hsel (hfilter rfl) (hfilter rfl) (hfilter rfl)

theorem namedCodepoints_later (after : Filter) :
    (before ++ .members d values :: after).namedCodepoints = (before ++ after).namedCodepoints := by
  unfold namedCodepoints
  rw [searchTerms_append, searchTerms_append]
  rfl

/-! ### Favorites without a user -/

/-- The first clause on favorites is the one that is refused. -/
theorem plan_of_favorited (hne : ¬(before ++ .property .favorited negated :: after).SelectsNothing)
    (hfirst : ∀ b, .property .favorited b ∉ before) :
    (before ++ .property .favorited negated :: after).plan catalog none names =
      .error (.authRequired (Clause.propertyText .favorited negated)) := by
  have hsplit : (before ++ .property .favorited negated :: after).propertyClauses =
      before.propertyClauses ++ (.favorited, negated) :: after.propertyClauses := by
    unfold propertyClauses
    exact List.filterMap_append
  have hprops : (before ++ .property .favorited negated :: after).propertyConditions none =
      .error (.authRequired (Clause.propertyText .favorited negated)) := by
    unfold propertyConditions
    rw [mapM_eq_error_iff]
    refine ⟨_, _, _, hsplit, fun ⟨p, b⟩ hpb => ?_, rfl⟩
    cases hp : propertyCondition p b none with
    | ok k => exact ⟨k, hp⟩
    | error e =>
      obtain ⟨rfl, -, -⟩ := propertyCondition_eq_error_iff.1 hp
      exact absurd (mem_propertyClauses_iff.1 hpb) (hfirst b)
  rw [plan_of_not_empty (not_exists.1 hne), hprops]
  rfl

end Filter

namespace Database
variable {db : Database} {catalog : Catalog} {text : String} {f : Filter} {user : Option String}
  {r : Paging}

theorem search_of_selectsNothing (hf : Filter.ofText text = .ok f) (hopen : db.isOpen = true)
    (h : f.SelectsNothing) : db.search catalog text user r = .ok ⟨[], 0⟩ := by
  rw [search_of_isOpen hf hopen, Filter.plan_of_empty h]
  rfl

/-- A later selection makes no difference to an answer. -/
theorem search_later {before after : Filter} {d : Dimension} {values : List String}
    (hf : Filter.ofText text = .ok (before ++ .members d values :: after))
    (h : ∃ v, .members d v ∈ before) :
    db.search catalog text user r = db.search catalog (before ++ after).text user r := by
  have hwell : (before ++ after).WellFormed := fun c hc =>
    Filter.wellFormed_of_ofText hf c (by
      rcases List.mem_append.1 hc with hc | hc
      · exact List.mem_append_left _ hc
      · exact List.mem_append_right _ (List.mem_cons_of_mem _ hc))
  rw [search_of_ofText hf, search_of_ofText (Filter.ofText_text hwell),
    Filter.namedCodepoints_later]
  simp only [Filter.plan_later after h]

/-- An open database answers every text in one of four ways. The first piece that is no clause is
reported, whatever else there is. Where all are clauses and the first selection in some dimension is
empty, there are no results, even for favorites without a user. Otherwise the first clause on
favorites is reported if there is no user. Everything else is answered if the engine takes it, and
otherwise is an error of the store; it takes texts of up to 988 clauses unless they bind too many
values. A later selection in the same dimension counts for none of this. -/
theorem search_outcome (hopen : db.isOpen = true) (catalog : Catalog) (text : String)
    (user : Option String) (r : Paging) :
    ((∃ f, Filter.Written text f) ∨
      ∃ before t after, Filter.clauseTexts text = before ++ t :: after ∧
        (∀ u ∈ before, ∃ c, Clause.Written u c) ∧ ∀ c, ¬Clause.Written t c) ∧
    (∀ before t after, Filter.clauseTexts text = before ++ t :: after →
      (∀ u ∈ before, ∃ c, Clause.Written u c) → (∀ c, ¬Clause.Written t c) →
        db.search catalog text user r = .error (.unknownFilter t)) ∧
    ∀ f, Filter.Written text f →
      (f.SelectsNothing → db.search catalog text user r = .ok ⟨[], 0⟩) ∧
      (¬f.SelectsNothing → user = none →
        ∀ before negated after, f = before ++ .property .favorited negated :: after →
          (∀ b, .property .favorited b ∉ before) → db.search catalog text user r =
            .error (.authRequired (if negated then "not_favorited" else "favorited"))) ∧
      (¬f.SelectsNothing → (user = none → ∀ negated, .property .favorited negated ∉ f) →
        (db.Takes catalog text user r.sort → ∃ page, db.search catalog text user r = .ok page) ∧
        (¬db.Takes catalog text user r.sort →
          ∃ e, db.search catalog text user r = .error (.store e) ∧ e.IsBound)) ∧
      (∀ q, f.plan catalog user db.nameOf = .ok (.query q) → f.length ≤ 988 →
        q.params.length + (orderParams (r.sort.criteria .asc q.anchor)).length + 2 ≤ maxValues →
          db.Takes catalog text user r.sort) ∧
      ∀ d v w before mid after, f = before ++ .members d v :: mid ++ .members d w :: after →
        db.search catalog text user r =
          db.search catalog (Filter.text (before ++ .members d v :: mid ++ after)) user r := by
  refine ⟨Filter.written_or_unknown text, fun before t after hpieces hbefore ht => ?_,
    fun f hwritten => ?_⟩
  · exact search_of_error (Filter.ofText_eq_error_iff.2 ⟨before, t, after, hpieces, hbefore, ht, rfl⟩)
  have hf : Filter.ofText text = .ok f := Filter.ofText_eq_ok_iff.2 hwritten
  refine ⟨search_of_selectsNothing hf hopen, fun hne huser before negated after hsplit hfirst => ?_,
    fun _ hfav => ⟨fun htakes => exists_search_eq_ok hf hopen hfav (htakes f hf),
      search_of_not_takes hopen⟩, fun q hq hlength hvalues => ?_, ?_⟩
  · have hkey : (if negated then "not_favorited" else "favorited") =
        Clause.propertyText .favorited negated := by
      cases negated <;> decide
    subst hsplit
    rw [search_of_isOpen hf hopen, huser, hkey, Filter.plan_of_favorited hne hfirst]
    rfl
  · rw [takes_iff hf, Filter.fits_iff_of_query hq]
    exact Filter.fits_of_length_le hq ((Filter.length_conditions_le hq).trans hlength) hvalues
  · rintro d v w before mid after rfl
    exact search_later hf ⟨v, by simp⟩

/-- Each way of ending in spite of what would end the query otherwise. -/
theorem search_outcome_threeLetters :
    (empty.afterAll threeLetters).isOpen = true ∧
    (empty.afterAll threeLetters).search ⟨fun _ => []⟩ "favorited,scripts:, isLetter ,?" none {} =
      .error (.unknownFilter "isLetter") ∧
    (empty.afterAll threeLetters).search ⟨fun _ => []⟩ "favorited,scripts:,scripts:Latin" none {} =
      .ok ⟨[], 0⟩ ∧
    (empty.afterAll threeLetters).search ⟨fun _ => []⟩
      "scripts:Latin,not_favorited,scripts:,favorited" none {} =
        .error (.authRequired "not_favorited") ∧
    (∃ page, (empty.afterAll threeLetters).search ⟨fun _ => []⟩
      "scripts:Latin,scripts:" none {} = .ok page) ∧
    (empty.afterAll threeLetters).search ⟨fun _ => []⟩ "scripts:Latin,scripts:" none {} =
      (empty.afterAll threeLetters).search ⟨fun _ => []⟩ "scripts:Latin" none {} := by
  have hopen : (empty.afterAll threeLetters).isOpen = true := by decide +kernel
  have hunknown : ∀ c, ¬Clause.Written "isLetter" c := by
    have hnone : Clause.ofText? "isLetter" = none := by decide +kernel
    intro c hc
    rw [← Clause.ofText?_eq_some_iff, hnone] at hc
    cases hc
  have hempty : Filter.Written "favorited,scripts:,scripts:Latin" [.property .favorited false,
      .members .scripts [], .members .scripts ["Latin"]] :=
    Filter.ofText_eq_ok_iff.1 (by decide +kernel)
  have hrefused : Filter.Written "scripts:Latin,not_favorited,scripts:,favorited"
      [.members .scripts ["Latin"], .property .favorited true, .members .scripts [],
        .property .favorited false] :=
    Filter.ofText_eq_ok_iff.1 (by decide +kernel)
  have hlater : Filter.Written "scripts:Latin,scripts:"
      [.members .scripts ["Latin"], .members .scripts []] :=
    Filter.ofText_eq_ok_iff.1 (by decide +kernel)
  have hselects : ∀ f : Filter, (∀ d, f.firstSelection d ≠ some []) → ¬f.SelectsNothing :=
    fun f h ⟨d, hd⟩ => h d hd
  refine ⟨hopen, ?_, ?_, ?_, ?_, ?_⟩
  · refine (search_outcome hopen ⟨fun _ => []⟩ _ none {}).2.1 ["favorited", "scripts:"] "isLetter"
      ["?"] (by decide +kernel) (fun u hu => ?_) hunknown
    rcases List.mem_cons.1 hu with rfl | hu
    · exact ⟨_, .property .favorited⟩
    · rw [List.mem_singleton.1 hu]
      exact ⟨_, .members .scripts ""⟩
  · exact ((search_outcome hopen ⟨fun _ => []⟩ _ none {}).2.2 _ hempty).1 ⟨.scripts, rfl⟩
  · exact ((search_outcome hopen ⟨fun _ => []⟩ _ none {}).2.2 _ hrefused).2.1
      (hselects _ fun d => by cases d <;> decide) rfl [.members .scripts ["Latin"]] true
      [.members .scripts [], .property .favorited false] rfl fun b => by simp
  · refine (((search_outcome hopen ⟨fun _ => []⟩ _ none {}).2.2 _ hlater).2.2.1
      (hselects _ fun d => by cases d <;> decide) fun _ negated => by simp).1 ?_
    exact (takes_iff (Filter.ofText_eq_ok_iff.2 hlater)).2 (by decide +kernel)
  · exact ((search_outcome hopen ⟨fun _ => []⟩ _ none {}).2.2 _ hlater).2.2.2.2 .scripts ["Latin"] []
      [] [] [] rfl

/-- All 999 pieces of the text are clauses, none of them on favorites or a selection. -/
theorem search_outcome_dashes :
    (empty.afterAll oneDash).isOpen = true ∧
    Filter.Written (Filter.dashes 998 false).text (Filter.dashes 998 false) ∧
    ¬(Filter.dashes 998 false).SelectsNothing ∧
    (∀ negated, .property .favorited negated ∉ Filter.dashes 998 false) ∧
    (empty.afterAll oneDash).search ⟨fun _ => []⟩ (Filter.dashes 998 false).text none {} =
      .error (.store .tooDeep) := by
  have hopen : (empty.afterAll oneDash).isOpen = true := by decide +kernel
  have hplan := @Filter.plan_dashes ⟨fun _ => []⟩ none (fun _ => none) 998 false
  refine ⟨hopen, Filter.ofText_eq_ok_iff.1 (Filter.ofText_dashes 998 false),
    not_exists.2 (Filter.plan_eq_query hplan).1, fun negated hmem => ?_,
    search_dashes hopen (Filter.ofText_dashes 998 false)⟩
  obtain ⟨⟨p, b⟩, hp, he⟩ := List.mem_map.1 hmem
  obtain ⟨rfl, rfl⟩ := Clause.property.inj he
  rcases List.mem_append.1 hp with hp | hp
  · cases List.eq_of_mem_replicate hp
  · cases List.mem_singleton.1 hp

end Database
end CharAtlas
