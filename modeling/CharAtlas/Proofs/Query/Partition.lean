import CharAtlas.Proofs.Query.Conjunction

/-! # Requiring and excluding

A clause and its negation share out the rows of an answer (`Database.Splits`), for no test of the
two is unknown of a row (`Filter.Decides`). So it is for each property and each text to be confused
with (`Database.search_split`), as far as the engine takes the texts (`Database.search_split_dashes`). -/

namespace CharAtlas

namespace Filter
variable {f : Filter} {db : Database} {catalog : Catalog} {user : Option String}
  {names : Nat → Option String} {c : StoredCharacter} {k : Condition} {p : Property} {t : String}
  {clause : Bool → Clause} {P : StoredCharacter → Prop} {negated : Bool}

theorem asks_property_iff : Asks [.property p negated] catalog user names k ↔
    propertyCondition p negated user = .ok k := by
  constructor
  · intro h
    cases h with
    | selection hd => cases hd
    | @confusable b t _ ht => cases b <;> cases ht
    | search ht => cases ht
    | property hp hk =>
      cases List.mem_singleton.1 hp
      exact hk
  · exact fun hk => .property (List.mem_singleton_self _) hk

/-- All that one property clause asks for holds where the property does. -/
theorem asks_property_holds_iff
    (hclass : negated = true → ∀ n, c.combiningClass = some n → 0 ≤ n)
    (hfav : p = .favorited → user ≠ none) :
    (∀ k, Asks [.property p negated] catalog user names k → k.holds db c = some true) ↔
      (db.HasProperty user c p ↔ negated = false) := by
  obtain ⟨k, hk⟩ : ∃ k, propertyCondition p negated user = .ok k := by
    cases hp : propertyCondition p negated user with
    | ok k => exact ⟨k, rfl⟩
    | error e =>
      obtain ⟨hp, huser, -⟩ := propertyCondition_eq_error_iff.1 hp
      exact absurd huser (hfav hp)
  rw [← propertyCondition_holds_iff hclass hk]
  simp only [asks_property_iff, hk, Except.ok.injEq, forall_eq']

theorem asks_confusable_iff : Asks [.confusable negated t] catalog user names k ↔
    confusableTextCondition? negated t = some k := by
  have hmem : ∀ b u, u ∈ List.filterMap (Clause.confusableText? b) [.confusable negated t] ↔
      b = negated ∧ u = t := by
    intro b u
    cases b <;> cases negated <;> simp [Clause.confusable, Clause.confusableText?, eq_comm]
  constructor
  · intro h
    cases h with
    | selection hd => cases negated <;> cases hd
    | confusable hu hk =>
      obtain ⟨rfl, rfl⟩ := (hmem _ _).1 hu
      exact hk
    | search hu => cases negated <;> cases hu
    | property hp => cases negated <;> cases List.mem_singleton.1 hp
  · exact fun hk => .confusable ((hmem _ _).2 ⟨rfl, rfl⟩) hk

/-- A clause and its negation, neither a selection nor a search, that tell whether `P` holds. -/
structure Decides (clause : Bool → Clause) (db : Database) (catalog : Catalog)
    (user : Option String) (P : StoredCharacter → Prop) : Prop where
  unselective : ∀ negated d, (clause negated).valuesIn? d = none
  unnamed : ∀ negated, (namedCodepoints [clause negated]).toList = []
  allowed : user = none → ∀ negated b, .property .favorited b ≠ clause negated
  decides : ∀ c ∈ db.characters.rows, ∀ negated,
    (∀ k, Asks [clause negated] catalog user db.nameOf k → k.holds db c = some true) ↔
      (P c ↔ negated = false)

theorem decides_property
    (hclass : ∀ c ∈ db.characters.rows, ∀ n, c.combiningClass = some n → 0 ≤ n)
    (hfav : p = .favorited → user ≠ none) :
    Decides (.property p) db catalog user fun c => db.HasProperty user c p where
  unselective _ _ := rfl
  unnamed _ := rfl
  allowed huser negated b h := by
    cases h
    exact hfav rfl huser
  decides c hc _ := asks_property_holds_iff (fun _ => hclass c hc) hfav

theorem decides_confusable (ht : Text.trim t ≠ "") :
    Decides (.confusable · t) db catalog user fun c =>
      ∃ u ∈ (Text.trim t).toList, db.Paired c.codepoint u.toNat where
  unselective negated _ := by cases negated <;> rfl
  unnamed negated := by cases negated <;> rfl
  allowed _ negated b h := by cases negated <;> cases h
  decides c _ negated := by
    obtain ⟨k, hk⟩ := Option.ne_none_iff_exists'.1
      (mt confusableTextCondition?_eq_none_iff.1 ht : confusableTextCondition? negated t ≠ none)
    rw [← confusableTextCondition?_holds_iff hk]
    simp only [asks_confusable_iff, hk, Option.some.injEq, forall_eq']

namespace Decides

theorem not_selectsNothing (h : Decides clause db catalog user P) :
    ¬SelectsNothing [clause negated] := by
  rintro ⟨d, hd⟩
  have hclause := mem_of_firstSelection hd
  have hnone := h.unselective negated d
  rw [← List.mem_singleton.1 hclause] at hnone
  simp [Clause.valuesIn?] at hnone

theorem matches_append (h : Decides clause db catalog user P) :
    (f ++ [clause negated]).Matches db catalog user c ↔
      f.Matches db catalog user c ∧ (P c ↔ negated = false) := by
  rw [Filter.matches_append (apart_singleton (h.unselective negated))]
  refine and_congr_right fun hm => ?_
  rw [← h.decides c hm.stored negated]
  exact ⟨fun hc => hc.holds, fun hk => ⟨hm.stored, h.not_selectsNothing, hk⟩⟩

theorem isAnswered_append (h : Decides clause db catalog user P) (hf : f.IsAnswered db user) :
    (f ++ [clause negated]).IsAnswered db user where
  named := hf.named.imp_right fun hn => namedCodepoints_append_eq_nil hn (h.unnamed negated)
  asked := by
    rw [selectsNothing_append (apart_singleton (h.unselective negated))]
    refine hf.asked.imp .inl fun ⟨hopen, hfav⟩ => ⟨hopen, fun huser b hb => ?_⟩
    rcases List.mem_append.1 hb with hb | hb
    · exact hfav huser b hb
    · exact h.allowed huser negated b (List.mem_singleton.1 hb)

theorem matches_singleton (h : Decides clause db catalog user P) :
    Filter.Matches [clause negated] db catalog user c ↔
      c ∈ db.characters.rows ∧ (P c ↔ negated = false) := by
  constructor
  · intro hm
    exact ⟨hm.stored, (h.decides c hm.stored negated).1 hm.holds⟩
  · rintro ⟨hc, hP⟩
    exact ⟨hc, h.not_selectsNothing, (h.decides c hc negated).2 hP⟩

theorem isAnswered_singleton (h : Decides clause db catalog user P) (hopen : db.isOpen = true) :
    IsAnswered [clause negated] db user where
  named := .inl hopen
  asked := .inr ⟨hopen, fun huser b hb => h.allowed huser negated b (List.mem_singleton.1 hb)⟩

end Decides
end Filter

namespace Database

/-- Every row goes to one side, those of which `P` holds to the first. -/
structure Splits (rows yes no : List StoredCharacter) (P : StoredCharacter → Prop) : Prop where
  perm : (yes ++ no).Perm rows
  holds : ∀ c ∈ yes, P c
  fails : ∀ c ∈ no, ¬P c

variable {db : Database} {catalog : Catalog} {text : String} {f : Filter} {user : Option String}
  {r : Paging} {page : ResultPage} {clause : Bool → Clause} {P : StoredCharacter → Prop}

theorem Splits.length_add {rows yes no : List StoredCharacter} (h : Splits rows yes no P) :
    yes.length + no.length = rows.length := by
  rw [← List.length_append, h.perm.length_eq]

theorem splits_matched (h : Filter.Decides clause db catalog user P) (hf : f.IsAnswered db user) :
    Splits (db.matched catalog user f) (db.matched catalog user (f ++ [clause false]))
      (db.matched catalog user (f ++ [clause true])) P := by
  have hmem : ∀ negated c, c ∈ db.matched catalog user (f ++ [clause negated]) ↔
      c ∈ db.matched catalog user f ∧ (P c ↔ negated = false) := by
    intro negated c
    rw [mem_matched_iff (h.isAnswered_append hf), mem_matched_iff hf, h.matches_append]
  have hyes : ∀ c ∈ db.matched catalog user (f ++ [clause false]), P c :=
    fun c hc => ((hmem false c).1 hc).2.2 rfl
  have hno : ∀ c ∈ db.matched catalog user (f ++ [clause true]), ¬P c :=
    fun c hc hP => absurd (((hmem true c).1 hc).2.1 hP) (by decide)
  refine ⟨(List.perm_ext_iff_of_nodup ?_ (matched_nodup ..)).2 fun c => ?_, hyes, hno⟩
  · exact (matched_nodup ..).append (matched_nodup ..) fun c hc hc' => hno c hc' (hyes c hc)
  · rw [List.mem_append, hmem, hmem]
    by_cases hP : P c <;> simp [hP]

theorem answers_split (s : Bool → String) (hf : Filter.ofText text = .ok f)
    (hans : f.IsAnswered db user) (h : Filter.Decides clause db catalog user P)
    (hs : ∀ negated, Filter.ofText (s negated) = .ok [clause negated]) :
    ∃ yes no, db.AnswersIfTaken catalog (text ++ "," ++ s false) user yes ∧
      db.AnswersIfTaken catalog (text ++ "," ++ s true) user no ∧
      Splits (db.matched catalog user f) yes no P ∧
      yes.length + no.length = (db.matched catalog user f).length :=
  ⟨_, _, answersIfTaken_matched (Filter.ofText_joined hf (hs false)) (h.isAnswered_append hans),
    answersIfTaken_matched (Filter.ofText_joined hf (hs true)) (h.isAnswered_append hans),
    splits_matched h hans, (splits_matched h hans).length_add⟩

/-- Where no combining class is negative, a property required and excluded shares out the rows of an
answer, and so does a text to be confused with and not to be confused with, if it is not blank. The
totals add up. A text that is made so is an error where the engine does not take it. -/
theorem search_split
    (hclass : ∀ c ∈ db.characters.rows, ∀ n, c.combiningClass = some n → 0 ≤ n)
    (h : db.search catalog text user r = .ok page) :
    ∃ f rows, Filter.ofText text = .ok f ∧ db.Answers catalog text user rows ∧
      (∀ c, c ∈ rows ↔ f.Matches db catalog user c) ∧
      (∀ p, (p = .favorited → user ≠ none) → ∃ yes no,
        db.AnswersIfTaken catalog (text ++ "," ++ Clause.text (.property p false)) user yes ∧
        db.AnswersIfTaken catalog (text ++ "," ++ Clause.text (.property p true)) user no ∧
        Splits rows yes no (fun c => db.HasProperty user c p) ∧
        yes.length + no.length = page.total) ∧
      ∀ t, ',' ∉ t.toList → Text.trim t ≠ "" → ∃ yes no,
        db.AnswersIfTaken catalog (text ++ "," ++ Clause.text (.confusableWith t)) user yes ∧
        db.AnswersIfTaken catalog (text ++ "," ++ Clause.text (.notConfusableWith t)) user no ∧
        Splits rows yes no
          (fun c => ∃ u ∈ (Text.trim t).toList, db.Paired c.codepoint u.toNat) ∧
        yes.length + no.length = page.total := by
  obtain ⟨f, hf⟩ := exists_ofText_of_search h
  have hans := isAnswered_of_search hf h
  rw [total_eq_of_search hf h]
  refine ⟨f, db.matched catalog user f, hf, answers_matched hf hans (takes_of_search h),
    fun c => mem_matched_iff hans, fun p hfav => ?_, fun t hcomma ht => ?_⟩
  · exact answers_split (fun negated => Clause.text (.property p negated)) hf hans
      (Filter.decides_property hclass hfav) fun _ => Filter.ofText_clauseText trivial
  · rw [← Text.trim_trimEnd] at ht ⊢
    exact answers_split (fun negated => Clause.text (.confusable negated t)) hf hans
      (Filter.decides_confusable ht) fun negated => Filter.ofText_confusable negated hcomma

theorem search_split_threeLetters :
    ∃ page, (empty.afterAll threeLetters).search ⟨fun _ => []⟩ "search:capital" none {} = .ok page ∧
      (∃ yes no, (empty.afterAll threeLetters).Answers ⟨fun _ => []⟩
          ("search:capital" ++ "," ++ "hasCombiningClass") none yes ∧
        (empty.afterAll threeLetters).Answers ⟨fun _ => []⟩
          ("search:capital" ++ "," ++ "not_hasCombiningClass") none no ∧
        yes.length + no.length = page.total) ∧
      ∃ yes no, (empty.afterAll threeLetters).Answers ⟨fun _ => []⟩
          ("search:capital" ++ "," ++ "confusableWith:A ") none yes ∧
        (empty.afterAll threeLetters).Answers ⟨fun _ => []⟩
          ("search:capital" ++ "," ++ "notConfusableWith:A ") none no ∧
        yes.length + no.length = page.total := by
  have hclass : ∀ c ∈ (empty.afterAll threeLetters).characters.rows,
      ∀ n, c.combiningClass = some n → 0 ≤ n := by
    have hall : ∀ c ∈ (empty.afterAll threeLetters).characters.rows,
        c.combiningClass.all (0 ≤ ·) = true := by decide +kernel
    intro c hc n hn
    have := hall c hc
    rw [hn] at this
    exact of_decide_eq_true this
  have hread : Filter.ofText "search:capital" = .ok [.search "capital"] := by decide +kernel
  have hopen : (empty.afterAll threeLetters).isOpen = true := by decide +kernel
  obtain ⟨page, hpage⟩ := @exists_search_eq_ok _ ⟨fun _ => []⟩ _ _ none {} hread hopen (by simp)
    (by decide +kernel)
  obtain ⟨f, rows, -, -, -, hproperty, htext⟩ := search_split hclass hpage
  obtain ⟨yes, no, hyes, hno, -, hsum⟩ := hproperty .combiningClass (by decide)
  obtain ⟨like, unlike, hlike, hunlike, -, hsum'⟩ := htext "A " (by decide) (by decide)
  exact ⟨page, hpage,
    ⟨yes, no, hyes.answers .codepoint (by decide +kernel), hno.answers .codepoint (by decide +kernel),
      hsum⟩,
    like, unlike, hlike.answers .codepoint (by decide +kernel),
      hunlike.answers .codepoint (by decide +kernel), hsum'⟩

/-- The one row that a text of 998 clauses finds is found neither with one more of them nor with one
that is negated. -/
theorem search_split_dashes :
    (∀ c ∈ (empty.afterAll oneDash).characters.rows, c.combiningClass = none) ∧
    ((empty.afterAll oneDash).search ⟨fun _ => []⟩ (Filter.dashes 997 false).text none {}).map
      (fun page => (page.characters.map (·.codepoint), page.total)) = .ok ([0x2D], 1) ∧
    (empty.afterAll oneDash).search ⟨fun _ => []⟩
      ((Filter.dashes 997 false).text ++ "," ++ Clause.text (.property (.flag .dash) false)) none {} =
        .error (.store .tooDeep) ∧
    (empty.afterAll oneDash).search ⟨fun _ => []⟩
      ((Filter.dashes 997 false).text ++ "," ++ Clause.text (.property (.flag .dash) true)) none {} =
        .error (.store .tooDeep) := by
  have hopen : (empty.afterAll oneDash).isOpen = true := by decide +kernel
  have hjoined : ∀ negated, Filter.ofText ((Filter.dashes 997 false).text ++ "," ++
      Clause.text (.property (.flag .dash) negated)) = .ok (Filter.dashes 998 negated) := by
    intro negated
    have hclause := @Filter.ofText_clauseText (.property (.flag .dash) negated) trivial
    rw [Filter.ofText_joined (Filter.ofText_dashes 997 false) hclause, Filter.dashes_append]
  exact ⟨by decide +kernel, search_dashes_oneDash, search_dashes hopen (hjoined false),
    search_dashes hopen (hjoined true)⟩

end Database
end CharAtlas
