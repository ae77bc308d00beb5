import CharAtlas.Proofs.Query.Congruence
import CharAtlas.Proofs.Query.Pagination
import CharAtlas.Proofs.Query.Partition
import CharAtlas.Proofs.Query.Taken
import CharAtlas.Proofs.Store.Pairs

/-! # Confusable characters

A pair counts in both directions and once, so histories that differ in the directions of pairs, or
in how often they are written, leave databases behind that are `Database.Alike` and answer alike
(`Database.search_alike`). What a text is confused with depends on its characters alone
(`Filter.plan_confusable_congr`). `Database.search_confusable` puts this together. A text of up to
16382 different characters is taken (`Database.takes_confusable_iff`), one of more is an error
(`Database.search_confusable_of_card`). -/

namespace CharAtlas

/-- The same write, a pair perhaps the other way round. -/
inductive Write.Turned : Write → Write → Prop
  | same (w : Write) : Turned w w
  | swapped (p : ConfusablePair) : Turned (.confusable p) (.confusable p.swap)

namespace Database
variable {db db' : Database} {p q : ConfusablePair} {w w' : Write} {ws ws' : List Write} {m n : Nat}

/-! ### What is paired -/

theorem paired_after_confusable : (db.after (.confusable p)).Paired m n ↔
    db.Paired m n ∨ (⟨m, n⟩ = p ∨ ⟨n, m⟩ = p) ∧ p.IsValid ∧ db.isOpen = true := by
  obtain ⟨pairs, hafter, hpairs⟩ := exists_after_confusable db p
  rw [hafter]
  unfold Paired
  simp only [hpairs]
  constructor
  · rintro ((h | ⟨rfl, h⟩) | h | ⟨rfl, h⟩)
    · exact .inl (.inl h)
    · exact .inr ⟨.inl rfl, h⟩
    · exact .inl (.inr h)
    · exact .inr ⟨.inr rfl, h⟩
  · rintro ((h | h) | ⟨rfl | rfl, h⟩)
    · exact .inl (.inl h)
    · exact .inr (.inl h)
    · exact .inl (.inr ⟨rfl, h⟩)
    · exact .inr (.inr ⟨rfl, h⟩)

theorem paired_afterAll : (empty.afterAll ws).Paired m n ↔
    empty.Accepts ws ⟨m, n⟩ ∨ empty.Accepts ws ⟨n, m⟩ := by
  unfold Paired
  rw [mem_confusables_afterAll, mem_confusables_afterAll]
  exact or_congr (or_iff_right List.not_mem_nil) (or_iff_right List.not_mem_nil)

/-- Nothing but the pairs differs, and these only in direction and number. -/
structure Alike (db db' : Database) : Prop where
  rest : ∃ pairs, db' = { db with confusables := pairs }
  paired : ∀ m n, db'.Paired m n ↔ db.Paired m n

namespace Alike

theorem refl (db : Database) : Alike db db :=
  ⟨⟨_, rfl⟩, fun _ _ => Iff.rfl⟩

theorem after_confusable (h : Alike db db') (hpq : ∀ m n,
      (⟨m, n⟩ = q ∨ ⟨n, m⟩ = q) ↔ (⟨m, n⟩ = p ∨ ⟨n, m⟩ = p)) (hvalid : q.IsValid ↔ p.IsValid) :
    Alike (db.after (.confusable p)) (db'.after (.confusable q)) where
  rest := by
    obtain ⟨_, rfl⟩ := h.rest
    obtain ⟨pairs, hafter, -⟩ := exists_after_confusable db p
    obtain ⟨pairs', hafter', -⟩ := exists_after_confusable { db with confusables := _ } q
    exact ⟨pairs', by rw [hafter', hafter]⟩
  paired m n := by
    have hopen : db'.isOpen = db.isOpen := by
      obtain ⟨_, rfl⟩ := h.rest
      rfl
    rw [paired_after_confusable, paired_after_confusable, h.paired, hpq, hvalid, hopen]

theorem after_of_ne_confusable (h : Alike db db') (hw : ∀ p, w ≠ .confusable p) :
    Alike (db.after w) (db'.after w) where
  rest := by
    obtain ⟨pairs, rfl⟩ := h.rest
    exact ⟨pairs, after_with_confusables hw pairs⟩
  paired m n := by
    have hpaired := h.paired m n
    unfold Paired at hpaired ⊢
    rwa [confusables_after hw, confusables_after hw]

theorem after (h : Alike db db') (hw : w.Turned w') : Alike (db.after w) (db'.after w') := by
  cases hw with
  | same =>
    cases w with
    | confusable p => exact h.after_confusable (fun _ _ => Iff.rfl) Iff.rfl
    | _ => exact h.after_of_ne_confusable fun _ => nofun
  | swapped p =>
    refine h.after_confusable (fun m n => ?_) ConfusablePair.isValid_swap_iff
    obtain ⟨a, b⟩ := p
    simp only [ConfusablePair.swap, ConfusablePair.mk.injEq]
    rw [or_comm, and_comm, and_comm (a := m = b)]

theorem afterAll (h : Alike db db') (hws : List.Forall₂ Write.Turned ws ws') :
    Alike (db.afterAll ws) (db'.afterAll ws') := by
  induction hws generalizing db db' with
  | nil => exact h
  | cons hw _ ih => exact ih (h.after hw)

theorem sameRows (h : Alike db db') : SameRows db db' := by
  obtain ⟨pairs, rfl⟩ := h.rest
  exact ⟨rfl, rfl, rfl⟩

theorem favorites (h : Alike db db') : db'.favorites = db.favorites := by
  obtain ⟨pairs, rfl⟩ := h.rest
  rfl

end Alike

/-- A pair that was accepted before makes no difference. -/
theorem afterAll_confusable_again {before after : List Write} (h : db.Accepts before p) :
    db.afterAll (before ++ .confusable p :: after) = db.afterAll (before ++ after) := by
  have hmem : p ∈ (db.afterAll before).confusables := mem_confusables_afterAll.2 (.inr h)
  have hagain := after_confusable_of_mem hmem
  rw [afterAll_append, afterAll_append]
  show ((db.afterAll before).after (.confusable p)).afterAll after = _
  rw [hagain]

end Database

/-! ### Answers of databases that are alike -/

namespace Filter
variable {db db' : Database} {c : StoredCharacter} {f : Filter} {catalog : Catalog}
  {user : Option String} {names : Nat → Option String} {k : Condition}

theorem Asks.holds_alike (h : Database.Alike db db') (hk : f.Asks catalog user names k) :
    k.holds db' c = some true ↔ k.holds db c = some true := by
  cases hk with
  | selection hd hc => rw [(isLocal_selectionCondition _ _).holds_eq h.sameRows]
  | confusable ht hk =>
    rw [confusableTextCondition?_holds_iff hk, confusableTextCondition?_holds_iff hk]
    simp only [h.paired]
  | search ht => rw [(isLocal_searchCondition _).holds_eq h.sameRows]
  | property hp hk =>
    rw [Condition.holds_congr h.sameRows c
      (fun hpairs => absurd hpairs (not_readsPairs_propertyCondition hk)) fun u _ n => ?_]
    rw [h.favorites]

end Filter

namespace Database
variable {db db' : Database} {catalog : Catalog} {text : String} {f : Filter} {user : Option String}
  {r : Paging}

/-- Databases that are alike answer every text alike. -/
theorem search_alike (h : Alike db db') (catalog : Catalog) (text : String) (user : Option String)
    (r : Paging) : db'.search catalog text user r = db.search catalog text user r := by
  exact search_congr h.sameRows r fun f names k _ hk c _ => hk.holds_alike h

end Database

/-! ### Texts to be confused with -/

namespace Filter
variable {catalog : Catalog} {user : Option String} {names : Nat → Option String} {negated : Bool}
  {t t' : String}

theorem unitsOf_congr (h : ∀ u, u ∈ (Text.trim t).toList ↔ u ∈ (Text.trim t').toList) :
    unitsOf t = unitsOf t' := by
  refine OrderedSet.ext fun n => ?_
  rw [← OrderedSet.mem_toList, ← OrderedSet.mem_toList, mem_unitsOf, mem_unitsOf]
  simp only [h]

theorem length_params_confusableText (hk : confusableTextCondition? negated t = some k) :
    k.params.length = 2 * (Text.trim t).toList.toFinset.card := by
  unfold confusableTextCondition? at hk
  simp only [Option.ite_none_left_eq_some, Option.some.injEq] at hk
  obtain ⟨-, rfl⟩ := hk
  rw [← size_unitsOf]
  unfold confusableCondition
  cases negated
  · show ((unitsOf t).toList.map _ ++ (unitsOf t).toList.map _).length = 2 * (unitsOf t).toList.length
    rw [List.length_append, List.length_map]
    omega
  · show ((unitsOf t).toList.map _ ++ (unitsOf t).toList.map _).length = 2 * (unitsOf t).toList.length
    rw [List.length_append, List.length_map]
    omega

/-- Each character of the text is bound twice. -/
theorem fits_confusable_iff {db : Database} {key : SortKey} (ht : Text.trim t ≠ "") :
    Fits [.confusable negated t] db catalog user key ↔
      (Text.trim t).toList.toFinset.card ≤ 16382 := by
  obtain ⟨k, hk⟩ := Option.ne_none_iff_exists'.1
    (mt confusableTextCondition?_eq_none_iff.1 ht : confusableTextCondition? negated t ≠ none)
  have hquery : ∃ q, Filter.plan [.confusable negated t] catalog user db.nameOf = .ok (.query q) := by
    refine exists_plan_eq_query_iff.2 ⟨fun d => ?_, fun _ b hb => ?_⟩
    · cases negated <;> exact nofun
    · cases negated <;> cases List.mem_singleton.1 hb
  have hterms : searchTerms [.confusable negated t] = [] := by cases negated <;> rfl
  have hnil : orderParams (key.criteria .asc none) = [] := by cases key <;> rfl
  rw [fits_singleton_iff hquery (k := k) fun k' => by
      rw [asks_confusable_iff, hk, Option.some.injEq, eq_comm],
    length_params_confusableText hk, hterms]
  show _ + (orderParams (key.criteria .asc none)).length + 2 ≤ 32766 ↔ _
  rw [hnil, List.length_nil]
  omega

theorem filterMap_congr_clause {β : Type} {make? : Clause → Option β} {c c' : Clause}
    (h : make? c = make? c') (before after : Filter) :
    (before ++ c :: after).filterMap make? = (before ++ c' :: after).filterMap make? := by
  rw [List.filterMap_append, List.filterMap_append, List.filterMap_cons, List.filterMap_cons, h]

theorem plan_confusable_congr (h : unitsOf t = unitsOf t') (before after : Filter) :
    (before ++ .confusable negated t :: after).plan catalog user names =
      (before ++ .confusable negated t' :: after).plan catalog user names := by
  have hsel : ∀ t, (before ++ .confusable negated t :: after).selections =
      (before ++ after).selections :=
    fun t => selectionsFrom_of_unselective (fun d => by cases negated <;> rfl) [] before after
  have hcond : confusableCondition? (.confusable negated t) =
      confusableCondition? (.confusable negated t') := by
    cases negated <;>
    · show confusableTextCondition? _ t = confusableTextCondition? _ t'
      unfold confusableTextCondition?
      rw [h]
  have hother : ∀ {β : Type} {make? : Clause → Option β},
      (∀ t, make? (.confusable negated t) = none) →
        (before ++ .confusable negated t :: after).filterMap make? =
          (before ++ .confusable negated t' :: after).filterMap make? :=
    fun hnone => filterMap_congr_clause ((hnone t).trans (hnone t').symm) before after
  exact plan_congr_of_selections ((hsel t).trans (hsel t').symm)
    (filterMap_congr_clause hcond before after) (hother fun _ => by cases negated <;> rfl)
    (hother fun _ => by cases negated <;> rfl)

theorem namedCodepoints_confusable (t t' : String) (before after : Filter) :
    (before ++ .confusable negated t :: after).namedCodepoints =
      (before ++ .confusable negated t' :: after).namedCodepoints := by
  have hterms : (before ++ .confusable negated t :: after).searchTerms =
      (before ++ .confusable negated t' :: after).searchTerms :=
    filterMap_congr_clause (by cases negated <;> rfl) before after
  unfold namedCodepoints
  rw [hterms]

end Filter

namespace Database
variable {db : Database} {catalog : Catalog} {user : Option String} {r : Paging} {negated : Bool}
  {t t' : String} {ws ws' : List Write} {c : StoredCharacter}

/-- Which characters a text has, however often and in which order, is all that matters. -/
theorem search_confusable_congr (ht : ',' ∉ t.toList) (ht' : ',' ∉ t'.toList)
    (h : ∀ u, u ∈ (Text.trim t).toList ↔ u ∈ (Text.trim t').toList) (before after : List String) :
    db.search catalog (",".intercalate (before ++ (Clause.confusable negated t).text :: after)) user
        r =
      db.search catalog (",".intercalate (before ++ (Clause.confusable negated t').text :: after))
        user r := by
  have hunits : Filter.unitsOf (String.ofList (Text.trimEnd Text.isBlank t.toList)) =
      Filter.unitsOf (String.ofList (Text.trimEnd Text.isBlank t'.toList)) :=
    Filter.unitsOf_congr fun u => by rw [Text.trim_trimEnd, Text.trim_trimEnd, h]
  unfold search
  rw [Filter.ofText_among (Filter.ofText_confusable negated ht),
    Filter.ofText_among (Filter.ofText_confusable negated ht')]
  simp only [bind_assoc]
  refine bind_congr fun f => bind_congr fun g => ?_
  have hnamed := @Filter.namedCodepoints_confusable negated
    (String.ofList (Text.trimEnd Text.isBlank t.toList))
    (String.ofList (Text.trimEnd Text.isBlank t'.toList)) f g
  have hplan := fun names => @Filter.plan_confusable_congr catalog user names negated _ _ hunits f g
  show (Except.ok (f ++ .confusable negated _ :: g) >>= _) =
    (Except.ok (f ++ .confusable negated _ :: g) >>= _)
  simp only [bind, Except.bind, hnamed, hplan]

/-- What an open database answers to a text to be confused with. -/
theorem exists_answers_confusable (hopen : db.isOpen = true) (catalog : Catalog)
    (user : Option String) (hcomma : ',' ∉ t.toList) (ht : Text.trim t ≠ "") :
    ∃ rows, db.AnswersIfTaken catalog (Clause.text (.confusableWith t)) user rows ∧
      ∀ c, c ∈ rows ↔ c ∈ db.characters.rows ∧
        ∃ u ∈ (Text.trim t).toList, db.Paired c.codepoint u.toNat := by
  rw [← Text.trim_trimEnd] at ht ⊢
  have hread := Filter.ofText_confusable false hcomma
  have hdecides := @Filter.decides_confusable db catalog user _ ht
  have hans := @Filter.Decides.isAnswered_singleton _ _ _ _ _ false hdecides hopen
  refine ⟨_, answersIfTaken_matched hread hans, fun c => ?_⟩
  rw [mem_matched_iff hans, hdecides.matches_singleton, iff_true_right rfl]

theorem takes_confusable_iff (hcomma : ',' ∉ t.toList) (ht : Text.trim t ≠ "") (catalog : Catalog)
    (user : Option String) (key : SortKey) :
    db.Takes catalog (Clause.text (.confusableWith t)) user key ↔
      (Text.trim t).toList.toFinset.card ≤ 16382 := by
  rw [← Text.trim_trimEnd] at ht ⊢
  exact (takes_iff (Filter.ofText_confusable false hcomma)).trans (Filter.fits_confusable_iff ht)

/-- A text that is not taken has too many values. -/
theorem search_confusable_of_card (hopen : db.isOpen = true) (catalog : Catalog)
    (user : Option String) (hcomma : ',' ∉ t.toList) (ht : Text.trim t ≠ "")
    (hcard : 16382 < (Text.trim t).toList.toFinset.card) (r : Paging) :
    db.search catalog (Clause.text (.confusableWith t)) user r = .error (.store .tooManyValues) := by
  have hread := Filter.ofText_confusable false hcomma
  refine search_singleton_of_not_fits hopen hread ?_
  rw [← takes_iff hread]
  exact mt (takes_confusable_iff hcomma ht catalog user r.sort).1 (Nat.not_le_of_lt hcard)

/-- A character is confused with a text if it was paired, in either direction and with success, with
some character of the text; the engine takes texts of up to 16382 different characters, in every order,
and answers with the characters that are. So of two characters each is found by the other or neither is. Pairs
written the other way round or once more make no difference to any answer, and neither does how often
and in which order the characters of a text occur. -/
theorem search_confusable (hws : .close ∉ ws) (catalog : Catalog) (user : Option String) :
    (∀ t, ',' ∉ t.toList → Text.trim t ≠ "" → ∃ rows,
      (empty.afterAll ws).AnswersIfTaken catalog ("confusableWith:" ++ t) user rows ∧
      (∀ key, (empty.afterAll ws).Takes catalog ("confusableWith:" ++ t) user key ↔
        (Text.trim t).toList.toFinset.card ≤ 16382) ∧
      ((Text.trim t).toList.toFinset.card ≤ 16382 →
        (empty.afterAll ws).Answers catalog ("confusableWith:" ++ t) user rows) ∧
      ∀ c, c ∈ rows ↔ c ∈ (empty.afterAll ws).characters.rows ∧ ∃ u ∈ (Text.trim t).toList,
        empty.Accepts ws ⟨c.codepoint, u.toNat⟩ ∨ empty.Accepts ws ⟨u.toNat, c.codepoint⟩) ∧
    (∀ a b : Char, a ≠ ',' → b ≠ ',' → Text.isBlank a = false → Text.isBlank b = false →
      ∀ c ∈ (empty.afterAll ws).characters.rows, ∀ d ∈ (empty.afterAll ws).characters.rows,
        c.codepoint = a.toNat → d.codepoint = b.toNat → ∀ rows rows',
          (empty.afterAll ws).Answers catalog ("confusableWith:" ++ String.singleton a) user rows →
          (empty.afterAll ws).Answers catalog ("confusableWith:" ++ String.singleton b) user rows' →
            (d ∈ rows ↔ c ∈ rows')) ∧
    (∀ ws', List.Forall₂ Write.Turned ws ws' → ∀ text r,
      (empty.afterAll ws').search catalog text user r =
        (empty.afterAll ws).search catalog text user r) ∧
    (∀ before after p, ws = before ++ after → empty.Accepts before p → ∀ text r,
      (empty.afterAll (before ++ .confusable p :: after)).search catalog text user r =
        (empty.afterAll ws).search catalog text user r) ∧
    ∀ negated t t', ',' ∉ t.toList → ',' ∉ t'.toList →
      (∀ u, u ∈ (Text.trim t).toList ↔ u ∈ (Text.trim t').toList) → ∀ before after r,
        (empty.afterAll ws).search catalog
            (",".intercalate (before ++ (Clause.confusable negated t).text :: after)) user r =
          (empty.afterAll ws).search catalog
            (",".intercalate (before ++ (Clause.confusable negated t').text :: after)) user r := by
  have hopen : (empty.afterAll ws).isOpen = true := isOpen_afterAll hws
  have hcons : Consistent (empty.afterAll ws) := Consistent.empty.afterAll ws
  refine ⟨fun t hcomma ht => ?_, fun a b ha hb hba hbb c hc d hd hca hdb rows rows' hrows hrows' => ?_,
    fun ws' hturned text r => ?_, ?_, fun negated t t' ht ht' h before after r => ?_⟩
  · obtain ⟨rows, hrows, hmem⟩ := exists_answers_confusable hopen catalog user hcomma ht
    simp only [paired_afterAll] at hmem
    have htakes := @takes_confusable_iff (empty.afterAll ws) _ hcomma ht catalog user
    exact ⟨rows, hrows, htakes, fun hcard => hrows.answers .codepoint ((htakes _).2 hcard), hmem⟩
  · -- the rows of an answer are the ones that are paired with the character
    have hfound : ∀ a : Char, a ≠ ',' → Text.isBlank a = false → ∀ rows,
        (empty.afterAll ws).Answers catalog ("confusableWith:" ++ String.singleton a) user rows →
          ∀ c ∈ (empty.afterAll ws).characters.rows,
            (c ∈ rows ↔ (empty.afterAll ws).Paired c.codepoint a.toNat) := by
      intro a ha hblank rows hrows c hc
      have htrim := Text.trim_singleton hblank
      have hcomma : ',' ∉ (String.singleton a).toList := by simpa using ha.symm
      obtain ⟨found, hans, hmem⟩ := exists_answers_confusable hopen catalog user hcomma
        (by rw [htrim]; simp)
      have htakes : (empty.afterAll ws).Takes catalog ("confusableWith:" ++ String.singleton a) user
          .codepoint :=
        (takes_confusable_iff hcomma (by rw [htrim]; simp) ..).2 (by rw [htrim]; simp)
      rw [(hrows.perm hcons (hans.answers _ htakes)).mem_iff, hmem, htrim]
      simp [hc]
    rw [hfound a ha hba rows hrows d hd, hfound b hb hbb rows' hrows' c hc, hca, hdb]
    exact or_comm
  · exact search_alike ((Alike.refl empty).afterAll hturned) catalog text user r
  · rintro before after p rfl hp text r
    rw [afterAll_confusable_again hp]
  · exact search_confusable_congr ht ht' h before after

/-- The pair of `threeLetters` the other way round and again, and a text that repeats a character. -/
theorem search_confusable_threeLetters :
    .close ∉ threeLetters ∧
    (∃ rows, (empty.afterAll threeLetters).Answers ⟨fun _ => []⟩ "confusableWith: A" none rows ∧
      ∃ c ∈ rows, c.codepoint = 0x391) ∧
    (∀ text r, (empty.afterAll (threeLetters.take 3 ++ [.confusable ⟨0x41, 0x391⟩])).search
      ⟨fun _ => []⟩ text none r = (empty.afterAll threeLetters).search ⟨fun _ => []⟩ text none r) ∧
    (∀ text r, (empty.afterAll (threeLetters ++ [.confusable ⟨0x391, 0x41⟩])).search
      ⟨fun _ => []⟩ text none r = (empty.afterAll threeLetters).search ⟨fun _ => []⟩ text none r) ∧
    ∀ r, (empty.afterAll threeLetters).search ⟨fun _ => []⟩ "notConfusableWith:ABA,hasName" none r =
      (empty.afterAll threeLetters).search ⟨fun _ => []⟩ "notConfusableWith:BA,hasName" none r := by
  have hws : .close ∉ threeLetters := by simp [threeLetters]
  obtain ⟨hfound, -, hturned, hagain, hchars⟩ := search_confusable hws ⟨fun _ => []⟩ none
  have haccepted : empty.Accepts threeLetters ⟨0x391, 0x41⟩ :=
    ⟨threeLetters.take 3, [], rfl, _, rfl⟩
  refine ⟨hws, ?_, hturned _ ?_, hagain threeLetters [] _ (by simp) haccepted, ?_⟩
  · obtain ⟨rows, -, -, hrows, hmem⟩ := hfound " A" (by decide) (by decide)
    have hrow : ∃ c ∈ (empty.afterAll threeLetters).characters.rows, c.codepoint = 0x391 := by
      decide +kernel
    obtain ⟨c, hc, hcode⟩ := hrow
    refine ⟨rows, hrows (by decide), c, (hmem c).2 ⟨hc, 'A', by decide, .inl ?_⟩, hcode⟩
    rw [hcode]
    exact haccepted
  · exact .cons (.same _) (.cons (.same _) (.cons (.same _) (.cons (.swapped ⟨0x391, 0x41⟩) .nil)))
  · have hchar : ∀ u, u ∈ (Text.trim "ABA").toList ↔ u ∈ (Text.trim "BA").toList := by
      have hleft : (Text.trim "ABA").toList = ['A', 'B', 'A'] := by decide
      have hright : (Text.trim "BA").toList = ['B', 'A'] := by decide
      intro u
      rw [hleft, hright]
      simp only [List.mem_cons, List.not_mem_nil, or_false]
      exact ⟨fun h => h.elim .inr id, .inr⟩
    exact hchars true "ABA" "BA" (by decide) (by decide) hchar [] ["hasName"]

/-- So many ideographs, all of them different. -/
def ideographText : String :=
  String.ofList ((List.range' 0x4E00 16384).map Char.ofNat)

/-- A letter and its pair with the first of the ideographs. -/
def letterAndIdeograph : List Write :=
  [.character { codepoint := 0x41 }, .confusable ⟨0x41, 0x4E00⟩]

theorem map_toNat_ideographText :
    ideographText.toList.map Char.toNat = List.range' 0x4E00 16384 := by
  unfold ideographText
  rw [String.toList_ofList, List.map_map]
  refine (List.map_congr_left fun n hn => ?_).trans (List.map_id _)
  have hvalid : n.isValidChar := .inl (by rw [List.mem_range'_1] at hn; omega)
  have hchar : Char.ofNat n = Char.ofNatAux n hvalid := dif_pos hvalid
  exact congrArg Char.toNat hchar

/-- The letter was paired with a character of the text, but the text is an error. -/
theorem search_confusable_ideographText :
    .close ∉ letterAndIdeograph ∧ ',' ∉ ideographText.toList ∧ Text.trim ideographText ≠ "" ∧
    (∃ c ∈ (empty.afterAll letterAndIdeograph).characters.rows,
      ∃ u ∈ (Text.trim ideographText).toList,
        empty.Accepts letterAndIdeograph ⟨c.codepoint, u.toNat⟩) ∧
    (empty.afterAll letterAndIdeograph).search ⟨fun _ => []⟩ ("confusableWith:" ++ ideographText)
      none {} = .error (.store .tooManyValues) := by
  have hws : .close ∉ letterAndIdeograph := by simp [letterAndIdeograph]
  have hcode : ∀ u ∈ ideographText.toList, 0x4E00 ≤ u.toNat := by
    intro u hu
    have hmem := List.mem_map_of_mem (f := Char.toNat) hu
    rw [map_toNat_ideographText, List.mem_range'_1] at hmem
    exact hmem.1
  have hcomma : ',' ∉ ideographText.toList := fun h => absurd (hcode _ h) (by decide)
  have hblank : ∀ u ∈ ideographText.toList, Text.isBlank u = false := by
    intro u hu
    have hle := hcode u hu
    simp only [Text.isBlank, Bool.or_eq_false_iff, Bool.and_eq_false_iff, decide_eq_false_iff_not,
      beq_eq_false_iff_ne]
    omega
  have htrim : Text.trim ideographText = ideographText :=
    Text.trim_eq_self_iff.2 (Text.hasNoBlankEnds_of_forall hblank)
  have hnodup : ideographText.toList.Nodup := by
    refine List.Nodup.of_map Char.toNat ?_
    rw [map_toNat_ideographText]
    exact List.nodup_range'
  have hlength : ideographText.toList.length = 16384 := by
    rw [← List.length_map Char.toNat, map_toNat_ideographText, List.length_range']
  have hfirst : ∃ u ∈ ideographText.toList, u.toNat = 0x4E00 := by
    rw [← List.mem_map, map_toNat_ideographText, List.mem_range'_1]
    omega
  have hrow : ∃ c ∈ (empty.afterAll letterAndIdeograph).characters.rows, c.codepoint = 0x41 := by
    decide +kernel
  obtain ⟨c, hc, hletter⟩ := hrow
  obtain ⟨u, hu, hideograph⟩ := hfirst
  have hne : Text.trim ideographText ≠ "" := by
    rw [htrim]
    intro hnil
    rw [hnil] at hlength
    cases hlength
  refine ⟨hws, hcomma, hne, ⟨c, hc, u, by rwa [htrim], ?_⟩,
    search_confusable_of_card (isOpen_afterAll hws) _ _ hcomma hne ?_ _⟩
  · rw [hletter, hideograph]
    exact ⟨letterAndIdeograph.take 1, [], rfl, _, rfl⟩
  · rw [htrim, List.toFinset_card_of_nodup hnodup, hlength]
    decide

end Database
end CharAtlas
