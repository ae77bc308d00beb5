import CharAtlas.Proofs.Filter.Joined
import CharAtlas.Proofs.Query.Answer
import CharAtlas.Proofs.Query.Matches
import CharAtlas.Proofs.Query.Taken

/-! # Filters that have to hold together

Of filters that are apart, both put together match the rows that each matches
(`Filter.matches_append`), and their texts with a comma between them are answered with the rows that
answer both (`Database.search_joined`), whichever comes first. The engine may take either but not both
of them at once (`Database.search_joined_dashes`). -/

namespace CharAtlas

namespace Filter
variable {f g : Filter} {db : Database} {catalog : Catalog} {user : Option String}
  {names : Nat → Option String} {c : StoredCharacter} {k : Condition}

/-- More clauses ask for more, as long as the selections that count are the same. -/
theorem Asks.mono (hsub : ∀ c ∈ f, c ∈ g)
    (hsel : ∀ d values, f.firstSelection d = some values → g.firstSelection d = some values)
    (hk : f.Asks catalog user names k) : g.Asks catalog user names k := by
  cases hk with
  | selection hd hc => exact .selection (hsel _ _ hd) hc
  | confusable ht hk =>
    obtain ⟨c, hc, he⟩ := List.mem_filterMap.1 ht
    exact .confusable (List.mem_filterMap.2 ⟨c, hsub c hc, he⟩) hk
  | search ht =>
    obtain ⟨c, hc, he⟩ := List.mem_filterMap.1 ht
    exact .search (List.mem_filterMap.2 ⟨c, hsub c hc, he⟩)
  | property hp hk => exact .property (hsub _ hp) hk

/-- Nothing is asked for but what one of the two asks for, however the conditions are arranged. -/
theorem asks_append (h : f.Apart g) : (f ++ g).Asks catalog user names k ↔
    f.Asks catalog user names k ∨ g.Asks catalog user names k := by
  constructor
  · intro hk
    cases hk with
    | selection hd hc =>
      rcases (firstSelection_append_eq_some_iff h).1 hd with hd | hd
      · exact .inl (.selection hd hc)
      · exact .inr (.selection hd hc)
    | confusable ht hk =>
      rw [List.filterMap_append] at ht
      rcases List.mem_append.1 ht with ht | ht
      · exact .inl (.confusable ht hk)
      · exact .inr (.confusable ht hk)
    | search ht =>
      rw [searchTerms_append] at ht
      rcases List.mem_append.1 ht with ht | ht
      · exact .inl (.search ht)
      · exact .inr (.search ht)
    | property hp hk =>
      rcases List.mem_append.1 hp with hp | hp
      · exact .inl (.property hp hk)
      · exact .inr (.property hp hk)
  · rintro (hk | hk)
    · exact hk.mono (fun _ => List.mem_append_left _) fun d values hd =>
        (firstSelection_append_eq_some_iff h).2 (.inl hd)
    · exact hk.mono (fun _ => List.mem_append_right _) fun d values hd =>
        (firstSelection_append_eq_some_iff h).2 (.inr hd)

theorem selectsNothing_append (h : f.Apart g) :
    (f ++ g).SelectsNothing ↔ f.SelectsNothing ∨ g.SelectsNothing := by
  unfold SelectsNothing
  simp only [firstSelection_append_eq_some_iff h, exists_or]

theorem namedCodepoints_append_eq_nil (hf : f.namedCodepoints.toList = [])
    (hg : g.namedCodepoints.toList = []) : (f ++ g).namedCodepoints.toList = [] := by
  rw [List.eq_nil_iff_forall_not_mem] at *
  intro n hn
  obtain ⟨t, ht, htn⟩ := mem_namedCodepoints_iff.1 hn
  rw [searchTerms_append] at ht
  rcases List.mem_append.1 ht with ht | ht
  · exact hf n (mem_namedCodepoints_iff.2 ⟨t, ht, htn⟩)
  · exact hg n (mem_namedCodepoints_iff.2 ⟨t, ht, htn⟩)

theorem IsAnswered.append (hf : f.IsAnswered db user) (hg : g.IsAnswered db user) (h : f.Apart g) :
    (f ++ g).IsAnswered db user where
  named := by
    rcases hf.named with hopen | hf
    · exact .inl hopen
    · exact hg.named.imp_right (namedCodepoints_append_eq_nil hf)
  asked := by
    rw [selectsNothing_append h]
    rcases hf.asked with hf | ⟨hopen, hf⟩
    · exact .inl (.inl hf)
    · refine hg.asked.imp .inr fun ⟨_, hg⟩ => ⟨hopen, fun huser negated hc => ?_⟩
      rcases List.mem_append.1 hc with hc | hc
      · exact hf huser negated hc
      · exact hg huser negated hc

theorem matches_append (h : f.Apart g) : (f ++ g).Matches db catalog user c ↔
    f.Matches db catalog user c ∧ g.Matches db catalog user c := by
  constructor
  · intro hm
    obtain ⟨hsf, hsg⟩ := not_or.1 (mt (selectsNothing_append h).2 hm.selects)
    exact ⟨⟨hm.stored, hsf, fun k hk => hm.holds k ((asks_append h).2 (.inl hk))⟩,
      ⟨hm.stored, hsg, fun k hk => hm.holds k ((asks_append h).2 (.inr hk))⟩⟩
  · rintro ⟨hf, hg⟩
    refine ⟨hf.stored, fun hs => ?_, fun k hk => ?_⟩
    · exact ((selectsNothing_append h).1 hs).elim hf.selects hg.selects
    · exact ((asks_append h).1 hk).elim (hf.holds k) (hg.holds k)

end Filter

namespace Database
variable {db : Database} {catalog : Catalog} {user : Option String} {s t : String} {f g : Filter}

theorem matched_append_perm (hf : f.IsAnswered db user) (hg : g.IsAnswered db user)
    (h : f.Apart g) : (db.matched catalog user (f ++ g)).Perm
      (db.matched catalog user f ∩ db.matched catalog user g) := by
  refine (List.perm_ext_iff_of_nodup (matched_nodup ..)
    ((matched_nodup ..).inter _)).2 fun c => ?_
  rw [List.mem_inter_iff, mem_matched_iff (hf.append hg h), mem_matched_iff hf, mem_matched_iff hg,
    Filter.matches_append h]

/-- Filters that are apart and can be answered are answered together, with the rows of both. -/
theorem answersIfTaken_joined (hf : Filter.ofText s = .ok f) (hg : Filter.ofText t = .ok g)
    (hfa : f.IsAnswered db user) (hga : g.IsAnswered db user) (h : f.Apart g) :
    db.AnswersIfTaken catalog (s ++ "," ++ t) user
      (db.matched catalog user f ∩ db.matched catalog user g) :=
  (answersIfTaken_matched (Filter.ofText_joined hf hg) (hfa.append hga h)).of_perm
    (matched_append_perm hfa hga h)

theorem answers_nil_of_selectsNothing (hf : Filter.ofText s = .ok f) (hopen : db.isOpen = true)
    (hs : f.SelectsNothing) : db.Answers catalog s user [] := by
  have hans : f.IsAnswered db user := ⟨.inl hopen, .inl hs⟩
  have hmatched : db.matched catalog user f = [] := matched_of_selectsNothing hs
  have htakes : db.Takes catalog s user .codepoint :=
    (takes_iff hf).2 (Filter.fits_of_selectsNothing hs)
  exact hmatched ▸ answers_matched hf hans htakes

/-- If both of two filters with no dimension in common are answered, so are their texts joined by a
comma, in either order, with the rows that both match, provided that the engine takes the joined text;
otherwise it is an error. If one of the filters selects nothing, an open database answers with no
rows, whatever the other asks for. -/
theorem search_joined (hf : Filter.ofText s = .ok f) (hg : Filter.ofText t = .ok g)
    (h : f.Apart g) :
    (∀ r r' p p', db.search catalog s user r = .ok p → db.search catalog t user r' = .ok p' →
      ∃ rows rows', db.Answers catalog s user rows ∧ db.Answers catalog t user rows' ∧
        (∀ c, c ∈ rows ↔ f.Matches db catalog user c) ∧
        (∀ c, c ∈ rows' ↔ g.Matches db catalog user c) ∧
        db.AnswersIfTaken catalog (s ++ "," ++ t) user (rows ∩ rows') ∧
        db.AnswersIfTaken catalog (t ++ "," ++ s) user (rows ∩ rows')) ∧
    (db.isOpen = true → f.SelectsNothing ∨ g.SelectsNothing →
      db.Answers catalog (s ++ "," ++ t) user [] ∧ db.Answers catalog (t ++ "," ++ s) user []) := by
  refine ⟨fun r r' p p' hp hp' => ?_, fun hopen hs => ?_⟩
  · have hfa := isAnswered_of_search hf hp
    have hga := isAnswered_of_search hg hp'
    refine ⟨_, _, answers_matched hf hfa (takes_of_search hp), answers_matched hg hga
      (takes_of_search hp'), fun c => mem_matched_iff hfa, fun c => mem_matched_iff hga,
      answersIfTaken_joined hf hg hfa hga h, ?_⟩
    refine (answersIfTaken_joined hg hf hga hfa h.symm).of_perm ?_
    refine (List.perm_ext_iff_of_nodup ((matched_nodup ..).inter _)
      ((matched_nodup ..).inter _)).2 fun c => ?_
    rw [List.mem_inter_iff, List.mem_inter_iff, and_comm]
  · exact ⟨answers_nil_of_selectsNothing (Filter.ofText_joined hf hg) hopen
      ((Filter.selectsNothing_append h).2 hs),
      answers_nil_of_selectsNothing (Filter.ofText_joined hg hf) hopen
        ((Filter.selectsNothing_append h.symm).2 hs.symm)⟩

/-- An empty selection comes first even where favorites are asked for without a user. -/
theorem search_joined_threeLetters :
    (∃ rows rows',
      (empty.afterAll threeLetters).Answers ⟨fun _ => []⟩ "scripts:Latin|Greek" none rows ∧
      (empty.afterAll threeLetters).Answers ⟨fun _ => []⟩ "confusableWith:A" none rows' ∧
      (empty.afterAll threeLetters).Answers ⟨fun _ => []⟩
        ("scripts:Latin|Greek" ++ "," ++ "confusableWith:A") none (rows ∩ rows') ∧
      (empty.afterAll threeLetters).Answers ⟨fun _ => []⟩
        ("confusableWith:A" ++ "," ++ "scripts:Latin|Greek") none (rows ∩ rows')) ∧
    (empty.afterAll threeLetters).Answers ⟨fun _ => []⟩
      ("favorited" ++ "," ++ "scripts:") none [] := by
  have hopen : (empty.afterAll threeLetters).isOpen = true := by decide +kernel
  have hscripts : Filter.ofText "scripts:Latin|Greek" =
      .ok [.members .scripts ["Latin", "Greek"]] := by decide +kernel
  have hlike : Filter.ofText "confusableWith:A" = .ok [.confusableWith "A"] := by decide +kernel
  have hnone : Filter.ofText "scripts:" = .ok [.members .scripts []] := by decide +kernel
  have hmine : Filter.ofText "favorited" = .ok [.property .favorited false] := by decide +kernel
  obtain ⟨p, hp⟩ := @exists_search_eq_ok _ ⟨fun _ => []⟩ _ _ none {} hscripts hopen (by simp)
    (by decide +kernel)
  obtain ⟨p', hp'⟩ := @exists_search_eq_ok _ ⟨fun _ => []⟩ _ _ none {} hlike hopen (by simp)
    (by decide +kernel)
  obtain ⟨rows, rows', hrows, hrows', -, -, hjoined, hturned⟩ :=
    (search_joined hscripts hlike (Filter.apart_singleton fun _ => rfl)).1 _ _ _ _ hp hp'
  have hboth := hjoined.answers .codepoint (by decide +kernel)
  have hback := hturned.answers .codepoint (by decide +kernel)
  have hempty := (@search_joined _ ⟨fun _ => []⟩ none _ _ _ _ hnone hmine
    (Filter.apart_singleton fun _ => rfl)).2 hopen (.inl ⟨.scripts, rfl⟩)
  exact ⟨⟨rows, rows', hrows, hrows', hboth, hback⟩, hempty.2⟩

/-- Texts of 998 clauses and of one are answered, but not with a comma between them. -/
theorem search_joined_dashes :
    Filter.ofText (Filter.dashes 997 false).text = .ok (Filter.dashes 997 false) ∧
    Filter.ofText "isDash" = .ok [.property (.flag .dash) false] ∧
    (Filter.dashes 997 false).Apart [.property (.flag .dash) false] ∧
    ((empty.afterAll oneDash).search ⟨fun _ => []⟩ (Filter.dashes 997 false).text none {}).map
      (fun page => (page.characters.map (·.codepoint), page.total)) = .ok ([0x2D], 1) ∧
    ((empty.afterAll oneDash).search ⟨fun _ => []⟩ "isDash" none {}).map
      (fun page => (page.characters.map (·.codepoint), page.total)) = .ok ([0x2D], 1) ∧
    (empty.afterAll oneDash).search ⟨fun _ => []⟩ ((Filter.dashes 997 false).text ++ "," ++ "isDash")
      none {} = .error (.store .tooDeep) := by
  have hopen : (empty.afterAll oneDash).isOpen = true := by decide +kernel
  have hone : Filter.ofText "isDash" = .ok [.property (.flag .dash) false] := by decide +kernel
  have hmany := Filter.ofText_dashes 997 false
  have hboth := Filter.ofText_joined hmany hone
  rw [Filter.dashes_append] at hboth
  exact ⟨hmany, hone, Filter.apart_singleton fun _ => rfl, search_dashes_oneDash, by decide +kernel,
    search_dashes hopen hboth⟩

end Database
end CharAtlas
