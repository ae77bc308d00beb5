import CharAtlas.Proofs.Corpus.Table
import CharAtlas.Proofs.Query.Order
import CharAtlas.Proofs.Query.Plan

/-! # Pages of an answer

The names that are looked up beforehand are all that a plan needs (`Filter.plan_congr_names`), so an
open database answers a text by the plan that knows every name (`Database.search_of_isOpen`). The
pages of an answer are stretches of one list of the matching rows (`Database.runPlan_query`,
`Database.mem_sorted_iff`). It is answered if and only if the engine takes what it asks for
(`Database.exists_search_eq_ok`, `Database.search_of_not_fits`). -/

namespace CharAtlas

namespace Filter
variable {f : Filter} {catalog : Catalog} {user : Option String} {names names' : Nat → Option String}
  {n : Nat}

theorem mem_namedCodepoints_iff :
    n ∈ f.namedCodepoints.toList ↔ ∃ t ∈ f.searchTerms, t.codepoint = some n := by
  unfold namedCodepoints
  rw [OrderedSet.mem_toList, OrderedSet.mem_ofList, List.mem_filterMap]

theorem resolved_congr {t : SearchTerm} (ht : t ∈ f.searchTerms)
    (h : ∀ n ∈ f.namedCodepoints.toList, names n = names' n) : resolved names t = resolved names' t := by
  unfold resolved
  cases hc : t.codepoint with
  | none => rfl
  | some n => exact h n (mem_namedCodepoints_iff.2 ⟨t, ht, hc⟩)

/-- Other names than those that its search terms ask for do not matter to a plan. -/
theorem plan_congr_names (h : ∀ n ∈ f.namedCodepoints.toList, names n = names' n) :
    f.plan catalog user names = f.plan catalog user names' := by
  have hcondition : f.searchTerms.map (searchCondition names) =
      f.searchTerms.map (searchCondition names') := by
    refine List.map_congr_left fun t ht => ?_
    unfold searchCondition searchAnchor
    rw [resolved_congr ht h]
  have hanchor : f.searchTerms.getLast?.map (searchAnchor names) =
      f.searchTerms.getLast?.map (searchAnchor names') := by
    refine Option.map_congr fun t ht => ?_
    unfold searchAnchor
    rw [resolved_congr (List.mem_of_getLast? ht) h]
  unfold plan
  rw [hcondition, hanchor]

end Filter

namespace Database
variable {db : Database} {catalog : Catalog} {text : String} {f : Filter} {user : Option String}
  {r : Paging} {q : Query} {page : ResultPage} {c : StoredCharacter}

/-! ### Names -/

theorem readNames_of_isOpen (hopen : db.isOpen = true) (ns : List Nat) :
    db.readNames ns = .ok (ns.filterMap fun n => (db.nameOf n).map (n, ·)) := by
  have hread : ∀ n, db.readName n = .ok (db.nameOf n) := by
    intro n
    unfold readName access
    rw [if_pos hopen]
    rfl
  induction ns with
  | nil => rfl
  | cons n ns ih =>
    unfold readNames
    rw [hread, ih]
    cases hn : db.nameOf n with
    | none => simp [hn]
    | some name => simp [hn]

theorem lookup_names {names : Nat → Option String} {ns : List Nat} {n : Nat} (hn : n ∈ ns) :
    (ns.filterMap fun n => (names n).map (n, ·)).lookup n = names n := by
  -- a code point without a name is nowhere in the list
  have hnone : names n = none → ∀ ns : List Nat,
      (ns.filterMap fun n => (names n).map (n, ·)).lookup n = none := by
    intro hnone ns
    rw [List.lookup_eq_none_iff]
    intro e he
    obtain ⟨m, -, hm⟩ := List.mem_filterMap.1 he
    obtain ⟨name, hname, rfl⟩ := Option.map_eq_some_iff.1 hm
    have hne : n ≠ m := by
      rintro rfl
      rw [hnone] at hname
      cases hname
    simpa using hne
  induction ns with
  | nil => exact absurd hn List.not_mem_nil
  | cons m ns ih =>
    by_cases hmn : n = m
    · subst hmn
      cases hname : names n with
      | none => exact hnone hname _
      | some name => simp [hname]
    · have hmem : n ∈ ns := (List.mem_cons.1 hn).resolve_left hmn
      have hbeq : (n == m) = false := by simpa using hmn
      cases hname : names m with
      | none => simpa [hname] using ih hmem
      | some name => simpa [hname, List.lookup_cons, hbeq] using ih hmem

/-- An open database answers a text by the plan that is made with all names. -/
theorem search_of_isOpen (hf : Filter.ofText text = .ok f) (hopen : db.isOpen = true) :
    db.search catalog text user r = (f.plan catalog user db.nameOf).bind (db.runPlan r) := by
  rw [search_of_ofText hf, readNames_of_isOpen hopen]
  have hplan : f.plan catalog user
      ((f.namedCodepoints.toList.filterMap fun n => (db.nameOf n).map (n, ·)).lookup ·) =
        f.plan catalog user db.nameOf :=
    Filter.plan_congr_names fun n hn => lookup_names hn
  exact congrArg (·.bind (db.runPlan r)) hplan

/-- Only an empty selection can be answered without reading the tables. -/
theorem isOpen_of_search (hf : Filter.ofText text = .ok f) (hne : ∀ d, f.firstSelection d ≠ some [])
    (h : db.search catalog text user r = .ok page) : db.isOpen = true := by
  rw [search_of_ofText hf] at h
  by_contra hclosed
  cases hnames : db.readNames f.namedCodepoints.toList with
  | error e =>
    rw [hnames] at h
    cases h
  | ok names =>
    rw [hnames] at h
    cases hplan : f.plan catalog user (names.lookup ·) with
    | error e =>
      simp only [Except.bind, hplan] at h
      cases h
    | ok P =>
      simp only [Except.bind, hplan] at h
      cases P with
      | nothing =>
        obtain ⟨d, hd⟩ := Filter.plan_eq_nothing_iff.1 hplan
        exact hne d hd
      | query q => exact hclosed (of_runPlan_query h).1

/-- An open database answers every text that can be read, for favorites a user given, if the engine
takes what it asks for. -/
theorem exists_search_eq_ok (hf : Filter.ofText text = .ok f) (hopen : db.isOpen = true)
    (hfav : user = none → ∀ negated, .property .favorited negated ∉ f)
    (hfits : f.Fits db catalog user r.sort) :
    ∃ page, db.search catalog text user r = .ok page := by
  rw [search_of_isOpen hf hopen]
  by_cases hne : ∃ d, f.firstSelection d = some []
  · rw [Filter.plan_of_empty hne]
    exact ⟨_, rfl⟩
  · obtain ⟨q, hq⟩ := Filter.exists_plan_eq_query_iff.2 ⟨not_exists.1 hne, hfav⟩
    rw [hq]
    exact ⟨_, runPlan_query hopen (hfits _ hq)⟩

/-- What the engine does not take is an error. -/
theorem search_of_not_fits (hf : Filter.ofText text = .ok f) (hopen : db.isOpen = true)
    (hfits : ¬f.Fits db catalog user r.sort) :
    ∃ e, db.search catalog text user r = .error (.store e) ∧ e.IsBound := by
  obtain ⟨q, hq, hfits⟩ := Filter.exists_query_of_not_fits hfits
  rw [search_of_isOpen hf hopen, hq]
  exact runPlan_query_of_not_fits hopen hfits

theorem search_of_not_takes (hopen : db.isOpen = true)
    (h : ¬db.Takes catalog text user r.sort) :
    ∃ e, db.search catalog text user r = .error (.store e) ∧ e.IsBound := by
  unfold Takes at h
  push Not at h
  obtain ⟨f, hf, hfits⟩ := h
  exact search_of_not_fits hf hopen hfits

/-- The engine has taken what is answered. -/
theorem fits_of_search (hf : Filter.ofText text = .ok f)
    (h : db.search catalog text user r = .ok page) : f.Fits db catalog user r.sort := by
  by_cases hne : ∃ d, f.firstSelection d = some []
  · exact Filter.fits_of_selectsNothing hne
  · have hopen := isOpen_of_search hf (not_exists.1 hne) h
    by_contra hfits
    obtain ⟨e, he, -⟩ := search_of_not_fits (r := r) hf hopen hfits
    rw [he] at h
    cases h

theorem takes_of_search (h : db.search catalog text user r = .ok page) :
    db.Takes catalog text user r.sort :=
  fun _ hf => fits_of_search hf h

/-! ### Rows in order -/

theorem sorted_perm (db : Database) (q : Query) (key : SortKey) (dir : Direction) :
    (db.sorted q key dir).Perm (db.matching q) :=
  sortRows_perm db _ _

theorem mem_sorted_iff {key : SortKey} {dir : Direction} : c ∈ db.sorted q key dir ↔
    c ∈ db.characters.rows ∧ q.isMatch db c = true := by
  rw [(sorted_perm db q key dir).mem_iff]
  unfold matching
  rw [List.mem_filter]

theorem sorted_nodup (db : Database) (q : Query) (key : SortKey) (dir : Direction) :
    (db.sorted q key dir).Nodup :=
  (sorted_perm db q key dir).nodup_iff.2 (db.characters.rows_nodup.filter _)

end Database
end CharAtlas
