import CharAtlas.Proofs.Query.Pages

/-! # The rows that a filter matches

A row matches a filter if it meets all conditions (`Filter.Matches`). A filter that can be answered
(`Filter.IsAnswered`) and that the engine takes is answered with these rows: their records fill the
pages, and their number is the total (`Database.search_eq_ok`). `Database.Answers` says so of a text
and a list of rows. -/

namespace CharAtlas

namespace Filter
variable {f : Filter} {db : Database} {catalog : Catalog} {user : Option String}
  {c : StoredCharacter} {names : Nat → Option String} {q : Query}

/-- What names are compared with when rows are sorted by similarity. -/
def anchor (f : Filter) (names : Nat → Option String) : Option Anchor :=
  f.searchTerms.getLast?.map (searchAnchor names)

/-- The first selection in some dimension is empty. -/
def SelectsNothing (f : Filter) : Prop :=
  ∃ d, f.firstSelection d = some []

/-- A stored row meets all that is asked for. -/
structure Matches (f : Filter) (db : Database) (catalog : Catalog) (user : Option String)
    (c : StoredCharacter) : Prop where
  stored : c ∈ db.characters.rows
  selects : ¬f.SelectsNothing
  holds : ∀ k, f.Asks catalog user db.nameOf k → k.holds db c = some true

/-- The names can be looked up, and what they are needed for can be asked unless nothing is
selected. -/
structure IsAnswered (f : Filter) (db : Database) (user : Option String) : Prop where
  named : db.isOpen = true ∨ f.namedCodepoints.toList = []
  asked : f.SelectsNothing ∨
    db.isOpen = true ∧ (user = none → ∀ negated, .property .favorited negated ∉ f)

end Filter

namespace Database
variable {db : Database} {catalog : Catalog} {text : String} {f : Filter} {user : Option String}
  {r : Paging} {page : ResultPage} {c : StoredCharacter}

/-- The rows that a filter is answered with. -/
def matched (db : Database) (catalog : Catalog) (user : Option String) (f : Filter) :
    List StoredCharacter :=
  match f.plan catalog user db.nameOf with
  | .ok (.query q) => db.matching q
  | _ => []

/-- The same rows in the order asked for. -/
def arranged (db : Database) (catalog : Catalog) (user : Option String) (f : Filter)
    (key : SortKey) (dir : Direction) : List StoredCharacter :=
  sortRows db (key.criteria dir (f.anchor db.nameOf)) (db.matched catalog user f)

theorem matched_of_selectsNothing (h : f.SelectsNothing) : db.matched catalog user f = [] := by
  unfold matched
  rw [Filter.plan_of_empty h]

theorem matched_of_query {q : Query} (h : f.plan catalog user db.nameOf = .ok (.query q)) :
    db.matched catalog user f = db.matching q := by
  unfold matched
  rw [h]

theorem matched_sublist (db : Database) (catalog : Catalog) (user : Option String) (f : Filter) :
    (db.matched catalog user f).Sublist db.characters.rows := by
  unfold matched
  split
  · exact List.filter_sublist
  · exact List.nil_sublist _

theorem matched_nodup (db : Database) (catalog : Catalog) (user : Option String) (f : Filter) :
    (db.matched catalog user f).Nodup :=
  db.characters.rows_nodup.sublist (matched_sublist db catalog user f)

/-- A filter that can be answered selects nothing or makes a query. -/
theorem isAnswered_cases (catalog : Catalog) (h : f.IsAnswered db user) : f.SelectsNothing ∨
    ¬f.SelectsNothing ∧ db.isOpen = true ∧ ∃ q, f.plan catalog user db.nameOf = .ok (.query q) := by
  by_cases hne : f.SelectsNothing
  · exact .inl hne
  · obtain ⟨hopen, hfav⟩ := h.asked.resolve_left hne
    exact .inr ⟨hne, hopen, Filter.exists_plan_eq_query_iff.2 ⟨not_exists.1 hne, hfav⟩⟩

theorem mem_matched_iff (h : f.IsAnswered db user) :
    c ∈ db.matched catalog user f ↔ f.Matches db catalog user c := by
  rcases isAnswered_cases catalog h with hne | ⟨hne, -, q, hq⟩
  · rw [matched_of_selectsNothing hne]
    exact iff_of_false List.not_mem_nil fun hm => hm.selects hne
  · rw [matched_of_query hq, matching, List.mem_filter, Filter.isMatch_iff hq]
    exact ⟨fun hm => ⟨hm.1, hne, hm.2⟩, fun hm => ⟨hm.stored, hm.holds⟩⟩

theorem readNames_of_not_isOpen (hopen : ¬db.isOpen = true) {ns : List Nat} (hns : ns ≠ []) :
    db.readNames ns = .error (.store .closed) := by
  cases ns with
  | nil => exact absurd rfl hns
  | cons n ns =>
    have hread : db.readName n = .error (.store .closed) := by
      unfold readName access
      rw [if_neg hopen]
      rfl
    unfold readNames
    rw [hread]

theorem search_of_not_isOpen (hf : Filter.ofText text = .ok f) (hclosed : ¬db.isOpen = true)
    (hnamed : f.namedCodepoints.toList ≠ []) :
    db.search catalog text user r = .error (.store .closed) := by
  rw [search_of_ofText hf, readNames_of_not_isOpen hclosed hnamed]
  rfl

/-- A filter that can be answered is answered with the rows that match. -/
theorem search_eq_ok (hf : Filter.ofText text = .ok f) (h : f.IsAnswered db user) (r : Paging)
    (hfits : f.Fits db catalog user r.sort) :
    db.search catalog text user r = .ok {
      characters := (((db.arranged catalog user f r.sort r.direction).drop
        (r.page * Page.size)).take Page.size).map fun c => .ofRow (db.row c)
      total := (db.matched catalog user f).length } := by
  rcases isAnswered_cases catalog h with hne | ⟨-, hopen, q, hq⟩
  · have hplan : ∀ names, f.plan catalog user names = .ok .nothing :=
      fun names => Filter.plan_of_empty hne
    have hnames : ∃ names, db.readNames f.namedCodepoints.toList = .ok names := by
      rcases h.named with hopen | hnone
      · exact ⟨_, readNames_of_isOpen hopen _⟩
      · rw [hnone]
        exact ⟨[], rfl⟩
    obtain ⟨names, hnames⟩ := hnames
    rw [search_of_ofText hf, hnames]
    simp only [Except.bind, hplan]
    rw [arranged, matched_of_selectsNothing hne]
    simp [runPlan, sortRows]
  · have hanchor := (Filter.plan_eq_query hq).2.1
    rw [search_of_isOpen hf hopen, hq, arranged, matched_of_query hq, Filter.anchor, ← hanchor]
    exact runPlan_query hopen (hfits _ hq)

theorem exists_ofText_of_search (h : db.search catalog text user r = .ok page) :
    ∃ f, Filter.ofText text = .ok f := by
  cases hf : Filter.ofText text with
  | error e =>
    unfold search at h
    rw [hf] at h
    cases h
  | ok f => exact ⟨f, rfl⟩

/-- A filter that cannot be answered is not. -/
theorem isAnswered_of_search (hf : Filter.ofText text = .ok f)
    (h : db.search catalog text user r = .ok page) : f.IsAnswered db user := by
  by_cases hopen : db.isOpen = true
  · refine ⟨.inl hopen, ?_⟩
    rw [search_of_isOpen hf hopen] at h
    cases hplan : f.plan catalog user db.nameOf with
    | error e =>
      rw [hplan] at h
      cases h
    | ok P =>
      cases P with
      | nothing => exact .inl (Filter.plan_eq_nothing_iff.1 hplan)
      | query q => exact .inr ⟨hopen, (Filter.exists_plan_eq_query_iff.1 ⟨q, hplan⟩).2⟩
  · refine ⟨.inr ?_, .inl ?_⟩
    · by_contra hns
      rw [search_of_not_isOpen hf hopen hns] at h
      cases h
    · by_contra hne
      exact hopen (isOpen_of_search hf (not_exists.1 hne) h)

theorem total_eq_of_search (hf : Filter.ofText text = .ok f)
    (h : db.search catalog text user r = .ok page) :
    page.total = (db.matched catalog user f).length := by
  rw [search_eq_ok hf (isAnswered_of_search hf h) r (fits_of_search hf h)] at h
  rw [← Except.ok.inj h]

/-! ### Answers -/

/-- In every order that the engine takes the pages of the answer to a text are the stretches of one
list of the records of `rows`, each there once, and the total is their number. It takes every order,
but for the one by similarity perhaps. -/
structure Answers (db : Database) (catalog : Catalog) (text : String) (user : Option String)
    (rows : List StoredCharacter) : Prop where
  nodup : rows.Nodup
  stored : ∀ c ∈ rows, c ∈ db.characters.rows
  taken : ∀ key ≠ .similarity, db.Takes catalog text user key
  pages : ∀ key dir, db.Takes catalog text user key →
    ∃ ordered : List StoredCharacter, ordered.Perm rows ∧ ∀ k,
      db.search catalog text user ⟨k, key, dir⟩ = .ok {
        characters := ((ordered.drop (k * Page.size)).take Page.size).map fun c => .ofRow (db.row c)
        total := rows.length }

theorem Answers.of_perm {rows rows' : List StoredCharacter} (h : db.Answers catalog text user rows)
    (hperm : rows.Perm rows') : db.Answers catalog text user rows' where
  nodup := hperm.nodup_iff.1 h.nodup
  stored c hc := h.stored c (hperm.mem_iff.2 hc)
  taken := h.taken
  pages key dir htakes := by
    obtain ⟨ordered, hordered, hpages⟩ := h.pages key dir htakes
    rw [hperm.length_eq] at hpages
    exact ⟨ordered, hordered.trans hperm, hpages⟩

/-- It is enough that the engine takes the text in some order. -/
theorem answers_matched {key : SortKey} (hf : Filter.ofText text = .ok f) (h : f.IsAnswered db user)
    (htakes : db.Takes catalog text user key) :
    db.Answers catalog text user (db.matched catalog user f) where
  nodup := matched_nodup db catalog user f
  stored _ hc := (matched_sublist db catalog user f).subset hc
  taken _ hkey := htakes.of_ne_similarity hkey
  pages key dir htakes := ⟨db.arranged catalog user f key dir, sortRows_perm db _ _,
    fun k => search_eq_ok hf h ⟨k, key, dir⟩ (htakes f hf)⟩

/-- The text is answered with `rows` if the engine takes it, and otherwise is an error. -/
structure AnswersIfTaken (db : Database) (catalog : Catalog) (text : String) (user : Option String)
    (rows : List StoredCharacter) : Prop where
  answers : ∀ key, db.Takes catalog text user key → db.Answers catalog text user rows
  refused : ∀ r, ¬db.Takes catalog text user r.sort →
    ∃ e, db.search catalog text user r = .error (.store e) ∧ e.IsBound

theorem AnswersIfTaken.of_perm {rows rows' : List StoredCharacter}
    (h : db.AnswersIfTaken catalog text user rows) (hperm : rows.Perm rows') :
    db.AnswersIfTaken catalog text user rows' :=
  ⟨fun key htakes => (h.answers key htakes).of_perm hperm, h.refused⟩

theorem answersIfTaken_matched (hf : Filter.ofText text = .ok f) (h : f.IsAnswered db user) :
    db.AnswersIfTaken catalog text user (db.matched catalog user f) where
  answers _ htakes := answers_matched hf h htakes
  refused r htakes := by
    rcases h.asked with hs | ⟨hopen, -⟩
    · exact absurd ((takes_iff hf).2 (Filter.fits_of_selectsNothing hs)) htakes
    · exact search_of_not_takes hopen htakes

end Database
end CharAtlas
