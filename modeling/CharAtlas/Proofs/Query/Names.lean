import CharAtlas.Proofs.Query.Answer
import CharAtlas.Proofs.Query.Matches

/-! # Names that are looked up

A text is answered in two steps: first the names of `Filter.namedCodepoints` are read, then the plan
is made with these names and no others. Which code points these are is read off the clauses, and
the plan needs each of them (`Filter.isSome_names_of_plan`). `Database.searchKnowing` skips the first
step: it is given all names. The answers are the same whenever names can be read
(`Database.search_eq_searchKnowing`). -/

namespace CharAtlas

namespace Filter
variable {f : Filter} {catalog : Catalog} {user : Option String} {names names' : Nat → Option String}
  {q : Query} {n : Nat} {t : SearchTerm}

/-- Only search clauses name code points, each one at most. -/
theorem mem_namedCodepoints_iff_clause : n ∈ f.namedCodepoints.toList ↔
    ∃ raw t, .search raw ∈ f ∧ SearchTerm.ofText? raw = some t ∧ t.codepoint = some n := by
  rw [mem_namedCodepoints_iff]
  constructor
  · rintro ⟨t, ht, hn⟩
    obtain ⟨raw, hraw, hterm⟩ := mem_searchTerms_iff.1 ht
    exact ⟨raw, t, hraw, hterm, hn⟩
  · rintro ⟨raw, t, hraw, hterm, hn⟩
    exact ⟨t, mem_searchTerms_iff.2 ⟨raw, hraw, hterm⟩, hn⟩

/-- The condition tells whether the term stands for a name: only without one the code may match. -/
theorem isSome_resolved_of_searchCondition (h : searchCondition names t = searchCondition names' t) :
    (resolved names t).isSome = (resolved names' t).isSome := by
  unfold searchCondition at h
  cases hname : resolved names t with
  | none =>
    cases hname' : resolved names' t with
    | none => rfl
    | some name => simp [hname, hname'] at h
  | some name =>
    cases hname' : resolved names' t with
    | none => simp [hname, hname'] at h
    | some name' => rfl

theorem searchCondition_eq_of_plan (h : f.plan catalog user names = .ok (.query q))
    (h' : f.plan catalog user names' = .ok (.query q)) (ht : t ∈ f.searchTerms) :
    searchCondition names t = searchCondition names' t := by
  obtain ⟨-, -, properties, hp, hq⟩ := plan_eq_query h
  obtain ⟨-, -, properties', hp', hq'⟩ := plan_eq_query h'
  obtain rfl : properties = properties' := Except.ok.inj (hp.symm.trans hp')
  -- what stands around the searches is the same in both
  have hsearches : f.searchTerms.map (searchCondition names) =
      f.searchTerms.map (searchCondition names') :=
    List.append_cancel_left (List.append_cancel_right (hq.symm.trans hq'))
  exact List.map_inj_left.1 hsearches t ht

/-- None of the names can be left out: a query shows which code points had one. -/
theorem isSome_names_of_plan (h : f.plan catalog user names = .ok (.query q))
    (h' : f.plan catalog user names' = .ok (.query q)) (hn : n ∈ f.namedCodepoints.toList) :
    (names n).isSome = (names' n).isSome := by
  obtain ⟨t, ht, hcode⟩ := mem_namedCodepoints_iff.1 hn
  have hresolved := isSome_resolved_of_searchCondition (searchCondition_eq_of_plan h h' ht)
  unfold resolved at hresolved
  rwa [hcode] at hresolved

end Filter

namespace Database
variable {db : Database} {catalog : Catalog} {text : String} {f : Filter} {user : Option String}
  {r : Paging} {names : Nat → Option String} {n : Nat} {name : String}

theorem nameOf_eq_some_iff : db.nameOf n = some name ↔
    ∃ c ∈ db.characters.rows, c.codepoint = n ∧ c.name = some name := by
  unfold nameOf
  rw [Option.bind_eq_some_iff]
  simp only [CharacterTable.get?_eq_some_iff, and_assoc]

/-- All stored characters with a name have it in `names`, and nothing else has a name there. -/
def Names (db : Database) (names : Nat → Option String) : Prop :=
  ∀ n name, names n = some name ↔ ∃ c ∈ db.characters.rows, c.codepoint = n ∧ c.name = some name

theorem names_iff : db.Names names ↔ names = db.nameOf := by
  constructor
  · intro h
    funext n
    refine Option.ext fun name => ?_
    rw [h, nameOf_eq_some_iff]
  · rintro rfl n name
    exact nameOf_eq_some_iff

/-- Answers a filter text by names that are known beforehand; none is read. -/
def searchKnowing (db : Database) (names : Nat → Option String) (catalog : Catalog)
    (filters : String) (user : Option String) (r : Paging) : Except Error ResultPage := do
  let f ← Filter.ofText filters
  let plan ← f.plan catalog user names
  db.runPlan r plan

theorem searchKnowing_of_ofText (hf : Filter.ofText text = .ok f) :
    db.searchKnowing names catalog text user r =
      (f.plan catalog user names).bind (db.runPlan r) := by
  unfold searchKnowing
  rw [hf]
  rfl

/-- Without a code point to look up, a closed database is not asked for names. -/
theorem search_of_namedCodepoints_eq_nil (hf : Filter.ofText text = .ok f)
    (hnone : f.namedCodepoints.toList = []) :
    db.search catalog text user r = db.searchKnowing names catalog text user r := by
  have hplan : f.plan catalog user (([] : List (Nat × String)).lookup ·) =
      f.plan catalog user names := by
    refine Filter.plan_congr_names fun n hn => ?_
    rw [hnone] at hn
    exact absurd hn List.not_mem_nil
  rw [search_of_ofText hf, searchKnowing_of_ofText hf, hnone, ← hplan]
  rfl

theorem search_eq_searchKnowing (hnames : db.Names names)
    (h : db.isOpen = true ∨ ∀ f, Filter.ofText text = .ok f → f.namedCodepoints.toList = []) :
    db.search catalog text user r = db.searchKnowing names catalog text user r := by
  cases hf : Filter.ofText text with
  | error e =>
    rw [search_of_error hf]
    unfold searchKnowing
    rw [hf]
    rfl
  | ok f =>
    rcases h with hopen | hnone
    · rw [search_of_isOpen hf hopen, searchKnowing_of_ofText hf, names_iff.1 hnames]
    · exact search_of_namedCodepoints_eq_nil hf (hnone f hf)

/-- The code points that the search clauses name are looked up in ascending order, each once. Their
names are all that the plan needs, and of each it matters whether there is one. So a text is answered
as it would be if all names were known, unless names have to be read and the database is closed. -/
theorem search_names_suffice (f : Filter) (catalog : Catalog) (user : Option String) :
    f.namedCodepoints.toList.Pairwise (· < ·) ∧
    (∀ n, n ∈ f.namedCodepoints.toList ↔
      ∃ raw t, .search raw ∈ f ∧ SearchTerm.ofText? raw = some t ∧ t.codepoint = some n) ∧
    (∀ names names' : Nat → Option String, (∀ n ∈ f.namedCodepoints.toList, names n = names' n) →
      f.plan catalog user names = f.plan catalog user names') ∧
    (∀ names names' q, f.plan catalog user names = .ok (.query q) →
      f.plan catalog user names' = .ok (.query q) →
        ∀ n ∈ f.namedCodepoints.toList, (names n).isSome = (names' n).isSome) ∧
    ∀ (db : Database) names text r, db.Names names →
      (db.isOpen = true ∨ (∀ g, Filter.ofText text = .ok g → g.namedCodepoints.toList = []) →
        db.search catalog text user r = db.searchKnowing names catalog text user r) ∧
      ∀ g, Filter.ofText text = .ok g → ¬db.isOpen = true → g.namedCodepoints.toList ≠ [] →
        db.search catalog text user r = .error (.store .closed) :=
  ⟨f.namedCodepoints.ascending, fun _ => Filter.mem_namedCodepoints_iff_clause,
    fun _ _ h => Filter.plan_congr_names h, fun _ _ _ h h' _ hn => Filter.isSome_names_of_plan h h' hn,
    fun _ _ _ _ hnames => ⟨search_eq_searchKnowing hnames, fun _ => search_of_not_isOpen⟩⟩

def letterName (n : Nat) : Option String :=
  [(0x41, "LATIN CAPITAL LETTER A"), (0x391, "GREEK CAPITAL LETTER ALPHA"),
    (0x1D400, "MATHEMATICAL BOLD CAPITAL A")].lookup n

theorem names_threeLetters : (empty.afterAll threeLetters).Names letterName := by
  have hrows : ((empty.afterAll threeLetters).characters.rows.map fun c => (c.codepoint, c.name)) =
      [(0x41, some "LATIN CAPITAL LETTER A"), (0x391, some "GREEK CAPITAL LETTER ALPHA"),
        (0x1D400, some "MATHEMATICAL BOLD CAPITAL A")] := by decide +kernel
  intro n name
  have hmem : (∃ c ∈ (empty.afterAll threeLetters).characters.rows,
      c.codepoint = n ∧ c.name = some name) ↔
        (n, some name) ∈ (empty.afterAll threeLetters).characters.rows.map fun c =>
          (c.codepoint, c.name) := by
    simp only [List.mem_map, Prod.mk.injEq]
  rw [hmem, hrows]
  unfold letterName
  grind

/-- Two of the clauses name one character, and one names none. -/
def namedLetters : Filter :=
  [.search "U+0391", .search "A", .search "capital letter", .search "0x41"]

theorem search_names_suffice_threeLetters :
    namedLetters.namedCodepoints.toList = [0x41, 0x391] ∧
    namedLetters.plan ⟨fun _ => []⟩ none letterName = namedLetters.plan ⟨fun _ => []⟩ none
      (fun n => if n = 0x1D400 then none else letterName n) ∧
    (∃ q, namedLetters.plan ⟨fun _ => []⟩ none letterName = .ok (.query q) ∧
      namedLetters.plan ⟨fun _ => []⟩ none (fun n => if n = 0x391 then none else letterName n) ≠
        .ok (.query q)) ∧
    (empty.afterAll threeLetters).Names letterName ∧
    (∀ r, (empty.afterAll threeLetters).search ⟨fun _ => []⟩ namedLetters.text none r =
      (empty.afterAll threeLetters).searchKnowing letterName ⟨fun _ => []⟩ namedLetters.text none r) ∧
    ∀ r, (empty.afterAll threeLetters).close.search ⟨fun _ => []⟩ namedLetters.text none r =
      .error (.store .closed) := by
  have hnamed : namedLetters.namedCodepoints.toList = [0x41, 0x391] := by decide +kernel
  have hf : Filter.ofText namedLetters.text = .ok namedLetters := by decide +kernel
  obtain ⟨-, -, hsuffice, hneeded, hsearch⟩ := search_names_suffice namedLetters ⟨fun _ => []⟩ none
  refine ⟨hnamed, hsuffice _ _ fun n hn => ?_, ?_, names_threeLetters,
    fun r => (hsearch _ _ _ r names_threeLetters).1 (.inl (by decide +kernel)),
    fun r => (hsearch (empty.afterAll threeLetters).close _ _ r names_threeLetters).2 _ hf
      (by decide +kernel) (by rw [hnamed]; simp)⟩
  · rw [hnamed] at hn
    rw [if_neg]
    rintro rfl
    simp at hn
  · obtain ⟨q, hq⟩ : ∃ q, namedLetters.plan ⟨fun _ => []⟩ none letterName = .ok (.query q) := by
      refine Filter.exists_plan_eq_query_iff.2 ⟨fun d => ?_, fun _ negated => ?_⟩
      · cases d <;> decide
      · simp [namedLetters]
    refine ⟨q, hq, fun hq' => ?_⟩
    have := hneeded _ _ q hq hq' 0x391 (by rw [hnamed]; simp)
    simp [letterName] at this

end Database
end CharAtlas
