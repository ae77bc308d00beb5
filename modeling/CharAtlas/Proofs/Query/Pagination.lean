import CharAtlas.Proofs.Query.Evaluation
import CharAtlas.Proofs.Query.Matches

/-! # Pages one after the other

Put end to end, the pages of an answer list every row that matches once and nothing else
(`Database.pages_exhaustive`), in the one way in which the sort key orders the rows. This goes for
every order that the engine takes. The rows are those that the statements of the query read with all
their values bound in one list. -/

namespace CharAtlas

theorem flatMap_pages {α : Type} (l : List α) (size n : Nat) :
    (List.range n).flatMap (fun k => (l.drop (k * size)).take size) = l.take (n * size) := by
  induction n with
  | zero => simp
  | succ n ih =>
    rw [List.range_succ, List.flatMap_append, ih, List.flatMap_singleton, Nat.succ_mul,
      List.take_add]

namespace Database
variable {db : Database} {catalog : Catalog} {text : String} {f : Filter} {user : Option String}
  {r : Paging} {page : ResultPage} {key : SortKey} {dir : Direction}

/-- The records on the first `n` pages. -/
def readPages (db : Database) (catalog : Catalog) (text : String) (user : Option String)
    (key : SortKey) (dir : Direction) (n : Nat) : Except Error (List CharacterProfile) :=
  ((List.range n).mapM fun k => db.search catalog text user ⟨k, key, dir⟩).map
    fun pages => pages.flatMap (·.characters)

theorem readPages_eq_ok (hf : Filter.ofText text = .ok f) (h : f.IsAnswered db user)
    (hfits : f.Fits db catalog user key) (n : Nat) :
    db.readPages catalog text user key dir n = .ok
      (((db.arranged catalog user f key dir).take (n * Page.size)).map
        fun c => .ofRow (db.row c)) := by
  have hpages : (List.range n).mapM (fun k => db.search catalog text user ⟨k, key, dir⟩) = .ok
      ((List.range n).map fun k => {
        characters := (((db.arranged catalog user f key dir).drop
          (k * Page.size)).take Page.size).map fun c => .ofRow (db.row c)
        total := (db.matched catalog user f).length }) := by
    rw [mapM_eq_ok_iff, List.forall₂_map_right_iff, List.forall₂_same]
    exact fun k _ => search_eq_ok hf h ⟨k, key, dir⟩ hfits
  unfold readPages
  rw [hpages, ← flatMap_pages, List.map_flatMap]
  simp only [Except.map, List.flatMap_map]

theorem arranged_perm (db : Database) (catalog : Catalog) (user : Option String) (f : Filter)
    (key : SortKey) (dir : Direction) :
    (db.arranged catalog user f key dir).Perm (db.matched catalog user f) :=
  sortRows_perm db _ _

theorem arranged_nodup (db : Database) (catalog : Catalog) (user : Option String) (f : Filter)
    (key : SortKey) (dir : Direction) : (db.arranged catalog user f key dir).Nodup :=
  (arranged_perm db catalog user f key dir).nodup_iff.2 (matched_nodup db catalog user f)

theorem mem_rows_of_mem_arranged {c : StoredCharacter}
    (h : c ∈ db.arranged catalog user f key dir) : c ∈ db.characters.rows :=
  (matched_sublist db catalog user f).subset ((arranged_perm db catalog user f key dir).subset h)

/-- Two rows of a table with one code point are one row. -/
theorem eq_of_codepoint_eq {c d : StoredCharacter} (hc : c ∈ db.characters.rows)
    (hd : d ∈ db.characters.rows) (h : c.codepoint = d.codepoint) : c = d := by
  have hget := CharacterTable.mem_rows_iff.1 hc
  rw [h, CharacterTable.mem_rows_iff.1 hd] at hget
  exact (Option.some.inj hget).symm

theorem codepoint_ofRow {c : StoredCharacter} (hcons : Consistent db)
    (hc : c ∈ db.characters.rows) : (CharacterProfile.ofRow (db.row c)).codepoint = c.codepoint := by
  have hmax := hcons.bounded c hc
  unfold Codepoint.max at hmax
  show CharacterProfile.shownCodepoint (c.codepoint : Int) = c.codepoint
  unfold CharacterProfile.shownCodepoint Numeral.max32
  rw [if_pos (by omega), Int.toNat_natCast]

/-- The rows of an answer are those of all its pages. -/
theorem Answers.subset {rows rows' : List StoredCharacter} (hcons : Consistent db)
    (h : db.Answers catalog text user rows) (h' : db.Answers catalog text user rows') :
    ∀ c ∈ rows, c ∈ rows' := by
  obtain ⟨ordered, hperm, hpages⟩ := h.pages .codepoint .asc (h.taken _ nofun)
  obtain ⟨ordered', hperm', hpages'⟩ := h'.pages .codepoint .asc (h'.taken _ nofun)
  have hpage : ∀ k, ((ordered.drop (k * Page.size)).take Page.size).map
      (fun c => CharacterProfile.ofRow (db.row c)) =
        ((ordered'.drop (k * Page.size)).take Page.size).map fun c => .ofRow (db.row c) :=
    fun k => congrArg ResultPage.characters (Except.ok.inj ((hpages k).symm.trans (hpages' k)))
  have hlength : rows.length = rows'.length :=
    congrArg ResultPage.total (Except.ok.inj ((hpages 0).symm.trans (hpages' 0)))
  have hread : ∀ l : List StoredCharacter, l.length = rows.length →
      l.map (fun c => CharacterProfile.ofRow (db.row c)) = (List.range rows.length).flatMap
        fun k => ((l.drop (k * Page.size)).take Page.size).map fun c => .ofRow (db.row c) := by
    intro l hl
    have hall : l.take (rows.length * Page.size) = l :=
      List.take_of_length_le (by rw [hl]; exact Nat.le_mul_of_pos_right _ (by decide))
    rw [← List.map_flatMap, flatMap_pages, hall]
  have hrecords : ordered.map (fun c => CharacterProfile.ofRow (db.row c)) =
      ordered'.map fun c => .ofRow (db.row c) := by
    rw [hread ordered hperm.length_eq, hread ordered' (hperm'.length_eq.trans hlength.symm)]
    simp only [hpage]
  intro c hc
  have hrecord : CharacterProfile.ofRow (db.row c) ∈
      ordered'.map fun c => CharacterProfile.ofRow (db.row c) :=
    hrecords ▸ List.mem_map_of_mem (hperm.mem_iff.2 hc)
  obtain ⟨d, hd, hdc⟩ := List.mem_map.1 hrecord
  have hd' : d ∈ rows' := hperm'.mem_iff.1 hd
  have hcode : d.codepoint = c.codepoint := by
    have hshown := congrArg CharacterProfile.codepoint hdc
    rwa [codepoint_ofRow hcons (h'.stored d hd'), codepoint_ofRow hcons (h.stored c hc)] at hshown
  rwa [eq_of_codepoint_eq (h.stored c hc) (h'.stored d hd') hcode.symm]

/-- A text has one answer. -/
theorem Answers.perm {rows rows' : List StoredCharacter} (hcons : Consistent db)
    (h : db.Answers catalog text user rows) (h' : db.Answers catalog text user rows') :
    rows.Perm rows' :=
  (List.perm_ext_iff_of_nodup h.nodup h'.nodup).2 fun c =>
    ⟨h.subset hcons h' c, h'.subset hcons h c⟩

/-- Sorting the matching rows anew for each page comes to the same. -/
theorem eq_arranged_iff {l : List StoredCharacter} : l = db.arranged catalog user f key dir ↔
    l.Perm (db.matched catalog user f) ∧ l.Pairwise fun c d =>
      (db.compareRows (key.criteria dir (f.anchor db.nameOf)) c d).isLE :=
  eq_sortRows_iff fun _ hc _ hd h =>
    eq_of_codepoint_eq ((matched_sublist db catalog user f).subset hc)
      ((matched_sublist db catalog user f).subset hd) h

/-- What is answered in one order is taken in every other, but for the one by similarity. -/
theorem takes_of_search_of_key (h : db.search catalog text user r = .ok page)
    (hkey : key ≠ .similarity ∨ r.sort = .similarity) : db.Takes catalog text user key := by
  have htakes := takes_of_search h
  rcases hkey with hkey | hkey
  · exact htakes.of_ne_similarity hkey
  · rw [hkey] at htakes
    exact htakes.of_similarity key

/-- An order that is not taken of a text that is answered in another one is an error. -/
theorem search_of_not_takes_of_search (h : db.search catalog text user r = .ok page) {r' : Paging}
    (htakes : ¬db.Takes catalog text user r'.sort) :
    ∃ e, db.search catalog text user r' = .error (.store e) ∧ e.IsBound := by
  refine search_of_not_takes ?_ htakes
  obtain ⟨f, hf⟩ := exists_ofText_of_search h
  by_cases hne : ∃ d, f.firstSelection d = some []
  · exact absurd ((takes_iff hf).2 (Filter.fits_of_selectsNothing hne)) htakes
  · exact isOpen_of_search hf (not_exists.1 hne) h

/-- If a text is answered at all, then page by page and in every order with the same total, but that
the engine may not take the order by similarity, which is an error then. Each page is full but for the
last, and together they list each row that matches once and nothing else, whoever sorts the rows. The
statement of a page reads its stretch of the list, the one that counts reads all of it. The number of
rows before a page fits 64 bits. -/
theorem pages_exhaustive (h : db.search catalog text user r = .ok page) :
    ∃ f, Filter.ofText text = .ok f ∧
      (∀ key, key ≠ .similarity ∨ r.sort = .similarity → db.Takes catalog text user key) ∧
      ∀ key dir, ∃ listed : List StoredCharacter,
        listed.Nodup ∧ (∀ c, c ∈ listed ↔ f.Matches db catalog user c) ∧
        (∀ l : List StoredCharacter, l = listed ↔ l.Perm listed ∧ l.Pairwise fun c d =>
          (db.compareRows (key.criteria dir (f.anchor db.nameOf)) c d).isLE) ∧
        (db.Takes catalog text user key →
          (∀ k, ∃ p, db.search catalog text user ⟨k, key, dir⟩ = .ok p ∧ p.total = page.total ∧
            p.characters.length = min 256 (page.total - 256 * k)) ∧
          ∀ n, page.total ≤ 256 * n → db.readPages catalog text user key dir n =
            .ok (listed.map fun c => .ofRow (db.row c))) ∧
        (¬db.Takes catalog text user key → ∀ k, ∃ e,
          db.search catalog text user ⟨k, key, dir⟩ = .error (.store e) ∧ e.IsBound) ∧
        (Consistent db → ∀ q, f.plan catalog user db.nameOf = .ok (.query q) →
          (q.counting.run db q.params).Perm listed ∧
          ∀ k, (q.paging key dir).run db
            (q.pagingParams key dir 256 (⟨k, key, dir⟩ : Paging).offset) =
              (listed.drop (256 * k)).take 256) ∧
        ∀ k ≤ Numeral.max32, Numeral.fits64 (⟨k, key, dir⟩ : Paging).offset = true := by
  obtain ⟨f, hf⟩ := exists_ofText_of_search h
  have hans := isAnswered_of_search hf h
  have htotal := total_eq_of_search hf h
  refine ⟨f, hf, fun key hkey => takes_of_search_of_key h hkey, fun key dir =>
    ⟨db.arranged catalog user f key dir, ?_⟩⟩
  have hperm := arranged_perm db catalog user f key dir
  refine ⟨arranged_nodup db catalog user f key dir, fun c => ?_, fun l => ?_,
    fun htakes => ⟨fun k => ⟨_, search_eq_ok hf hans ⟨k, key, dir⟩ (htakes f hf), htotal.symm, ?_⟩,
      fun n hn => ?_⟩,
    fun htakes k => search_of_not_takes_of_search h htakes, fun hcons q hq => ?_, fun k hk => ?_⟩
  · rw [hperm.mem_iff, mem_matched_iff hans]
  · rw [eq_arranged_iff]
    refine and_congr_left fun _ => ⟨fun hl => hl.trans hperm.symm, fun hl => hl.trans hperm⟩
  · rw [List.length_map, List.length_take, List.length_drop, hperm.length_eq, htotal, Page.size,
      Nat.mul_comm]
  · rw [readPages_eq_ok hf hans (htakes f hf), List.take_of_length_le]
    rw [hperm.length_eq, ← htotal, Page.size]
    omega
  · have htyped := Filter.isTyped_of_plan hq
    have hanchor := (Filter.plan_eq_query hq).2.1
    rw [Query.run_counting hcons htyped, ← matched_of_query hq]
    refine ⟨hperm.symm, fun k => ?_⟩
    rw [Query.run_paging hcons htyped, arranged, matched_of_query hq, Filter.anchor, ← hanchor,
      Nat.mul_comm]
    rfl
  · have hmax : k ≤ 4294967295 := hk
    have hoffset : ((⟨k, key, dir⟩ : Paging).offset : Int) = k * 256 := rfl
    simp only [Numeral.fits64, hoffset, Bool.and_eq_true, decide_eq_true_eq]
    omega

/-- More characters than there is room for on one page. -/
def ideographs : List Write :=
  (List.range 300).map fun n => .character { codepoint := 0x4F2B - n, script := some "Han" }

theorem pages_exhaustive_ideographs :
    ∃ page, (empty.afterAll ideographs).search ⟨fun _ => []⟩ "scripts:Han|Bopomofo" none {} =
        .ok page ∧ page.total = 300 ∧
      ∃ p, (empty.afterAll ideographs).search ⟨fun _ => []⟩ "scripts:Han|Bopomofo" none
        ⟨1, .script, .desc⟩ = .ok p ∧ p.total = 300 ∧ p.characters.length = 44 := by
  have hread : Filter.ofText "scripts:Han|Bopomofo" =
      .ok [.members .scripts ["Han", "Bopomofo"]] := by decide +kernel
  have hopen : (empty.afterAll ideographs).isOpen = true := by decide +kernel
  have hans : Filter.IsAnswered [.members .scripts ["Han", "Bopomofo"]]
      (empty.afterAll ideographs) none := ⟨.inl hopen, .inr ⟨hopen, fun _ negated => by simp⟩⟩
  have htotal : ((empty.afterAll ideographs).matched ⟨fun _ => []⟩ none
      [.members .scripts ["Han", "Bopomofo"]]).length = 300 := by decide +kernel
  have hfirst := @search_eq_ok _ ⟨fun _ => []⟩ _ _ _ hread hans {} (by decide +kernel)
  rw [htotal] at hfirst
  obtain ⟨page, hpage, hcount⟩ : ∃ page, (empty.afterAll ideographs).search ⟨fun _ => []⟩
      "scripts:Han|Bopomofo" none {} = .ok page ∧ page.total = 300 := ⟨_, hfirst, rfl⟩
  obtain ⟨f, -, htaken, hall⟩ := pages_exhaustive hpage
  obtain ⟨listed, -, -, -, hpages, -⟩ := hall .script .desc
  obtain ⟨p, hp, hsame, hlength⟩ := (hpages (htaken .script (.inl nofun))).1 1
  rw [hcount] at hsame hlength
  exact ⟨page, hpage, hcount, p, hp, hsame, hlength⟩

end Database
end CharAtlas
