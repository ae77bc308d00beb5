import CharAtlas.Proofs.Filter.Joined
import CharAtlas.Proofs.Query.Pagination
import CharAtlas.Proofs.SearchTerm

/-! # The order of an answer

What comes before what, column by column (`StoredCharacter.Precedes`) and by similarity
(`Database.similarityTo`). Where every criterion follows the direction, turning it turns the list
around (`Database.arranged_desc`); by similarity the code points ascend in both directions.
`Database.search_sorted` says this of all the pages of an answer. -/

namespace CharAtlas

/-! ### Values in order -/

/-- Missing values come first, then numbers, then texts, which go by the scalar values of their
characters. -/
inductive Value.Precedes : Value → Value → Prop
  | missing {v : Value} (h : v ≠ .null) : Precedes .null v
  | ints {m n : Int} (h : m < n) : Precedes (.int m) (.int n)
  | mixed (n : Int) (s : String) : Precedes (.int n) (.text s)
  | texts {s t : String} (h : s.toList.map Char.toNat < t.toList.map Char.toNat) :
    Precedes (.text s) (.text t)

theorem map_toNat_lt_iff {cs ds : List Char} : cs.map Char.toNat < ds.map Char.toNat ↔ cs < ds := by
  induction cs generalizing ds with
  | nil => cases ds <;> simp
  | cons c cs ih =>
    cases ds with
    | nil => simp
    | cons d ds =>
      rw [List.map_cons, List.map_cons, List.cons_lt_cons_iff, List.cons_lt_cons_iff, ih,
        Char.toNat_inj]
      rfl

theorem compare_texts_iff {s t : String} :
    Ord.compare s t = .lt ↔ s.toList.map Char.toNat < t.toList.map Char.toNat :=
  (compareOfLessAndEq_eq_lt : _ ↔ s < t).trans map_toNat_lt_iff.symm

namespace Value
variable {v w : Value}

theorem compare_eq_lt_iff : v.compare w = .lt ↔ v.Precedes w := by
  constructor
  · intro h
    cases v with
    | null =>
      refine .missing ?_
      rintro rfl
      cases h
    | int m =>
      cases w with
      | null => cases h
      | int n => exact .ints (compare_lt_iff_lt.1 h)
      | text t => exact .mixed m t
    | text s =>
      cases w with
      | text t => exact .texts (compare_texts_iff.1 h)
      | _ => cases h
  · intro h
    cases h with
    | missing hw =>
      cases w with
      | null => exact absurd rfl hw
      | _ => rfl
    | ints h => exact compare_lt_iff_lt.2 h
    | mixed => rfl
    | texts h => exact compare_texts_iff.2 h

theorem compare_eq_eq_iff : v.compare w = .eq ↔ v = w := by
  cases v <;> cases w <;> simp [Value.compare]

end Value

/-! ### Directions -/

def Direction.turned : Direction → Direction
  | asc => desc
  | desc => asc

namespace Criterion

/-- The same criterion in the other direction. -/
def turned : Criterion → Criterion
  | column c dir => column c dir.turned
  | distance a dir => distance a dir.turned

theorem compareRows_turned (db : Database) (k : Criterion) (c d : StoredCharacter) :
    k.turned.compareRows db c d = (k.compareRows db c d).swap := by
  have happly : ∀ (dir : Direction) o, dir.turned.apply o = (dir.apply o).swap := by
    rintro (_ | _) (_ | _ | _) <;> rfl
  cases k <;> exact happly _ _

end Criterion

/-- Without an anchor to be close to, all criteria follow the direction. -/
theorem SortKey.criteria_desc {key : SortKey} {anchor : Option Anchor}
    (h : key = .similarity → anchor = none) :
    key.criteria .desc anchor = (key.criteria .asc anchor).map Criterion.turned := by
  cases key with
  | similarity => rw [h rfl]; rfl
  | _ => rfl

/-! ### Rows in order -/

/-- In the order of a column, equal values being told apart by code point. -/
def StoredCharacter.Precedes (col : Column) (c d : StoredCharacter) : Prop :=
  (c.value col).Precedes (d.value col) ∨ c.value col = d.value col ∧ c.codepoint < d.codepoint

namespace Database
variable {db : Database} {catalog : Catalog} {user : Option String} {f : Filter} {key : SortKey}
  {dir : Direction} {anchor : Option Anchor} {c d : StoredCharacter}

theorem compareRows_turned (criteria : List Criterion) (c d : StoredCharacter) :
    db.compareRows (criteria.map Criterion.turned) c d = (db.compareRows criteria c d).swap := by
  induction criteria with
  | nil => rfl
  | cons k criteria ih =>
    rw [List.map_cons, compareRows_cons, compareRows_cons, compareLex, compareLex,
      Ordering.swap_then, ih, Criterion.compareRows_turned]

theorem compareRows_codepoint : db.compareRows [.column .codepoint .asc] c d = .lt ↔
    c.codepoint < d.codepoint := by
  have hcompare : db.compareRows [.column .codepoint .asc] c d =
      (Ord.compare (c.codepoint : Int) d.codepoint).then .eq := rfl
  rw [hcompare, Ordering.then_eq, compare_lt_iff_lt, Int.ofNat_lt]

theorem compareRows_asc (h : key = .similarity → anchor = none) :
    db.compareRows (key.criteria .asc anchor) c d = .lt ↔ c.Precedes key.column d := by
  -- a column and then the code point
  have hcolumn : ∀ col, db.compareRows [.column col .asc, .column .codepoint .asc] c d = .lt ↔
      c.Precedes col d := by
    intro col
    have hvalue : Criterion.compareRows db (.column col .asc) c d =
        (c.value col).compare (d.value col) := rfl
    rw [compareRows_cons, compareLex, Ordering.then_eq_lt, hvalue, compareRows_codepoint,
      Value.compare_eq_lt_iff, Value.compare_eq_eq_iff]
    rfl
  have hcodepoint : db.compareRows [.column .codepoint .asc] c d = .lt ↔
      c.Precedes .codepoint d := by
    rw [compareRows_codepoint]
    constructor
    · exact fun hlt => .inl (.ints (Int.ofNat_lt.2 hlt))
    · rintro (hlt | ⟨-, hlt⟩)
      · cases hlt with
        | ints hlt => exact Int.ofNat_lt.1 hlt
      · exact hlt
  cases key with
  | codepoint => exact hcodepoint
  | similarity => rw [h rfl]; exact hcodepoint
  | _ => exact hcolumn _

/-- How much the name of a row resembles a text, going by the trigrams that are kept of it. -/
def similarityTo (db : Database) (text : String) (c : StoredCharacter) : ℚ :=
  (Criterion.scoreOrZero db (.ofText text) c).ratio

theorem compareRows_similarity_asc {text : String} :
    db.compareRows (SortKey.similarity.criteria .asc (some (.ofText text))) c d = .lt ↔
      db.similarityTo text d < db.similarityTo text c ∨
        db.similarityTo text c = db.similarityTo text d ∧ c.codepoint < d.codepoint := by
  rw [compareRows_similarity, Ordering.then_eq_lt, Direction.apply, compare_lt_iff_lt,
    compare_eq_iff_eq, compare_lt_iff_lt, Int.ofNat_lt, eq_comm]
  rfl

theorem compareRows_similarity_desc {text : String} :
    db.compareRows (SortKey.similarity.criteria .desc (some (.ofText text))) c d = .lt ↔
      db.similarityTo text c < db.similarityTo text d ∨
        db.similarityTo text c = db.similarityTo text d ∧ c.codepoint < d.codepoint := by
  rw [compareRows_similarity, Ordering.then_eq_lt, Direction.apply, Ordering.swap_eq_lt,
    Ordering.swap_eq_eq, compare_gt_iff_gt, compare_eq_iff_eq, compare_lt_iff_lt, Int.ofNat_lt,
    eq_comm]
  rfl

/-- No two rows of an answer are on a par. -/
theorem pairwise_arranged (db : Database) (catalog : Catalog) (user : Option String) (f : Filter)
    (key : SortKey) (dir : Direction) : (db.arranged catalog user f key dir).Pairwise fun c d =>
      db.compareRows (key.criteria dir (f.anchor db.nameOf)) c d = .lt := by
  obtain ⟨dir', hcode⟩ := exists_codepoint_mem_criteria key dir (f.anchor db.nameOf)
  refine ((pairwise_sortRows db _ _).and
    (arranged_nodup db catalog user f key dir)).imp_of_mem ?_
  rintro c d hc hd ⟨hle, hne⟩
  cases hcmp : db.compareRows (key.criteria dir (f.anchor db.nameOf)) c d with
  | lt => rfl
  | eq =>
    have hsame := codepoint_eq_of_compareRows hcode hcmp
    exact absurd (eq_of_codepoint_eq (mem_rows_of_mem_arranged hc) (mem_rows_of_mem_arranged hd)
      hsame) hne
  | gt =>
    rw [hcmp] at hle
    cases hle

/-- The rows in descending order are those in ascending order from the end. -/
theorem arranged_desc (h : key = .similarity → f.anchor db.nameOf = none) :
    db.arranged catalog user f key .desc = (db.arranged catalog user f key .asc).reverse := by
  symm
  rw [eq_arranged_iff, List.pairwise_reverse, SortKey.criteria_desc h]
  refine ⟨(List.reverse_perm _).trans (arranged_perm ..), ?_⟩
  refine (pairwise_sortRows db _ _).imp fun {c d} hcd => ?_
  have hswap : db.compareRows (key.criteria .asc (f.anchor db.nameOf)) c d =
      (db.compareRows (key.criteria .asc (f.anchor db.nameOf)) d c).swap := Std.OrientedCmp.eq_swap
  rwa [compareRows_turned, ← hswap]

end Database

/-! ### The last search -/

namespace Filter
variable {f before after : Filter} {names : Nat → Option String} {raw : String} {t : SearchTerm}

theorem searchTerms_eq_nil_iff :
    f.searchTerms = [] ↔ ∀ raw, .search raw ∈ f → Text.trim raw = "" := by
  simp only [List.eq_nil_iff_forall_not_mem, mem_searchTerms_iff, ← SearchTerm.ofText?_eq_none_iff,
    Option.eq_none_iff_forall_ne_some, not_exists, not_and]
  exact ⟨fun h raw hraw t => h t raw hraw, fun h t raw hraw => h raw hraw t⟩

/-- Blank searches after it do not count. -/
theorem anchor_of_last (ht : SearchTerm.ofText? raw = some t)
    (hafter : ∀ raw', .search raw' ∈ after → Text.trim raw' = "") :
    anchor (before ++ .search raw :: after) names = some (searchAnchor names t) := by
  have hterms : searchTerms (before ++ .search raw :: after) = before.searchTerms ++ [t] := by
    have hcons : searchTerms (.search raw :: after) = t :: after.searchTerms :=
      List.filterMap_cons_some ht
    rw [searchTerms_append, hcons, searchTerms_eq_nil_iff.2 hafter]
  unfold anchor
  rw [hterms, List.getLast?_concat]
  rfl

theorem anchor_of_blank (h : ∀ raw, .search raw ∈ f → Text.trim raw = "") :
    f.anchor names = none := by
  unfold anchor
  rw [searchTerms_eq_nil_iff.2 h]
  rfl

end Filter

namespace Database
variable {db : Database} {catalog : Catalog} {text : String} {user : Option String} {r : Paging}
  {page : ResultPage}

theorem similarityTo_eq {c : StoredCharacter} (h : db.Consistent) (hc : c ∈ db.characters.rows)
    (text : String) : db.similarityTo text c = c.nameTrigrams.similarity (trigrams text) :=
  ratio_scoreOrZero h hc

/-- In each order that the engine takes, and only the one by similarity may not be among them, the
pages of an answer put end to end list every row that matches. By a column the
ascending list goes by its values and then by code point, and the descending list is the same from
its end. By similarity it counts how much names resemble what the last search that is not blank
stands for, the most coming first in the ascending list and the least in the descending; rows that
resemble it alike ascend by code point in both. Without such a search the order is that of the code
points. -/
theorem search_sorted (h : db.search catalog text user r = .ok page) :
    ∃ f, Filter.ofText text = .ok f ∧ ∃ listed : SortKey → Direction → List StoredCharacter,
      (∀ key, key ≠ .similarity ∨ r.sort = .similarity → db.Takes catalog text user key) ∧
      (∀ key dir, (listed key dir).Nodup ∧
        (∀ c, c ∈ listed key dir ↔ f.Matches db catalog user c) ∧
        (db.Takes catalog text user key → ∀ n, page.total ≤ 256 * n →
          db.readPages catalog text user key dir n =
            .ok ((listed key dir).map fun c => .ofRow (db.row c)))) ∧
      (∀ key, (key = .similarity → ∀ raw, .search raw ∈ f → Text.trim raw = "") →
        (listed key .asc).Pairwise (·.Precedes key.column ·) ∧
        listed key .desc = (listed key .asc).reverse) ∧
      (∀ before raw after, f = before ++ .search raw :: after → Text.trim raw ≠ "" →
        (∀ raw', .search raw' ∈ after → Text.trim raw' = "") →
        ∃ t anchor, SearchTerm.ofText? raw = some t ∧
          anchor = (t.codepoint.bind db.nameOf).getD t.text ∧
          (listed .similarity .asc).Pairwise (fun c d =>
            db.similarityTo anchor d < db.similarityTo anchor c ∨
              db.similarityTo anchor c = db.similarityTo anchor d ∧ c.codepoint < d.codepoint) ∧
          (listed .similarity .desc).Pairwise (fun c d =>
            db.similarityTo anchor c < db.similarityTo anchor d ∨
              db.similarityTo anchor c = db.similarityTo anchor d ∧ c.codepoint < d.codepoint) ∧
          (db.Consistent → ∀ c ∈ db.characters.rows,
            db.similarityTo anchor c = c.nameTrigrams.similarity (trigrams anchor))) ∧
      ((∀ raw, .search raw ∈ f → Text.trim raw = "") →
        ∀ dir, listed .similarity dir = listed .codepoint dir) := by
  obtain ⟨f, hf⟩ := exists_ofText_of_search h
  have hans := isAnswered_of_search hf h
  refine ⟨f, hf, db.arranged catalog user f, fun key hkey => takes_of_search_of_key h hkey,
    fun key dir => ?_, fun key hblank => ?_, ?_, ?_⟩
  · refine ⟨arranged_nodup .., fun c => ?_, fun htakes n hn => ?_⟩
    · rw [(arranged_perm ..).mem_iff, mem_matched_iff hans]
    · rw [readPages_eq_ok hf hans (htakes f hf), List.take_of_length_le]
      rw [(arranged_perm ..).length_eq, ← total_eq_of_search hf h, Page.size]
      omega
  · have hanchor : key = .similarity → f.anchor db.nameOf = none :=
      fun hkey => Filter.anchor_of_blank (hblank hkey)
    exact ⟨(pairwise_arranged db catalog user f key .asc).imp (compareRows_asc hanchor).1,
      arranged_desc hanchor⟩
  · rintro before raw after rfl hraw hafter
    obtain ⟨t, ht⟩ := Option.ne_none_iff_exists'.1 (mt SearchTerm.ofText?_eq_none_iff.1 hraw)
    have hsorted := pairwise_arranged db catalog user (before ++ .search raw :: after) .similarity
    rw [Filter.anchor_of_last ht hafter] at hsorted
    exact ⟨t, _, ht, rfl, (hsorted .asc).imp compareRows_similarity_asc.1,
      (hsorted .desc).imp compareRows_similarity_desc.1, fun hcons c hc => similarityTo_eq hcons hc _⟩
  · intro hblank dir
    unfold arranged
    rw [Filter.anchor_of_blank hblank]
    rfl

/-- Two names that are alike and one character without a name. -/
def namesakes : List Write :=
  [.character { codepoint := 0x43 }, .character { codepoint := 0x42, name := some "ALPHA" },
    .character { codepoint := 0x41, name := some "Alpha" }]

theorem search_sorted_namesakes :
    ∃ page, (empty.afterAll namesakes).search ⟨fun _ => []⟩ "search:U+0041,search: " none {} =
      .ok page ∧ page.total ≤ 256 ∧
      (∃ rows : List StoredCharacter,
        (empty.afterAll namesakes).readPages ⟨fun _ => []⟩ "search:U+0041,search: " none
          .name .asc 1 = .ok (rows.map fun c => .ofRow ((empty.afterAll namesakes).row c)) ∧
        (empty.afterAll namesakes).readPages ⟨fun _ => []⟩ "search:U+0041,search: " none
          .name .desc 1 = .ok (rows.reverse.map fun c => .ofRow ((empty.afterAll namesakes).row c))) ∧
      ∃ rows : List StoredCharacter,
        (empty.afterAll namesakes).readPages ⟨fun _ => []⟩ "search:U+0041,search: " none
          .similarity .desc 1 = .ok (rows.map fun c => .ofRow ((empty.afterAll namesakes).row c)) ∧
        rows.Pairwise fun c d =>
          (empty.afterAll namesakes).similarityTo "Alpha" c <
            (empty.afterAll namesakes).similarityTo "Alpha" d ∨
          (empty.afterAll namesakes).similarityTo "Alpha" c =
            (empty.afterAll namesakes).similarityTo "Alpha" d ∧ c.codepoint < d.codepoint := by
  have hread : Filter.ofText "search:U+0041,search: " = .ok [.search "U+0041", .search ""] := by
    decide +kernel
  have hopen : (empty.afterAll namesakes).isOpen = true := by decide +kernel
  have hans : Filter.IsAnswered [.search "U+0041", .search ""] (empty.afterAll namesakes) none :=
    ⟨.inl hopen, .inr ⟨hopen, fun _ negated => by simp⟩⟩
  have hfirst := @search_eq_ok _ ⟨fun _ => []⟩ _ _ _ hread hans {} (by decide +kernel)
  have htotal : ((empty.afterAll namesakes).matched ⟨fun _ => []⟩ none
      [.search "U+0041", .search ""]).length ≤ 256 := by decide +kernel
  obtain ⟨f, hf, listed, htaken, hpages, hcolumns, hlast, -⟩ := search_sorted hfirst
  obtain rfl := Except.ok.inj (hread.symm.trans hf)
  obtain ⟨t, anchor, ht, hanchor, -, hdesc, -⟩ :=
    hlast [] "U+0041" [.search ""] rfl (by decide +kernel) (by simp; decide +kernel)
  have hname : anchor = "Alpha" := by
    have hterm : SearchTerm.ofText? "U+0041" = some ⟨"U+0041", some 0x41⟩ := by decide +kernel
    rw [hanchor, ← Option.some.inj (hterm.symm.trans ht)]
    decide +kernel
  rw [hname] at hdesc
  have hbyname := htaken .name (.inl nofun)
  refine ⟨_, hfirst, htotal, ⟨listed .name .asc, (hpages _ _).2.2 hbyname 1 htotal, ?_⟩,
    listed .similarity .desc, (hpages _ _).2.2 (by decide +kernel) 1 htotal, hdesc⟩
  rw [← (hcolumns .name nofun).2]
  exact (hpages .name .desc).2.2 hbyname 1 htotal

end Database
end CharAtlas
