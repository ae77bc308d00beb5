import CharAtlas.Proofs.Query.Meaning
import CharAtlas.Proofs.Query.Pages

/-! # Answers are right

`Filter.Describes` says clause by clause what a filter asks of a character. The pages of an answer
list the characters that the filter describes and no others (`Database.search_lists`), with tags and
terms read as far as their first null character; where there is none, this is no restriction
(`Filter.describes_plain_iff`). -/

namespace CharAtlas

/-- What the clauses of a filter say of a character. -/
structure Filter.Describes (f : Filter) (read : Reading) (db : Database) (catalog : Catalog)
    (user : Option String) (c : StoredCharacter) : Prop where
  /-- The first selection in a dimension counts, and only if it leaves something out or nothing is
  known. -/
  selection : ∀ d values, f.firstSelection d = some values →
    (catalog.values d = [] ∨ ∃ v ∈ catalog.values d, v ∉ values) → ∃ v ∈ values, c.HasValue read d v
  confusableWith : ∀ t, .confusableWith t ∈ f → Text.trim t ≠ "" →
    ∃ u ∈ (Text.trim t).toList, db.Paired c.codepoint u.toNat
  notConfusableWith : ∀ t, .notConfusableWith t ∈ f →
    ∀ u ∈ (Text.trim t).toList, ¬db.Paired c.codepoint u.toNat
  search : ∀ raw t, .search raw ∈ f → SearchTerm.ofText? raw = some t →
    Database.Finds read db.nameOf c t
  property : ∀ p negated, .property p negated ∈ f → (db.HasProperty user c p ↔ negated = false)

namespace Filter
variable {f : Filter} {db : Database} {catalog : Catalog} {user : Option String} {q : Query}
  {c : StoredCharacter}

/-- The conditions of a plan hold of the characters that the filter describes. -/
theorem isMatch_iff_describes (h : db.Consistent) (hc : c ∈ db.characters.rows)
    (hclosed : c.HasClosedTag) (hclass : ∀ n, c.combiningClass = some n → 0 ≤ n)
    (hplan : f.plan catalog user db.nameOf = .ok (.query q)) :
    q.isMatch db c = true ↔ f.Describes .untilNull db catalog user c := by
  rw [isMatch_iff hplan]
  constructor
  · intro hk
    refine ⟨?_, ?_, ?_, ?_, ?_⟩
    · intro d values hd hleft
      exact (selectionCondition_holds_iff hclosed).1
        (hk _ (.selection hd (Catalog.isComplete_eq_false_iff.2 hleft)))
    · intro t ht hne
      obtain ⟨k, hcond⟩ := Option.ne_none_iff_exists'.1
        (mt confusableTextCondition?_eq_none_iff.1 hne : confusableTextCondition? false t ≠ none)
      have hholds := hk k (.confusable (Clause.mem_confusableTexts.2 ht) hcond)
      exact ((confusableTextCondition?_holds_iff hcond).1 hholds).2 rfl
    · intro t ht u hu hpair
      have hne : Text.trim t ≠ "" := by
        intro he
        rw [he] at hu
        exact absurd hu (by simp)
      obtain ⟨k, hcond⟩ := Option.ne_none_iff_exists'.1
        (mt confusableTextCondition?_eq_none_iff.1 hne : confusableTextCondition? true t ≠ none)
      have hholds := hk k (.confusable (Clause.mem_notConfusableTexts.2 ht) hcond)
      exact absurd (((confusableTextCondition?_holds_iff hcond).1 hholds).1 ⟨u, hu, hpair⟩)
        (by decide)
    · intro raw t hraw ht
      exact (searchCondition_holds_iff h hc).1
        (hk _ (.search (mem_searchTerms_iff.2 ⟨raw, hraw, ht⟩)))
    · intro p negated hp
      obtain ⟨-, -, properties, hprops, -⟩ := plan_eq_query hplan
      obtain ⟨k, hcond⟩ := exists_of_mapM_eq_ok hprops (mem_propertyClauses_iff.2 hp)
      exact (propertyCondition_holds_iff (fun _ => hclass) hcond).1 (hk k (.property hp hcond))
  · intro hdesc k hk
    cases hk with
    | selection hd hleft =>
      exact (selectionCondition_holds_iff hclosed).2
        (hdesc.selection _ _ hd (Catalog.isComplete_eq_false_iff.1 hleft))
    | @confusable negated t _ ht hcond =>
      rw [confusableTextCondition?_holds_iff hcond]
      have hne : Text.trim t ≠ "" := by
        intro he
        rw [confusableTextCondition?_eq_none_iff.2 he] at hcond
        cases hcond
      cases negated with
      | false => exact iff_of_true (hdesc.confusableWith t (Clause.mem_confusableTexts.1 ht) hne) rfl
      | true =>
        refine iff_of_false ?_ (by decide)
        rintro ⟨u, hu, hpair⟩
        exact hdesc.notConfusableWith t (Clause.mem_notConfusableTexts.1 ht) u hu hpair
    | search ht =>
      obtain ⟨raw, hraw, ht⟩ := mem_searchTerms_iff.1 ht
      exact (searchCondition_holds_iff h hc).2 (hdesc.search raw _ hraw ht)
    | property hp hcond =>
      exact (propertyCondition_holds_iff (fun _ => hclass) hcond).2 (hdesc.property _ _ hp)

/-! ### Null characters -/

/-- No null character stands where it matters: in a tag of the database if the filter selects from
the tags, or in a term that stands for no name. -/
structure IsNullFree (f : Filter) (db : Database) (catalog : Catalog) : Prop where
  tag : ∀ values, f.firstSelection .decompositionTypes = some values →
    (catalog.values .decompositionTypes = [] ∨
      ∃ v ∈ catalog.values .decompositionTypes, v ∉ values) →
    ∀ c ∈ db.characters.rows, ∀ d t, c.decomposition = some d → Decomposition.Tagged d t →
      '\x00' ∉ t.toList
  term : ∀ raw t, .search raw ∈ f → SearchTerm.ofText? raw = some t →
    t.codepoint.bind db.nameOf = none → '\x00' ∉ t.text.toList

theorem hasValue_congr {read read' : Reading} {d : Dimension} {v : String}
    (h : d = .decompositionTypes → ∀ d t, c.decomposition = some d → Decomposition.Tagged d t →
      read.tag t = read'.tag t) (hv : c.HasValue read d v) : c.HasValue read' d v := by
  cases hv with
  | script hv => exact .script hv
  | category hv => exact .category hv
  | bidiClass hv => exact .bidiClass hv
  | age hv => exact .age hv
  | canonical hd hb => exact .canonical hd hb
  | tag hd ht hne =>
    rw [h rfl _ _ hd ht] at hne ⊢
    exact .tag hd ht hne

theorem finds_congr {read read' : Reading} {names : Nat → Option String} {t : SearchTerm}
    (h : t.codepoint.bind names = none →
      (read.occurs c.code t.text ↔ read'.occurs c.code t.text)) :
    Database.Finds read names c t ↔ Database.Finds read' names c t := by
  unfold Database.Finds
  split
  · exact Iff.rfl
  · rename_i hnone
    rw [h hnone]

/-- Readings that agree on the tag of a character and on the terms describe it alike. -/
theorem Describes.congr {read read' : Reading} (h : f.Describes read db catalog user c)
    (htag : ∀ values, f.firstSelection .decompositionTypes = some values →
      (catalog.values .decompositionTypes = [] ∨
        ∃ v ∈ catalog.values .decompositionTypes, v ∉ values) →
      ∀ d t, c.decomposition = some d → Decomposition.Tagged d t → read.tag t = read'.tag t)
    (hterm : ∀ raw t, .search raw ∈ f → SearchTerm.ofText? raw = some t →
      t.codepoint.bind db.nameOf = none →
        (read.occurs c.code t.text ↔ read'.occurs c.code t.text)) :
    f.Describes read' db catalog user c where
  selection d values hd hleft := by
    obtain ⟨v, hmem, hv⟩ := h.selection d values hd hleft
    refine ⟨v, hmem, hasValue_congr (fun he => ?_) hv⟩
    subst he
    exact htag values hd hleft
  confusableWith := h.confusableWith
  notConfusableWith := h.notConfusableWith
  search raw t hraw ht := (finds_congr (hterm raw t hraw ht)).1 (h.search raw t hraw ht)
  property := h.property

theorem describes_plain_iff (h : f.IsNullFree db catalog) (hc : c ∈ db.characters.rows) :
    f.Describes .plain db catalog user c ↔ f.Describes .untilNull db catalog user c := by
  have htag : ∀ values, f.firstSelection .decompositionTypes = some values →
      (catalog.values .decompositionTypes = [] ∨
        ∃ v ∈ catalog.values .decompositionTypes, v ∉ values) →
      ∀ d t, c.decomposition = some d → Decomposition.Tagged d t →
        Reading.untilNull.tag t = Reading.plain.tag t :=
    fun values hd hleft d t hdec ht => Reading.untilNull_tag (h.tag values hd hleft c hc d t hdec ht)
  have hterm : ∀ raw t, .search raw ∈ f → SearchTerm.ofText? raw = some t →
      t.codepoint.bind db.nameOf = none →
        (Reading.untilNull.occurs c.code t.text ↔ Reading.plain.occurs c.code t.text) :=
    fun raw t hraw ht hnone => Reading.untilNull_occurs (h.term raw t hraw ht hnone)
  constructor
  · intro hdesc
    exact hdesc.congr (fun values hd hleft d t hdec ht => (htag values hd hleft d t hdec ht).symm)
      fun raw t hraw ht hnone => (hterm raw t hraw ht hnone).symm
  · intro hdesc
    exact hdesc.congr htag hterm

end Filter

namespace Database

/-- The pages of an answer list, each once, the characters that the filter describes and no others,
and the total is their number. In the description a null character ends tags and terms; where there
is none, they are taken as they are. -/
theorem search_lists {ws : List Write} {catalog : Catalog} {text : String} {f : Filter}
    {user : Option String} {r : Paging} {page : ResultPage}
    (hws : ∀ c, .character c ∈ ws →
      c.HasClosedTag ∧ ∀ n, c.combiningClass = some n → 0 ≤ n)
    (hf : Filter.ofText text = .ok f) (hne : ∀ d, f.firstSelection d ≠ some [])
    (h : (empty.afterAll ws).search catalog text user r = .ok page) :
    ∃ listed : List StoredCharacter, listed.Nodup ∧
      (∀ c, c ∈ listed ↔ c ∈ (empty.afterAll ws).characters.rows ∧
        f.Describes .untilNull (empty.afterAll ws) catalog user c) ∧
      (f.IsNullFree (empty.afterAll ws) catalog → ∀ c, c ∈ listed ↔
        c ∈ (empty.afterAll ws).characters.rows ∧
          f.Describes .plain (empty.afterAll ws) catalog user c) ∧
      ∀ k, (empty.afterAll ws).search catalog text user { r with page := k } = .ok {
        characters := ((listed.drop (k * Page.size)).take Page.size).map
          fun c => .ofRow ((empty.afterAll ws).row c)
        total := listed.length } := by
  have hcons : Consistent (empty.afterAll ws) := Consistent.empty.afterAll ws
  have hopen := isOpen_of_search hf hne h
  have hfits := fits_of_search hf h
  rw [search_of_isOpen hf hopen] at h
  cases hplan : f.plan catalog user (empty.afterAll ws).nameOf with
  | error e =>
    rw [hplan] at h
    cases h
  | ok P =>
    cases P with
    | nothing =>
      obtain ⟨d, hd⟩ := Filter.plan_eq_nothing_iff.1 hplan
      exact absurd hd (hne d)
    | query q =>
      have hlisted : ∀ c, c ∈ (empty.afterAll ws).sorted q r.sort r.direction ↔
          c ∈ (empty.afterAll ws).characters.rows ∧
            f.Describes .untilNull (empty.afterAll ws) catalog user c := by
        intro c
        rw [mem_sorted_iff]
        refine and_congr_right fun hc => ?_
        obtain ⟨x, hx, rfl⟩ := (exists_write_of_mem_rows hc).resolve_left List.not_mem_nil
        exact Filter.isMatch_iff_describes hcons hc (hws x hx).1 (hws x hx).2 hplan
      refine ⟨_, sorted_nodup _ q r.sort r.direction, hlisted, fun hnull c => ?_, fun k => ?_⟩
      · rw [hlisted]
        exact and_congr_right fun hc => (Filter.describes_plain_iff hnull hc).symm
      · rw [search_of_isOpen hf hopen, hplan, (sorted_perm _ q r.sort r.direction).length_eq]
        exact runPlan_query (r := { r with page := k }) hopen (hfits _ hplan)

/-- Letters that look alike, one with a tag, and a pair of them. -/
def threeLetters : List Write :=
  [.character {
      codepoint := 0x41
      name := some "LATIN CAPITAL LETTER A"
      script := some "Latin" },
    .character {
      codepoint := 0x391
      name := some "GREEK CAPITAL LETTER ALPHA"
      script := some "Greek" },
    .character {
      codepoint := 0x1D400
      name := some "MATHEMATICAL BOLD CAPITAL A"
      decomposition := some "<font> 0041"
      combiningClass := some 0 },
    .confusable ⟨0x391, 0x41⟩]

def capitalsLikeA : Filter :=
  [.search "capital letter", .property .combiningClass true, .confusableWith "A"]

theorem search_lists_threeLetters :
    (∀ c, .character c ∈ threeLetters →
      c.HasClosedTag ∧ ∀ n, c.combiningClass = some n → 0 ≤ n) ∧
    ∃ listed : List StoredCharacter, listed.Nodup ∧
      (∀ c, c ∈ listed ↔ c ∈ (empty.afterAll threeLetters).characters.rows ∧
        capitalsLikeA.Describes .untilNull (empty.afterAll threeLetters) ⟨fun _ => []⟩ none c) ∧
      (capitalsLikeA.IsNullFree (empty.afterAll threeLetters) ⟨fun _ => []⟩ → ∀ c, c ∈ listed ↔
        c ∈ (empty.afterAll threeLetters).characters.rows ∧
          capitalsLikeA.Describes .plain (empty.afterAll threeLetters) ⟨fun _ => []⟩ none c) ∧
      ∀ k, (empty.afterAll threeLetters).search ⟨fun _ => []⟩
          "search:capital letter,not_hasCombiningClass,confusableWith:A" none
          { ({} : Paging) with page := k } = .ok {
        characters := ((listed.drop (k * Page.size)).take Page.size).map
          fun c => .ofRow ((empty.afterAll threeLetters).row c)
        total := listed.length } := by
  have hws : ∀ c, .character c ∈ threeLetters →
      c.HasClosedTag ∧ ∀ n, c.combiningClass = some n → 0 ≤ n := by
    intro c hc
    simp only [threeLetters, List.mem_cons, Write.character.injEq, reduceCtorEq, List.not_mem_nil,
      or_false] at hc
    rcases hc with rfl | rfl | rfl
    · exact ⟨fun d hd => (nomatch hd), fun n hn => (nomatch hn)⟩
    · exact ⟨fun d hd => (nomatch hd), fun n hn => (nomatch hn)⟩
    · refine ⟨fun d hd _ => ?_, fun n hn => ?_⟩
      · obtain rfl := Option.some.inj hd
        decide
      · obtain rfl := Option.some.inj hn
        decide
  have hread : Filter.ofText "search:capital letter,not_hasCombiningClass,confusableWith:A" =
      .ok capitalsLikeA := by decide +kernel
  have hopen : (empty.afterAll threeLetters).isOpen = true := by decide +kernel
  have hne : ∀ d, capitalsLikeA.firstSelection d ≠ some [] := by
    intro d
    cases d <;> decide
  have hok : ∃ page, (empty.afterAll threeLetters).search ⟨fun _ => []⟩
      "search:capital letter,not_hasCombiningClass,confusableWith:A" none {} = .ok page :=
    exists_search_eq_ok hread hopen (fun _ negated => by simp [capitalsLikeA]) (by decide +kernel)
  obtain ⟨page, hpage⟩ := hok
  exact ⟨hws, search_lists hws hread hne hpage⟩

/-- The tag of a decomposition with a null character in it. -/
def nullTagged : Character :=
  { codepoint := 0x41, decomposition := some "<a\x00b> 0041" }

/-- What is listed under `a` need not be tagged so: the tag, shown as a whole, may go on after a null
character. -/
theorem search_lists_null_tag :
    nullTagged.HasClosedTag ∧ Decomposition.tag nullTagged.decomposition = "a\x00b" ∧
    Filter.ofText "decompositionTypes:a" = .ok [.members .decompositionTypes ["a"]] ∧
    ((empty.afterAll [.character nullTagged]).search (.ofValues empty.valuesIn)
        "decompositionTypes:a" none {}).map
      (fun page => (page.characters.map (·.codepoint), page.total)) = .ok ([0x41], 1) ∧
    ∀ c ∈ (empty.afterAll [.character nullTagged]).characters.rows,
      ¬Filter.Describes [.members .decompositionTypes ["a"]] .plain
        (empty.afterAll [.character nullTagged]) (.ofValues empty.valuesIn) none c := by
  have hclosed : nullTagged.HasClosedTag := by
    intro d hd _
    obtain rfl := Option.some.inj hd
    decide
  refine ⟨hclosed, by decide +kernel, by decide +kernel, by decide +kernel, fun c hc hdesc => ?_⟩
  have hrow : c.decomposition = some "<a\x00b> 0041" := by
    obtain ⟨x, hx, rfl⟩ := (exists_write_of_mem_rows hc).resolve_left List.not_mem_nil
    obtain rfl := Write.character.inj (List.mem_singleton.1 hx)
    rfl
  have htagged : Decomposition.Tagged "<a\x00b> 0041" "a\x00b" := ⟨" 0041".toList, by decide⟩
  -- not all known types are selected, for `canonical` is not
  obtain ⟨v, hv, hvalue⟩ := hdesc.selection .decompositionTypes ["a"] rfl
    (.inr ⟨Catalog.canonical, List.mem_cons_self .., by decide⟩)
  obtain ⟨rfl, -⟩ := (Filter.hasValue_iff_of_tagged hrow htagged).1 hvalue
  exact absurd hv (by decide)

end Database
end CharAtlas
