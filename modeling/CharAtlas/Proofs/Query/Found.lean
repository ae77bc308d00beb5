import CharAtlas.Proofs.Filter.Joined
import CharAtlas.Proofs.Query.Answer
import CharAtlas.Proofs.Query.Pagination
import CharAtlas.Proofs.Query.Taken
import CharAtlas.Proofs.SearchTerm
import CharAtlas.Proofs.Store.Pairs
import CharAtlas.Proofs.Trigram

/-! # Finding a character by its code point

A search for a stored character, by its code or by the character itself, compares names with its
name, and no name is closer than that (`Database.nameTrigrams_eq_of_compareRows`). So the character
is found, and in the order of similarity nothing comes before it but smaller code points with names
that have the same trigrams (`Database.search_codepoint_first`). The engine takes the search if
the name has 8191 trigrams at most, or 16382 where the order is not by similarity
(`Filter.fits_search_iff`), and else it is an error (`Database.search_of_size_trigrams`). -/

namespace CharAtlas

namespace Filter
variable {catalog : Catalog} {user : Option String} {names : Nat → Option String} {raw : String}
  {t : SearchTerm} {k : Condition} {name : String}

theorem asks_search_iff (ht : SearchTerm.ofText? raw = some t) :
    Asks [.search raw] catalog user names k ↔ k = searchCondition names t := by
  have hmem : ∀ u, u ∈ searchTerms [.search raw] ↔ u = t := by
    intro u
    simp [searchTerms, ht]
  constructor
  · intro h
    cases h with
    | selection hd => cases hd
    | @confusable b u _ hu => cases b <;> cases hu
    | search hu => rw [(hmem _).1 hu]
    | property hp => cases List.mem_singleton.1 hp
  · rintro rfl
    exact .search ((hmem t).2 rfl)

theorem anchor_search (ht : SearchTerm.ofText? raw = some t) :
    anchor [.search raw] names = some (searchAnchor names t) := by
  unfold anchor searchTerms
  simp [ht]

theorem length_params_anchor (a : Anchor) : a.params.length = 2 * a.trigrams.size := by
  unfold Anchor.params OrderedSet.size
  rw [List.length_append, List.length_map]
  omega

theorem searchAnchor_of_resolved (h : resolved names t = some name) :
    searchAnchor names t = .ofText name := by
  unfold searchAnchor
  rw [h]
  rfl

theorem searchCondition_of_resolved (h : resolved names t = some name) :
    searchCondition names t = .similar (.ofText name) := by
  unfold searchCondition
  rw [h, searchAnchor_of_resolved h]

theorem anchor_search_of_resolved (ht : SearchTerm.ofText? raw = some t)
    (h : resolved names t = some name) : anchor [.search raw] names = some (.ofText name) := by
  rw [anchor_search ht, searchAnchor_of_resolved h]

theorem exists_plan_search (names : Nat → Option String) :
    ∃ q, Filter.plan [.search raw] catalog user names = .ok (.query q) :=
  exists_plan_eq_query_iff.2 ⟨fun d => nofun, fun _ negated => by simp⟩

/-- A search binds the trigrams of its name twice, and its order binds them twice again. -/
theorem fits_search_iff {db : Database} {key : SortKey} (ht : SearchTerm.ofText? raw = some t)
    (hname : resolved db.nameOf t = some name) : Fits [.search raw] db catalog user key ↔
      (trigrams name).size ≤ if key = .similarity then 8191 else 16382 := by
  have hlength : (Anchor.ofText name).params.length = 2 * (trigrams name).size :=
    length_params_anchor _
  have hlast : (searchTerms [.search raw]).getLast?.map (searchAnchor db.nameOf) =
      some (.ofText name) := anchor_search_of_resolved ht hname
  rw [fits_singleton_iff (exists_plan_search db.nameOf) fun k => asks_search_iff ht, hlast,
    searchCondition_of_resolved hname]
  show (Anchor.ofText name).params.length + _ + 2 ≤ 32766 ↔ _
  split_ifs with hkey
  · have horder : orderParams (key.criteria .asc (some (.ofText name))) =
        (Anchor.ofText name).params := by
      rw [hkey]
      exact List.append_nil _
    rw [horder, hlength]
    omega
  · rw [Query.orderParams_eq_nil hkey, hlength, List.length_nil]
    omega

theorem isAnswered_search {db : Database} (hopen : db.isOpen = true) :
    IsAnswered [.search raw] db user :=
  ⟨.inl hopen, .inr ⟨hopen, fun _ negated => by simp⟩⟩

theorem not_selectsNothing_search : ¬SelectsNothing [.search raw] := by
  rintro ⟨d, hd⟩
  cases hd

end Filter

namespace Database
variable {db : Database} {a : Anchor} {c d : StoredCharacter} {catalog : Catalog}
  {user : Option String} {name raw : String} {n : Nat}

/-! ### Names that are closest -/

/-- Before a row whose name is as close as can be come only names that are so too. -/
theorem nameTrigrams_eq_of_compareRows (h : Consistent db) (hc : c ∈ db.characters.rows)
    (hd : d ∈ db.characters.rows) (ha : a.trigrams.isEmpty = false)
    (hname : c.nameTrigrams = a.trigrams)
    (hle : (db.compareRows (SortKey.similarity.criteria .asc (some a)) d c).isLE) :
    d.nameTrigrams = a.trigrams ∧ d.codepoint ≤ c.codepoint := by
  have hone : (Criterion.scoreOrZero db a c).ratio = 1 := by
    rw [ratio_scoreOrZero h hc]
    exact (OrderedSet.similarity_eq_one_iff ha).2 hname
  have hmost : (Criterion.scoreOrZero db a d).ratio ≤ 1 := by
    rw [ratio_scoreOrZero h hd]
    exact OrderedSet.similarity_le_one _ _
  rw [compareRows_similarity, Direction.apply, hone] at hle
  rcases hmost.lt_or_eq with hless | hmost
  · rw [compare_gt_iff_gt.2 hless] at hle
    cases hle
  · rw [hmost, compare_eq_iff_eq.2 rfl, Ordering.eq_then] at hle
    rw [ratio_scoreOrZero h hd] at hmost
    refine ⟨(OrderedSet.similarity_eq_one_iff ha).1 hmost, ?_⟩
    have hcode : (d.codepoint : Int) ≤ c.codepoint := Std.isLE_compare.1 hle
    exact_mod_cast hcode

/-! ### Searches for a stored character -/

/-- The row `c` matches the text, and of all that match nothing comes before it in the order of
similarity but smaller code points with names of the same trigrams. The engine takes the text if the
name of `c` has not too many trigrams for the order, and what it takes is answered so. -/
structure FindsFirst (db : Database) (catalog : Catalog) (user : Option String) (text : String)
    (c : StoredCharacter) : Prop where
  found : ∀ key, db.Takes catalog text user key →
    ∃ rows, db.Answers catalog text user rows ∧ c ∈ rows
  first : ∃ (f : Filter) (before after : List StoredCharacter), Filter.ofText text = .ok f ∧
    (before ++ c :: after).Nodup ∧
    (∀ d, d ∈ before ++ c :: after ↔ f.Matches db catalog user d) ∧
    (db.Takes catalog text user .similarity →
      ∀ k, db.search catalog text user ⟨k, .similarity, .asc⟩ = .ok {
        characters := (((before ++ c :: after).drop (k * Page.size)).take Page.size).map
          fun c => .ofRow (db.row c)
        total := (before ++ c :: after).length }) ∧
    ∀ d ∈ before, d ∈ db.characters.rows ∧ d.codepoint < c.codepoint ∧
      ∃ name, d.name = some name ∧ trigrams name = c.nameTrigrams
  taken : ∀ key, db.Takes catalog text user key ↔
    c.nameTrigrams.size ≤ if key = .similarity then 8191 else 16382

theorem exists_name_of_nameTrigrams (h : c.nameTrigrams.isEmpty = false) :
    ∃ name, c.name = some name := by
  cases hname : c.name with
  | some name => exact ⟨name, rfl⟩
  | none =>
    unfold Character.nameTrigrams at h
    rw [hname] at h
    cases h

theorem nameOf_of_mem_rows (hc : c ∈ db.characters.rows) : db.nameOf c.codepoint = c.name := by
  unfold nameOf
  rw [CharacterTable.mem_rows_iff.1 hc]
  rfl

/-- A name that has trigrams resembles itself. -/
theorem resembles_name (hname : c.name = some name) (htri : (trigrams name).isEmpty = false) :
    c.Resembles name := by
  unfold Character.Resembles
  rw [nameTrigrams_of_name hname, Finset.union_self, Finset.inter_self]
  exact ⟨OrderedSet.toFinset_nonempty_iff.2 htri, by omega⟩

/-- A row that matches stands somewhere in the order, and other rows come before it only if they
compare so. -/
theorem exists_before_of_mem_matched {text : String} {f : Filter} (hf : Filter.ofText text = .ok f)
    (hans : f.IsAnswered db user) (hc : c ∈ db.matched catalog user f) (key : SortKey)
    (dir : Direction) : ∃ before after : List StoredCharacter,
      (before ++ c :: after).Perm (db.matched catalog user f) ∧
      (db.Takes catalog text user key → ∀ k, db.search catalog text user ⟨k, key, dir⟩ = .ok {
        characters := (((before ++ c :: after).drop (k * Page.size)).take Page.size).map
          fun c => .ofRow (db.row c)
        total := (before ++ c :: after).length }) ∧
      ∀ d ∈ before, d ∈ db.characters.rows ∧ d.codepoint ≠ c.codepoint ∧
        (db.compareRows (key.criteria dir (f.anchor db.nameOf)) d c).isLE := by
  have hperm := arranged_perm db catalog user f key dir
  have hsorted : (db.arranged catalog user f key dir).Pairwise fun d e =>
      (db.compareRows (key.criteria dir (f.anchor db.nameOf)) d e).isLE := pairwise_sortRows db _ _
  have hnodup := arranged_nodup db catalog user f key dir
  have hstored : ∀ d ∈ db.arranged catalog user f key dir, d ∈ db.characters.rows :=
    fun d hd => mem_rows_of_mem_arranged hd
  have hsearch : db.Takes catalog text user key → ∀ k,
      db.search catalog text user ⟨k, key, dir⟩ = .ok {
        characters := (((db.arranged catalog user f key dir).drop (k * Page.size)).take
          Page.size).map fun c => .ofRow (db.row c)
        total := (db.arranged catalog user f key dir).length } := by
    rw [hperm.length_eq]
    exact fun htakes k => search_eq_ok hf hans ⟨k, key, dir⟩ (htakes f hf)
  obtain ⟨before, after, hlisted⟩ := List.append_of_mem (hperm.mem_iff.2 hc)
  rw [hlisted] at hsorted hnodup hstored hsearch hperm
  refine ⟨before, after, hperm, hsearch, fun d hd => ?_⟩
  have hrow := hstored d (List.mem_append_left _ hd)
  refine ⟨hrow, fun he => ?_, (List.pairwise_append.1 hsorted).2.2 d hd c (List.mem_cons_self ..)⟩
  obtain rfl := eq_of_codepoint_eq hrow (hstored c (by simp)) he
  exact (List.nodup_append.1 hnodup).2.2 d hd d (List.mem_cons_self ..) rfl

theorem resolved_of_mem_rows {s : String} (hc : c ∈ db.characters.rows) (hname : c.name = some name) :
    Filter.resolved db.nameOf ⟨s, some c.codepoint⟩ = some name :=
  (nameOf_of_mem_rows hc).trans hname

/-- A search term that names a stored character finds it first. -/
theorem findsFirst_of_term {text s : String} (h : Consistent db) (hopen : db.isOpen = true)
    (hc : c ∈ db.characters.rows) (hname : c.name = some name)
    (htri : (trigrams name).isEmpty = false) (hf : Filter.ofText text = .ok [.search raw])
    (ht : SearchTerm.ofText? raw = some ⟨s, some c.codepoint⟩) :
    db.FindsFirst catalog user text c := by
  have hresolved := resolved_of_mem_rows (s := s) hc hname
  have hanchor := Filter.anchor_search_of_resolved ht hresolved
  have hans : Filter.IsAnswered [.search raw] db user := Filter.isAnswered_search hopen
  have hmatches : Filter.Matches [.search raw] db catalog user c := by
    refine ⟨hc, Filter.not_selectsNothing_search, fun k hk => ?_⟩
    rw [(Filter.asks_search_iff ht).1 hk, Filter.searchCondition_of_resolved hresolved]
    exact (similar_holds_iff h hc).2 (resembles_name hname htri)
  have hmatched := (mem_matched_iff hans).2 hmatches
  have hsame := nameTrigrams_of_name hname
  obtain ⟨before, after, hperm, hsearch, hbefore⟩ :=
    exists_before_of_mem_matched hf hans hmatched .similarity .asc
  refine ⟨fun key htakes => ⟨_, answers_matched hf hans htakes, hmatched⟩,
    ⟨_, before, after, hf, hperm.nodup_iff.2 (matched_nodup ..), fun d => ?_, hsearch,
      fun d hd => ?_⟩,
    fun key => ?_⟩
  · rw [hperm.mem_iff, mem_matched_iff hans]
  · obtain ⟨hrow, hne, hle⟩ := hbefore d hd
    rw [hanchor] at hle
    obtain ⟨hclose, hcode⟩ := nameTrigrams_eq_of_compareRows h hc hrow htri hsame hle
    obtain ⟨name', hname'⟩ := exists_name_of_nameTrigrams (by rw [hclose]; exact htri)
    refine ⟨hrow, Nat.lt_of_le_of_ne hcode hne, name', hname', ?_⟩
    rw [← nameTrigrams_of_name hname', hclose, hsame]
    rfl
  · rw [takes_iff hf, Filter.fits_search_iff ht hresolved, hsame]

/-- A name that has too many trigrams for an order makes the search for it an error. -/
theorem search_of_size_trigrams {text s : String} (hopen : db.isOpen = true)
    (hc : c ∈ db.characters.rows) (hname : c.name = some name)
    (hf : Filter.ofText text = .ok [.search raw])
    (ht : SearchTerm.ofText? raw = some ⟨s, some c.codepoint⟩) {r : Paging}
    (hsize : (if r.sort = .similarity then 8191 else 16382) < (trigrams name).size) :
    db.search catalog text user r = .error (.store .tooManyValues) := by
  have hresolved := resolved_of_mem_rows (s := s) hc hname
  refine search_singleton_of_not_fits hopen hf ?_
  rw [Filter.fits_search_iff ht hresolved]
  exact Nat.not_le_of_lt hsize

/-- A stored character with a letter or digit in its name is found first when its code is searched
for, and so it is by the character itself if this is neither a comma nor blank. -/
theorem search_codepoint_first {ws : List Write} (hws : .close ∉ ws)
    (hc : c ∈ (empty.afterAll ws).characters.rows) (hname : c.name = some name)
    (halnum : ∃ a ∈ name.toList, Text.isAlphanumeric a = true) (catalog : Catalog)
    (user : Option String) :
    (empty.afterAll ws).FindsFirst catalog user ("search:" ++ Codepoint.code c.codepoint) c ∧
    ∀ a : Char, a.toNat = c.codepoint → a ≠ ',' → Text.isBlank a = false →
      (empty.afterAll ws).FindsFirst catalog user ("search:" ++ String.singleton a) c := by
  have h : Consistent (empty.afterAll ws) := Consistent.empty.afterAll ws
  have hopen : (empty.afterAll ws).isOpen = true := isOpen_afterAll hws
  have htri : (trigrams name).isEmpty = false := by
    rw [← Bool.not_eq_true, isEmpty_trigrams_iff]
    obtain ⟨a, ha, halnum⟩ := halnum
    exact fun hnone => hnone a ha halnum
  constructor
  · have hcode : Clause.IsFreeText (Codepoint.code c.codepoint) :=
      ⟨Codepoint.comma_not_mem_code _, (SearchTerm.hasNoBlankEnds_code _).2⟩
    exact findsFirst_of_term h hopen hc hname htri (@Filter.ofText_clauseText (.search _) hcode)
      (SearchTerm.ofText?_code (h.bounded c hc))
  · intro a ha hcomma hblank
    have hfree : Clause.IsFreeText (String.singleton a) :=
      ⟨by simpa using hcomma.symm, (Text.hasNoBlankEnds_singleton hblank).2⟩
    have hterm := SearchTerm.ofText?_singleton hblank
    rw [ha] at hterm
    exact findsFirst_of_term h hopen hc hname htri (@Filter.ofText_clauseText (.search _) hfree) hterm

theorem search_codepoint_first_alpha : .close ∉ threeLetters ∧
    ∃ c ∈ (empty.afterAll threeLetters).characters.rows,
      c.name = some "GREEK CAPITAL LETTER ALPHA" ∧
      (∃ a ∈ "GREEK CAPITAL LETTER ALPHA".toList, Text.isAlphanumeric a = true) ∧
      (empty.afterAll threeLetters).FindsFirst ⟨fun _ => []⟩ none "search:U+0391" c ∧
      (empty.afterAll threeLetters).FindsFirst ⟨fun _ => []⟩ none "search:\u0391" c := by
  have hws : .close ∉ threeLetters := by simp [threeLetters]
  have hrow : ∃ c ∈ (empty.afterAll threeLetters).characters.rows,
      c.codepoint = 0x391 ∧ c.name = some "GREEK CAPITAL LETTER ALPHA" := by decide +kernel
  have halnum : ∃ a ∈ "GREEK CAPITAL LETTER ALPHA".toList, Text.isAlphanumeric a = true :=
    ⟨'G', by decide, by decide +kernel⟩
  obtain ⟨c, hc, hcode, hname⟩ := hrow
  obtain ⟨hbycode, hbychar⟩ := search_codepoint_first hws hc hname halnum ⟨fun _ => []⟩ none
  refine ⟨hws, c, hc, hname, halnum, ?_, hbychar '\u0391' hcode.symm (by decide) (by decide)⟩
  rw [hcode] at hbycode
  have htext : "search:" ++ Codepoint.code 0x391 = "search:U+0391" := by decide +kernel
  rwa [htext] at hbycode

/-! ### A name with very many trigrams -/

def alphabet : List Char :=
  "abcdefghijklmnopqrstuvwxyz".toList

/-- All words of three letters. -/
def threeLetterWords : List (List Char) :=
  alphabet.flatMap fun a => alphabet.flatMap fun b => alphabet.map fun c => [a, b, c]

/-- The words one after the other. -/
def wordyName : String :=
  String.ofList (threeLetterWords.flatMap (· ++ [' ']))

theorem mem_threeLetterWords {a b c : Char} :
    [a, b, c] ∈ threeLetterWords ↔ a ∈ alphabet ∧ b ∈ alphabet ∧ c ∈ alphabet := by
  unfold threeLetterWords
  simp

theorem ne_nil_of_mem_threeLetterWords {w : List Char} (hw : w ∈ threeLetterWords) :
    w ≠ [] ∧ w ⊆ alphabet := by
  unfold threeLetterWords at hw
  simp only [List.mem_flatMap, List.mem_map] at hw
  obtain ⟨a, ha, b, hb, c, hc, rfl⟩ := hw
  simp [ha, hb, hc]

theorem words_wordyName : Text.words wordyName.toList = threeLetterWords := by
  have halnum : ∀ a ∈ alphabet, Text.isAlphanumeric a = true :=
    List.all_eq_true.1 (by decide +kernel)
  unfold wordyName
  rw [String.toList_ofList]
  refine Text.words_flatMap_space fun w hw => ?_
  obtain ⟨hne, hletters⟩ := ne_nil_of_mem_threeLetterWords hw
  exact ⟨hne, fun a ha => halnum a (hletters ha)⟩

/-- Each of the words is a trigram of the name. -/
theorem size_trigrams_wordyName : 26 * (26 * 26) ≤ (trigrams wordyName).size := by
  have hlower : ∀ a ∈ alphabet, Text.lowercase a = [a] := by
    have hall : alphabet.all (fun a => Text.lowercase a == [a]) = true := by decide +kernel
    simpa using hall
  have hinj : Function.Injective fun t : Char × Char × Char => String.ofList [t.1, t.2.1, t.2.2] := by
    rintro ⟨a, b, c⟩ ⟨a', b', c'⟩ h
    have hsame : [a, b, c] = [a', b', c'] := String.ofList_injective h
    simpa using hsame
  have hsub : (alphabet.toFinset ×ˢ alphabet.toFinset ×ˢ alphabet.toFinset).image
      (fun t : Char × Char × Char => String.ofList [t.1, t.2.1, t.2.2]) ⊆
        (trigrams wordyName).toFinset := by
    intro x hx
    simp only [Finset.mem_image, Finset.mem_product, List.mem_toFinset] at hx
    obtain ⟨⟨a, b, c⟩, hletters, rfl⟩ := hx
    have hword := mem_threeLetterWords.2 hletters
    rw [OrderedSet.mem_toFinset]
    exact mem_trigrams_of_word (by rwa [words_wordyName]) fun u hu =>
      hlower u ((ne_nil_of_mem_threeLetterWords hword).2 hu)
  have hletters : alphabet.toFinset.card = 26 := by decide +kernel
  have hcard := Finset.card_le_card hsub
  rwa [Finset.card_image_of_injective _ hinj, Finset.card_product, Finset.card_product, hletters,
    OrderedSet.card_toFinset] at hcard

def wordyCharacter : Character :=
  { codepoint := 0x41, name := some wordyName }

/-- The character with that name is not found. -/
theorem search_codepoint_first_wordyName :
    Write.close ∉ [Write.character wordyCharacter] ∧
    (∃ c ∈ (empty.afterAll [.character wordyCharacter]).characters.rows,
      c.codepoint = 0x41 ∧ c.name = some wordyName) ∧
    (∃ a ∈ wordyName.toList, Text.isAlphanumeric a = true) ∧
    (empty.afterAll [.character wordyCharacter]).search ⟨fun _ => []⟩
      ("search:" ++ Codepoint.code 0x41) none {} = .error (.store .tooManyValues) := by
  have hws : .close ∉ [Write.character wordyCharacter] := by simp
  have hput : (empty.afterAll [.character wordyCharacter]).characters =
      empty.characters.put wordyCharacter.stored := rfl
  have hrow : wordyCharacter.stored ∈
      (empty.afterAll [.character wordyCharacter]).characters.rows := by
    rw [hput]
    exact CharacterTable.mem_rows_put.2 (.inl rfl)
  have hword : ['a', 'a', 'a'] ∈ threeLetterWords := mem_threeLetterWords.2 (by decide +kernel)
  have hletter : 'a' ∈ wordyName.toList := by
    unfold wordyName
    rw [String.toList_ofList]
    exact List.mem_flatMap.2 ⟨_, hword, List.mem_cons_self ..⟩
  have hcode : Clause.IsFreeText (Codepoint.code 0x41) :=
    ⟨Codepoint.comma_not_mem_code _, (SearchTerm.hasNoBlankEnds_code _).2⟩
  have hmany : (if SortKey.codepoint = .similarity then 8191 else 16382) <
      (trigrams wordyName).size := Nat.lt_of_lt_of_le (by decide) size_trigrams_wordyName
  exact ⟨hws, ⟨_, hrow, rfl, rfl⟩, ⟨'a', hletter, by decide +kernel⟩,
    search_of_size_trigrams (isOpen_afterAll hws) hrow rfl
      (@Filter.ofText_clauseText (.search _) hcode) (SearchTerm.ofText?_code (by decide)) hmany⟩

end Database
end CharAtlas
