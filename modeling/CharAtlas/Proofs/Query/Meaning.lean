import CharAtlas.Proofs.Codepoint
import CharAtlas.Proofs.Corpus.Decomposition
import CharAtlas.Proofs.Query.Plan
import CharAtlas.Proofs.Query.Similarity
import CharAtlas.Proofs.Text.Trim

/-! # What clauses say of a character

Each kind of clause in terms of the character and the tables: values of dimensions
(`StoredCharacter.HasValue`), pairs of confusables (`Database.Paired`), properties
(`Database.HasProperty`) and searches (`Database.Finds`), and that the conditions made of clauses
say the same (`Filter.selectionCondition_holds_iff`, ...). Queries see texts as far as their first
null character; a `Reading` says how tags and search terms are taken. -/

namespace CharAtlas

/-! ### Truth values -/

namespace Truth
variable {a b : Truth} {negated x : Bool}

theorem and_eq_true_iff : a.and b = some true ↔ a = some true ∧ b = some true := by
  rcases a with _ | _ | _ <;> rcases b with _ | _ | _ <;> decide

theorem or_eq_true_iff : a.or b = some true ↔ a = some true ∨ b = some true := by
  rcases a with _ | _ | _ <;> rcases b with _ | _ | _ <;> decide

theorem ofBool_eq_true_iff : ofBool negated x = some true ↔ (x = true ↔ negated = false) := by
  cases negated <;> cases x <;> decide

end Truth

namespace Value

theorem ofOption_text_eq_iff {o : Option String} {s : String} :
    ofOption text o = text s ↔ o = some s := by
  cases o <;> simp [ofOption]

theorem ofOption_ne_null_iff {α : Type} {f : α → Value} (hf : ∀ a, f a ≠ null) {o : Option α} :
    ofOption f o ≠ null ↔ o.isSome = true := by
  cases o <;> simp [ofOption, hf]

end Value

/-! ### Conditions that hold -/

namespace Condition
variable {db : Database} {c : StoredCharacter} {p q : Condition} {col : Column}

theorem onText_eq_true_iff {test : String → Bool} {v : Value} :
    onText test v = some true ↔ ∃ s, v = .text s ∧ test s = true := by
  cases v <;> simp [onText]

theorem and_holds_iff :
    (p.and q).holds db c = some true ↔ p.holds db c = some true ∧ q.holds db c = some true :=
  Truth.and_eq_true_iff

theorem or_holds_iff :
    (p.or q).holds db c = some true ↔ p.holds db c = some true ∨ q.holds db c = some true :=
  Truth.or_eq_true_iff

theorem group_holds : p.group.holds db c = p.holds db c := rfl

theorem isNull_holds_iff : (isNull col).holds db c = some true ↔ c.value col = .null := by
  simp [holds]

theorem isNotNull_holds_iff : (isNotNull col).holds db c = some true ↔ c.value col ≠ .null := by
  simp [holds]

theorem compare_holds_iff {r : Relation} {v : Value} : (compare col r v).holds db c = some true ↔
    c.value col ≠ .null ∧ r.holds ((c.value col).compare v) = true := by
  rw [holds]
  cases c.value col <;> simp

theorem like_holds_iff {negated : Bool} {pattern : String} :
    (like col negated pattern).holds db c = some true ↔
      ∃ s, c.value col = .text s ∧ (Text.like none pattern s = true ↔ negated = false) := by
  rw [holds, onText_eq_true_iff]
  refine exists_congr fun s => and_congr_right fun _ => ?_
  cases Text.like none pattern s <;> cases negated <;> decide

theorem among_holds_iff {o : Operand} {values : List String} :
    (among o values).holds db c = some true ↔ ∃ v ∈ values, o.value c = .text v := by
  rw [holds, onText_eq_true_iff]
  simp only [List.contains_iff_mem]
  constructor
  · rintro ⟨v, hv, hmem⟩
    exact ⟨v, hmem, hv⟩
  · rintro ⟨v, hmem, hv⟩
    exact ⟨v, hv, hmem⟩

theorem paired_holds_iff {side : Side} {negated : Bool} {units : List Nat} :
    (paired side negated units).holds db c = some true ↔
      ((∃ p ∈ db.confusables, side.of p = c.codepoint ∧ side.other.of p ∈ units) ↔
        negated = false) := by
  rw [holds, Truth.ofBool_eq_true_iff, List.any_eq_true]
  simp

theorem favorite_holds_iff {negated : Bool} {user : String} :
    (favorite negated user).holds db c = some true ↔
      (⟨user, c.codepoint⟩ ∈ db.favorites ↔ negated = false) := by
  rw [holds, Truth.ofBool_eq_true_iff, Database.isFavorite, List.contains_iff_mem]

end Condition

/-! ### Readings -/

/-- What is made of texts with null characters in them. -/
structure Reading where
  tag : String → String
  /-- Whether a term is found in a code. -/
  occurs : (code term : String) → Prop

namespace Reading

/-- Null characters are like any others. -/
def plain : Reading where
  tag t := t
  occurs code term := Text.ContainsLetters code.toList term.toList

/-- A null character ends the text. The pattern of a term then ends there too, and so must the
code. -/
def untilNull : Reading where
  tag t := String.ofList (Text.visible t.toList)
  occurs code term :=
    if '\x00' ∈ term.toList then Text.EndsWithLetters code.toList (Text.visible term.toList)
    else plain.occurs code term

theorem untilNull_tag {t : String} (h : '\x00' ∉ t.toList) : untilNull.tag t = plain.tag t := by
  show String.ofList (Text.visible t.toList) = t
  rw [Text.visible_eq_self h, String.ofList_toList]

theorem untilNull_occurs {code term : String} (h : '\x00' ∉ term.toList) :
    untilNull.occurs code term ↔ plain.occurs code term := by
  show (if '\x00' ∈ term.toList then _ else _) ↔ _
  rw [if_neg h]

end Reading

/-! ### Meanings -/

/-- A bracket that begins a decomposition is closed. -/
def Character.HasClosedTag (c : Character) : Prop :=
  ∀ d, c.decomposition = some d → Decomposition.IsBracketed d → '>' ∈ d.toList

/-- The values of a row in the dimensions. A decomposition without a tag is canonical; one whose tag
is `canonical` has no type that can be selected. -/
inductive StoredCharacter.HasValue (read : Reading) (c : StoredCharacter) :
    Dimension → String → Prop
  | script {v : String} (h : c.script = some v) : HasValue read c .scripts v
  | category {v : String} (h : c.generalCategory = some v) : HasValue read c .categories v
  | bidiClass {v : String} (h : c.bidiClass = some v) : HasValue read c .classes v
  | age {v : String} (h : c.age = some v) : HasValue read c .versions v
  | canonical {d : String} (h : c.decomposition = some d) (hd : ¬Decomposition.IsBracketed d) :
    HasValue read c .decompositionTypes Catalog.canonical
  | tag {d t : String} (h : c.decomposition = some d) (ht : Decomposition.Tagged d t)
    (hne : read.tag t ≠ Catalog.canonical) : HasValue read c .decompositionTypes (read.tag t)

namespace Database

/-- A pair with the two code points, in one direction or the other. -/
def Paired (db : Database) (m n : Nat) : Prop :=
  ⟨m, n⟩ ∈ db.confusables ∨ ⟨n, m⟩ ∈ db.confusables

def HasProperty (db : Database) (user : Option String) (c : StoredCharacter) : Property → Prop
  | .flag f => f ∈ c.flags
  | .present .name => c.name.isSome
  | .present .numericValue => c.numericValue.isSome
  | .present .decomposition => c.decomposition.isSome
  | .present .uppercaseMapping => c.uppercaseMapping.isSome
  | .present .lowercaseMapping => c.lowercaseMapping.isSome
  | .present .titlecaseMapping => c.titlecaseMapping.isSome
  | .combiningClass => ∃ n, c.combiningClass = some n ∧ 0 < n
  | .mirror => c.mirroredGlyph.isSome
  | .titlecase => c.generalCategory = some "Lt"
  | .favorited => ∃ u, user = some u ∧ ⟨u, c.codepoint⟩ ∈ db.favorites

/-- Names are compared with the name that the term stands for, or else with the term itself, which
may also be found in the code. -/
def Finds (read : Reading) (names : Nat → Option String) (c : StoredCharacter) (t : SearchTerm) :
    Prop :=
  match t.codepoint.bind names with
  | some name => c.Resembles name
  | none => c.Resembles t.text ∨ read.occurs c.code t.text

end Database

namespace Filter
variable {db : Database} {c : StoredCharacter} {d : Dimension} {values : List String}
  {negated : Bool}

/-! ### Selections -/

theorem untagged_holds_iff : untagged.holds db c = some true ↔
    ∃ d, c.decomposition = some d ∧ ¬Decomposition.IsBracketed d := by
  unfold untagged Decomposition.IsBracketed
  rw [Condition.group_holds, Condition.and_holds_iff, Condition.isNotNull_holds_iff,
    Condition.like_holds_iff]
  simp only [StoredCharacter.value, Value.ofOption_text_eq_iff, ← Text.like_bracket]
  cases c.decomposition <;> simp [Value.ofOption]

theorem taggedAmong_holds_iff {tags : List String} : (taggedAmong tags).holds db c = some true ↔
    ∃ d, c.decomposition = some d ∧ Decomposition.IsBracketed d ∧
      Decomposition.cutTag d ∈ tags := by
  unfold taggedAmong Decomposition.IsBracketed
  rw [Condition.group_holds, Condition.and_holds_iff, Condition.like_holds_iff,
    Condition.among_holds_iff]
  simp only [StoredCharacter.value, Operand.value, Value.ofOption_text_eq_iff, ← Text.like_bracket]
  cases c.decomposition <;> simp [Value.ofOption]

theorem decompositionCondition_holds_iff {types : OrderedSet String} :
    (decompositionCondition types).holds db c = some true ↔ ∃ d, c.decomposition = some d ∧
      (Catalog.canonical ∈ types ∧ ¬Decomposition.IsBracketed d ∨
        Decomposition.IsBracketed d ∧ Decomposition.cutTag d ∈ types ∧
          Decomposition.cutTag d ≠ Catalog.canonical) := by
  have htags : ∀ t, t ∈ types.toList.filter (· != Catalog.canonical) ↔
      t ∈ types ∧ t ≠ Catalog.canonical := by
    intro t
    rw [List.mem_filter, OrderedSet.mem_toList]
    simp
  -- without tags to look for, nothing is among them
  have hnil : types.toList.filter (· != Catalog.canonical) = [] →
      ¬(taggedAmong (types.toList.filter (· != Catalog.canonical))).holds db c = some true := by
    intro hnil h
    obtain ⟨d, -, -, hmem⟩ := taggedAmong_holds_iff.1 h
    rw [hnil] at hmem
    exact absurd hmem List.not_mem_nil
  have hsplit : (decompositionCondition types).holds db c = some true ↔
      (Catalog.canonical ∈ types ∧ untagged.holds db c = some true) ∨
        (taggedAmong (types.toList.filter (· != Catalog.canonical))).holds db c = some true := by
    unfold decompositionCondition
    simp only [List.isEmpty_iff]
    split_ifs with hcan htag
    · rw [OrderedSet.contains_iff] at hcan
      simp [hcan, hnil htag]
    · rw [OrderedSet.contains_iff] at hcan
      simp [hcan, Condition.or_holds_iff]
    · rw [OrderedSet.contains_iff] at hcan
      simp [hcan]
  rw [hsplit, untagged_holds_iff, taggedAmong_holds_iff]
  simp only [htags]
  constructor
  · rintro (⟨hcan, d, hd, hb⟩ | ⟨d, hd, hb, ht⟩)
    · exact ⟨d, hd, .inl ⟨hcan, hb⟩⟩
    · exact ⟨d, hd, .inr ⟨hb, ht⟩⟩
  · rintro ⟨d, hd, ⟨hcan, hb⟩ | ⟨hb, ht⟩⟩
    · exact .inl ⟨hcan, d, hd, hb⟩
    · exact .inr ⟨d, hd, hb, ht⟩

theorem hasValue_iff_of_tagged {read : Reading} {d v t : String} (hd : c.decomposition = some d)
    (ht : Decomposition.Tagged d t) : c.HasValue read .decompositionTypes v ↔
      v = read.tag t ∧ v ≠ Catalog.canonical := by
  constructor
  · intro h
    cases h with
    | canonical h hb =>
      obtain rfl : d = _ := Option.some.inj (hd.symm.trans h)
      exact absurd ht.isBracketed hb
    | tag h ht' hne =>
      obtain rfl : d = _ := Option.some.inj (hd.symm.trans h)
      rw [ht.unique ht']
      exact ⟨rfl, hne⟩
  · rintro ⟨rfl, hne⟩
    exact .tag hd ht hne

theorem hasValue_iff_of_not_isBracketed {read : Reading} {d v : String}
    (hd : c.decomposition = some d) (hb : ¬Decomposition.IsBracketed d) :
    c.HasValue read .decompositionTypes v ↔ v = Catalog.canonical := by
  constructor
  · intro h
    cases h with
    | canonical => rfl
    | tag h ht _ =>
      obtain rfl : d = _ := Option.some.inj (hd.symm.trans h)
      exact absurd ht.isBracketed hb
  · rintro rfl
    exact .canonical hd hb

theorem decompositionCondition_holds_iff_hasValue (hclosed : c.HasClosedTag)
    {types : OrderedSet String} : (decompositionCondition types).holds db c = some true ↔
      ∃ v ∈ types, c.HasValue .untilNull .decompositionTypes v := by
  rw [decompositionCondition_holds_iff]
  cases hd : c.decomposition with
  | none =>
    constructor
    · rintro ⟨d, h, -⟩
      cases h
    · rintro ⟨v, -, h⟩
      cases h with
      | canonical h => rw [hd] at h; cases h
      | tag h => rw [hd] at h; cases h
  | some d =>
    simp only [Option.some.injEq, exists_eq_left']
    by_cases hb : Decomposition.IsBracketed d
    · obtain ⟨t, ht⟩ := Decomposition.exists_tagged hb (hclosed d hd hb)
      simp only [hasValue_iff_of_tagged hd ht, Decomposition.cutTag_of_tagged ht, hb]
      constructor
      · rintro (⟨-, h⟩ | ⟨-, hmem, hne⟩)
        · exact absurd trivial h
        · exact ⟨_, hmem, rfl, hne⟩
      · rintro ⟨v, hmem, rfl, hne⟩
        exact .inr ⟨trivial, hmem, hne⟩
    · simp only [hasValue_iff_of_not_isBracketed hd hb, hb]
      constructor
      · rintro (⟨hmem, -⟩ | ⟨h, -⟩)
        · exact ⟨_, hmem, rfl⟩
        · cases h
      · rintro ⟨v, hmem, rfl⟩
        exact .inl ⟨hmem, not_false⟩

/-- Values other than decomposition types are those of a column. -/
theorem selectionCondition_holds_iff_of_column {d : Dimension} (hd : d ≠ .decompositionTypes) :
    (selectionCondition d values).holds db c = some true ↔
      ∃ v ∈ values, c.value d.column = .text v := by
  have hamong : selectionCondition d values =
      .among (.column d.column) (OrderedSet.ofList values).toList := by
    cases d with
    | decompositionTypes => exact absurd rfl hd
    | _ => rfl
  rw [hamong, Condition.among_holds_iff]
  simp only [Operand.value, OrderedSet.mem_toList, OrderedSet.mem_ofList]

theorem selectionCondition_holds_iff (hclosed : c.HasClosedTag) {d : Dimension} :
    (selectionCondition d values).holds db c = some true ↔
      ∃ v ∈ values, c.HasValue .untilNull d v := by
  -- a column that holds one value
  have hcolumn : d ≠ .decompositionTypes →
      (∀ v, c.value d.column = .text v ↔ c.HasValue .untilNull d v) →
      ((selectionCondition d values).holds db c = some true ↔
        ∃ v ∈ values, c.HasValue .untilNull d v) := by
    intro hd hvalue
    rw [selectionCondition_holds_iff_of_column hd]
    simp only [hvalue]
  cases d with
  | scripts =>
    exact hcolumn nofun fun v => Value.ofOption_text_eq_iff.trans
      ⟨.script, fun h => by cases h; assumption⟩
  | categories =>
    exact hcolumn nofun fun v => Value.ofOption_text_eq_iff.trans
      ⟨.category, fun h => by cases h; assumption⟩
  | classes =>
    exact hcolumn nofun fun v => Value.ofOption_text_eq_iff.trans
      ⟨.bidiClass, fun h => by cases h; assumption⟩
  | versions =>
    exact hcolumn nofun fun v => Value.ofOption_text_eq_iff.trans
      ⟨.age, fun h => by cases h; assumption⟩
  | decompositionTypes =>
    refine (decompositionCondition_holds_iff_hasValue hclosed).trans ?_
    simp only [OrderedSet.mem_ofList]

/-! ### Confusables -/

theorem mem_unitsOf {t : String} {n : Nat} :
    n ∈ (unitsOf t).toList ↔ ∃ u ∈ (Text.trim t).toList, u.toNat = n := by
  unfold unitsOf
  rw [OrderedSet.mem_toList, OrderedSet.mem_ofList, List.mem_map, Text.toList_trim]

/-- Every character counts once, as its code point does. -/
theorem size_unitsOf (t : String) : (unitsOf t).size = (Text.trim t).toList.toFinset.card := by
  unfold unitsOf
  rw [OrderedSet.size_ofList, ← Text.toList_trim]
  have himage : ((Text.trim t).toList.map Char.toNat).toFinset =
      (Text.trim t).toList.toFinset.image Char.toNat := by
    ext n
    simp
  rw [himage, Finset.card_image_of_injective _ fun _ _ => Char.toNat_inj.1]

theorem exists_pair_iff {units : List Nat} :
    ((∃ p ∈ db.confusables, Side.first.of p = c.codepoint ∧ Side.first.other.of p ∈ units) ∨
      ∃ p ∈ db.confusables, Side.second.of p = c.codepoint ∧ Side.second.other.of p ∈ units) ↔
    ∃ n ∈ units, db.Paired c.codepoint n := by
  constructor
  · rintro (⟨⟨m, n⟩, hp, hm, hn⟩ | ⟨⟨m, n⟩, hp, hn, hm⟩)
    · obtain rfl : m = c.codepoint := hm
      exact ⟨n, hn, .inl hp⟩
    · obtain rfl : n = c.codepoint := hn
      exact ⟨m, hm, .inr hp⟩
  · rintro ⟨n, hn, hp | hp⟩
    · exact .inl ⟨_, hp, rfl, hn⟩
    · exact .inr ⟨_, hp, rfl, hn⟩

theorem confusableCondition_holds_iff {units : OrderedSet Nat} :
    (confusableCondition negated units).holds db c = some true ↔
      ((∃ n ∈ units.toList, db.Paired c.codepoint n) ↔ negated = false) := by
  rw [← exists_pair_iff]
  unfold confusableCondition
  cases negated with
  | false =>
    simp only [Bool.false_eq_true, if_false, Condition.group_holds, Condition.or_holds_iff,
      Condition.paired_holds_iff, iff_true]
  | true =>
    simp only [if_true, Condition.group_holds, Condition.and_holds_iff, Condition.paired_holds_iff,
      Bool.true_eq_false, iff_false, not_or]

theorem isEmpty_unitsOf_iff {t : String} : (unitsOf t).isEmpty = true ↔ Text.trim t = "" := by
  unfold unitsOf
  rw [OrderedSet.isEmpty_ofList, List.isEmpty_iff, List.map_eq_nil_iff, ← Text.toList_trim,
    String.toList_eq_nil_iff]

theorem confusableTextCondition?_eq_none_iff {t : String} :
    confusableTextCondition? negated t = none ↔ Text.trim t = "" := by
  unfold confusableTextCondition?
  simp only [isEmpty_unitsOf_iff]
  split_ifs with ht <;> simp [ht]

theorem confusableTextCondition?_holds_iff {t : String} {k : Condition}
    (hk : confusableTextCondition? negated t = some k) : k.holds db c = some true ↔
      ((∃ u ∈ (Text.trim t).toList, db.Paired c.codepoint u.toNat) ↔ negated = false) := by
  unfold confusableTextCondition? at hk
  simp only [Option.ite_none_left_eq_some, Option.some.injEq] at hk
  obtain ⟨-, rfl⟩ := hk
  rw [confusableCondition_holds_iff]
  refine iff_congr ?_ Iff.rfl
  constructor
  · rintro ⟨n, hn, hpair⟩
    obtain ⟨u, hu, rfl⟩ := mem_unitsOf.1 hn
    exact ⟨u, hu, hpair⟩
  · rintro ⟨u, hu, hpair⟩
    exact ⟨_, mem_unitsOf.2 ⟨u, hu, rfl⟩, hpair⟩

/-! ### Properties -/

theorem presence_holds_iff {col : Column} :
    (if negated then Condition.isNull col else .isNotNull col).holds db c = some true ↔
      (c.value col ≠ .null ↔ negated = false) := by
  cases negated with
  | false => simp [Condition.isNotNull_holds_iff]
  | true => simp [Condition.isNull_holds_iff]

theorem flagCondition_holds_iff {f : Flag} :
    (if negated then
        Condition.group (.or (.isNull (.flag f)) (.compare (.flag f) .unequal (.int 1)))
      else .compare (.flag f) .equal (.int 1)).holds db c = some true ↔
      (f ∈ c.flags ↔ negated = false) := by
  have hvalue : c.value (.flag f) = .int (if f ∈ c.flags then 1 else 0) := by
    simp [StoredCharacter.value, StoredCharacter.flagValue]
  by_cases hf : f ∈ c.flags
  · rw [if_pos hf] at hvalue
    cases negated <;> simp [hf, Condition.group_holds, Condition.or_holds_iff,
      Condition.isNull_holds_iff, Condition.compare_holds_iff, hvalue] <;> decide
  · rw [if_neg hf] at hvalue
    cases negated <;> simp [hf, Condition.group_holds, Condition.or_holds_iff,
      Condition.isNull_holds_iff, Condition.compare_holds_iff, hvalue] <;> decide

/-- The two tests part where a combining class is negative, and only there. -/
theorem classCondition_holds_iff
    (hclass : negated = true → ∀ n, c.combiningClass = some n → 0 ≤ n) :
    (if negated then
        Condition.group (.or (.isNull .combiningClass) (.compare .combiningClass .equal (.int 0)))
      else .compare .combiningClass .greater (.int 0)).holds db c = some true ↔
      ((∃ n, c.combiningClass = some n ∧ 0 < n) ↔ negated = false) := by
  have hvalue : c.value .combiningClass = .ofOption .int c.combiningClass := rfl
  cases hc : c.combiningClass with
  | none =>
    rw [hc] at hvalue
    cases negated <;> simp [Condition.group_holds, Condition.or_holds_iff,
      Condition.isNull_holds_iff, Condition.compare_holds_iff, hvalue, Value.ofOption]
  | some n =>
    rw [hc] at hvalue
    cases negated with
    | false =>
      simp [Condition.compare_holds_iff, hvalue, Value.ofOption, Value.compare, Relation.holds,
        Int.compare_eq_gt]
    | true =>
      have hn := hclass rfl n hc
      simp [Condition.group_holds, Condition.or_holds_iff, Condition.isNull_holds_iff,
        Condition.compare_holds_iff, hvalue, Value.ofOption, Value.compare, Relation.holds]
      omega

theorem titlecaseCondition_holds_iff :
    (if negated then
        Condition.group (.or (.isNull .generalCategory)
          (.compare .generalCategory .unequal (.text "Lt")))
      else .compare .generalCategory .equal (.text "Lt")).holds db c = some true ↔
      (c.generalCategory = some "Lt" ↔ negated = false) := by
  have hvalue : c.value .generalCategory = .ofOption .text c.generalCategory := rfl
  cases hc : c.generalCategory with
  | none =>
    rw [hc] at hvalue
    cases negated <;> simp [Condition.group_holds, Condition.or_holds_iff,
      Condition.isNull_holds_iff, Condition.compare_holds_iff, hvalue, Value.ofOption]
  | some v =>
    rw [hc] at hvalue
    cases negated <;> simp [Condition.group_holds, Condition.or_holds_iff,
      Condition.isNull_holds_iff, Condition.compare_holds_iff, hvalue, Value.ofOption,
      Value.compare, Relation.holds]

theorem propertyCondition_holds_iff {p : Property} {user : Option String} {k : Condition}
    (hclass : negated = true → ∀ n, c.combiningClass = some n → 0 ≤ n)
    (hk : propertyCondition p negated user = .ok k) :
    k.holds db c = some true ↔ (db.HasProperty user c p ↔ negated = false) := by
  cases p with
  | flag f =>
    cases hk
    exact flagCondition_holds_iff
  | present a =>
    cases hk
    rw [presence_holds_iff]
    cases a <;> exact iff_congr (Value.ofOption_ne_null_iff fun _ h => by cases h) Iff.rfl
  | combiningClass =>
    cases hk
    exact classCondition_holds_iff hclass
  | mirror =>
    cases hk
    rw [presence_holds_iff]
    exact iff_congr (Value.ofOption_ne_null_iff fun _ h => by cases h) Iff.rfl
  | titlecase =>
    cases hk
    exact titlecaseCondition_holds_iff
  | favorited =>
    cases user with
    | none => cases hk
    | some u =>
      cases hk
      rw [Condition.favorite_holds_iff]
      simp [Database.HasProperty]

/-! ### Searches -/

theorem toList_containing (s : String) :
    (containing s).toList = '%' :: (s.toList.flatMap Text.escaped ++ ['%']) := by
  unfold containing
  rw [String.toList_append, String.toList_append, Text.toList_literalPattern, List.append_assoc]
  rfl

theorem visible_containing (s : String) : Text.visible (containing s).toList =
    '%' :: if '\x00' ∈ s.toList then (Text.visible s.toList).flatMap Text.escaped
      else s.toList.flatMap Text.escaped ++ ['%'] := by
  rw [toList_containing, Text.visible_cons (by decide), Text.visible_flatMap_escaped]
  rfl

theorem like_containing_iff {code term : String} (hcode : '\x00' ∉ code.toList) :
    Text.like (some '\\') (containing term) code = true ↔ Reading.untilNull.occurs code term := by
  unfold Text.like
  rw [visible_containing, Text.visible_eq_self hcode]
  show _ ↔ if '\x00' ∈ term.toList then _ else _
  split
  · exact Text.likeChars_ending
  · exact Text.likeChars_containing

theorem searchCondition_holds_iff {names : Nat → Option String} {t : SearchTerm}
    (h : db.Consistent) (hc : c ∈ db.characters.rows) :
    (searchCondition names t).holds db c = some true ↔
      Database.Finds .untilNull names c t := by
  have hcode : '\x00' ∉ c.code.toList := by
    rw [h.coded c hc]
    exact Codepoint.null_not_mem_code _
  unfold searchCondition Database.Finds searchAnchor resolved
  cases t.codepoint.bind names with
  | some name => exact Database.similar_holds_iff h hc
  | none =>
    simp only [Condition.group_holds, Condition.or_holds_iff, Database.similar_holds_iff h hc]
    refine or_congr Iff.rfl ?_
    rw [Condition.holds, Condition.onText_eq_true_iff, ← like_containing_iff hcode]
    simp [StoredCharacter.value]

end Filter
end CharAtlas
