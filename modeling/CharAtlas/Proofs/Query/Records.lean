import CharAtlas.Proofs.Query.Partition
import CharAtlas.Proofs.Store.Lookup

/-! # Filters and records

`CharacterProfile.ShowsProperty` says where a record shows a property. A record that is made of a
row shows those that the row has (`CharacterProfile.Shows.showsProperty_iff`), and filters ask the
row. So what is found and what is shown agree (`Database.search_shown`). -/

namespace CharAtlas

/-! ### Properties in records -/

/-- The field that is null in records of characters without the value. -/
def Presence.fieldName : Presence → String
  | name => "name"
  | numericValue => "numeric_value"
  | decomposition => "decomposition"
  | uppercaseMapping => "uppercase"
  | lowercaseMapping => "lowercase"
  | titlecaseMapping => "titlecase"

namespace CharacterProfile

/-- The field is filled in. -/
def HasField (r : CharacterProfile) (key : String) : Prop :=
  ∃ j, r.toJson.field? key = some j ∧ j ≠ .null

/-- What a record shows of a property. Favorites are not part of it. -/
def ShowsProperty (r : CharacterProfile) : Property → Prop
  | .flag f => r.toJson.field? f.fieldName = some (.bool true)
  | .present a => r.HasField a.fieldName
  | .combiningClass =>
    ∃ n : Int, r.toJson.field? "canonical_combining_class" = some (.int n) ∧ 0 < n
  | .mirror => r.HasField "bidi_mirrored_glyph"
  | .titlecase => r.toJson.field? "is_titlecase" = some (.bool true)
  | .favorited => False

variable {r : CharacterProfile} {c : Character} {names : Nat → Option String}

theorem hasField_iff {α : Type} {key : String} {f : α → Json} {o : Option α}
    (h : r.toJson.field? key = some (.ofOption f o)) (hf : ∀ a, f a ≠ .null) :
    r.HasField key ↔ o.isSome = true := by
  unfold HasField
  rw [h]
  cases o <;> simp [Json.ofOption, hf]

theorem field?_isTitlecase (r : CharacterProfile) :
    r.toJson.field? "is_titlecase" = some (.bool r.isTitlecase) := by
  have hkeys : "is_titlecase" ∉ firstKeys ++ Flag.all.map Flag.fieldName := by decide +kernel
  unfold CharacterProfile.toJson Json.field?
  dsimp only
  rw [lookup_append_of_not_mem]
  · rfl
  · rw [List.map_append, List.map_map]
    exact hkeys

theorem isSome_eq_of_rel {α β : Type} {R : α → β → Prop} {a : Option α} {b : Option β}
    (h : Option.Rel R a b) : b.isSome = a.isSome := by
  cases h <;> rfl

theorem Shows.showsProperty_iff (h : r.Shows c names) (db : Database) (user : Option String)
    {p : Property} (hp : p ≠ .favorited) :
    r.ShowsProperty p ↔ db.HasProperty user c.stored p := by
  have htext : ∀ s, Json.text s ≠ .null := nofun
  have htarget : ∀ m, CaseTarget.toJson m ≠ .null := nofun
  cases p with
  | flag f =>
    show r.toJson.field? f.fieldName = some (.bool true) ↔ f ∈ Flag.all.filter c.flags.contains
    rw [h.flagField f]
    simp [Flag.mem_all f]
  | present a =>
    cases a with
    | name => exact (hasField_iff rfl htext).trans (by rw [h.attributes]; rfl)
    | numericValue => exact (hasField_iff rfl htext).trans (by rw [h.attributes]; rfl)
    | decomposition => exact (hasField_iff rfl htext).trans (by rw [h.attributes]; rfl)
    | uppercaseMapping =>
      exact (hasField_iff rfl htarget).trans (by rw [isSome_eq_of_rel h.uppercase]; rfl)
    | lowercaseMapping =>
      exact (hasField_iff rfl htarget).trans (by rw [isSome_eq_of_rel h.lowercase]; rfl)
    | titlecaseMapping =>
      exact (hasField_iff rfl htarget).trans (by rw [isSome_eq_of_rel h.titlecase]; rfl)
  | combiningClass =>
    have hfield : r.toJson.field? "canonical_combining_class" = some (.ofInt? c.combiningClass) := by
      rw [← h.attributes]
      rfl
    rw [ShowsProperty, hfield]
    show _ ↔ ∃ n, c.combiningClass = some n ∧ 0 < n
    cases c.combiningClass <;> simp [Json.ofInt?, Json.ofOption]
  | mirror =>
    have hfield : r.toJson.field? "bidi_mirrored_glyph" = some (.ofInt? r.mirroredGlyph) := rfl
    rw [ShowsProperty, hasField_iff hfield nofun, h.mirroredGlyph, Option.isSome_map]
    rfl
  | titlecase =>
    rw [ShowsProperty, field?_isTitlecase, Option.some.injEq, Json.bool.injEq]
    exact h.isTitlecase
  | favorited => exact absurd rfl hp

end CharacterProfile

/-! ### Filters on a property -/

namespace Filter
variable {db : Database} {catalog : Catalog} {user : Option String} {c : StoredCharacter}
  {p : Property}

theorem not_selectsNothing_property {negated : Bool} :
    ¬SelectsNothing [.property p negated] :=
  fun ⟨_, hd⟩ => Option.some_ne_none _ hd.symm

/-- A property is required of a row that has it, whatever its combining class. -/
theorem matches_property_iff (hp : p ≠ .favorited) :
    Filter.Matches [.property p false] db catalog user c ↔
      c ∈ db.characters.rows ∧ db.HasProperty user c p := by
  have hasks := @asks_property_holds_iff db catalog user db.nameOf c p false
    nofun fun h => absurd h hp
  rw [iff_true_right rfl] at hasks
  constructor
  · exact fun hm => ⟨hm.stored, hasks.1 hm.holds⟩
  · exact fun ⟨hc, hprop⟩ => ⟨hc, not_selectsNothing_property, hasks.2 hprop⟩

theorem isAnswered_property (hopen : db.isOpen = true) (hp : p ≠ .favorited) (negated : Bool) :
    IsAnswered [.property p negated] db user where
  named := .inl hopen
  asked := .inr ⟨hopen, fun _ b hb => hp (by cases List.mem_singleton.1 hb; rfl)⟩

end Filter

namespace Database
variable {ws : List Write} {c : StoredCharacter}

/-- A row is that of the character written last, and its record shows that character. -/
theorem exists_record (hws : .close ∉ ws) (hc : c ∈ (empty.afterAll ws).characters.rows) :
    ∃ x r, empty.lastWritten? ws c.codepoint = some x ∧ c = x.stored ∧
      (empty.afterAll ws).lookup c.codepoint = .ok r ∧
      r = .ofRow (.ofCells x.cells (empty.afterAll ws).nameOf) ∧
      r.Shows x (empty.afterAll ws).nameOf := by
  have hget := CharacterTable.mem_rows_iff.1 hc
  have hlast := hget
  rw [get?_afterAll_empty, Option.map_eq_some_iff] at hlast
  obtain ⟨x, hx, rfl⟩ := hlast
  have hmax := mem_written_bounded (mem_written_of_lastWritten? hx).1
  refine ⟨x, .ofRow ((empty.afterAll ws).row x.stored), hx, rfl, ?_, ?_, shows_ofRow _ hmax⟩
  · rw [lookup_of_get? (isOpen_afterAll hws), hget]
  · rw [row_stored]

/-- The filter of a property other than `favorited` finds the rows whose record shows the property.
Filters test the values that were written last under the names of the columns, and records are read
from these values; a flag is shown where it was among the flags. -/
theorem search_shown (hws : .close ∉ ws) (catalog : Catalog) (user : Option String) :
    (∀ p, p ≠ .favorited → ∃ rows, (empty.afterAll ws).Answers catalog p.key user rows ∧
      ∀ c ∈ (empty.afterAll ws).characters.rows, ∃ r,
        (empty.afterAll ws).lookup c.codepoint = .ok r ∧ (c ∈ rows ↔ r.ShowsProperty p)) ∧
    ∀ c ∈ (empty.afterAll ws).characters.rows, ∃ x r,
      empty.lastWritten? ws c.codepoint = some x ∧
      (empty.afterAll ws).lookup c.codepoint = .ok r ∧
      (∀ col, c.value col = cell x.cells col.label) ∧
      r = .ofRow (.ofCells x.cells (empty.afterAll ws).nameOf) ∧
      ∀ f, r.toJson.field? f.fieldName = some (.bool (decide (f ∈ x.flags))) := by
  have hopen : (empty.afterAll ws).isOpen = true := isOpen_afterAll hws
  refine ⟨fun p hp => ?_, fun c hc => ?_⟩
  · have hans := @Filter.isAnswered_property _ user _ hopen hp false
    have hread : Filter.ofText p.key = .ok [.property p false] :=
      @Filter.ofText_clauseText (.property p false) trivial
    refine ⟨_, answers_matched hread hans (takes_property hread .codepoint), fun c hc => ?_⟩
    obtain ⟨x, r, -, rfl, hr, -, hshows⟩ := exists_record hws hc
    refine ⟨r, hr, ?_⟩
    rw [mem_matched_iff hans, Filter.matches_property_iff hp, and_iff_right hc,
      hshows.showsProperty_iff _ user hp]
  · obtain ⟨x, r, hx, rfl, hr, hcells, hshows⟩ := exists_record hws hc
    exact ⟨x, r, hx, hr, x.value_stored, hcells, hshows.flagField⟩

/-- The second time with other flags and a negative combining class. -/
def writtenTwice : List Write :=
  [.character { codepoint := 0x61, combiningClass := some 9, flags := [.lowercase] },
    .character { codepoint := 0x61, combiningClass := some (-1), flags := [.cased, .math] }]

theorem search_shown_writtenTwice :
    .close ∉ writtenTwice ∧
    ∃ c ∈ (empty.afterAll writtenTwice).characters.rows, ∃ r,
      (empty.afterAll writtenTwice).lookup c.codepoint = .ok r ∧
      r.toJson.field? "is_lowercase" = some (.bool false) ∧
      (∃ rows, (empty.afterAll writtenTwice).Answers ⟨fun _ => []⟩ "cased" none rows ∧
        c ∈ rows) ∧
      ∃ rows, (empty.afterAll writtenTwice).Answers ⟨fun _ => []⟩ "hasCombiningClass" none rows ∧
        c ∉ rows := by
  have hws : .close ∉ writtenTwice := by simp [writtenTwice]
  obtain ⟨hproperties, hrecords⟩ := search_shown hws ⟨fun _ => []⟩ none
  obtain ⟨c, hc, hn⟩ : ∃ c ∈ (empty.afterAll writtenTwice).characters.rows, c.codepoint = 0x61 := by
    decide +kernel
  obtain ⟨x, r, hx, hr, -, hcells, hflags⟩ := hrecords c hc
  have hx' : empty.lastWritten? writtenTwice 0x61 =
      some { codepoint := 0x61, combiningClass := some (-1), flags := [.cased, .math] } := by
    decide +kernel
  obtain rfl := Option.some.inj ((hn ▸ hx').symm.trans hx)
  -- a filter and the record
  have hshown : ∀ p, p ≠ .favorited → ∃ rows,
      (empty.afterAll writtenTwice).Answers ⟨fun _ => []⟩ p.key none rows ∧
        (c ∈ rows ↔ r.ShowsProperty p) := by
    intro p hp
    obtain ⟨rows, hrows, hmem⟩ := hproperties p hp
    obtain ⟨r', hr', hiff⟩ := hmem c hc
    exact ⟨rows, hrows, Except.ok.inj (hr.symm.trans hr') ▸ hiff⟩
  obtain ⟨cased, hcased, hcasediff⟩ := hshown (.flag .cased) (by decide)
  obtain ⟨classed, hclassed, hclassediff⟩ := hshown .combiningClass (by decide)
  refine ⟨hws, c, hc, r, hr, hflags .lowercase, ⟨cased, hcased, hcasediff.2 (hflags .cased)⟩,
    classed, hclassed, fun hmem => ?_⟩
  obtain ⟨n, hfield, hpos⟩ := hclassediff.1 hmem
  rw [hcells] at hfield
  cases hfield
  cases hpos

end Database
end CharAtlas
