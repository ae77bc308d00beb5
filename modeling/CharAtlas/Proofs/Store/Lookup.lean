import CharAtlas.Proofs.Corpus.Columns
import CharAtlas.Proofs.Store.Pairs
import CharAtlas.Service.Response

/-! # Looking characters up

`Database.written` lists the characters of a history that were not refused. The row of a code point
is that of the last one among them (`Database.get?_afterAll`). Its record shows that character field
by field (`CharacterProfile.Shows`), with the names that its case mappings lead to by then
(`Database.lookup_afterAll`). -/

namespace CharAtlas

/-! ### What a record shows -/

namespace Json

/-- The value under a key of an object. -/
def field? (key : String) : Json → Option Json
  | object fields => fields.lookup key
  | _ => none

end Json

/-- The target of a case mapping as a number, a code and a character, and the name that it has. -/
structure CaseTarget.Shows (m : CaseTarget) (target : Nat) (name : Option String) : Prop where
  codepoint : m.codepoint = target
  unicodeId : target ≤ Numeral.max32 → m.unicodeId = Codepoint.code target
  character : m.character = Codepoint.character? target
  name : m.name = name

/-- A record is that of the character `c`, the targets of case mappings having the names `names`. -/
structure CharacterProfile.Shows (r : CharacterProfile) (c : Character)
    (names : Nat → Option String) : Prop where
  attributes : r.toAttributes = c.toAttributes
  codepoint : r.codepoint = c.codepoint
  code : r.code = Codepoint.code c.codepoint
  unicodeId : r.unicodeId = Codepoint.code c.codepoint
  character : r.character = Codepoint.character? c.codepoint
  combiningClassLabel : r.combiningClassLabel = CombiningClass.label c.combiningClass
  decompositionTag : r.decompositionTag = Decomposition.tag c.decomposition
  numericKind : r.numericKind = c.toAttributes.numericKind
  uppercase : Option.Rel (fun t m => m.Shows t (names t)) c.uppercaseMapping r.uppercase
  lowercase : Option.Rel (fun t m => m.Shows t (names t)) c.lowercaseMapping r.lowercase
  titlecase : Option.Rel (fun t m => m.Shows t (names t)) c.titlecaseMapping r.titlecase
  mirroredGlyph : r.mirroredGlyph = c.mirroredGlyph.map Int.ofNat
  mirrorCharacter : r.mirrorCharacter = c.mirroredGlyph.bind fun n => Codepoint.character? n
  flags : ∀ f, f ∈ r.flags ↔ f ∈ c.flags
  /-- Each flag has a field of its own. -/
  flagField : ∀ f, r.toJson.field? f.fieldName = some (.bool (decide (f ∈ c.flags)))
  isTitlecase : r.isTitlecase = true ↔ c.generalCategory = some "Lt"

theorem Flag.fieldName_injective : Function.Injective Flag.fieldName := by
  intro f g h
  have hall : ∀ f ∈ Flag.all, ∀ g ∈ Flag.all, f.fieldName = g.fieldName → f = g := by decide +kernel
  exact hall f (Flag.mem_all f) g (Flag.mem_all g) h

/-- The keys of a record before those of the flags. -/
def CharacterProfile.firstKeys : List String :=
  ["codepoint", "code", "unicode_id", "character", "name", "general_category", "script",
    "bidi_class", "block", "age", "canonical_combining_class", "combining_class_name",
    "decomposition", "decomposition_type", "numeric_value", "digit_value", "decimal_digit_value",
    "numeric_type", "uppercase", "lowercase", "titlecase", "bidi_mirrored_glyph",
    "mirror_character"]

theorem CharacterProfile.field?_flag (r : CharacterProfile) (f : Flag) :
    r.toJson.field? f.fieldName = some (.bool (r.flags.contains f)) := by
  have hkeys : ∀ f ∈ Flag.all, f.fieldName ∉ firstKeys := by decide +kernel
  unfold CharacterProfile.toJson Json.field?
  dsimp only
  rw [List.append_assoc, lookup_append_of_not_mem, List.lookup_append,
    lookup_map_of_injective Flag.fieldName_injective _ (Flag.mem_all f)]
  · rfl
  · exact hkeys f (Flag.mem_all f)

namespace Database
variable {db : Database} {c : Character} {w : Write} {ws : List Write} {n : Nat}

theorem shows_ofRow (db : Database) (hmax : c.codepoint ≤ Codepoint.max) :
    (CharacterProfile.ofRow (db.row c.stored)).Shows c db.nameOf := by
  have hcode : CharacterProfile.shownCodepoint (c.codepoint : Int) = c.codepoint := by
    have hmax32 : Codepoint.max ≤ Numeral.max32 := by decide
    unfold CharacterProfile.shownCodepoint
    rw [if_pos ⟨by omega, by omega⟩, Int.toNat_natCast]
  have htarget : ∀ target : Option Nat,
      Option.Rel (fun t (m : CaseTarget) => m.Shows t (db.nameOf t)) target
        ((target.map Int.ofNat).map (CaseTarget.ofTarget · (target.bind db.nameOf))) := by
    rintro (_ | t)
    · exact .none
    · refine .some ⟨rfl, fun ht => ?_, rfl, rfl⟩
      show Codepoint.codeOrBlank (t : Int) = _
      unfold Codepoint.codeOrBlank
      rw [if_pos ⟨by omega, by omega⟩, Int.toNat_natCast]
  have hflags : ∀ f, f ∈ Flag.all.filter c.flags.contains ↔ f ∈ c.flags := fun f => by
    rw [List.mem_filter, and_iff_right (Flag.mem_all f), List.contains_iff_mem]
  refine ⟨rfl, hcode, rfl, congrArg Codepoint.code hcode, rfl, rfl, rfl, rfl, htarget _, htarget _,
    htarget _, ?_, ?_, hflags, fun f => ?_, beq_iff_eq⟩
  · rfl
  · show (c.mirroredGlyph.map Int.ofNat).bind Codepoint.character? = _
    cases c.mirroredGlyph <;> rfl
  · rw [CharacterProfile.field?_flag]
    refine congrArg (some ∘ Json.bool) (Bool.eq_iff_iff.2 ?_)
    rw [List.contains_iff_mem, decide_eq_true_iff]
    exact hflags f

/-! ### What a history has written -/

/-- The character of a write that is not refused. -/
def accepted? (db : Database) : Write → Option Character
  | .character c => if (db.putCharacter c).isOk then some c else none
  | _ => none

/-- The characters of the writes that are not refused, in order. -/
def written (db : Database) : List Write → List Character
  | [] => []
  | w :: ws => (db.accepted? w).toList ++ (db.after w).written ws

def lastWritten? (db : Database) (ws : List Write) (n : Nat) : Option Character :=
  ((db.written ws).filter (·.codepoint == n)).getLast?

theorem lastWritten?_cons : db.lastWritten? (w :: ws) n =
    ((db.after w).lastWritten? ws n).or ((db.accepted? w).filter (·.codepoint == n)) := by
  unfold lastWritten?
  rw [written, List.filter_append, List.getLast?_append]
  congr 1
  cases db.accepted? w with
  | none => rfl
  | some c =>
    rw [Option.toList_some, Option.filter_some, List.filter_singleton]
    cases c.codepoint == n <;> rfl

theorem lastWritten?_eq_none_iff :
    db.lastWritten? ws n = none ↔ ∀ c ∈ db.written ws, c.codepoint ≠ n := by
  unfold lastWritten?
  rw [List.getLast?_eq_none_iff, List.filter_eq_nil_iff]
  simp only [beq_iff_eq, ne_eq]

theorem mem_written_of_lastWritten? (h : db.lastWritten? ws n = some c) :
    c ∈ db.written ws ∧ c.codepoint = n := by
  obtain ⟨hc, hn⟩ := List.mem_filter.1 (List.mem_of_getLast? h)
  exact ⟨hc, beq_iff_eq.1 hn⟩

theorem accepted?_eq_some_iff : db.accepted? w = some c ↔
    w = .character c ∧ c.codepoint ≤ Codepoint.max ∧ db.isOpen = true := by
  have hok : (db.putCharacter c).isOk = true ↔ c.codepoint ≤ Codepoint.max ∧ db.isOpen = true := by
    cases h : db.putCharacter c with
    | ok db' =>
      obtain ⟨hmax, hopen, -⟩ := putCharacter_eq_ok_iff.1 h
      exact iff_of_true rfl ⟨hmax, hopen⟩
    | error e =>
      refine iff_of_false Bool.false_ne_true fun ⟨hmax, hopen⟩ => ?_
      rw [putCharacter_eq_ok_iff.2 ⟨hmax, hopen, rfl⟩] at h
      cases h
  cases w with
  | character c' =>
    unfold accepted?
    rw [Write.character.injEq, Option.ite_none_right_eq_some, Option.some.injEq]
    constructor
    · rintro ⟨hc, rfl⟩
      exact ⟨rfl, hok.1 hc⟩
    · rintro ⟨rfl, hc⟩
      exact ⟨hok.2 hc, rfl⟩
  | _ => simp [accepted?]

theorem mem_of_mem_written (h : c ∈ db.written ws) : .character c ∈ ws := by
  induction ws generalizing db with
  | nil => exact absurd h List.not_mem_nil
  | cons w ws ih =>
    rcases List.mem_append.1 h with h | h
    · exact List.mem_cons.2 (.inl (accepted?_eq_some_iff.1 (Option.mem_toList.1 h)).1.symm)
    · exact List.mem_cons_of_mem w (ih h)

theorem mem_written_bounded (h : c ∈ db.written ws) : c.codepoint ≤ Codepoint.max := by
  induction ws generalizing db with
  | nil => exact absurd h List.not_mem_nil
  | cons w ws ih =>
    rcases List.mem_append.1 h with h | h
    · exact (accepted?_eq_some_iff.1 (Option.mem_toList.1 h)).2.1
    · exact ih h

/-- A row changes only when its character is written. -/
theorem get?_after (db : Database) (w : Write) (n : Nat) : (db.after w).characters.get? n =
    (((db.accepted? w).filter (·.codepoint == n)).map Character.stored).or
      (db.characters.get? n) := by
  cases h : db.perform w with
  | error e =>
    have hnone : db.accepted? w = none := by
      rw [Option.eq_none_iff_forall_ne_some]
      intro c hc
      obtain ⟨rfl, hmax, hopen⟩ := accepted?_eq_some_iff.1 hc
      rw [show db.perform (.character c) = _ from putCharacter_eq_ok_iff.2 ⟨hmax, hopen, rfl⟩] at h
      cases h
    rw [after_of_error h, hnone]
    rfl
  | ok db' =>
    rw [after_of_ok h]
    by_cases hw : ∃ c, w = .character c
    · obtain ⟨c, rfl⟩ := hw
      obtain ⟨hmax, hopen, rfl⟩ := putCharacter_eq_ok_iff.1 h
      rw [accepted?_eq_some_iff.2 ⟨rfl, hmax, hopen⟩, CharacterTable.get?_put, Option.filter_some]
      by_cases hn : c.codepoint = n
      · rw [if_pos (show c.stored.codepoint = n from hn), if_pos (beq_iff_eq.2 hn)]
        rfl
      · rw [if_neg (show ¬c.stored.codepoint = n from hn), if_neg (by simpa using hn)]
        rfl
    · have hnone : db.accepted? w = none := by
        cases w with
        | character c => exact absurd ⟨c, rfl⟩ hw
        | _ => rfl
      rw [hnone]
      rcases perform_cases h with ⟨c, rfl, -⟩ | ⟨p, fresh, -, hadd⟩ | ⟨hc, -⟩
      · exact absurd ⟨c, rfl⟩ hw
      · rw [characters_addConfusable hadd]
        rfl
      · rw [hc]
        rfl

/-- The row of a code point is that of the character written last, if there is one. -/
theorem get?_afterAll (db : Database) (ws : List Write) (n : Nat) :
    (db.afterAll ws).characters.get? n =
      ((db.lastWritten? ws n).map Character.stored).or (db.characters.get? n) := by
  induction ws generalizing db with
  | nil => rfl
  | cons w ws ih =>
    have hrun : (db.afterAll (w :: ws)).characters.get? n = _ := ih (db.after w)
    rw [hrun, get?_after, lastWritten?_cons, Option.map_or, Option.or_assoc]

theorem get?_afterAll_empty (ws : List Write) (n : Nat) :
    (empty.afterAll ws).characters.get? n = (empty.lastWritten? ws n).map Character.stored := by
  rw [get?_afterAll]
  exact Option.or_none

/-- Writing other characters leaves a row alone. -/
theorem get?_afterAll_of_forall_ne (hws : ∀ c, .character c ∈ ws → c.codepoint ≠ n) :
    (db.afterAll ws).characters.get? n = db.characters.get? n := by
  rw [get?_afterAll, lastWritten?_eq_none_iff.2 fun c hc => hws c (mem_of_mem_written hc)]
  rfl

theorem nameOf_afterAll (ws : List Write) (n : Nat) :
    (empty.afterAll ws).nameOf n = (empty.lastWritten? ws n).bind (·.name) := by
  unfold nameOf
  rw [get?_afterAll_empty]
  cases empty.lastWritten? ws n <;> rfl

/-! ### Looking up -/

theorem lookup_of_get? (hopen : db.isOpen = true) : db.lookup n =
    match db.characters.get? n with
    | none => .error (.notFound n)
    | some d => .ok (.ofRow (db.row d)) := by
  unfold lookup readEntry access
  rw [if_pos hopen]
  cases db.characters.get? n <;> rfl

end Database

namespace CharacterProfile

/-- A record without the names that come from other characters. -/
def nameless (r : CharacterProfile) : CharacterProfile :=
  { r with
    uppercase := r.uppercase.map ({ · with name := none })
    lowercase := r.lowercase.map ({ · with name := none })
    titlecase := r.titlecase.map ({ · with name := none }) }

/-- The names alone depend on other rows. -/
theorem nameless_ofRow (db db' : Database) (d : StoredCharacter) :
    (ofRow (db.row d)).nameless = (ofRow (db'.row d)).nameless := by
  unfold ofRow nameless Database.row
  simp only [Option.map_map]
  rfl

end CharacterProfile

namespace Database
variable {ws : List Write} {n : Nat}

/-- A code point that no character was written for is not found. Otherwise the record is read from
the columns of the character written last, and its case mappings have the names written last. Writing
other characters changes nothing else of it. -/
theorem lookup_afterAll (hws : .close ∉ ws) (n : Nat) :
    ((empty.afterAll ws).lookup n = .error (.notFound n) ↔
      ∀ c ∈ empty.written ws, c.codepoint ≠ n) ∧
    ((∃ c ∈ empty.written ws, c.codepoint = n) →
      ∃ c r, empty.lastWritten? ws n = some c ∧ (empty.afterAll ws).lookup n = .ok r ∧
        r = .ofRow (.ofCells c.cells fun t => (empty.lastWritten? ws t).bind (·.name)) ∧
        r.Shows c fun t => (empty.lastWritten? ws t).bind (·.name)) ∧
    ∀ later, .close ∉ later → (∀ c, .character c ∈ later → c.codepoint ≠ n) →
      ((empty.afterAll (ws ++ later)).lookup n).map CharacterProfile.nameless =
        ((empty.afterAll ws).lookup n).map CharacterProfile.nameless := by
  have hopen : (empty.afterAll ws).isOpen = true := isOpen_afterAll hws
  refine ⟨?_, ?_, fun later hlater hother => ?_⟩
  · rw [lookup_of_get? hopen, get?_afterAll_empty, ← lastWritten?_eq_none_iff]
    cases empty.lastWritten? ws n <;> simp
  · rintro ⟨c₁, hmem, hn⟩
    cases hlast : empty.lastWritten? ws n with
    | none => exact absurd hn (lastWritten?_eq_none_iff.1 hlast c₁ hmem)
    | some c =>
      have hmax := mem_written_bounded (mem_written_of_lastWritten? hlast).1
      refine ⟨c, .ofRow ((empty.afterAll ws).row c.stored), rfl, ?_, ?_, ?_⟩
      · rw [lookup_of_get? hopen, get?_afterAll_empty, hlast]
        rfl
      · rw [row_stored, funext (nameOf_afterAll ws)]
      · have hshows := shows_ofRow (empty.afterAll ws) hmax
        rwa [funext (nameOf_afterAll ws)] at hshows
  · have hopen' : (empty.afterAll (ws ++ later)).isOpen = true := by
      rw [afterAll_append, isOpen_afterAll hlater, hopen]
    rw [lookup_of_get? hopen', lookup_of_get? hopen, afterAll_append,
      get?_afterAll_of_forall_ne hother]
    cases (empty.afterAll ws).characters.get? n with
    | none => rfl
    | some d => exact congrArg Except.ok (CharacterProfile.nameless_ofRow _ _ d)

def smallLetter : Character where
  codepoint := 0x61
  name := some "A"
  uppercaseMapping := some 0x41
  flags := [.lowercase, .cased]

/-- A capital that is named after the letter was written, and a code point that is out of range. -/
def lateCapital : List Write :=
  [.character smallLetter, .character { codepoint := 0x110000 }, .character { codepoint := 0x41 },
    .character { codepoint := 0x41, name := some "CAPITAL A" }]

theorem lookup_afterAll_lateCapital :
    .close ∉ lateCapital ∧
    (empty.afterAll lateCapital).lookup 0x110000 = .error (.notFound 0x110000) ∧
    (∃ r, (empty.afterAll lateCapital).lookup 0x61 = .ok r ∧
      r.toJson.field? "is_cased" = some (.bool true) ∧
      r.uppercase.bind (·.name) = some "CAPITAL A") ∧
    ((empty.afterAll (lateCapital.take 2 ++ lateCapital.drop 2)).lookup 0x61).map
        CharacterProfile.nameless =
      ((empty.afterAll (lateCapital.take 2)).lookup 0x61).map CharacterProfile.nameless := by
  have hws : .close ∉ lateCapital := by simp [lateCapital]
  have hrefused : ∀ c ∈ empty.written lateCapital, c.codepoint ≠ 0x110000 := by decide +kernel
  have hletter : ∃ c ∈ empty.written lateCapital, c.codepoint = 0x61 := by decide +kernel
  obtain ⟨c, r, hlast, hr, -, hshows⟩ := (lookup_afterAll hws 0x61).2.1 hletter
  have hc : c = smallLetter := by
    have hsmall : empty.lastWritten? lateCapital 0x61 = some smallLetter := by decide +kernel
    exact Option.some.inj (hlast.symm.trans hsmall)
  have hcapital : (empty.lastWritten? lateCapital 0x41).bind (·.name) = some "CAPITAL A" := by
    decide +kernel
  subst hc
  refine ⟨hws, (lookup_afterAll hws _).1.2 hrefused, ⟨r, hr, hshows.flagField .cased, ?_⟩,
    (lookup_afterAll (by simp [lateCapital]) 0x61).2.2 _ (by simp [lateCapital])
      (by simp [lateCapital])⟩
  have hupper := hshows.uppercase
  generalize r.uppercase = upper at hupper
  cases hupper with
  | some hupper => exact hupper.name.trans hcapital

end Database
end CharAtlas
