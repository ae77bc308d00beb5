import CharAtlas.Query.Value
import CharAtlas.Store.Corpus
import Mathlib.Data.List.Zip
import Mathlib.Logic.Function.Basic

/-! # Rows column by column

A character is written as values in the order of `insertedColumns`, and its row is read by the names
of columns (`CharacterEntry.ofCells`). `Database.row_stored` says that this reads the row that
`Database.row` makes of the character, `Character.value_stored` that queries read the same. -/

namespace CharAtlas

variable {α β : Type}

theorem lookup_append_of_not_mem {key : String} {l l' : List (String × β)}
    (h : key ∉ l.map Prod.fst) : (l ++ l').lookup key = l'.lookup key := by
  rw [List.lookup_append, List.lookup_eq_none_iff.2 fun e he => ?_, Option.none_or]
  rw [bne_iff_ne]
  rintro rfl
  exact h (List.mem_map_of_mem he)

/-- Keys that differ lead each to its own value. -/
theorem lookup_map_of_injective {key : α → String} (hkey : Function.Injective key) (value : α → β)
    {l : List α} {a : α} (ha : a ∈ l) :
    (l.map fun b => (key b, value b)).lookup (key a) = some (value a) := by
  induction l with
  | nil => exact absurd ha List.not_mem_nil
  | cons b l ih =>
    rw [List.map_cons, List.lookup_cons]
    by_cases hab : a = b
    · rw [hab, beq_self_eq_true]
    · rw [beq_false_of_ne fun he => hab (hkey he)]
      exact ih ((List.mem_cons.1 ha).resolve_left hab)

theorem Flag.columnName_injective : Function.Injective Flag.columnName := by
  intro f g h
  have hall : ∀ f ∈ all, ∀ g ∈ all, f.columnName = g.columnName → f = g := by decide +kernel
  exact hall f (mem_all f) g (mem_all g) h

namespace Value

def text? : Value → Option String
  | text s => some s
  | _ => none

def int? : Value → Option Int
  | int n => some n
  | _ => none

theorem text?_ofOption (o : Option String) : (ofOption text o).text? = o := by
  cases o <;> rfl

theorem int?_ofOption (o : Option Int) : (ofOption int o).int? = o := by
  cases o <;> rfl

end Value

/-! ### Writing -/

/-- The columns of a row before those of the flags. -/
def plainColumns : List String :=
  ["codepoint", "code", "name", "name_trigram_count", "general_category", "script", "bidi_class",
    "canonical_combining_class", "decomposition", "numeric_value", "digit_value",
    "decimal_digit_value", "uppercase_mapping", "lowercase_mapping", "titlecase_mapping",
    "bidi_mirrored_glyph", "block", "age"]

def insertedColumns : List String :=
  plainColumns ++ Flag.all.map Flag.columnName

namespace Character

def plainValues (c : Character) : List Value :=
  [.int c.codepoint, .text (Codepoint.code c.codepoint), .ofOption .text c.name,
    .int c.nameTrigrams.size, .ofOption .text c.generalCategory, .ofOption .text c.script,
    .ofOption .text c.bidiClass, .ofOption .int c.combiningClass, .ofOption .text c.decomposition,
    .ofOption .text c.numericValue, .ofOption .text c.digitValue,
    .ofOption .text c.decimalDigitValue, .ofOption .int (c.uppercaseMapping.map Int.ofNat),
    .ofOption .int (c.lowercaseMapping.map Int.ofNat),
    .ofOption .int (c.titlecaseMapping.map Int.ofNat),
    .ofOption .int (c.mirroredGlyph.map Int.ofNat), .ofOption .text c.block, .ofOption .text c.age]

theorem length_plainValues (c : Character) : c.plainValues.length = plainColumns.length := rfl

/-- The values to write, each meant for the column at its place. -/
def insertedValues (c : Character) : List Value :=
  c.plainValues ++ Flag.all.map fun f => .int (if f ∈ c.flags then 1 else 0)

/-- What is written under each name. -/
def cells (c : Character) : List (String × Value) :=
  insertedColumns.zip c.insertedValues

end Character

/-! ### Reading -/

def cell (cells : List (String × Value)) (column : String) : Value :=
  (cells.lookup column).getD .null

/-- A row read by the names of its columns. The names of the characters that case mappings lead to
are looked up by `nameOf`. -/
def CharacterEntry.ofCells (cells : List (String × Value)) (nameOf : Nat → Option String) :
    CharacterEntry where
  codepoint := ((cell cells "codepoint").int?).getD 0
  code := ((cell cells "code").text?).getD ""
  name := (cell cells "name").text?
  generalCategory := (cell cells "general_category").text?
  script := (cell cells "script").text?
  bidiClass := (cell cells "bidi_class").text?
  combiningClass := (cell cells "canonical_combining_class").int?
  decomposition := (cell cells "decomposition").text?
  numericValue := (cell cells "numeric_value").text?
  digitValue := (cell cells "digit_value").text?
  decimalDigitValue := (cell cells "decimal_digit_value").text?
  block := (cell cells "block").text?
  age := (cell cells "age").text?
  uppercaseMapping := (cell cells "uppercase_mapping").int?
  lowercaseMapping := (cell cells "lowercase_mapping").int?
  titlecaseMapping := (cell cells "titlecase_mapping").int?
  mirroredGlyph := (cell cells "bidi_mirrored_glyph").int?
  flags := Flag.all.filter fun f => (cell cells f.columnName).int?.any (· != 0)
  uppercaseName := ((cell cells "uppercase_mapping").int?.bind Int.toNat?).bind nameOf
  lowercaseName := ((cell cells "lowercase_mapping").int?.bind Int.toNat?).bind nameOf
  titlecaseName := ((cell cells "titlecase_mapping").int?.bind Int.toNat?).bind nameOf

theorem cells_eq (c : Character) : c.cells = plainColumns.zip c.plainValues ++
    Flag.all.map fun f => (f.columnName, .int (if f ∈ c.flags then 1 else 0)) := by
  unfold Character.cells insertedColumns Character.insertedValues
  rw [List.zip_append c.length_plainValues.symm, List.zip_map']

theorem cell_flag (c : Character) (f : Flag) :
    cell c.cells f.columnName = .int (if f ∈ c.flags then 1 else 0) := by
  have hplain : ∀ f ∈ Flag.all, f.columnName ∉ plainColumns := by decide +kernel
  have hfst : f.columnName ∉ (plainColumns.zip c.plainValues).map Prod.fst := by
    rw [List.map_fst_zip (Nat.le_of_eq c.length_plainValues.symm)]
    exact hplain f (Flag.mem_all f)
  unfold cell
  rw [cells_eq, lookup_append_of_not_mem hfst,
    lookup_map_of_injective Flag.columnName_injective _ (Flag.mem_all f)]
  rfl

theorem map_cell_plainColumns (c : Character) :
    plainColumns.map (cell c.cells) = c.plainValues :=
  rfl

/-- What queries test is what was written under the name that they give. -/
theorem Character.value_stored (c : Character) (col : Column) :
    c.stored.value col = cell c.cells col.label := by
  have htarget : ∀ o : Option Nat,
      Value.ofOption (fun n => .int (n : Nat)) o = .ofOption .int (o.map Int.ofNat) := by
    rintro (_ | n) <;> rfl
  cases col with
  | flag f =>
    rw [Column.label, cell_flag]
    simp [StoredCharacter.value, StoredCharacter.flagValue, stored, Flag.mem_all f]
  | uppercaseMapping => exact htarget _
  | lowercaseMapping => exact htarget _
  | titlecaseMapping => exact htarget _
  | mirroredGlyph => exact htarget _
  | _ => rfl

/-- What is written is read: each column under its own name. -/
theorem Database.row_stored (db : Database) (c : Character) :
    db.row c.stored = .ofCells c.cells db.nameOf := by
  have hcells := map_cell_plainColumns c
  simp only [plainColumns, Character.plainValues, List.map_cons, List.cons.injEq] at hcells
  have htarget : ∀ o : Option Nat, (o.map Int.ofNat).bind Int.toNat? = o := by
    rintro (_ | n) <;> rfl
  have hflags : Flag.all.filter c.flags.contains =
      Flag.all.filter fun f => (cell c.cells f.columnName).int?.any (· != 0) := by
    refine List.filter_congr fun f _ => ?_
    rw [cell_flag, Bool.eq_iff_iff, List.contains_iff_mem]
    by_cases hf : f ∈ c.flags <;> simp [hf, Value.int?]
  unfold CharacterEntry.ofCells
  simp only [hcells, Value.text?_ofOption, Value.int?_ofOption, htarget, ← hflags]
  rfl

end CharAtlas
