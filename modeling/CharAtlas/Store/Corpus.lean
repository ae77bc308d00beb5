import CharAtlas.Catalog
import CharAtlas.Corpus.Decomposition
import CharAtlas.OrderedSet
import CharAtlas.Store.Database

/-! # The corpus in the database

Writing characters and confusable pairs (`Database.putCharacter`, `Database.addConfusable`),
reading rows back, and the values that occur (`Database.occurringValues`, `Database.catalog`). -/

namespace CharAtlas.Database

def putCharacter (db : Database) (c : Character) : Except Error Database :=
  if Codepoint.max < c.codepoint then .error (Codepoint.invalid c.codepoint)
  else if !db.isOpen then .error (.store .closed)
  else
    .ok { db with
      characters := db.characters.put c.stored
      nameTrigrams :=
        db.nameTrigrams.filter (·.codepoint != c.codepoint) ++ [⟨c.codepoint, c.nameTrigrams⟩] }

/-- Whether the pair is new, and the database with it. The pair is kept as given; its reverse is
another pair. -/
def addConfusable (db : Database) (p : ConfusablePair) : Except Error (Bool × Database) :=
  if p.codepoint = p.confusableWith then .error (.selfConfusable p.codepoint)
  else if Codepoint.max < p.codepoint then .error (Codepoint.invalid p.codepoint)
  else if Codepoint.max < p.confusableWith then .error (Codepoint.invalid p.confusableWith)
  else if !db.isOpen then .error (.store .closed)
  else if db.confusables.contains p then .ok (false, db)
  else .ok (true, { db with confusables := db.confusables ++ [p] })

def nameOf (db : Database) (codepoint : Nat) : Option String :=
  (db.characters.get? codepoint).bind (·.name)

/-- The row as it is read, with the names that its case mappings lead to now. -/
def row (db : Database) (c : StoredCharacter) : CharacterEntry :=
  { c.toAttributes with
    codepoint := c.codepoint
    code := c.code
    uppercaseMapping := c.uppercaseMapping.map Int.ofNat
    lowercaseMapping := c.lowercaseMapping.map Int.ofNat
    titlecaseMapping := c.titlecaseMapping.map Int.ofNat
    mirroredGlyph := c.mirroredGlyph.map Int.ofNat
    flags := c.flags
    uppercaseName := c.uppercaseMapping.bind db.nameOf
    lowercaseName := c.lowercaseMapping.bind db.nameOf
    titlecaseName := c.titlecaseMapping.bind db.nameOf }

def readEntry (db : Database) (codepoint : Nat) : Except Error (Option CharacterEntry) :=
  (db.access ((db.characters.get? codepoint).map db.row)).mapError .store

def readName (db : Database) (codepoint : Nat) : Except Error (Option String) :=
  (db.access (db.nameOf codepoint)).mapError .store

/-- The texts in a column, each once and in ascending order. -/
def columnTexts (db : Database) (text : StoredCharacter → Option String) : List String :=
  (OrderedSet.ofList (db.characters.rows.filterMap text)).toList

/-- The tags of decompositions, in the order of the first characters that have them. -/
def tags (db : Database) : List String :=
  let bracketed := (db.characters.rows.filterMap (·.decomposition)).filter (Text.like none "<%>%")
  (bracketed.map Decomposition.cutTag).eraseDups.filter (· != "")

def valuesIn (db : Database) : Dimension → List String
  | .scripts => db.columnTexts (·.script)
  | .categories => db.columnTexts (·.generalCategory)
  | .classes => db.columnTexts (·.bidiClass)
  | .versions => db.columnTexts (·.age)
  | .decompositionTypes => db.tags

def occurringValues (db : Database) (d : Dimension) : Except Error (List String) :=
  (db.access (db.valuesIn d)).mapError .store

def catalog (db : Database) : Except Error Catalog :=
  (db.access (Catalog.ofValues db.valuesIn)).mapError .store

end CharAtlas.Database
