import CharAtlas.Corpus.Profile
import CharAtlas.Json
import CharAtlas.Query.Page

/-! # Responses

What the service sends back: a status with a JSON body, or a redirection. -/

namespace CharAtlas

inductive Response where
  | json (status : Nat) (body : Json)
  | redirect (location : String)

namespace Response

def ok (body : Json) : Response :=
  json 200 body

def failure (status : Nat) (text : String) : Response :=
  json status (.object [("error", .text text)])

/-- Details of a failed store are not shown. -/
def serverError : Response :=
  failure 500 "Internal server error"

end Response

namespace Error

def response : Error → Response
  | store _ => .serverError
  | invalidCodepoint _ => .failure 400 "Invalid codepoint"
  | notFound _ => .failure 404 "Character not found"
  | authRequired key => .failure 401 (authRequired key).message
  | e => .failure 400 e.message

end Error

namespace Json

def ofText? : Option String → Json :=
  ofOption text

def ofInt? : Option Int → Json :=
  ofOption int

end Json

namespace CaseTarget

def toJson (m : CaseTarget) : Json :=
  .object [("codepoint", .int m.codepoint), ("unicode_id", .text m.unicodeId),
    ("character", .ofText? m.character), ("name", .ofText? m.name)]

end CaseTarget

namespace Flag

/-- The field of a record that shows the flag. -/
def fieldName : Flag → String
  | alphabetic => "is_alphabetic"
  | whiteSpace => "is_white_space"
  | dash => "is_dash"
  | mirrored => "is_mirrored"
  | math => "is_math"
  | cased => "is_cased"
  | idStart => "is_id_start"
  | xidStart => "is_xid_start"
  | xidContinue => "is_xid_continue"
  | idContinue => "is_id_continue"
  | graphemeBase => "is_grapheme_base"
  | graphemeLink => "is_grapheme_link"
  | graphemeExtend => "is_grapheme_extend"
  | caseIgnorable => "is_case_ignorable"
  | changesWhenCasefolded => "changes_when_casefolded"
  | changesWhenCasemapped => "changes_when_casemapped"
  | changesWhenLowercased => "changes_when_lowercased"
  | changesWhenTitlecased => "changes_when_titlecased"
  | changesWhenUppercased => "changes_when_uppercased"
  | defaultIgnorable => "is_default_ignorable"
  | lowercase => "is_lowercase"
  | uppercase => "is_uppercase"

end Flag

namespace CharacterProfile

def toJson (r : CharacterProfile) : Json :=
  .object ([("codepoint", .int r.codepoint), ("code", .text r.code),
    ("unicode_id", .text r.unicodeId), ("character", .ofText? r.character),
    ("name", .ofText? r.name), ("general_category", .ofText? r.generalCategory),
    ("script", .ofText? r.script), ("bidi_class", .ofText? r.bidiClass),
    ("block", .ofText? r.block), ("age", .ofText? r.age),
    ("canonical_combining_class", .ofInt? r.combiningClass),
    ("combining_class_name", .text r.combiningClassLabel),
    ("decomposition", .ofText? r.decomposition),
    ("decomposition_type", .text r.decompositionTag),
    ("numeric_value", .ofText? r.numericValue), ("digit_value", .ofText? r.digitValue),
    ("decimal_digit_value", .ofText? r.decimalDigitValue), ("numeric_type", .text r.numericKind),
    ("uppercase", .ofOption CaseTarget.toJson r.uppercase),
    ("lowercase", .ofOption CaseTarget.toJson r.lowercase),
    ("titlecase", .ofOption CaseTarget.toJson r.titlecase),
    ("bidi_mirrored_glyph", .ofInt? r.mirroredGlyph),
    ("mirror_character", .ofText? r.mirrorCharacter)] ++
    Flag.all.map (fun f => (f.fieldName, .bool (r.flags.contains f))) ++
    [("is_titlecase", .bool r.isTitlecase)])

end CharacterProfile

namespace ResultPage

def toJson (p : ResultPage) : Json :=
  .object [("characters", .list (p.characters.map CharacterProfile.toJson)),
    ("totalCount", .int p.total)]

end ResultPage

namespace User

def toJson (u : User) : Json :=
  .object [("id", .text u.id), ("google_id", .text u.googleId), ("email", .ofText? u.email),
    ("name", .ofText? u.name), ("last_login", .ofText? u.lastLogin),
    ("created_at", .text u.createdAt)]

end User
end CharAtlas
