/-! # Canonical combining classes

The names of those classes that have one. Main definition: `CombiningClass.label`. -/

namespace CharAtlas.CombiningClass

def named : List (Int × String) :=
  [(0, "Not_Reordered"), (1, "Overlay"), (6, "Han_Reading"), (7, "Nukta"), (8, "Kana_Voicing"),
    (9, "Virama"), (200, "Attached_Below_Left"), (202, "Attached_Below"), (214, "Attached_Above"),
    (216, "Attached_Above_Right"), (218, "Below_Left"), (220, "Below"), (222, "Below_Right"),
    (224, "Left"), (226, "Right"), (228, "Above_Left"), (230, "Above"), (232, "Above_Right"),
    (233, "Double_Below"), (234, "Double_Above"), (240, "Iota_Subscript")]

/-- Empty without a class and for classes without a name. -/
def label (combiningClass : Option Int) : String :=
  (combiningClass.bind (named.lookup ·)).getD ""

end CharAtlas.CombiningClass
