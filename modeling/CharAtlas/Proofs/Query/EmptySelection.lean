import CharAtlas.Proofs.Filter.NormalForm
import CharAtlas.Proofs.Query.Outcome

/-! # Empty selections in normal forms

A text with an empty selection finds nothing (`Database.FindsNothing`). So does its normal form if
something is known in the dimension; where nothing is known, nothing is all there is to select, and
the selection is not written down (`Database.findsNothing_normalText`). -/

namespace CharAtlas.Database

variable {db : Database} {catalog : Catalog} {text : String} {f : Filter} {s : Controls}
  {d : Dimension}

/-- Whoever asks for whichever page is answered that there are no results, if there is an answer at
all; an open database has one. -/
structure FindsNothing (db : Database) (catalog : Catalog) (text : String) : Prop where
  answered : db.isOpen = true → ∀ user r, db.search catalog text user r = .ok ⟨[], 0⟩
  empty : ∀ user r page, db.search catalog text user r = .ok page → page = ⟨[], 0⟩

theorem findsNothing_of_selectsNothing (hf : Filter.ofText text = .ok f) (h : f.SelectsNothing)
    (db : Database) (catalog : Catalog) : db.FindsNothing catalog text where
  answered hopen _ _ := search_of_selectsNothing hf hopen h
  empty user r page hpage := by
    rw [search_eq_ok hf (isAnswered_of_search hf hpage) r (fits_of_search hf hpage), arranged,
      matched_of_selectsNothing h] at hpage
    cases hpage
    simp [sortRows]

/-- The normal form of a text whose first selection in a dimension is empty can be read. Where
something is known, its first selection in the dimension is empty too, and neither text finds
anything. Where nothing is known, it does not select in the dimension. -/
theorem findsNothing_normalText (hf : Filter.ofText text = .ok f) (hd : f.firstSelection d = some [])
    (hs : Controls.ofText text catalog = .ok s) :
    ∃ g, Filter.ofText (s.text catalog) = .ok g ∧
      (∀ db : Database, db.FindsNothing catalog text) ∧
      (catalog.values d ≠ [] → g.firstSelection d = some [] ∧ .members d [] ∈ g ∧
        ∀ db : Database, db.FindsNothing catalog (s.text catalog)) ∧
      (catalog.values d = [] → ∀ values, .members d values ∉ g) := by
  obtain ⟨f', hf', rfl⟩ := Controls.ofText_eq_ok_iff.1 hs
  obtain rfl : f = f' := Except.ok.inj (hf.symm.trans hf')
  have hread : Filter.ofText ((Controls.ofFilter catalog f).text catalog) =
      .ok (f.normalized catalog) :=
    Filter.ofText_text (Filter.wellFormed_normalized (Filter.wellFormed_of_ofText hf))
  refine ⟨f.normalized catalog, hread,
    fun db => findsNothing_of_selectsNothing hf ⟨d, hd⟩ db catalog, fun hknown => ?_,
    fun hunknown => ?_⟩
  · have hempty := Filter.firstSelection_normalized_eq_nil_iff.2 ⟨hd, hknown⟩
    exact ⟨hempty, Filter.mem_of_firstSelection hempty,
      fun db => findsNothing_of_selectsNothing hread ⟨d, hempty⟩ db catalog⟩
  · rw [← Filter.firstSelection_eq_none_iff, Filter.firstSelection_normalized, if_pos]
    refine Filter.isFull_ofFilter_iff.2 fun values hvalues => ?_
    obtain rfl : [] = values := Option.some.inj (hd.symm.trans hvalues)
    rw [hunknown]
    exact ⟨nofun, Iff.rfl⟩

/-- Nothing is selected in a dimension in which something is known and in one in which nothing is. -/
def twiceEmptyText : String :=
  "scripts: | ,versions:,isDash"

def twiceEmptyFilter : Filter :=
  [.members .scripts [], .members .versions [], .property (.flag .dash) false]

theorem findsNothing_normalText_twiceEmptyText :
    Filter.ofText twiceEmptyText = .ok twiceEmptyFilter ∧
    twiceEmptyFilter.firstSelection .scripts = some [] ∧
    twiceEmptyFilter.firstSelection .versions = some [] ∧
    (Controls.ofFilter Controls.twoScripts twiceEmptyFilter).text Controls.twoScripts =
      "isDash,scripts:" ∧
    (∀ db : Database, db.FindsNothing Controls.twoScripts "isDash,scripts:") ∧
    ∃ g, Filter.ofText "isDash,scripts:" = .ok g ∧ ∀ values, .members .versions values ∉ g := by
  have hread : Filter.ofText twiceEmptyText = .ok twiceEmptyFilter := by decide +kernel
  have hset : Controls.ofText twiceEmptyText Controls.twoScripts =
      .ok (Controls.ofFilter Controls.twoScripts twiceEmptyFilter) :=
    Controls.ofText_eq_ok_iff.2 ⟨_, hread, rfl⟩
  have htext : (Controls.ofFilter Controls.twoScripts twiceEmptyFilter).text Controls.twoScripts =
      "isDash,scripts:" := by decide +kernel
  obtain ⟨_, -, -, hscripts, -⟩ := findsNothing_normalText hread (d := .scripts) rfl hset
  obtain ⟨g, hg, -, -, hversions⟩ := findsNothing_normalText hread (d := .versions) rfl hset
  rw [htext] at hscripts hg
  exact ⟨hread, rfl, rfl, htext, (hscripts (by decide)).2.2, g, hg, hversions rfl⟩

def scriptless : List Write :=
  [.character { codepoint := 0x41 }]

/-- In a corpus without scripts, the normal form of a text that finds nothing finds everything. -/
theorem findsNothing_normalText_scriptless :
    Filter.ofText "scripts:" = .ok [.members .scripts []] ∧
    Controls.normalText (.ofValues (empty.afterAll scriptless).valuesIn) "scripts:" = .ok "" ∧
    ((empty.afterAll scriptless).search (.ofValues (empty.afterAll scriptless).valuesIn)
      "scripts:" none {}).map (·.total) = .ok 0 ∧
    ((empty.afterAll scriptless).search (.ofValues (empty.afterAll scriptless).valuesIn)
      "" none {}).map (·.total) = .ok 1 := by
  decide +kernel

end CharAtlas.Database
