import CharAtlas.Proofs.Query.Outcome

/-! # Clauses that make no difference

A plan is the same without selections in dimensions that were selected from before
(`Filter.plan_withoutRepeats`) and without those in a dimension where all that is known is selected
(`Filter.plan_without`). Clauses of different kinds do not notice each other: all that counts are
the four lists of clauses of one kind (`Filter.plan_of_ofGroup`). -/

namespace CharAtlas

namespace Clause

/-- What a clause asks about. -/
inductive Group where
  | members
  | confusables
  | search
  | property
deriving DecidableEq

def group : Clause → Group
  | property _ _ => .property
  | members _ _ => .members
  | search _ => .search
  | confusableWith _ => .confusables
  | notConfusableWith _ => .confusables

/-- Both select in one dimension. -/
def selectsAlike : Clause → Clause → Bool
  | members d _, members e _ => d = e
  | _, _ => false

theorem selectsAlike_iff {c c' : Clause} : c.selectsAlike c' = true ↔
    ∃ d v w, c = members d v ∧ c' = members d w := by
  cases c <;> cases c' <;> simp [selectsAlike, eq_comm]

end Clause

namespace Filter

/-- Of the selections in one dimension only the first is left. -/
def withoutRepeats (f : Filter) : Filter :=
  f.eraseDupsBy Clause.selectsAlike

/-- No selection in the dimension `d` is left. -/
def without (f : Filter) (d : Dimension) : Filter :=
  f.filter fun c => (c.valuesIn? d).isNone

def ofGroup (f : Filter) (g : Clause.Group) : Filter :=
  f.filter (·.group = g)

variable {f f' : Filter} {c c' : Clause} {d : Dimension} {values : List String} {catalog : Catalog}
  {user : Option String} {names : Nat → Option String}

/-- Clauses that nothing is made of can be left out. -/
theorem filterMap_filter_eq {β : Type} {make? : Clause → Option β} {p : Clause → Bool}
    (h : ∀ c, p c = false → make? c = none) : (f.filter p).filterMap make? = f.filterMap make? := by
  rw [List.filterMap_filter]
  refine List.filterMap_congr fun c _ => ?_
  cases hc : p c with
  | true => rfl
  | false => exact (h c hc).symm

/-! ### Repeated selections -/

/-- The clauses kept so far stand, last first, before those that are still to be looked at. -/
theorem plan_eraseDupsBy_loop (f kept : Filter) :
    plan (List.eraseDupsBy.loop Clause.selectsAlike f kept) catalog user names =
      plan (kept.reverse ++ f) catalog user names := by
  induction f generalizing kept with
  | nil => rw [List.append_nil]; rfl
  | cons c f ih =>
    rw [List.eraseDupsBy.loop]
    split
    · rename_i hrepeat
      obtain ⟨c', hmem, hc⟩ := List.any_eq_true.1 hrepeat
      obtain ⟨d, v, w, rfl, rfl⟩ := Clause.selectsAlike_iff.1 hc
      rw [ih, plan_later f ⟨w, List.mem_reverse.2 hmem⟩]
    · rw [ih, List.reverse_cons, List.append_assoc]
      rfl

theorem plan_withoutRepeats (f : Filter) :
    f.withoutRepeats.plan catalog user names = f.plan catalog user names :=
  plan_eraseDupsBy_loop f []

/-! ### Full selections -/

/-- Dimensions that were selected from before are passed over and nothing else is. -/
theorem selectionsFrom_eq (seen : List Dimension) (f : Filter) :
    selectionsFrom seen f = f.selections.filter (·.1 ∉ seen) := by
  induction f generalizing seen with
  | nil => rfl
  | cons c f ih =>
    cases c with
    | members e v =>
      have hcons : selections (.members e v :: f) = (e, v) :: (selections f).filter (·.1 ∉ [e]) :=
        congrArg _ (ih [e])
      rw [hcons, selectionsFrom, ih seen, ih (e :: seen)]
      by_cases he : e ∈ seen
      · rw [if_pos (List.contains_iff_mem.2 he), List.filter_cons_of_neg (by simpa using he),
          List.filter_filter]
        refine List.filter_congr fun s _ => ?_
        by_cases hs : s.1 = e <;> simp [hs, he]
      · rw [if_neg (mt List.contains_iff_mem.1 he), List.filter_cons_of_pos (by simpa using he),
          List.filter_filter]
        simp [Bool.and_comm]
    | _ => exact ih seen

theorem selections_members_cons (f : Filter) : selections (.members d values :: f) =
    (d, values) :: f.selections.filter (·.1 ≠ d) := by
  have hcons : selections (.members d values :: f) = (d, values) :: selectionsFrom [d] f := rfl
  rw [hcons, selectionsFrom_eq]
  simp

theorem selections_without (f : Filter) (d : Dimension) :
    (f.without d).selections = f.selections.filter (·.1 ≠ d) := by
  induction f with
  | nil => rfl
  | cons c f ih =>
    cases c with
    | members e v =>
      by_cases he : e = d
      · have hleft : without (.members e v :: f) d = without f d := by
          simp [without, Clause.valuesIn?, he]
        rw [hleft, ih, selections_members_cons, List.filter_cons, List.filter_filter]
        simp [he]
      · have hkept : without (.members e v :: f) d = .members e v :: without f d := by
          simp [without, Clause.valuesIn?, he]
        rw [hkept, selections_members_cons, ih, selections_members_cons, List.filter_cons]
        simp [he, List.filter_filter, Bool.and_comm]
    | _ => exact ih

/-- A selection of all that is known asks for nothing, and hides the later ones. -/
theorem plan_without (hd : f.firstSelection d = some values)
    (hc : catalog.isComplete d values = true) :
    (f.without d).plan catalog user names = f.plan catalog user names := by
  have hnothing : ∀ e, (e, []) ∈ f.selections → e ≠ d := by
    rintro e he rfl
    rw [mem_selections_iff, hd, Option.some.injEq] at he
    obtain ⟨hne, hall⟩ := Catalog.isComplete_iff.1 hc
    obtain ⟨v, hv⟩ := List.exists_mem_of_ne_nil _ hne
    exact absurd (he ▸ hall v hv) List.not_mem_nil
  have hmembers : ∀ {β : Type} {make? : Clause → Option β},
      (∀ e v, make? (.members e v) = none) → (f.without d).filterMap make? = f.filterMap make? := by
    refine fun hnone => filterMap_filter_eq fun c hc => ?_
    cases c with
    | members e v => exact hnone e v
    | _ => simp [Clause.valuesIn?] at hc
  refine plan_congr ?_ ?_ (hmembers fun _ _ => rfl) (hmembers fun _ _ => rfl)
    (hmembers fun _ _ => rfl)
  · rw [selections_without, List.any_filter, Bool.eq_iff_iff, List.any_eq_true, List.any_eq_true]
    simp only [Bool.and_eq_true, decide_eq_true_eq, List.isEmpty_iff]
    constructor
    · rintro ⟨s, hs, -, hempty⟩
      exact ⟨s, hs, hempty⟩
    · rintro ⟨⟨e, v⟩, hs, rfl⟩
      exact ⟨(e, []), hs, hnothing e hs, rfl⟩
  · unfold restrictions
    rw [selections_without, List.filter_filter]
    refine List.filter_congr ?_
    rintro ⟨e, v⟩ he
    by_cases hed : e = d
    · subst hed
      rw [mem_selections_iff, hd, Option.some.injEq] at he
      simp [← he, hc]
    · simp [hed]

/-! ### Clauses of one kind -/

theorem selections_ofGroup (f : Filter) : (f.ofGroup .members).selections = f.selections := by
  suffices h : ∀ seen, selectionsFrom seen (f.ofGroup .members) = selectionsFrom seen f from h []
  induction f with
  | nil => exact fun _ => rfl
  | cons c f ih =>
    intro seen
    cases c with
    | members e v =>
      have hkept : ofGroup (.members e v :: f) .members = .members e v :: ofGroup f .members := rfl
      rw [hkept, selectionsFrom, selectionsFrom, ih, ih]
    | _ => exact ih seen

theorem filterMap_ofGroup {β : Type} {make? : Clause → Option β} {g : Clause.Group}
    (h : ∀ c, c.group ≠ g → make? c = none) :
    (f.ofGroup g).filterMap make? = f.filterMap make? :=
  filterMap_filter_eq fun c hc => h c (of_decide_eq_false hc)

/-- How clauses of different kinds are mixed makes no difference. -/
theorem plan_of_ofGroup (h : ∀ g, f'.ofGroup g = f.ofGroup g) :
    f'.plan catalog user names = f.plan catalog user names := by
  have hselections : f'.selections = f.selections := by
    rw [← selections_ofGroup f', h, selections_ofGroup]
  have hfilterMap : ∀ {β : Type} {make? : Clause → Option β} (g : Clause.Group),
      (∀ c, c.group ≠ g → make? c = none) → f'.filterMap make? = f.filterMap make? := by
    intro β make? g hnone
    rw [← filterMap_ofGroup hnone, h, filterMap_ofGroup hnone]
  refine plan_congr_of_selections hselections (hfilterMap .confusables fun c hc => ?_)
    (hfilterMap .search fun c hc => ?_) (hfilterMap .property fun c hc => ?_)
  all_goals cases c <;> first | rfl | exact absurd rfl hc

theorem ofGroup_swap (h : c.group ≠ c'.group) (before after : Filter) (g : Clause.Group) :
    (before ++ c' :: c :: after).ofGroup g = (before ++ c :: c' :: after).ofGroup g := by
  unfold ofGroup
  rw [List.filter_append, List.filter_append]
  by_cases hc : c.group = g
  · have hc' : c'.group ≠ g := fun he => h (hc.trans he.symm)
    simp [hc, hc']
  · simp [List.filter_cons, hc]

/-- A plan stays the same when all selections but the first in their dimension are left out, when
all those in a dimension are left out of which the first has every value that is known, and when a
clause changes places with its neighbour of another kind. So the clauses of each kind, in their
order, are all that counts. -/
theorem plan_insensitive (f : Filter) (catalog : Catalog) (user : Option String)
    (names : Nat → Option String) :
    f.withoutRepeats.plan catalog user names = f.plan catalog user names ∧
    (∀ d values, f.firstSelection d = some values → catalog.values d ≠ [] →
      (∀ v ∈ catalog.values d, v ∈ values) →
        (f.without d).plan catalog user names = f.plan catalog user names) ∧
    (∀ before c c' after, f = before ++ c :: c' :: after → c.group ≠ c'.group →
      Filter.plan (before ++ c' :: c :: after) catalog user names = f.plan catalog user names) ∧
    ∀ f' : Filter, (∀ g, f'.ofGroup g = f.ofGroup g) →
      f'.plan catalog user names = f.plan catalog user names := by
  refine ⟨plan_withoutRepeats f, fun d values hd hne hall => ?_, ?_, fun f' => plan_of_ofGroup⟩
  · exact plan_without hd (Catalog.isComplete_iff.2 ⟨hne, hall⟩)
  · rintro before c c' after rfl hc
    exact plan_of_ofGroup (ofGroup_swap hc before after)

def twoScripts : Catalog where
  values
    | .scripts => ["Greek", "Latin"]
    | _ => []

/-- Both known scripts are selected, and then fewer. -/
def scriptsThrice : Filter :=
  [.members .scripts ["Han", "Greek", "Latin"], .search "a", .members .scripts ["Latin"],
    .property .mirror false, .members .scripts []]

/-- The later selections do not come into force when the first is left out with them. -/
theorem plan_insensitive_scriptsThrice :
    scriptsThrice.firstSelection .scripts = some ["Han", "Greek", "Latin"] ∧
    twoScripts.values .scripts ≠ [] ∧
    (∀ v ∈ twoScripts.values .scripts, v ∈ ["Han", "Greek", "Latin"]) ∧
    ∀ names, Filter.plan [.property .mirror false, .search "a"] twoScripts none names =
      scriptsThrice.plan twoScripts none names := by
  have hne : twoScripts.values .scripts ≠ [] := List.cons_ne_nil _ _
  have hall : ∀ v ∈ twoScripts.values .scripts, v ∈ ["Han", "Greek", "Latin"] := by decide
  have hmixed : Clause.group (.search "a") ≠ Clause.group (.property .mirror false) := by decide
  refine ⟨rfl, hne, hall, fun names => ?_⟩
  rw [← (plan_insensitive scriptsThrice twoScripts none names).2.1 .scripts _ rfl hne hall]
  exact (plan_insensitive _ twoScripts none names).2.2.1 [] _ _ [] rfl hmixed

end Filter
end CharAtlas
