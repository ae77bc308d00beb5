import Mathlib.Data.List.Destutter

/-! # Sorting by a comparison

A list sorted by a comparison is in its order (`pairwise_mergeSort_isLE`). Erasing repetitions in a
row afterwards loses no member (`mem_eraseReps_mergeSort`), and if only equal members are on a par, it
leaves each of them once (`pairwise_lt_eraseReps_mergeSort`). -/

namespace CharAtlas

/-! ### Comparisons -/

section
variable {α β : Type} {cmp cmp' : β → β → Ordering}

theorem transCmp_comap [Std.TransCmp cmp] (f : α → β) :
    Std.TransCmp fun a b => cmp (f a) (f b) where
  eq_swap := Std.OrientedCmp.eq_swap
  isLE_trans := Std.TransCmp.isLE_trans

theorem compareLex_congr {l m : List β} (h : ∀ a ∈ l, ∀ b ∈ m, cmp a b = cmp' a b) :
    List.compareLex cmp l m = List.compareLex cmp' l m := by
  induction l generalizing m with
  | nil => cases m <;> rfl
  | cons a l ih =>
    cases m with
    | nil => rfl
    | cons b m =>
      rw [List.compareLex_cons_cons, List.compareLex_cons_cons,
        h a (List.mem_cons_self ..) b (List.mem_cons_self ..),
        ih fun c hc d hd => h c (List.mem_cons_of_mem a hc) d (List.mem_cons_of_mem b hd)]

theorem pairwise_mergeSort_isLE [Std.TransCmp cmp] (l : List β) :
    (l.mergeSort fun a b => (cmp a b).isLE).Pairwise fun a b => (cmp a b).isLE := by
  refine List.pairwise_mergeSort (fun a b c => Std.TransCmp.isLE_trans) (fun a b => ?_) l
  have hswap : cmp b a = (cmp a b).swap := Std.OrientedCmp.eq_swap
  rw [hswap]
  cases cmp a b <;> rfl

end

/-! ### Repetitions in a row -/

section
variable {α : Type} [DecidableEq α] {a b : α} {l : List α}

theorem eraseRepsBy_loop (l : List α) (a : α) (acc : List α) :
    List.eraseRepsBy.loop (· == ·) a l acc = acc.reverse ++ l.destutter' (· ≠ ·) a := by
  induction l generalizing a acc with
  | nil => simp [List.eraseRepsBy.loop]
  | cons b l ih =>
    by_cases hab : a = b
    · subst hab
      rw [List.destutter'_cons_neg l (by simp), ← ih]
      simp [List.eraseRepsBy.loop]
    · rw [List.destutter'_cons_pos l hab, List.eraseRepsBy.loop, beq_false_of_ne hab]
      simp [ih]

theorem eraseReps_eq_destutter (l : List α) : l.eraseReps = l.destutter (· ≠ ·) := by
  cases l with
  | nil => rfl
  | cons a l => exact eraseRepsBy_loop l a []

theorem eraseReps_sublist (l : List α) : l.eraseReps.Sublist l := by
  rw [eraseReps_eq_destutter]
  exact List.destutter_sublist ..

theorem mem_destutter'_ne : b ∈ l.destutter' (· ≠ ·) a ↔ b = a ∨ b ∈ l := by
  induction l generalizing a with
  | nil => simp
  | cons c l ih =>
    by_cases hac : a = c
    · subst hac
      rw [List.destutter'_cons_neg l (by simp), ih, List.mem_cons, or_self_left]
    · rw [List.destutter'_cons_pos l hac, List.mem_cons, ih, List.mem_cons]

theorem mem_eraseReps : b ∈ l.eraseReps ↔ b ∈ l := by
  rw [eraseReps_eq_destutter]
  cases l with
  | nil => rfl
  | cons a l => rw [List.destutter_cons', mem_destutter'_ne, List.mem_cons]

/-! ### Repetitions anywhere -/

theorem nodup_eraseDups (l : List α) : l.eraseDups.Nodup := by
  match l with
  | [] => exact .nil
  | a :: l =>
    rw [List.eraseDups_cons, List.nodup_cons, List.mem_eraseDups]
    exact ⟨by simp, nodup_eraseDups _⟩
termination_by l.length
decreasing_by exact Nat.lt_succ_of_le (List.length_filter_le _ l)

/-! ### Sorting and erasing -/

section
variable {le : α → α → Bool}

theorem mem_eraseReps_mergeSort : a ∈ (l.mergeSort le).eraseReps ↔ a ∈ l := by
  rw [mem_eraseReps, List.mem_mergeSort]

theorem nodup_filter_eraseReps_mergeSort {p : α → Bool} (h : (l.filter p).Nodup) :
    ((l.mergeSort le).eraseReps.filter p).Nodup :=
  (((List.mergeSort_perm l le).filter p).nodup_iff.2 h).sublist ((eraseReps_sublist _).filter p)

end

variable {cmp : α → α → Ordering} [Std.TransCmp cmp]

theorem pairwise_eraseReps_mergeSort (l : List α) :
    (l.mergeSort fun a b => (cmp a b).isLE).eraseReps.Pairwise fun a b => (cmp a b).isLE :=
  (pairwise_mergeSort_isLE l).sublist (eraseReps_sublist _)

theorem pairwise_lt_eraseReps_mergeSort [Std.LawfulEqCmp cmp] (l : List α) :
    (l.mergeSort fun a b => (cmp a b).isLE).eraseReps.Pairwise fun a b => cmp a b = .lt := by
  have hsorted : (l.mergeSort fun a b => (cmp a b).isLE).Pairwise fun a b => (cmp a b).isLE :=
    pairwise_mergeSort_isLE l
  have hantisymm : Std.Antisymm fun a b => (cmp a b).isLE = true :=
    ⟨fun _ _ hab hba => Std.LawfulEqCmp.eq_of_compare (Std.OrientedCmp.isLE_antisymm hab hba)⟩
  -- equal members of a sorted list stand in a row, so that none is left twice
  rw [eraseReps_eq_destutter, List.Pairwise.destutter_eq_dedup hsorted]
  refine ((hsorted.sublist (List.dedup_sublist _)).and (List.nodup_dedup _)).imp ?_
  rintro a b ⟨hle, hne⟩
  exact (Ordering.isLE_iff_eq_lt_or_eq_eq.1 hle).resolve_right
    fun heq => hne (Std.LawfulEqCmp.eq_of_compare heq)

end

end CharAtlas
