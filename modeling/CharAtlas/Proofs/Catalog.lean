import CharAtlas.Catalog
import CharAtlas.Proofs.Text.NaturalOrder
import CharAtlas.Proofs.Version

/-! # Catalogs in order

A catalog lists the raw values that it is made of and no others: versions strictly in order, so that
their set determines the list (`Catalog.inVersionOrder_congr`), all else in natural order, in which
different texts may be on a par (`Catalog.InNaturalOrder`). Main statement:
`Catalog.ofValues_ordered`. -/

namespace CharAtlas.Catalog

variable {v : String} {l m : List String} {d : Dimension}

/-! ### Natural order -/

/-- The texts given, in natural order. Repetitions may be left out and none are added. -/
structure InNaturalOrder (given listed : List String) : Prop where
  mem : ∀ v, v ∈ listed ↔ v ∈ given
  order : listed.Pairwise fun a b => Text.naturalCompare a b ≠ .gt
  nodup : given.Nodup → listed.Nodup

theorem inNaturalOrder_filter (l : List String) (p : String → Bool) :
    InNaturalOrder (l.filter p) ((inNaturalOrder l).filter p) where
  mem v := by
    rw [List.mem_filter, List.mem_filter, inNaturalOrder, mem_eraseReps_mergeSort]
  order := (pairwise_eraseReps_mergeSort l).filter p |>.imp Ordering.ne_gt_iff_isLE.2
  nodup := nodup_filter_eraseReps_mergeSort

theorem inNaturalOrder_self (l : List String) : InNaturalOrder l (inNaturalOrder l) := by
  have hall := inNaturalOrder_filter l fun _ => true
  rwa [List.filter_true, List.filter_true] at hall

/-! ### Versions -/

theorem mem_inVersionOrder : v ∈ inVersionOrder l ↔ v ∈ l :=
  mem_eraseReps_mergeSort

theorem pairwise_inVersionOrder (l : List String) :
    (inVersionOrder l).Pairwise Version.Precedes :=
  (pairwise_lt_eraseReps_mergeSort l).imp Version.compare_eq_lt_iff.1

theorem nodup_inVersionOrder (l : List String) : (inVersionOrder l).Nodup :=
  (pairwise_inVersionOrder l).imp Version.Precedes.ne

/-- Versions can be put in order in one way only. -/
theorem inVersionOrder_congr (h : ∀ v, v ∈ l ↔ v ∈ m) : inVersionOrder l = inVersionOrder m := by
  have hperm : (inVersionOrder l).Perm (inVersionOrder m) := by
    rw [List.perm_ext_iff_of_nodup (nodup_inVersionOrder l) (nodup_inVersionOrder m)]
    intro v
    rw [mem_inVersionOrder, mem_inVersionOrder, h]
  exact hperm.eq_of_pairwise (fun a b _ _ hab hba => absurd hba hab.asymm)
    (pairwise_inVersionOrder l) (pairwise_inVersionOrder m)

/-! ### Catalogs -/

section
variable {raw : Dimension → List String}

theorem values_ofValues (hv : d ≠ .versions) (ht : d ≠ .decompositionTypes) :
    (ofValues raw).values d = inNaturalOrder (raw d) := by
  cases d with
  | versions => exact absurd rfl hv
  | decompositionTypes => exact absurd rfl ht
  | _ => rfl

theorem mem_values_ofValues (ht : d ≠ .decompositionTypes) :
    v ∈ (ofValues raw).values d ↔ v ∈ raw d := by
  by_cases hv : d = .versions
  · subst hv
    exact mem_inVersionOrder
  · rw [values_ofValues hv ht]
    exact (inNaturalOrder_self (raw d)).mem v

theorem nodup_values_ofValues (ht : d ≠ .decompositionTypes) (h : (raw d).Nodup) :
    ((ofValues raw).values d).Nodup := by
  by_cases hv : d = .versions
  · subst hv
    exact nodup_inVersionOrder _
  · rw [values_ofValues hv ht]
    exact (inNaturalOrder_self (raw d)).nodup h

end

/-- The versions listed are the raw ones, each once and strictly ascending, and their set alone
determines the list. The other values are in natural order. In front of the tags other than it stands
the canonical type. -/
theorem ofValues_ordered (raw : Dimension → List String) :
    (((ofValues raw).values .versions).Pairwise Version.Precedes ∧
      ((ofValues raw).values .versions).Nodup ∧
      (∀ v, v ∈ (ofValues raw).values .versions ↔ v ∈ raw .versions) ∧
      ∀ raw', (∀ v, v ∈ raw' .versions ↔ v ∈ raw .versions) →
        (ofValues raw').values .versions = (ofValues raw).values .versions) ∧
    (∀ d, d ≠ .versions → d ≠ .decompositionTypes →
      InNaturalOrder (raw d) ((ofValues raw).values d)) ∧
    ∃ tags, (ofValues raw).values .decompositionTypes = canonical :: tags ∧ canonical ∉ tags ∧
      InNaturalOrder ((raw .decompositionTypes).filter (· != canonical)) tags := by
  refine ⟨⟨pairwise_inVersionOrder _, nodup_inVersionOrder _, fun v => mem_inVersionOrder,
    fun raw' h => inVersionOrder_congr h⟩, fun d hv ht => ?_, _, rfl, ?_,
    inNaturalOrder_filter _ _⟩
  · rw [values_ofValues hv ht]
    exact inNaturalOrder_self (raw d)
  · simp [List.mem_filter]

end CharAtlas.Catalog
