import CharAtlas.OrderedSet
import Mathlib.Data.Finset.Card

/-! # Ordered sets by their members

An ordered set is determined by its members, so collecting a list again changes nothing
(`OrderedSet.ofList_toList`), and it is a finite set (`OrderedSet.toFinset`). -/

namespace CharAtlas.OrderedSet
variable {α : Type} [LT α] {s : OrderedSet α} {a : α}

theorem isEmpty_iff : s.isEmpty = true ↔ ∀ a, a ∉ s := by
  unfold isEmpty
  rw [List.isEmpty_iff, List.eq_nil_iff_forall_not_mem]
  exact Iff.rfl

theorem contains_iff [DecidableEq α] : s.contains a = true ↔ a ∈ s :=
  List.contains_iff_mem

theorem nodup [TotallyOrdered α] (s : OrderedSet α) : s.toList.Nodup := by
  refine List.Pairwise.imp (fun {a b} hlt => ?_) s.ascending
  rintro rfl
  exact TotallyOrdered.lt_irrefl a hlt

/-- The members without their order. -/
def toFinset [TotallyOrdered α] (s : OrderedSet α) : Finset α :=
  ⟨s.toList, s.nodup⟩

section
variable [TotallyOrdered α]

@[simp] theorem mem_toFinset : a ∈ s.toFinset ↔ a ∈ s := Iff.rfl

theorem card_toFinset (s : OrderedSet α) : s.toFinset.card = s.size := rfl

variable [DecidableLT α]

theorem ofList_toList (s : OrderedSet α) : ofList s.toList = s :=
  ext fun _ => mem_ofList

theorem isEmpty_ofList {l : List α} : (ofList l).isEmpty = l.isEmpty := by
  rw [Bool.eq_iff_iff, isEmpty_iff, List.isEmpty_iff, List.eq_nil_iff_forall_not_mem]
  simp only [mem_ofList]

theorem size_ofList [DecidableEq α] (l : List α) : (ofList l).size = l.toFinset.card := by
  have hset : (ofList l).toFinset = l.toFinset := by
    ext a
    rw [mem_toFinset, mem_ofList, List.mem_toFinset]
  rw [← card_toFinset, hset]

end
end CharAtlas.OrderedSet
