/-! # Finite sets as ascending lists

An `OrderedSet` lists its members once each and in ascending order, so that two sets with the same
members are equal (`OrderedSet.ext`). `OrderedSet.ofList` collects the members of a list. -/

namespace CharAtlas

/-- Any two elements compare, in one way only. -/
class TotallyOrdered (α : Type) [LT α] : Prop where
  lt_irrefl : ∀ a : α, ¬a < a
  lt_trans : ∀ {a b c : α}, a < b → b < c → a < c
  lt_trichotomy : ∀ a b : α, a < b ∨ a = b ∨ b < a

instance : TotallyOrdered Nat where
  lt_irrefl := Nat.lt_irrefl
  lt_trans := Nat.lt_trans
  lt_trichotomy := Nat.lt_trichotomy

instance : TotallyOrdered String where
  lt_irrefl := String.lt_irrefl
  lt_trans := String.lt_trans
  lt_trichotomy a b :=
    if h : a < b then .inl h
    else if h' : b < a then .inr (.inr h')
    else .inr (.inl (String.le_antisymm (String.not_lt.1 h') (String.not_lt.1 h)))

/-- Adds `a` to an ascending list unless it is there. -/
def insertAscending {α : Type} [LT α] [DecidableLT α] (a : α) : List α → List α
  | [] => [a]
  | b :: l => if a < b then a :: b :: l else if b < a then b :: insertAscending a l else b :: l

section
variable {α : Type} [LT α] [DecidableLT α] [TotallyOrdered α]
open TotallyOrdered

theorem mem_insertAscending {a x : α} {l : List α} :
    x ∈ insertAscending a l ↔ x = a ∨ x ∈ l := by
  induction l with
  | nil => simp [insertAscending]
  | cons b l ih =>
    unfold insertAscending
    split
    · simp
    · split
      · simp [ih, or_left_comm]
      · rename_i h h'
        have hab : a = b := ((lt_trichotomy a b).resolve_left h).resolve_right h'
        simp [hab]

theorem pairwise_insertAscending {a : α} {l : List α} (h : l.Pairwise (· < ·)) :
    (insertAscending a l).Pairwise (· < ·) := by
  induction h with
  | nil => simp [insertAscending]
  | @cons b l hb hl ih =>
    unfold insertAscending
    split
    · rename_i hab
      refine .cons (fun c hc => ?_) (.cons hb hl)
      rcases List.mem_cons.1 hc with rfl | hc
      · exact hab
      · exact lt_trans hab (hb c hc)
    · split
      · rename_i hba
        refine .cons (fun c hc => ?_) ih
        rcases mem_insertAscending.1 hc with rfl | hc
        · exact hba
        · exact hb c hc
      · exact .cons hb hl

end

structure OrderedSet (α : Type) [LT α] where
  toList : List α
  ascending : toList.Pairwise (· < ·)

namespace OrderedSet
open TotallyOrdered
variable {α : Type} [LT α]

instance : Membership α (OrderedSet α) where
  mem s a := a ∈ s.toList

instance [DecidableEq α] : DecidableEq (OrderedSet α) := fun s t =>
  if h : s.toList = t.toList then isTrue (by cases s; cases t; cases h; rfl)
  else isFalse (fun e => h (e ▸ rfl))

def empty : OrderedSet α := ⟨[], .nil⟩

def isEmpty (s : OrderedSet α) : Bool := s.toList.isEmpty

def size (s : OrderedSet α) : Nat := s.toList.length

def contains [DecidableEq α] (s : OrderedSet α) (a : α) : Bool := s.toList.contains a

variable [DecidableLT α] [TotallyOrdered α]

def insert (a : α) (s : OrderedSet α) : OrderedSet α :=
  ⟨insertAscending a s.toList, pairwise_insertAscending s.ascending⟩

def ofList (l : List α) : OrderedSet α := l.foldr insert empty

omit [DecidableLT α] [TotallyOrdered α] in
theorem mem_toList {a : α} {s : OrderedSet α} : a ∈ s.toList ↔ a ∈ s := Iff.rfl

theorem mem_insert {a x : α} {s : OrderedSet α} : x ∈ s.insert a ↔ x = a ∨ x ∈ s :=
  mem_insertAscending

theorem mem_ofList {x : α} {l : List α} : x ∈ ofList l ↔ x ∈ l := by
  induction l with
  | nil => exact Iff.rfl
  | cons a l ih =>
    rw [List.mem_cons, ← ih]
    exact mem_insert

omit [DecidableLT α] in
theorem eq_of_pairwise_of_mem_iff {l m : List α} (hl : l.Pairwise (· < ·))
    (hm : m.Pairwise (· < ·)) (h : ∀ x, x ∈ l ↔ x ∈ m) : l = m := by
  induction l generalizing m with
  | nil =>
    cases m with
    | nil => rfl
    | cons b m => exact absurd ((h b).2 (List.mem_cons_self ..)) (List.not_mem_nil)
  | cons a l ih =>
    cases m with
    | nil => exact absurd ((h a).1 (List.mem_cons_self ..)) (List.not_mem_nil)
    | cons b m =>
      have ha := List.pairwise_cons.1 hl
      have hb := List.pairwise_cons.1 hm
      have hab : a = b := by
        rcases List.mem_cons.1 ((h a).1 (List.mem_cons_self ..)) with e | ham
        · exact e
        rcases List.mem_cons.1 ((h b).2 (List.mem_cons_self ..)) with e | hbl
        · exact e.symm
        exact absurd (lt_trans (ha.1 b hbl) (hb.1 a ham)) (lt_irrefl a)
      subst hab
      rw [ih ha.2 hb.2]
      intro x
      constructor
      · intro hx
        rcases List.mem_cons.1 ((h x).1 (List.mem_cons_of_mem _ hx)) with rfl | hx'
        · exact absurd (ha.1 x hx) (lt_irrefl x)
        · exact hx'
      · intro hx
        rcases List.mem_cons.1 ((h x).2 (List.mem_cons_of_mem _ hx)) with rfl | hx'
        · exact absurd (hb.1 x hx) (lt_irrefl x)
        · exact hx'

omit [DecidableLT α] in
theorem ext {s t : OrderedSet α} (h : ∀ x, x ∈ s ↔ x ∈ t) : s = t := by
  cases s with | mk l hl => cases t with | mk m hm =>
  have e : l = m := eq_of_pairwise_of_mem_iff hl hm h
  subst e
  rfl

end OrderedSet
end CharAtlas
