import Mathlib.Data.List.Forall2

/-! # Traversals that may be refused

Results that may be an error, and `List.mapM` in `Except`: it succeeds if every step does
(`mapM_eq_ok_iff`) and otherwise gives the error of the first step that fails
(`mapM_eq_error_iff`). -/

namespace CharAtlas

variable {α β ε : Type} {g : α → Except ε β} {l : List α}

theorem map_eq_ok_iff {x : Except ε α} {f : α → β} {b : β} :
    x.map f = .ok b ↔ ∃ a, x = .ok a ∧ f a = b := by
  cases x <;> simp [Except.map]

theorem map_eq_error_iff {x : Except ε α} {f : α → β} {e : ε} :
    x.map f = .error e ↔ x = .error e := by
  cases x <;> simp [Except.map]

theorem bind_eq_ok_iff {x : Except ε α} {f : α → Except ε β} {b : β} :
    x >>= f = .ok b ↔ ∃ a, x = .ok a ∧ f a = .ok b := by
  cases x <;> simp [bind, Except.bind]

theorem bind_eq_error_iff {x : Except ε α} {f : α → Except ε β} {e : ε} :
    x >>= f = .error e ↔ x = .error e ∨ ∃ a, x = .ok a ∧ f a = .error e := by
  cases x <;> simp [bind, Except.bind]

theorem mapError_eq_ok_iff {ε' : Type} {x : Except ε α} {f : ε → ε'} {a : α} :
    x.mapError f = .ok a ↔ x = .ok a := by
  cases x <;> simp [Except.mapError]

theorem mapM_cons_ok {a : α} {b : β} (h : g a = .ok b) :
    (a :: l).mapM g = (l.mapM g).map (b :: ·) := by
  rw [List.mapM_cons, h]
  cases l.mapM g <;> rfl

theorem mapM_cons_error {a : α} {e : ε} (h : g a = .error e) : (a :: l).mapM g = .error e := by
  rw [List.mapM_cons, h]
  rfl

theorem mapM_congr {g' : α → Except ε β} (h : ∀ a ∈ l, g a = g' a) : l.mapM g = l.mapM g' := by
  induction l with
  | nil => rfl
  | cons a l ih =>
    rw [List.mapM_cons, List.mapM_cons, h a (List.mem_cons_self ..),
      ih fun b hb => h b (List.mem_cons_of_mem a hb)]

theorem mapM_eq_ok_iff {bs : List β} :
    l.mapM g = .ok bs ↔ List.Forall₂ (fun a b => g a = .ok b) l bs := by
  induction l generalizing bs with
  | nil => simp [pure, Except.pure, eq_comm]
  | cons a l ih =>
    rw [List.forall₂_cons_left_iff]
    cases h : g a with
    | error e => simp [mapM_cons_error h]
    | ok b =>
      rw [mapM_cons_ok h]
      cases hl : l.mapM g with
      | error e => simp [Except.map, ← ih, hl]
      | ok cs => simp [Except.map, ← ih, hl, eq_comm]

theorem mem_mapM_iff {bs : List β} {b : β} (h : l.mapM g = .ok bs) :
    b ∈ bs ↔ ∃ a ∈ l, g a = .ok b := by
  induction mapM_eq_ok_iff.1 h with
  | nil => simp
  | @cons a c l cs hac hrest ih =>
    rw [List.mem_cons, ih (mapM_eq_ok_iff.2 hrest), List.exists_mem_cons_iff, hac,
      Except.ok.injEq, eq_comm]

theorem exists_of_mapM_eq_ok {bs : List β} {a : α} (h : l.mapM g = .ok bs) (ha : a ∈ l) :
    ∃ b, g a = .ok b := by
  induction mapM_eq_ok_iff.1 h with
  | nil => exact absurd ha List.not_mem_nil
  | cons hab hrest ih =>
    rcases List.mem_cons.1 ha with rfl | ha
    · exact ⟨_, hab⟩
    · exact ih (mapM_eq_ok_iff.2 hrest) ha

theorem exists_mapM_eq_ok (h : ∀ a ∈ l, ∃ b, g a = .ok b) : ∃ bs, l.mapM g = .ok bs := by
  induction l with
  | nil => exact ⟨[], rfl⟩
  | cons a l ih =>
    obtain ⟨b, hb⟩ := h a (List.mem_cons_self ..)
    obtain ⟨bs, hbs⟩ := ih fun c hc => h c (List.mem_cons_of_mem _ hc)
    exact ⟨b :: bs, by rw [mapM_cons_ok hb, hbs]; rfl⟩

theorem mapM_eq_error_iff {e : ε} : l.mapM g = .error e ↔
    ∃ before a after, l = before ++ a :: after ∧ (∀ b ∈ before, ∃ c, g b = .ok c) ∧
      g a = .error e := by
  induction l with
  | nil => simp [pure, Except.pure]
  | cons a l ih =>
    cases h : g a with
    | error e' =>
      rw [mapM_cons_error h]
      constructor
      · rintro ⟨⟩
        exact ⟨[], a, l, rfl, by simp, h⟩
      · rintro ⟨before, b, after, hl, hok, hb⟩
        cases before with
        | nil =>
          obtain ⟨rfl, rfl⟩ := List.cons.inj hl
          rw [h, Except.error.injEq] at hb
          rw [hb]
        | cons c before =>
          obtain ⟨rfl, rfl⟩ := List.cons.inj hl
          obtain ⟨c', hc⟩ := hok _ (List.mem_cons_self ..)
          rw [h] at hc
          cases hc
    | ok b =>
      rw [mapM_cons_ok h]
      rw [map_eq_error_iff, ih]
      constructor
      · rintro ⟨before, c, after, rfl, hok, hc⟩
        refine ⟨a :: before, c, after, rfl, fun d hd => ?_, hc⟩
        rcases List.mem_cons.1 hd with rfl | hd
        · exact ⟨b, h⟩
        · exact hok d hd
      · rintro ⟨before, c, after, hl, hok, hc⟩
        cases before with
        | nil =>
          obtain ⟨rfl, rfl⟩ := List.cons.inj hl
          rw [h] at hc
          cases hc
        | cons d before =>
          obtain ⟨rfl, rfl⟩ := List.cons.inj hl
          exact ⟨before, c, after, rfl, fun x hx => hok x (List.mem_cons_of_mem _ hx), hc⟩

end CharAtlas
