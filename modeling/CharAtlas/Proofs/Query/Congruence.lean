import CharAtlas.Proofs.Query.Pages

/-! # What an answer depends on

Databases with the same characters and trigrams (`Database.SameRows`) answer a text alike if the
same rows of them match (`Database.search_congr`). Besides these tables a condition reads the pairs
of confusables (`Condition.ReadsPairs`) or the favorites of some users (`Condition.users`), if
anything (`Condition.holds_congr`); selections and searches do not (`Condition.IsLocal`). -/

namespace CharAtlas

namespace Database

/-- The characters and the trigrams of their names are the same. -/
structure SameRows (db db' : Database) : Prop where
  isOpen : db'.isOpen = db.isOpen
  characters : db'.characters = db.characters
  nameTrigrams : db'.nameTrigrams = db.nameTrigrams

namespace SameRows
variable {db db' : Database} (h : SameRows db db')
include h

theorem access_eq {α : Type} (result : α) : db'.access result = db.access result := by
  unfold access
  rw [h.isOpen]

theorem nameOf_eq : db'.nameOf = db.nameOf := by
  funext n
  unfold nameOf
  rw [h.characters]

theorem row_eq : db'.row = db.row := by
  funext c
  unfold row
  rw [h.nameOf_eq]

theorem score_eq (a : Anchor) (c : StoredCharacter) : db'.score a c = db.score a c := by
  unfold score trigramsOf
  rw [h.nameTrigrams]

theorem sortRows_eq (criteria : List Criterion) (rows : List StoredCharacter) :
    sortRows db' criteria rows = sortRows db criteria rows := by
  have hrank : ∀ k c, Criterion.rank db' c k = k.rank db c := by
    intro k c
    cases k with
    | column col dir => rfl
    | distance a dir => exact congrArg (fun s => Rank.score (s.getD .zero)) (h.score_eq a c)
  unfold sortRows ranks
  simp only [hrank]

theorem readNames_eq (ns : List Nat) : db'.readNames ns = db.readNames ns := by
  induction ns with
  | nil => rfl
  | cons n ns ih =>
    unfold readNames readName
    rw [ih, h.nameOf_eq, h.access_eq]

end SameRows

end Database

/-! ### What conditions read -/

namespace Condition
variable {db db' : Database} {k : Condition}

/-- Whose favorites a condition reads. -/
def users : Condition → List String
  | favorite _ user => [user]
  | and p q => p.users ++ q.users
  | or p q => p.users ++ q.users
  | group p => p.users
  | _ => []

def ReadsPairs : Condition → Prop
  | paired _ _ _ => True
  | and p q => p.ReadsPairs ∨ q.ReadsPairs
  | or p q => p.ReadsPairs ∨ q.ReadsPairs
  | group p => p.ReadsPairs
  | _ => False

theorem holds_congr (h : db.SameRows db') (c : StoredCharacter)
    (hpairs : k.ReadsPairs → db'.confusables = db.confusables)
    (hfav : ∀ u ∈ k.users, ∀ n, ⟨u, n⟩ ∈ db'.favorites ↔ ⟨u, n⟩ ∈ db.favorites) :
    k.holds db' c = k.holds db c := by
  induction k with
  | paired side negated units =>
    unfold holds
    rw [hpairs trivial]
  | favorite negated user =>
    have hsame : db'.isFavorite user c.codepoint = db.isFavorite user c.codepoint := by
      unfold Database.isFavorite
      rw [Bool.eq_iff_iff, List.contains_iff_mem, List.contains_iff_mem]
      exact hfav user (List.mem_singleton_self user) c.codepoint
    unfold holds
    rw [hsame]
  | similar a =>
    unfold holds
    rw [h.score_eq]
  | and p q hp hq =>
    unfold holds
    rw [hp (hpairs ∘ .inl) fun u hu => hfav u (List.mem_append_left _ hu),
      hq (hpairs ∘ .inr) fun u hu => hfav u (List.mem_append_right _ hu)]
  | or p q hp hq =>
    unfold holds
    rw [hp (hpairs ∘ .inl) fun u hu => hfav u (List.mem_append_left _ hu),
      hq (hpairs ∘ .inr) fun u hu => hfav u (List.mem_append_right _ hu)]
  | group p hp => exact hp hpairs hfav
  | _ => rfl

/-- The condition reads neither pairs nor favorites. -/
structure IsLocal (k : Condition) : Prop where
  users : k.users = []
  pairs : ¬k.ReadsPairs

theorem IsLocal.holds_eq (hk : k.IsLocal) (h : db.SameRows db') (c : StoredCharacter) :
    k.holds db' c = k.holds db c :=
  holds_congr h c (fun hp => absurd hp hk.pairs) fun u hu => by
    rw [hk.users] at hu
    cases hu

end Condition

namespace Filter
variable {names : Nat → Option String} {user : Option String} {k : Condition} {u : String}

theorem isLocal_selectionCondition (d : Dimension) (values : List String) :
    (selectionCondition d values).IsLocal := by
  cases d with
  | decompositionTypes =>
    unfold selectionCondition decompositionCondition
    dsimp only
    split_ifs <;> exact ⟨rfl, by simp [Condition.ReadsPairs, untagged, taggedAmong]⟩
  | _ => exact ⟨rfl, id⟩

theorem isLocal_searchCondition (t : SearchTerm) : (searchCondition names t).IsLocal := by
  unfold searchCondition
  dsimp only
  split
  · exact ⟨rfl, id⟩
  · exact ⟨rfl, fun h => h.elim id id⟩

theorem users_confusableTextCondition {negated : Bool} {t : String}
    (hk : confusableTextCondition? negated t = some k) : k.users = [] := by
  unfold confusableTextCondition? at hk
  dsimp only at hk
  split_ifs at hk
  cases hk
  cases negated <;> rfl

theorem not_readsPairs_propertyCondition {p : Property} {negated : Bool}
    (hk : propertyCondition p negated user = .ok k) : ¬k.ReadsPairs := by
  cases p with
  | favorited =>
    cases user with
    | none => cases hk
    | some v =>
      cases hk
      exact id
  | _ =>
    cases hk
    cases negated <;> simp [Condition.ReadsPairs]

theorem mem_users_propertyCondition {p : Property} {negated : Bool}
    (hk : propertyCondition p negated user = .ok k) (hu : u ∈ k.users) :
    user = some u ∧ p = .favorited := by
  cases p with
  | favorited =>
    cases user with
    | none => cases hk
    | some v =>
      cases hk
      exact ⟨congrArg some (List.mem_singleton.1 hu).symm, rfl⟩
  | _ =>
    cases hk
    cases negated <;> cases hu

end Filter

/-! ### Answers -/

namespace Database
variable {db db' : Database} {catalog : Catalog} {text : String} {f : Filter}
  {user : Option String} {names : Nat → Option String} {q : Query}

/-- What is asked of the rows is all that the answers can differ in. -/
theorem search_congr (h : SameRows db db') (r : Paging)
    (hholds : ∀ f names k, Filter.ofText text = .ok f → f.Asks catalog user names k →
      ∀ c ∈ db.characters.rows, k.holds db' c = some true ↔ k.holds db c = some true) :
    db'.search catalog text user r = db.search catalog text user r := by
  cases hf : Filter.ofText text with
  | error e => rw [search_of_error hf, search_of_error hf]
  | ok f =>
    have hrun : ∀ names : Nat → Option String, (f.plan catalog user names).bind (db'.runPlan r) =
        (f.plan catalog user names).bind (db.runPlan r) := by
      intro names
      cases hplan : f.plan catalog user names with
      | error e => rfl
      | ok P =>
        cases P with
        | nothing => rfl
        | query q =>
          have hmatching : db'.matching q = db.matching q := by
            unfold matching
            rw [h.characters]
            refine List.filter_congr fun c hc => ?_
            rw [Bool.eq_iff_iff, Filter.isMatch_iff hplan, Filter.isMatch_iff hplan]
            exact forall₂_congr fun k hk => hholds f names k hf hk c hc
          simp only [Except.bind, runPlan, pageOf, sorted, hmatching, h.sortRows_eq, h.row_eq,
            h.access_eq]
    rw [search_of_ofText hf, search_of_ofText hf, h.readNames_eq]
    simp only [hrun]

end Database
end CharAtlas
