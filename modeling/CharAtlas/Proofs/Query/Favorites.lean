import CharAtlas.Proofs.Query.Partition
import CharAtlas.Proofs.Store.Favorites

/-! # Favorites in filters

A filter on favorites reads the same table as a list of favorites does
(`Database.exists_answers_favorited`). With it, whatever users call and whatever characters are
written in between, all readers agree on the set of each user (`Database.favorites_afterCalls`). -/

namespace CharAtlas

namespace Filter
variable {db : Database} {catalog : Catalog} {user : String}

theorem decides_favorited : Decides (.property .favorited) db catalog (some user) fun c =>
    ⟨user, c.codepoint⟩ ∈ db.favorites where
  unselective _ _ := rfl
  unnamed _ := rfl
  allowed huser := absurd huser (Option.some_ne_none user)
  decides c _ negated := by
    have hk : propertyCondition .favorited negated (some user) = .ok (.favorite negated user) := rfl
    simp only [asks_property_iff, hk, Except.ok.injEq, forall_eq']
    exact Condition.favorite_holds_iff

end Filter

namespace Database
variable {db db' : Database} {ws : List Write}

/-- Stored characters are found if they are favorites, or with `not_` in front if they are not. -/
theorem exists_answers_favorited (hopen : db.isOpen = true) (catalog : Catalog) (user : String)
    (negated : Bool) : ∃ rows,
      db.Answers catalog (Clause.propertyText .favorited negated) (some user) rows ∧
        ∀ c, c ∈ rows ↔ c ∈ db.characters.rows ∧
          (⟨user, c.codepoint⟩ ∈ db.favorites ↔ negated = false) := by
  have hdecides := @Filter.decides_favorited db catalog user
  have hans := @Filter.Decides.isAnswered_singleton _ _ _ _ _ negated hdecides hopen
  have hread : Filter.ofText (Clause.propertyText .favorited negated) =
      .ok [.property .favorited negated] :=
    @Filter.ofText_clauseText (.property .favorited negated) trivial
  refine ⟨_, answers_matched hread hans (takes_property hread .codepoint), fun c => ?_⟩
  rw [mem_matched_iff hans, hdecides.matches_singleton]

/-- Users who are known have a set of favorites each. Calls do to the sets what they say, and what
they reply is true of them; a reply that tells of no change comes with none. Users do not get in each
other's way. The list of a user has one entry for each row, and filters find the stored characters
that are on it or are not. -/
theorem favorites_afterCalls (hws : .close ∉ ws) (hdb : empty.afterAll ws = db)
    (ks : List FavoriteCall) (hks : db.afterCalls ks = db') :
    FavoriteSets.Run (db.userExists · = true) db.favoriteSets (db.transcript ks)
      db'.favoriteSets ∧
    (∀ k, (db'.call k).1 = .changed false ∨ (∃ l, (db'.call k).1 = .listed l) ∨
      (∃ e, (db'.call k).1 = .refused e) → (db'.call k).2 = db') ∧
    (∀ j k user other, j.user? = some user → k.user? = some other → user ≠ other →
      ((db'.call j).2.call k).1 = (db'.call k).1 ∧ ((db'.call k).2.call j).1 = (db'.call j).1 ∧
        SameButOrder ((db'.call j).2.call k).2 ((db'.call k).2.call j).2) ∧
    ∀ user, (db.transcript ks).filter (·.1.user? = some user) =
        db.transcript (ks.filter (·.user? = some user)) ∧
      ∃ s, db'.favoritesOf user = .ok s ∧ s.toList.Perm (db'.favoriteCodepoints user) ∧
        ∀ catalog, ∃ yes no, db'.Answers catalog "favorited" (some user) yes ∧
          db'.Answers catalog "not_favorited" (some user) no ∧
          ∀ c, (c ∈ yes ↔ c ∈ db'.characters.rows ∧ c.codepoint ∈ s) ∧
            (c ∈ no ↔ c ∈ db'.characters.rows ∧ c.codepoint ∉ s) := by
  subst hdb
  subst hks
  have hkeyed : (empty.afterAll ws).Keyed := Keyed.empty.afterAll ws
  have hopen : (empty.afterAll ws).isOpen = true := isOpen_afterAll hws
  have hkeyed' := hkeyed.afterCalls ks
  have hopen' := (isOpen_afterCalls (empty.afterAll ws) ks).trans hopen
  refine ⟨run_transcript hkeyed hopen ks, fun k => call_snd_eq_self hopen',
    fun j k user other hj hk hne => call_comm hkeyed' hj hk hne,
    fun user => ⟨transcript_filter _ user ks, ?_⟩⟩
  obtain ⟨s, hs, hmem, hperm⟩ := hkeyed'.exists_favoritesOf hopen' user
  refine ⟨s, hs, hperm, fun catalog => ?_⟩
  obtain ⟨yes, hyes, hyesmem⟩ := exists_answers_favorited hopen' catalog user false
  obtain ⟨no, hno, hnomem⟩ := exists_answers_favorited hopen' catalog user true
  refine ⟨yes, no, hyes, hno, fun c => ⟨?_, ?_⟩⟩
  · rw [hyesmem, hmem, iff_true_right rfl]
  · rw [hnomem, hmem, iff_false_right (show ¬true = false by decide)]

def twoUsers : List Write :=
  [.user { id := "u1", googleId := "g1", createdAt := "" },
    .user { id := "u2", googleId := "g2", createdAt := "" },
    .character { codepoint := 0x41 }, .character { codepoint := 0x42 }]

/-- One call is by a user who is not known. -/
def mixedCalls : List FavoriteCall :=
  [.add "u1" 0x42, .add "u2" 0x41, .add "u1" 0x41, .add "u3" 0x41, .add "u1" 0x42,
    .remove "u1" 0x41]

theorem favorites_afterCalls_twoUsers :
    .close ∉ twoUsers ∧
    ((empty.afterAll twoUsers).transcript mixedCalls).filter (·.1.user? = some "u2") =
      (empty.afterAll twoUsers).transcript [.add "u2" 0x41] ∧
    ∃ yes no,
      ((empty.afterAll twoUsers).afterCalls mixedCalls).Answers ⟨fun _ => []⟩ "favorited"
        (some "u1") yes ∧
      ((empty.afterAll twoUsers).afterCalls mixedCalls).Answers ⟨fun _ => []⟩ "not_favorited"
        (some "u1") no ∧
      (∃ c ∈ yes, c.codepoint = 0x42) ∧ ∃ c ∈ no, c.codepoint = 0x41 := by
  have hws : .close ∉ twoUsers := by simp [twoUsers]
  obtain ⟨-, -, -, huser⟩ := favorites_afterCalls hws rfl mixedCalls rfl
  obtain ⟨s, hs, -, hfilters⟩ := (huser "u1").2
  obtain ⟨yes, no, hyes, hno, hmem⟩ := hfilters ⟨fun _ => []⟩
  have hlist : s.toList = [0x42] := by
    have hread : (((empty.afterAll twoUsers).afterCalls mixedCalls).favoritesOf "u1").toOption.map
        (·.toList) = some [0x42] := by decide +kernel
    rw [hs] at hread
    exact Option.some.inj hread
  have hrows : ∃ c ∈ ((empty.afterAll twoUsers).afterCalls mixedCalls).characters.rows,
      ∃ d ∈ ((empty.afterAll twoUsers).afterCalls mixedCalls).characters.rows,
        c.codepoint = 0x42 ∧ d.codepoint = 0x41 := by decide +kernel
  obtain ⟨c, hc, d, hd, hcn, hdn⟩ := hrows
  refine ⟨hws, (huser "u2").1, yes, no, hyes, hno, ⟨c, (hmem c).1.2 ⟨hc, ?_⟩, hcn⟩,
    d, (hmem d).2.2 ⟨hd, ?_⟩, hdn⟩
  · rw [← OrderedSet.mem_toList, hlist, hcn]
    decide
  · rw [← OrderedSet.mem_toList, hlist, hdn]
    decide

end Database
end CharAtlas
