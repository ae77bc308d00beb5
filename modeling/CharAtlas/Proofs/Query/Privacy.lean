import CharAtlas.Proofs.Query.Answer
import CharAtlas.Proofs.Query.Congruence
import CharAtlas.Service.Handler

/-! # Favorites stay private

The favorites that the conditions of a filter read are those of the user who asks, and a clause has
to ask for them (`Filter.Asks.users`). So answers do not depend on the favorites of others, and
without such a clause they depend neither on favorites nor on who asks
(`Database.search_private`). -/

namespace CharAtlas

/-- The tables of the corpus are the same; users and their favorites may differ. -/
structure Database.SameCorpus (db db' : Database) : Prop extends SameRows db db' where
  confusables : db'.confusables = db.confusables

/-- A clause of the text asks for favorites, or for what is no favorite. -/
def Filter.ReadsFavorites (text : String) : Prop :=
  ∃ f negated, Filter.ofText text = .ok f ∧ .property .favorited negated ∈ f

namespace Filter
variable {f : Filter} {catalog : Catalog} {user user' : Option String}
  {names : Nat → Option String} {k : Condition} {u : String}

/-- The favorites that are read are those of the user who asks, and asked for by a clause. -/
theorem Asks.users (hk : f.Asks catalog user names k) (hu : u ∈ k.users) :
    user = some u ∧ ∃ negated, .property .favorited negated ∈ f := by
  cases hk with
  | selection hd hc =>
    rw [(isLocal_selectionCondition _ _).users] at hu
    cases hu
  | confusable ht hk =>
    rw [users_confusableTextCondition hk] at hu
    cases hu
  | search ht =>
    rw [(isLocal_searchCondition _).users] at hu
    cases hu
  | property hp hk =>
    obtain ⟨huser, rfl⟩ := mem_users_propertyCondition hk hu
    exact ⟨huser, _, hp⟩

/-- Without a clause on favorites it does not matter who asks. -/
theorem plan_congr_user (hf : ∀ negated, .property .favorited negated ∉ f) :
    f.plan catalog user names = f.plan catalog user' names := by
  have hconditions : f.propertyConditions user = f.propertyConditions user' := by
    refine mapM_congr fun ⟨p, negated⟩ hp => ?_
    have hne : p ≠ .favorited := by
      rintro rfl
      exact hf negated (mem_propertyClauses_iff.1 hp)
    cases p with
    | favorited => exact absurd rfl hne
    | _ => rfl
  unfold plan
  rw [hconditions]

end Filter

namespace Database
variable {db db' : Database}

theorem search_congr_favorites (h : SameCorpus db db') (catalog : Catalog) (text : String)
    (user : Option String) (r : Paging)
    (hfav : ∀ u, user = some u → Filter.ReadsFavorites text →
      ∀ n, ⟨u, n⟩ ∈ db'.favorites ↔ ⟨u, n⟩ ∈ db.favorites) :
    db'.search catalog text user r = db.search catalog text user r := by
  refine search_congr h.toSameRows r fun f names k hf hk c _ => ?_
  rw [Condition.holds_congr h.toSameRows c (fun _ => h.confusables) fun u hu => ?_]
  obtain ⟨huser, negated, hclause⟩ := hk.users hu
  exact hfav u huser ⟨f, negated, hf, hclause⟩

theorem search_congr_user (catalog : Catalog) {text : String} (htext : ¬Filter.ReadsFavorites text)
    (user user' : Option String) (r : Paging) :
    db.search catalog text user' r = db.search catalog text user r := by
  cases hf : Filter.ofText text with
  | error e => rw [search_of_error hf, search_of_error hf]
  | ok f =>
    have hclause : ∀ negated, .property .favorited negated ∉ f :=
      fun negated hmem => htext ⟨f, negated, hf, hmem⟩
    have hplan := fun names => @Filter.plan_congr_user f catalog user' user names hclause
    rw [search_of_ofText hf, search_of_ofText hf]
    simp only [hplan]

theorem characters_congr {s s' : Service} {v v' : Visit} {user user' : Option User}
    {filters : Option String} (page sort dir : Option String)
    (hv : s.database.visitor v.jar v.now = .ok user)
    (hv' : s'.database.visitor v'.jar v'.now = .ok user')
    (hsearch : ∀ r, s'.database.search s'.catalog (filters.getD "") (user'.map (·.id)) r =
      s.database.search s.catalog (filters.getD "") (user.map (·.id)) r) :
    s'.characters v' filters page sort dir = s.characters v filters page sort dir := by
  unfold Service.characters
  rw [hv, hv']
  dsimp only
  rw [hsearch]

/-- On two databases with the same corpus, a user with the same favorites on both is answered alike
whatever others have there, and so is somebody unknown. Texts without a clause on favorites are
answered alike whoever asks and whatever favorites there are. The service answers so as well,
whatever sessions its visitors come with. -/
theorem search_private (h : SameCorpus db db') (catalog : Catalog) (text : String) :
    (∀ user, (∀ u, user = some u → ∀ n, ⟨u, n⟩ ∈ db'.favorites ↔ ⟨u, n⟩ ∈ db.favorites) →
      ∀ r, db'.search catalog text user r = db.search catalog text user r) ∧
    (¬Filter.ReadsFavorites text →
      ∀ user user' r, db'.search catalog text user' r = db.search catalog text user r) ∧
    ∀ (s s' : Service) v v' (user user' : Option User) filters page sort dir,
      s.database = db → s'.database = db' → s.catalog = catalog → s'.catalog = catalog →
      Option.getD filters "" = text →
      db.visitor v.jar v.now = .ok user → db'.visitor v'.jar v'.now = .ok user' →
      (user'.map (·.id) = user.map (·.id) ∧
          (∀ u, user = some u → ∀ n, ⟨u.id, n⟩ ∈ db'.favorites ↔ ⟨u.id, n⟩ ∈ db.favorites) ∨
        ¬Filter.ReadsFavorites text) →
      s'.characters v' filters page sort dir = s.characters v filters page sort dir := by
  have hsame : ∀ user, (∀ u, user = some u → ∀ n, ⟨u, n⟩ ∈ db'.favorites ↔ ⟨u, n⟩ ∈ db.favorites) →
      ∀ r, db'.search catalog text user r = db.search catalog text user r :=
    fun user hfav r => search_congr_favorites h catalog text user r fun u hu _ => hfav u hu
  have hany : ¬Filter.ReadsFavorites text →
      ∀ user user' r, db'.search catalog text user' r = db.search catalog text user r :=
    fun htext user user' r =>
      (search_congr_favorites h catalog text user' r fun _ _ hreads => absurd hreads htext).trans
        (search_congr_user catalog htext user user' r)
  refine ⟨hsame, hany, ?_⟩
  rintro s s' v v' user user' filters page sort dir rfl rfl rfl hcatalog rfl hv hv' hcase
  refine characters_congr page sort dir hv hv' fun r => ?_
  rw [hcatalog]
  rcases hcase with ⟨hid, hfav⟩ | htext
  · rw [hid]
    refine hsame _ (fun u hu => ?_) r
    obtain ⟨visitor, hvisitor, rfl⟩ := Option.map_eq_some_iff.1 hu
    exact hfav visitor hvisitor
  · exact hany htext _ _ r

def lettersWith (favorites : List Favorite) : Database :=
  { empty.afterAll threeLetters with favorites := favorites }

theorem search_private_threeLetters :
    SameCorpus (lettersWith [⟨"u1", 0x41⟩]) (lettersWith [⟨"u2", 0x391⟩, ⟨"u1", 0x41⟩]) ∧
    (∀ r, (lettersWith [⟨"u2", 0x391⟩, ⟨"u1", 0x41⟩]).search ⟨fun _ => []⟩ "not_favorited"
        (some "u1") r =
      (lettersWith [⟨"u1", 0x41⟩]).search ⟨fun _ => []⟩ "not_favorited" (some "u1") r) ∧
    ∀ r, (lettersWith [⟨"u2", 0x391⟩, ⟨"u1", 0x41⟩]).search ⟨fun _ => []⟩ "hasName" none r =
      (lettersWith [⟨"u1", 0x41⟩]).search ⟨fun _ => []⟩ "hasName" (some "u1") r := by
  have hcorpus : SameCorpus (lettersWith [⟨"u1", 0x41⟩])
      (lettersWith [⟨"u2", 0x391⟩, ⟨"u1", 0x41⟩]) := ⟨⟨rfl, rfl, rfl⟩, rfl⟩
  have hname : ¬Filter.ReadsFavorites "hasName" := by
    rintro ⟨f, negated, hf, hmem⟩
    have hread : Filter.ofText "hasName" = .ok [.property (.present .name) false] := by
      decide +kernel
    rw [hread] at hf
    cases hf
    simp at hmem
  refine ⟨hcorpus, (search_private hcorpus _ "not_favorited").1 _ ?_,
    (search_private hcorpus _ "hasName").2.1 hname _ _⟩
  rintro u hu n
  cases hu
  simp [lettersWith]

end Database
end CharAtlas
