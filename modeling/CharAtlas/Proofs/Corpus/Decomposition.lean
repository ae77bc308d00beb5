import CharAtlas.Corpus.Decomposition
import CharAtlas.Proofs.Text.Like
import CharAtlas.Proofs.Text.Pieces

/-! # Tags of decompositions

`Decomposition.Tagged d t` says that the tag of `d` is `t`. What is cut out of a tagged
decomposition is its tag as far as the first null character (`Decomposition.cutTag_of_tagged`),
whereas the tag that is shown is the whole of it (`Decomposition.tag_eq_iff`). Where the bracket is
never closed no tag is shown, but the bracket itself is cut out (`Decomposition.cutTag_eq_iff`). -/

namespace CharAtlas.Decomposition
variable {d t u : String}

/-- The text begins with a bracket, closed or not. -/
def IsBracketed (d : String) : Prop :=
  ∃ rest, d.toList = '<' :: rest

/-- What stands between the leading bracket and the first closing one. -/
def Tagged (d t : String) : Prop :=
  ∃ rest, d.toList = '<' :: (t.toList ++ '>' :: rest) ∧ '>' ∉ t.toList

/-- The bracket that begins the text is never closed. -/
def IsUnclosed (d : String) : Prop :=
  IsBracketed d ∧ '>' ∉ d.toList

theorem Tagged.isBracketed (h : Tagged d t) : IsBracketed d :=
  let ⟨_, h, _⟩ := h
  ⟨_, h⟩

theorem exists_tagged (h : IsBracketed d) (hclosed : '>' ∈ d.toList) : ∃ t, Tagged d t := by
  obtain ⟨rest, hd⟩ := h
  rw [hd, List.mem_cons] at hclosed
  obtain ⟨before, after, hsplit, hbefore⟩ :=
    List.eq_append_cons_of_mem (hclosed.resolve_left (by decide))
  refine ⟨String.ofList before, after, ?_, ?_⟩
  · rw [hd, hsplit, String.toList_ofList]
  · rwa [String.toList_ofList]

theorem cutAt_of_tagged (h : Tagged d t) :
    ∃ tail rest, Text.tailAfter "<" d = some tail ∧ Text.cutAt '>' tail = some (t, rest) := by
  obtain ⟨rest, hd, ht⟩ := h
  refine ⟨t ++ ">" ++ String.ofList rest, String.ofList rest, ?_, Text.cutAt_append rfl ht _⟩
  rw [Text.tailAfter_eq_some_iff, ← String.toList_inj, hd]
  simp

/-- The tag that is shown. -/
theorem tag_of_tagged (h : Tagged d t) : tag (some d) = t := by
  obtain ⟨tail, rest, htail, hcut⟩ := cutAt_of_tagged h
  simp only [tag, htail, hcut]

/-- No tag is shown but what stands between brackets. -/
theorem tagged_of_tag (h : tag (some d) = t) (hne : t ≠ "") : Tagged d t := by
  unfold tag at h
  cases htail : Text.tailAfter "<" d with
  | none =>
    simp only [htail] at h
    exact absurd h.symm hne
  | some tail =>
    cases hcut : Text.cutAt '>' tail with
    | none =>
      simp only [htail, hcut] at h
      exact absurd h.symm hne
    | some cut =>
      obtain ⟨u, rest⟩ := cut
      simp only [htail, hcut] at h
      subst h
      obtain ⟨hu, htl⟩ := Text.cutAt_eq_some hcut
      rw [Text.tailAfter_eq_some_iff] at htail
      refine ⟨rest.toList, ?_, hu⟩
      rw [htail, String.toList_append, htl]
      rfl

theorem tag_eq_iff {o : Option String} (hne : t ≠ "") :
    tag o = t ↔ ∃ d, o = some d ∧ Tagged d t := by
  constructor
  · intro h
    cases o with
    | none => exact absurd h.symm hne
    | some d => exact ⟨d, rfl, tagged_of_tag h hne⟩
  · rintro ⟨d, rfl, ht⟩
    exact tag_of_tagged ht

theorem Tagged.unique (ht : Tagged d t) (hu : Tagged d u) : t = u := by
  rw [← tag_of_tagged ht, tag_of_tagged hu]

theorem take_visible_append (a b : List Char) :
    (Text.visible (a ++ b)).take a.length = Text.visible a := by
  induction a with
  | nil => rfl
  | cons c a ih =>
    by_cases hc : c = '\x00'
    · subst hc
      rfl
    · rw [List.cons_append, Text.visible_cons hc, Text.visible_cons hc, List.length_cons,
        List.take_succ_cons, ih]

/-- The tag that queries see. -/
theorem cutTag_of_tagged (h : Tagged d t) : cutTag d = String.ofList (Text.visible t.toList) := by
  obtain ⟨rest, hd, ht⟩ := h
  have hfind : d.toList.findIdx? (· == '>') = some (t.toList.length + 1) := by
    rw [hd, List.findIdx?_cons, if_neg (by decide), List.findIdx?_append,
      List.findIdx?_eq_none_iff.2 fun c hc => by
        have hne : c ≠ '>' := fun e => ht (e ▸ hc)
        simpa using hne, List.findIdx?_cons]
    simp
  unfold cutTag cutTagChars
  rw [hfind]
  simp only
  rw [hd, Text.visible_cons (by decide), List.drop_one, List.tail_cons, take_visible_append]

theorem cutTag_of_isUnclosed (h : IsUnclosed d) : cutTag d = "<" := by
  obtain ⟨⟨rest, hd⟩, hopen⟩ := h
  have hfind : d.toList.findIdx? (· == '>') = none := by
    rw [List.findIdx?_eq_none_iff]
    intro c hc
    have hne : c ≠ '>' := fun e => hopen (e ▸ hc)
    simpa using hne
  unfold cutTag cutTagChars
  rw [hfind]
  simp only
  rw [hd, Text.visible_cons (by decide)]
  rfl

/-- What is cut out of a text that begins with a bracket. -/
theorem cutTag_eq_iff (hnull : '\x00' ∉ d.toList) (hb : IsBracketed d) :
    cutTag d = t ↔ Tagged d t ∨ t = "<" ∧ IsUnclosed d := by
  by_cases hclosed : '>' ∈ d.toList
  · obtain ⟨u, hu⟩ := exists_tagged hb hclosed
    have hvisible : '\x00' ∉ u.toList := by
      obtain ⟨rest, hd, -⟩ := hu
      exact fun hmem => hnull (by simp [hd, hmem])
    have hcut : cutTag d = u := by
      rw [cutTag_of_tagged hu, Text.visible_eq_self hvisible, String.ofList_toList]
    rw [hcut]
    constructor
    · rintro rfl
      exact .inl hu
    · rintro (ht | ⟨-, h⟩)
      · exact hu.unique ht
      · exact absurd hclosed h.2
  · rw [cutTag_of_isUnclosed ⟨hb, hclosed⟩, eq_comm]
    constructor
    · exact fun ht => .inr ⟨ht, hb, hclosed⟩
    · rintro (⟨rest, hd, -⟩ | ⟨ht, -⟩)
      · exact absurd (by simp [hd]) hclosed
      · exact ht

/-- The pattern of texts with a tag. -/
theorem like_brackets_iff (hnull : '\x00' ∉ d.toList) :
    Text.like none "<%>%" d = true ↔ ∃ t, Tagged d t := by
  rw [Text.like_brackets, Text.visible_eq_self hnull]
  constructor
  · rintro ⟨rest, hd, hclosed⟩
    exact exists_tagged ⟨rest, hd⟩ (hd ▸ List.mem_cons_of_mem _ hclosed)
  · rintro ⟨t, rest, hd, -⟩
    exact ⟨_, hd, by simp⟩

end CharAtlas.Decomposition
