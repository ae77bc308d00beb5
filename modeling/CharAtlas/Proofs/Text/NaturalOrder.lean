import CharAtlas.Proofs.Comparison
import CharAtlas.Text.NaturalOrder
import Mathlib.Data.Char

/-! # Natural order is transitive

Runs of digits compare by magnitude first (`compareRuns_eq`), and what is no digit stands on the same
side of all digits (`compare_digit`). So the tokens of a text are in the order of three keys
(`Token.compare_eq_compareKeys`), which makes natural order a total preorder. -/

namespace CharAtlas.Text

variable {a b cs : List Char} {c d e : Char} {t u : Token}

/-! ### Digits -/

theorem lt_iff_toNat_lt : c < d ↔ c.toNat < d.toNat := Iff.rfl

theorem compare_digit (hd : d.isDigit = true) (he : e.isDigit = true) (hc : c.isDigit = false) :
    Ord.compare d c = Ord.compare e c := by
  have hboundsd := Char.isDigit_iff_toNat.1 hd
  have hboundse := Char.isDigit_iff_toNat.1 he
  have hout : c.toNat < '0'.toNat ∨ '9'.toNat < c.toNat := by
    by_contra hin
    rw [Char.isDigit_iff_toNat.2 (by omega)] at hc
    cases hc
  rcases hout with hlow | hhigh
  · have hcd : c < d := lt_iff_toNat_lt.2 (by omega)
    have hce : c < e := lt_iff_toNat_lt.2 (by omega)
    rw [compare_gt_iff_gt.2 hcd, compare_gt_iff_gt.2 hce]
  · have hdc : d < c := lt_iff_toNat_lt.2 (by omega)
    have hec : e < c := lt_iff_toNat_lt.2 (by omega)
    rw [compare_lt_iff_lt.2 hdc, compare_lt_iff_lt.2 hec]

/-- A run of digits, at least one. -/
structure IsRun (ds : List Char) : Prop where
  ne_nil : ds ≠ []
  digits : ∀ d ∈ ds, d.isDigit = true

theorem startsWithZero_iff : startsWithZero a = true ↔ ∃ ds, a = '0' :: ds := by
  unfold startsWithZero
  cases a <;> simp

theorem compareLex_of_zero (ha : startsWithZero a = true) (hb : IsRun b)
    (hzero : startsWithZero b = false) : List.compareLex compare a b = .lt := by
  obtain ⟨ds, rfl⟩ := startsWithZero_iff.1 ha
  cases b with
  | nil => exact absurd rfl hb.ne_nil
  | cons e es =>
    have hne : e ≠ '0' := by
      rintro rfl
      cases hzero
    have hlow := (Char.isDigit_iff_toNat.1 (hb.digits e (List.mem_cons_self ..))).1
    have hlt : '0' < e :=
      lt_iff_toNat_lt.2 (Nat.lt_of_le_of_ne hlow fun h => hne (Char.toNat_inj.1 h.symm))
    rw [List.compareLex_cons_cons, compare_lt_iff_lt.2 hlt]
    rfl

/-- The length of a run counts unless the run starts with a zero. -/
def magnitude (ds : List Char) : Nat :=
  if startsWithZero ds then 0 else ds.length

theorem compareRuns_eq (ha : IsRun a) (hb : IsRun b) : compareRuns a b =
    (Ord.compare (magnitude a) (magnitude b)).then (List.compareLex compare a b) := by
  have hposa : 0 < a.length := List.length_pos_iff.2 ha.ne_nil
  have hposb : 0 < b.length := List.length_pos_iff.2 hb.ne_nil
  unfold compareRuns magnitude
  cases hza : startsWithZero a with
  | true =>
    cases hzb : startsWithZero b with
    | true => simp
    | false =>
      have hlex := compareLex_of_zero hza hb hzb
      have hsize : Ord.compare 0 b.length = .lt := compare_lt_iff_lt.2 hposb
      simp [hlex, hsize]
  | false =>
    cases hzb : startsWithZero b with
    | true =>
      have hlex : List.compareLex compare a b = .gt :=
        Std.OrientedCmp.gt_iff_lt.2 (compareLex_of_zero hzb ha hza)
      have hsize : Ord.compare a.length 0 = .gt := compare_gt_iff_gt.2 hposa
      simp [hlex, hsize]
    | false => rfl

/-! ### Tokens -/

namespace Token

/-- Digits make up numbers, and only these. -/
def IsProper : Token → Prop
  | number ds => IsRun ds
  | char c => c.isDigit = false

/-- One digit stands for all of them. -/
def lead : Token → Char
  | number _ => '0'
  | char c => c

def digits : Token → List Char
  | number ds => ds
  | char _ => []

def compareKeys : Token → Token → Ordering :=
  compareLex (compareOn lead) (compareLex (compareOn fun t => magnitude t.digits) (compareOn digits))

instance : Std.TransCmp compareKeys :=
  inferInstanceAs (Std.TransCmp (compareLex (compareOn lead) _))

/-- A number and another character compare by their leads alone. -/
theorem compareKeys_of_lead_ne (h : t.lead ≠ u.lead) :
    compareKeys t u = Ord.compare t.lead u.lead := by
  have hne : Ord.compare t.lead u.lead ≠ .eq := fun heq => h (compare_eq_iff_eq.1 heq)
  unfold compareKeys compareLex compareOn
  cases hlead : Ord.compare t.lead u.lead with
  | eq => exact absurd hlead hne
  | _ => rfl

theorem compare_head (hd : IsRun a) (hc : c.isDigit = false) :
    Ord.compare (number a).head c = Ord.compare '0' c := by
  cases a with
  | nil => exact absurd rfl hd.ne_nil
  | cons d ds => exact compare_digit (hd.digits d (List.mem_cons_self ..)) (by decide) hc

theorem compare_eq_compareKeys (ht : t.IsProper) (hu : u.IsProper) :
    t.compare u = compareKeys t u := by
  have hzero : ∀ {c : Char}, c.isDigit = false → c ≠ '0' := by
    rintro c hc rfl
    cases hc
  cases t with
  | number ds =>
    cases u with
    | number es => exact compareRuns_eq ht hu
    | char c =>
      have hkeys : compareKeys (number ds) (char c) = Ord.compare '0' c :=
        compareKeys_of_lead_ne (hzero hu).symm
      rw [hkeys]
      exact compare_head ht hu
  | char c =>
    cases u with
    | number es =>
      have hkeys : compareKeys (char c) (number es) = Ord.compare c '0' :=
        compareKeys_of_lead_ne (hzero ht)
      have hhead : Ord.compare c (number es).head = Ord.compare c '0' := by
        rw [Std.OrientedOrd.eq_swap, compare_head hu ht, ← Std.OrientedOrd.eq_swap]
      rw [hkeys]
      exact hhead
    | char d =>
      show Ord.compare c d = (Ord.compare c d).then .eq
      rw [Ordering.then_eq]

end Token

theorem isProper_of_mem_tokens (h : t ∈ tokens cs) : t.IsProper := by
  induction cs generalizing t with
  | nil => exact absurd h List.not_mem_nil
  | cons c cs ih =>
    unfold tokens at h
    split_ifs at h with hblank hdigit
    · exact ih h
    · split at h
      · -- the digit goes on with the run that follows
        rename_i ds ts _ hcs
        rcases List.mem_cons.1 h with rfl | ht
        · have hds : IsRun ds := ih (t := .number ds) (hcs ▸ List.mem_cons_self ..)
          exact ⟨List.cons_ne_nil c ds, List.forall_mem_cons.2 ⟨hdigit, hds.digits⟩⟩
        · exact ih (hcs ▸ List.mem_cons_of_mem _ ht)
      · rcases List.mem_cons.1 h with rfl | ht
        · exact ⟨List.cons_ne_nil c [], List.forall_mem_singleton.2 hdigit⟩
        · exact ih ht
    · rcases List.mem_cons.1 h with rfl | ht
      · exact Bool.eq_false_iff.2 hdigit
      · exact ih ht

theorem naturalCompare_eq (s t : String) : naturalCompare s t =
    List.compareLex Token.compareKeys (tokens s.toList) (tokens t.toList) :=
  compareLex_congr fun _ ha _ hb =>
    Token.compare_eq_compareKeys (isProper_of_mem_tokens ha) (isProper_of_mem_tokens hb)

instance : Std.TransCmp naturalCompare := by
  have hkeys : naturalCompare =
      fun s t => List.compareLex Token.compareKeys (tokens s.toList) (tokens t.toList) := by
    funext s t
    exact naturalCompare_eq s t
  rw [hkeys]
  exact transCmp_comap fun s : String => tokens s.toList

end CharAtlas.Text
