import CharAtlas.Codepoint
import CharAtlas.Proofs.Numeral

/-! # Codes of code points

A code consists of `U+` and hexadecimal digits (`Codepoint.toList_code`), so that no null character,
comma or blank is in it. -/

namespace CharAtlas.Codepoint

theorem toList_code (n : Nat) : (code n).toList = 'U' :: '+' :: Numeral.paddedDigits 16 4 n := by
  have hmark : "U+".toList = ['U', '+'] := by decide
  unfold code
  rw [String.toList_append, hmark, String.toList_ofList]
  rfl

theorem mem_code {n : Nat} {c : Char} (h : c ∈ (code n).toList) :
    c ∈ "U+0123456789ABCDEF".toList := by
  have hdigit : ∀ d < 16, Numeral.digitChar d ∈ "U+0123456789ABCDEF".toList := by decide
  rw [toList_code, List.mem_cons, List.mem_cons] at h
  rcases h with rfl | rfl | h
  · decide
  · decide
  · obtain ⟨d, hd, rfl⟩ := Numeral.mem_paddedDigits (by decide) h
    exact hdigit d hd

theorem null_not_mem_code (n : Nat) : '\x00' ∉ (code n).toList :=
  fun h => absurd (mem_code h) (by decide)

theorem comma_not_mem_code (n : Nat) : ',' ∉ (code n).toList :=
  fun h => absurd (mem_code h) (by decide)

theorem isBlank_of_mem_code {n : Nat} {c : Char} (h : c ∈ (code n).toList) :
    Text.isBlank c = false := by
  have hall : "U+0123456789ABCDEF".toList.all (!Text.isBlank ·) = true := by decide
  simpa using List.all_eq_true.1 hall c (mem_code h)

/-- A numeral within the range is read, and nothing else. -/
theorem ofText_eq_ok_iff {raw : String} {n : Nat} : ofText raw = .ok n ↔
    Numeral.integer? (Text.trim raw) = some (n : Int) ∧ n ≤ Codepoint.max := by
  unfold ofText
  cases Numeral.integer? (Text.trim raw) with
  | none => simp
  | some m =>
    dsimp only
    rw [Option.some.injEq]
    split_ifs with hm
    · rw [Except.ok.injEq]
      omega
    · simp only [false_iff]
      omega

end CharAtlas.Codepoint
