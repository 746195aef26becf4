import CatalogGraph.Text.Digits
import Mathlib.Algebra.Group.Nat.Defs
import Mathlib.Tactic.SplitIfs

/-!
# Numbers read back from their digits

Numbers that are written in hexadecimal or decimal digits are read back as they were.

* `readHex_hexDigits`: hexadecimal digits of a sufficient width give the number back.
* `lt_pow_hexWidth`: the width that is chosen for a number is wide enough.
* `readDecimal_toDigits`: decimal digits give the number back.
-/

namespace CatalogGraph.Text

/-! ## Letters -/

theorem isAlpha_iff (c : Char) :
    c.isAlpha = true ↔
      ('A'.val ≤ c.val ∧ c.val ≤ 'Z'.val) ∨ ('a'.val ≤ c.val ∧ c.val ≤ 'z'.val) := by
  change (decide ('A'.val ≤ c.val ∧ c.val ≤ 'Z'.val) ||
    (decide ('a'.val ≤ c.val) && decide (c.val ≤ 'z'.val))) = true ↔ _
  simp only [Bool.or_eq_true, Bool.and_eq_true, decide_eq_true_eq]

/-! ## Hexadecimal -/

theorem hexValue?_hexCapital {d : Nat} (h : d < 16) : hexValue? (hexCapital d) = some d := by
  revert d
  decide

theorem hexValue?_hexSmall {d : Nat} (h : d < 16) : hexValue? (hexSmall d) = some d := by
  revert d
  decide

theorem readHex_append_singleton (cs : List Char) (c : Char) :
    readHex (cs ++ [c]) = readHex cs * 16 + (hexValue? c).getD 0 := by
  simp [readHex]

theorem length_hexDigits (digit : Nat → Char) (width n : Nat) :
    (hexDigits digit width n).length = width := by
  induction width generalizing n with
  | zero => rfl
  | succ width ih => simp [hexDigits, ih]

section

variable {digit : Nat → Char} (hdigit : ∀ {d}, d < 16 → hexValue? (digit d) = some d)

include hdigit

theorem readHex_hexDigits {width n : Nat} (h : n < 16 ^ width) :
    readHex (hexDigits digit width n) = n := by
  induction width generalizing n with
  | zero =>
    have hzero : n = 0 := by omega
    simp [hexDigits, readHex, hzero]
  | succ width ih =>
    have hfront : n / 16 < 16 ^ width := by
      rw [Nat.div_lt_iff_lt_mul (by decide), ← Nat.pow_succ]
      exact h
    have hlast : hexValue? (digit (n % 16)) = some (n % 16) := hdigit (Nat.mod_lt n (by decide))
    rw [hexDigits, readHex_append_singleton, ih hfront, hlast]
    exact Nat.div_add_mod' n 16

theorem isHexDigit_of_mem_hexDigits {width n : Nat} {c : Char} (h : c ∈ hexDigits digit width n) :
    isHexDigit c = true := by
  induction width generalizing n with
  | zero => simp [hexDigits] at h
  | succ width ih =>
    rcases List.mem_append.1 h with h | h
    · exact ih h
    · rw [List.mem_singleton.1 h, isHexDigit, hdigit (Nat.mod_lt n (by decide))]
      rfl

end

theorem lt_pow_hexWidth {n : Nat} (h : n < 16 ^ 8) : n < 16 ^ hexWidth n := by
  unfold hexWidth
  split_ifs <;> omega

theorem hexWidth_le_six {n : Nat} (h : n < 16 ^ 6) : hexWidth n ≤ 6 := by
  unfold hexWidth
  split_ifs <;> omega

/-! ## Decimal -/

theorem readDecimal_toDigits (n : Nat) : readDecimal (Nat.toDigits 10 n) = n := by
  have hsame (cs : List Char) : readDecimal cs = Nat.ofDigitChars 10 cs 0 := by
    simp only [readDecimal, digitValue, Nat.ofDigitChars, Nat.mul_comm]
    rfl
  rw [hsame, Nat.ofDigitChars_ten_toDigits]

end CatalogGraph.Text
