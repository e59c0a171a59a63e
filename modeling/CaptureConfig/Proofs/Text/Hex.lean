import CaptureConfig.Text.Hex
import Mathlib.Algebra.Group.Nat.Defs

/-!
# Numerals of a fixed width

A number that is filled up to its width in base sixteen is written with all its digits, zeros in front included.
-/

namespace CaptureConfig.Text

/-- The last digits of a number in base sixteen, as many as the width says. -/
def hexDigits : Nat → Nat → List Char
  | 0, _ => []
  | width + 1, n => hexDigits width (n / 16) ++ [hexDigit (n % 16)]

theorem hexDigits_zero (width : Nat) : hexDigits width 0 = List.replicate width '0' := by
  induction width with
  | zero => rfl
  | succ width ih => rw [hexDigits, Nat.zero_div, ih, List.replicate_succ']; rfl

theorem mem_hexDigits {c : Char} {width n : Nat} (h : c ∈ hexDigits width n) : ∃ d < 16, c = hexDigit d := by
  induction width generalizing n with
  | zero => cases h
  | succ width ih =>
      rcases List.mem_append.mp h with h | h
      · exact ih h
      · exact ⟨n % 16, Nat.mod_lt n (by decide), List.mem_singleton.mp h⟩

theorem hexDigits_of_lt {n : Nat} (h : n < 16) (width : Nat) :
    hexDigits (width + 1) n = List.replicate width '0' ++ [hexDigit n] := by
  rw [hexDigits, Nat.div_eq_of_lt h, hexDigits_zero, Nat.mod_eq_of_lt h]

theorem numeralChars_of_lt {n : Nat} (h : n < 16) (fuel : Nat) : numeralChars 16 fuel n = [hexDigit n] := by
  cases fuel with
  | zero => rw [numeralChars, Nat.mod_eq_of_lt h]
  | succ fuel => rw [numeralChars, if_pos h]

/-- Filled up with zeros, a numeral that fits has the digits of its width. -/
theorem replicate_append_numeralChars {width fuel n : Nat} (hfits : n < 16 ^ (width + 1))
    (hfuel : n < 16 ^ (fuel + 1)) :
    List.replicate (width + 1 - (numeralChars 16 fuel n).length) '0' ++ numeralChars 16 fuel n =
      hexDigits (width + 1) n := by
  have hdiv {n k : Nat} (h : n < 16 ^ (k + 1)) : n / 16 < 16 ^ k := by
    rw [Nat.div_lt_iff_lt_mul (by decide), ← Nat.pow_succ]
    exact h
  induction width generalizing n fuel with
  | zero =>
      have hn : n < 16 := by simpa using hfits
      rw [numeralChars_of_lt hn, hexDigits_of_lt hn]
      rfl
  | succ width ih =>
      by_cases hn : n < 16
      · rw [numeralChars_of_lt hn, hexDigits_of_lt hn]
        rfl
      · cases fuel with
        | zero => exact absurd (by simpa using hfuel) hn
        | succ fuel =>
            -- one more digit takes one step of the width and one of the fuel
            have hfront := ih (hdiv hfits) (hdiv hfuel)
            rw [numeralChars, if_neg hn, List.length_append, List.length_singleton, Nat.add_sub_add_right,
              ← List.append_assoc, hfront]
            rfl

theorem toList_hex {width n : Nat} (h : n < 16 ^ (width + 1)) :
    (hex (width + 1) n).toList = hexDigits (width + 1) n := by
  have hfuel : n < 16 ^ (n.log2 + 1) :=
    Nat.lt_of_lt_of_le Nat.lt_log2_self (Nat.pow_le_pow_left (by decide) _)
  have hlength : (numeral 16 n).length = (numeralChars 16 n.log2 n).length := by
    rw [numeral, String.length_ofList]
  rw [hex, padLeft, String.toList_append, String.toList_ofList, hlength, numeral, String.toList_ofList]
  exact replicate_append_numeralChars h hfuel

/-! ## Reading digits -/

theorem hexValue?_hexDigit {d : Nat} (h : d < 16) : hexValue? (hexDigit d) = some d := by
  have hall : ∀ d < 16, hexValue? (hexDigit d) = some d := by decide
  exact hall d h

/-- The four digits of a unit of sixteen bits are read as the unit. -/
theorem hexDigits_four {n : Nat} (h : n < 0x10000) : ∃ a b c d ds, hexDigits 4 n = [a, b, c, d] ∧
    [a, b, c, d].mapM hexValue? = some ds ∧ ofDigits 16 ds = n := by
  refine ⟨_, _, _, _, [n / 16 / 16 / 16 % 16, n / 16 / 16 % 16, n / 16 % 16, n % 16], rfl, ?_, ?_⟩
  · have hvalue (m : Nat) : hexValue? (hexDigit (m % 16)) = some (m % 16) :=
      hexValue?_hexDigit (Nat.mod_lt m (by decide))
    simp [List.mapM_cons, hvalue]
  · simp only [ofDigits, List.foldl_cons, List.foldl_nil]
    omega

end CaptureConfig.Text
