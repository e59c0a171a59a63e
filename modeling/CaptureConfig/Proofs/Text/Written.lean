import CaptureConfig.Proofs.Text.Integer
import Mathlib.Data.Nat.Digits.Lemmas

/-!
# Integers as they are written

An integer is written in ASCII digits, without leading zeros and with a sign only if it is negative. That is
one of the numerals that are read, so it is read as the integer again. Reading and writing have the same bound
on the number of digits.
-/

namespace CaptureConfig.Text

/-! ## Digits -/

theorem digitValue?_ofNat {d : Nat} (h : d < 10) : digitValue? (Char.ofNat (48 + d)) = some d := by
  have hall : ∀ d < 10, digitValue? (Char.ofNat (48 + d)) = some d := by decide
  exact hall d h

theorem DigitRun.append_singleton {cs : List Char} {ds : List Nat} (h : DigitRun cs ds) {c : Char}
    {d : Nat} (hd : digitValue? c = some d) : DigitRun (cs ++ [c]) (ds ++ [d]) := by
  induction h with
  | single hd' => exact .next hd' (.single hd)
  | next hd' _ ih => exact .next hd' ih
  | underscore hd' _ ih => exact .underscore hd' ih

/-- The digits of a number: those of base ten, or a single zero. -/
theorem digitRun_decimalChars (n : Nat) : ∃ ds, DigitRun (decimalChars n) ds ∧
    Nat.ofDigits 10 ds.reverse = n ∧ ds.length = max 1 (Nat.digits 10 n).length := by
  induction n using decimalChars.induct with
  | case1 n hn =>
      have hchars : decimalChars n = [Char.ofNat (48 + n)] := by rw [decimalChars, if_pos hn]
      have hlen : (Nat.digits 10 n).length ≤ 1 := (Nat.digits_length_le_iff (by decide) n).mpr (by omega)
      rw [hchars]
      exact ⟨[n], .single (digitValue?_ofNat hn), by simp, by simp; omega⟩
  | case2 n hn ih =>
      obtain ⟨ds, hrun, hvalue, hlen⟩ := ih
      have hchars : decimalChars n = decimalChars (n / 10) ++ [Char.ofNat (48 + n % 10)] := by
        rw [decimalChars, if_neg hn]
      have hdigits : Nat.digits 10 n = n % 10 :: Nat.digits 10 (n / 10) :=
        Nat.digits_def' (by decide) (by omega)
      have hrest : 1 ≤ (Nat.digits 10 (n / 10)).length := by
        rw [Nat.one_le_iff_ne_zero, ne_eq, List.length_eq_zero_iff, Nat.digits_eq_nil_iff_eq_zero]
        omega
      rw [hchars]
      refine ⟨ds ++ [n % 10], hrun.append_singleton (digitValue?_ofNat (Nat.mod_lt n (by decide))), ?_, ?_⟩
      · rw [List.reverse_append, List.reverse_singleton, List.singleton_append, Nat.ofDigits_cons, hvalue]
        exact Nat.mod_add_div n 10
      · rw [List.length_append, List.length_singleton, hlen, hdigits, List.length_cons]
        omega

/-- The digits are those of base ten. -/
theorem decimalChars_eq_toDigits (n : Nat) : decimalChars n = Nat.toDigits 10 n := by
  have hall : ∀ d < 10, Char.ofNat (48 + d) = Nat.digitChar d := by decide
  induction n using decimalChars.induct with
  | case1 n hn => rw [decimalChars, if_pos hn, Nat.toDigits_of_lt_base hn, hall n hn]
  | case2 n hn ih =>
      have hdigits := Nat.toDigits_of_base_le (b := 10) (n := n) (by decide) (by omega)
      rw [decimalChars, if_neg hn, ih, hall _ (Nat.mod_lt n (by decide)), hdigits]

theorem showNat_eq_toString (n : Nat) : showNat n = toString n := by
  rw [showNat, decimalChars_eq_toDigits, Nat.toString_eq_repr, Nat.repr_eq_ofList_toDigits]

theorem showInteger_eq_toString (i : Int) : showInteger i = toString i := by
  cases i with
  | ofNat n => exact showNat_eq_toString n
  | negSucc n =>
      rw [showInteger, String.ofList_cons]
      exact congrArg ("-" ++ ·) (showNat_eq_toString (n + 1))

theorem decimalChars_ne_nil (n : Nat) : decimalChars n ≠ [] := by
  rw [decimalChars_eq_toDigits]
  exact Nat.toDigits_ne_nil

theorem isDigit_of_mem_decimalChars {n : Nat} {c : Char} (h : c ∈ decimalChars n) : c.isDigit = true := by
  rw [decimalChars_eq_toDigits] at h
  exact Nat.isDigit_of_mem_toDigits (by decide) (by decide) h

/-- Only the number zero is written with a zero in front. -/
theorem head?_decimalChars {n : Nat} (h : n ≠ 0) : (decimalChars n).head? ≠ some '0' := by
  have hall : ∀ d < 10, d ≠ 0 → Char.ofNat (48 + d) ≠ '0' := by decide
  induction n using decimalChars.induct with
  | case1 n hn =>
      rw [decimalChars, if_pos hn]
      exact fun hhead => hall n hn h (Option.some.inj hhead)
  | case2 n hn ih =>
      rw [decimalChars, if_neg hn, List.head?_append_of_ne_nil _ (decimalChars_ne_nil _)]
      exact ih (by omega)

/-! ## Numerals -/

/-- The integer has a text: it does not have too many digits. -/
def Writable (i : Int) : Prop := (Nat.digits 10 i.natAbs).length ≤ maxDigits

theorem unsigned_decimalChars {n : Nat} (h : (Nat.digits 10 n).length ≤ maxDigits) :
    Unsigned (decimalChars n) n := by
  obtain ⟨ds, hrun, hvalue, hlen⟩ := digitRun_decimalChars n
  have hmax : 1 ≤ maxDigits := by decide
  exact ⟨ds, hrun, by omega, hvalue⟩

theorem numeral_showInteger {i : Int} (h : Writable i) : Numeral (showInteger i).toList i := by
  cases i with
  | ofNat n =>
      rw [showInteger, String.toList_ofList]
      exact .unsigned (unsigned_decimalChars h)
  | negSucc n =>
      rw [showInteger, String.toList_ofList]
      exact .minus (unsigned_decimalChars h)

theorem writeInteger?_eq_some {i : Int} {s : String} :
    writeInteger? i = some s ↔ Writable i ∧ showInteger i = s := by
  have hbound (k : Nat) : (Nat.digits 10 i.natAbs).length ≤ k ↔ i.natAbs < Nat.pow 10 k :=
    Nat.digits_length_le_iff (by decide) _
  rw [writeInteger?]
  split
  · rename_i h
    exact ⟨fun heq => ⟨(hbound maxDigits).mpr h, Option.some.inj heq⟩, fun hw => congrArg some hw.2⟩
  · rename_i h
    exact ⟨nofun, fun hw => absurd ((hbound maxDigits).mp hw.1) h⟩

/-- What is written is read as the same integer. -/
theorem readInteger_of_write {i : Int} {s : String} (h : writeInteger? i = some s) :
    readInteger s = .ok i := by
  obtain ⟨hdigits, rfl⟩ := writeInteger?_eq_some.mp h
  have hnumeral := numeral_showInteger hdigits
  rw [readInteger_eq_ok_iff_numeral, hnumeral.trimChars_eq]
  exact hnumeral

end CaptureConfig.Text
