import CaptureConfig.Proofs.Json.Reader
import CaptureConfig.Proofs.Text.Written

/-!
# Integers in JSON texts

An integer is written as a word of digits with a sign in front if it is negative, and without a needless zero.
Such a word is the name of no value, so it is read as a number, and as an integer because it has neither a
fraction nor an exponent.
-/

namespace CaptureConfig.Json

theorem areDigits_decimalChars (n : Nat) : areDigits (Text.decimalChars n) = true := by
  have hall : (Text.decimalChars n).all Char.isDigit = true :=
    List.all_eq_true.mpr fun c hc => Text.isDigit_of_mem_decimalChars hc
  simp [areDigits, hall, Text.decimalChars_ne_nil]

theorem areWhole_decimalChars (n : Nat) : areWhole (Text.decimalChars n) = true := by
  rw [areWhole, areDigits_decimalChars, Bool.true_and]
  by_cases hn : n = 0
  · subst hn
    decide +kernel
  · simp [Text.head?_decimalChars hn]

theorem isDigit_ne {c x : Char} (hc : c.isDigit = true) (hx : x.isDigit = false) : c ≠ x := by
  rintro rfl
  rw [hc] at hx
  cases hx

/-- Digits have neither a fraction nor an exponent behind them. -/
theorem span_decimalChars (n : Nat) {x : Char → Bool} (hx : ∀ c, c.isDigit = true → x c = true) :
    (Text.decimalChars n).span x = (Text.decimalChars n, []) := by
  have hall : ∀ c ∈ Text.decimalChars n, x c = true := fun c hc => hx c (Text.isDigit_of_mem_decimalChars hc)
  rw [List.span_eq_takeWhile_dropWhile, List.takeWhile_eq_self_iff.mpr hall,
    List.dropWhile_eq_nil_iff.mpr hall]

/-- A number that is written as digits behind its sign is read as a whole. -/
theorem number?_of_digits {cs : List Char} {n : Nat}
    (h : (if cs.head? = some '-' then cs.tail else cs) = Text.decimalChars n) :
    number? cs = (Text.readInteger (String.ofList cs)).toOption.map .int := by
  have hexponent : ∀ c : Char, c.isDigit = true → (c != 'e' && c != 'E') = true := by
    intro c hc
    simp [isDigit_ne hc (x := 'e') (by decide), isDigit_ne hc (x := 'E') (by decide)]
  have hpoint : ∀ c : Char, c.isDigit = true → (c != '.') = true := by
    intro c hc
    simp [isDigit_ne hc (x := '.') (by decide)]
  unfold number?
  rw [h]
  dsimp only
  rw [span_decimalChars n hexponent]
  dsimp only
  rw [span_decimalChars n hpoint]
  dsimp only
  rw [areWhole_decimalChars]
  rfl

theorem mem_showInteger {i : Int} {c : Char} (h : c ∈ (Text.showInteger i).toList) :
    c = '-' ∨ c.isDigit = true := by
  cases i with
  | ofNat n =>
      rw [Text.showInteger, String.toList_ofList] at h
      exact Or.inr (Text.isDigit_of_mem_decimalChars h)
  | negSucc n =>
      rw [Text.showInteger, String.toList_ofList] at h
      exact (List.mem_cons.mp h).imp_right Text.isDigit_of_mem_decimalChars

theorem number?_showInteger {i : Int} (h : Text.Writable i) :
    number? (Text.showInteger i).toList = some (.int i) := by
  have hread : Text.readInteger (Text.showInteger i) = .ok i :=
    Text.readInteger_of_write (Text.writeInteger?_eq_some.mpr ⟨h, rfl⟩)
  have hunsigned : ∃ n, (if (Text.showInteger i).toList.head? = some '-'
      then (Text.showInteger i).toList.tail else (Text.showInteger i).toList) = Text.decimalChars n := by
    cases i with
    | ofNat n =>
        have hminus : (Text.decimalChars n).head? ≠ some '-' := fun hhead =>
          isDigit_ne (Text.isDigit_of_mem_decimalChars (List.mem_of_head? hhead)) (by decide) rfl
        rw [Text.showInteger, String.toList_ofList, if_neg hminus]
        exact ⟨n, rfl⟩
    | negSucc n =>
        rw [Text.showInteger, String.toList_ofList, List.head?_cons, if_pos rfl]
        exact ⟨n + 1, rfl⟩
  obtain ⟨n, hn⟩ := hunsigned
  rw [number?_of_digits hn, String.ofList_toList, hread]
  rfl

/-- No value is named by digits. -/
theorem lookup_constants_showInteger (i : Int) : constants.lookup (Text.showInteger i) = none := by
  have hletter : ∀ p ∈ constants, ∃ c ∈ p.1.toList, c ≠ '-' ∧ c.isDigit = false := by
    simp [constants]
  refine List.lookup_eq_none_iff.mpr fun p hp => bne_iff_ne.mpr ?_
  rintro heq
  obtain ⟨c, hc, hminus, hdigit⟩ := hletter p hp
  rw [← heq] at hc
  rcases mem_showInteger hc with h | h
  · exact hminus h
  · rw [hdigit] at h
    cases h

/-- An integer is read back from the word that it is written as. -/
theorem wordValue?_showInteger {i : Int} (h : Text.Writable i) :
    wordValue? (Text.showInteger i).toList = some (.int i) := by
  rw [wordValue?, String.ofList_toList, lookup_constants_showInteger]
  exact number?_showInteger h

end CaptureConfig.Json
