import CaptureConfig.Proofs.Text.Blank
import CaptureConfig.Text.Integer
import Mathlib.Data.Nat.Digits.Defs

/-!
# The numerals that are read

The texts that are read as integers are described by a grammar: white space, a sign or none, and decimal
digits of any script with single underscores between them. Such a text denotes what its digits say in base
ten.
-/

namespace CaptureConfig.Text

/-- Decimal digits with single underscores between them, and the values of the digits. -/
inductive DigitRun : List Char → List Nat → Prop
  | single {c : Char} {d : Nat} (hd : digitValue? c = some d) : DigitRun [c] [d]
  | next {c : Char} {d : Nat} {cs : List Char} {ds : List Nat} (hd : digitValue? c = some d)
      (hs : DigitRun cs ds) : DigitRun (c :: cs) (d :: ds)
  | underscore {c : Char} {d : Nat} {cs : List Char} {ds : List Nat} (hd : digitValue? c = some d)
      (hs : DigitRun cs ds) : DigitRun (c :: '_' :: cs) (d :: ds)

/-- The characters are a numeral without a sign that does not have too many digits. -/
def Unsigned (cs : List Char) (n : Nat) : Prop :=
  ∃ ds, DigitRun cs ds ∧ ds.length ≤ maxDigits ∧ Nat.ofDigits 10 ds.reverse = n

/-- The characters are a numeral. -/
inductive Numeral : List Char → Int → Prop
  | unsigned {cs : List Char} {n : Nat} (h : Unsigned cs n) : Numeral cs n
  | plus {cs : List Char} {n : Nat} (h : Unsigned cs n) : Numeral ('+' :: cs) n
  | minus {cs : List Char} {n : Nat} (h : Unsigned cs n) : Numeral ('-' :: cs) (-n)

/-- The text is a numeral in white space. -/
def Denotes (v : String) (i : Int) : Prop := ∃ core, Padded core v.toList ∧ Numeral core i

/-! ## Digits -/

theorem exists_zero_of_digitValue? {c : Char} {d : Nat} (h : digitValue? c = some d) :
    ∃ z ∈ zeros, d < 10 ∧ c.toNat = z + d := by
  obtain ⟨z, hz, rfl⟩ := Option.map_eq_some_iff.mp h
  have hrow : z ≤ c.toNat ∧ c.toNat < z + 10 := by simpa using List.find?_some hz
  exact ⟨z, List.mem_of_find?_eq_some hz, by omega, by omega⟩

theorem isBlank_of_digitValue? {c : Char} {d : Nat} (h : digitValue? c = some d) :
    isBlank c = false := by
  have hrows : ∀ z ∈ zeros, ∀ d < 10, isBlank (Char.ofNat (z + d)) = false := by decide +kernel
  obtain ⟨z, hz, hd, hc⟩ := exists_zero_of_digitValue? h
  rw [← Char.ofNat_toNat c, hc]
  exact hrows z hz d hd

theorem ne_of_digitValue? {c x : Char} {d : Nat} (h : digitValue? c = some d)
    (hx : digitValue? x = none) : c ≠ x := by
  rintro rfl
  rw [h] at hx
  cases hx

theorem DigitRun.exists_head {cs : List Char} {ds : List Nat} (h : DigitRun cs ds) :
    ∃ c rest d, cs = c :: rest ∧ digitValue? c = some d := by
  cases h with
  | single hd => exact ⟨_, _, _, rfl, hd⟩
  | next hd _ => exact ⟨_, _, _, rfl, hd⟩
  | underscore hd _ => exact ⟨_, _, _, rfl, hd⟩

theorem DigitRun.exists_getLast {cs : List Char} {ds : List Nat} (h : DigitRun cs ds) :
    ∃ c d, cs.getLast? = some c ∧ digitValue? c = some d := by
  induction h with
  | single hd => exact ⟨_, _, rfl, hd⟩
  | next hd hs ih =>
      obtain ⟨c, d, hlast, hc⟩ := ih
      exact ⟨c, d, by rw [List.getLast?_cons, hlast]; rfl, hc⟩
  | underscore hd hs ih =>
      obtain ⟨c, d, hlast, hc⟩ := ih
      exact ⟨c, d, by rw [List.getLast?_cons, List.getLast?_cons, hlast]; rfl, hc⟩

theorem digitsOf?_of_next {c : Char} {d : Nat} {cs : List Char} {ds : List Nat}
    (hd : digitValue? c = some d) (hs : DigitRun cs ds) (h : digitsOf? cs = some ds) :
    digitsOf? (c :: cs) = some (d :: ds) := by
  obtain ⟨x, rest, e, rfl, hx⟩ := hs.exists_head
  -- a digit follows, so this is not the case of an underscore
  have hother : ∀ cs', x :: rest = '_' :: cs' → False := fun cs' heq =>
    ne_of_digitValue? hx (by decide) (List.cons.inj heq).1
  rw [digitsOf?, hd, h]
  · rfl
  · simp
  · exact hother

/-- The digits that are read are those of the grammar. -/
theorem digitsOf?_eq_some {cs : List Char} {ds : List Nat} :
    digitsOf? cs = some ds ↔ DigitRun cs ds := by
  constructor
  · intro h
    induction cs using digitsOf?.induct generalizing ds with
    | case1 => cases h
    | case2 c =>
        obtain ⟨d, hd, rfl⟩ := Option.map_eq_some_iff.mp h
        exact .single hd
    | case3 c cs ih =>
        obtain ⟨d, hd, h⟩ := Option.bind_eq_some_iff.mp h
        obtain ⟨ds, hds, h⟩ := Option.bind_eq_some_iff.mp h
        obtain rfl := Option.some.inj h
        exact .underscore hd (ih hds)
    | case4 c cs hne hother ih =>
        rw [digitsOf?] at h
        · obtain ⟨d, hd, h⟩ := Option.bind_eq_some_iff.mp h
          obtain ⟨ds, hds, h⟩ := Option.bind_eq_some_iff.mp h
          obtain rfl := Option.some.inj h
          exact .next hd (ih hds)
        · exact hne
        · exact hother
  · intro h
    induction h with
    | single hd => rw [digitsOf?, hd]; rfl
    | next hd hs ih => exact digitsOf?_of_next hd hs ih
    | underscore hd hs ih => rw [digitsOf?, hd, ih]; rfl

/-- The digits stand for their number in base ten. -/
theorem ofDecimal_eq_ofDigits (ds : List Nat) : ofDecimal ds = Nat.ofDigits 10 ds.reverse := by
  induction ds using List.reverseRecOn with
  | nil => rfl
  | append_singleton ds d ih =>
      rw [List.reverse_append, List.reverse_singleton, List.singleton_append, Nat.ofDigits_cons, ← ih,
        ofDecimal, ofDecimal, List.foldl_append]
      simp [Nat.add_comm]

theorem unsigned_iff {cs : List Char} {n : Nat} :
    Unsigned cs n ↔ ∃ ds, digitsOf? cs = some ds ∧ ds.length ≤ maxDigits ∧ ofDecimal ds = n := by
  simp only [Unsigned, digitsOf?_eq_some, ofDecimal_eq_ofDigits]

/-! ## Numerals -/

theorem Unsigned.exists_head {cs : List Char} {n : Nat} (h : Unsigned cs n) :
    ∃ c rest d, cs = c :: rest ∧ digitValue? c = some d := by
  obtain ⟨ds, hds, -⟩ := h
  exact hds.exists_head

theorem Unsigned.exists_getLast {cs : List Char} {n : Nat} (h : Unsigned cs n) :
    ∃ c d, cs.getLast? = some c ∧ digitValue? c = some d := by
  obtain ⟨ds, hds, -⟩ := h
  exact hds.exists_getLast

/-- A numeral starts and ends with no white space. -/
theorem Numeral.trimChars_eq {cs : List Char} {i : Int} (h : Numeral cs i) : trimChars cs = cs := by
  have hlast {cs : List Char} {n : Nat} (h : Unsigned cs n) (x : Char) :
      (∀ c ∈ cs.getLast?, isBlank c = false) ∧ ∀ c ∈ (x :: cs).getLast?, isBlank c = false := by
    obtain ⟨c, d, hc, hd⟩ := h.exists_getLast
    rw [List.getLast?_cons, hc]
    have hblank := isBlank_of_digitValue? hd
    exact ⟨by simpa using hblank, by simpa using hblank⟩
  cases h with
  | unsigned h =>
      obtain ⟨c, rest, d, rfl, hd⟩ := h.exists_head
      exact trimChars_eq_self (by simpa using isBlank_of_digitValue? hd) (hlast h ' ').1
  | plus h => exact trimChars_eq_self (by simp; decide) (hlast h '+').2
  | minus h => exact trimChars_eq_self (by simp; decide) (hlast h '-').2

/-- A sign, if there is one, is taken off a numeral before its digits. -/
theorem numeral_iff_takeSign {cs : List Char} {i : Int} : Numeral cs i ↔
    ∃ n : Nat, Unsigned (takeSign cs).2 n ∧ (if (takeSign cs).1 then -(n : Int) else n) = i := by
  constructor
  · intro h
    cases h with
    | unsigned h =>
        obtain ⟨c, rest, d, rfl, hd⟩ := h.exists_head
        have hminus : c ≠ '-' := ne_of_digitValue? hd (by decide)
        have hplus : c ≠ '+' := ne_of_digitValue? hd (by decide)
        have hsign : takeSign (c :: rest) = (false, c :: rest) := by simp [takeSign, hminus, hplus]
        rw [hsign]
        exact ⟨_, h, rfl⟩
    | plus h => exact ⟨_, h, rfl⟩
    | minus h => exact ⟨_, h, rfl⟩
  · rintro ⟨n, h, rfl⟩
    unfold takeSign at h ⊢
    split at h
    · exact .minus h
    · exact .plus h
    · exact .unsigned h

/-- A text is read as what it denotes once it is trimmed. -/
theorem readInteger_eq_ok_iff_numeral {v : String} {i : Int} :
    readInteger v = .ok i ↔ Numeral (trimChars v.toList) i := by
  rw [numeral_iff_takeSign]
  simp only [unsigned_iff]
  unfold readInteger
  obtain ⟨negative, rest⟩ := takeSign (trimChars v.toList)
  dsimp only
  cases digitsOf? rest with
  | none => simp
  | some ds =>
      by_cases hlen : maxDigits < ds.length
      · simp [hlen]
      · simp [hlen, Nat.le_of_not_lt hlen]

/-- **The texts that are read as integers** are the numerals in white space. -/
theorem readInteger_eq_ok {v : String} {i : Int} : readInteger v = .ok i ↔ Denotes v i := by
  rw [readInteger_eq_ok_iff_numeral]
  constructor
  · intro h
    exact ⟨_, padded_trimChars _, h⟩
  · rintro ⟨core, hcore, h⟩
    rwa [(trimChars_eq_iff h.trimChars_eq).mpr hcore]

end CaptureConfig.Text
