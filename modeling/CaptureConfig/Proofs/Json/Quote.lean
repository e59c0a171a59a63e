import CaptureConfig.Proofs.Json.Reader
import CaptureConfig.Proofs.Text.Hex
import Mathlib.Data.Option.Basic
import Mathlib.Tactic.SplitIfs

/-!
# Texts in quotes

Whatever a text holds, it is written in printable ASCII. An escaped character never ends the quotes, and stands
for the units of the character that is escaped, so the text is read back.
-/

namespace CaptureConfig.Json

/-- A printable character of ASCII. -/
def Printable (c : Char) : Prop := 32 ≤ c.toNat ∧ c.toNat ≤ 126

instance : DecidablePred Printable := fun c => inferInstanceAs (Decidable (32 ≤ c.toNat ∧ c.toNat ≤ 126))

/-- The ways in which a character is written: as it is, by a short escape, or by the digits of its units. -/
inductive Escaped (c : Char) : List Char → Prop
  | plain (hprintable : Printable c) (hquote : c ≠ '"') (hslash : c ≠ '\\') : Escaped c [c]
  | short {d : Char} (hprintable : Printable d) (hunit : shortEscape? d = some c.toNat)
      (hsmall : c.toNat < 0x10000) : Escaped c ['\\', d]
  | unit (hsmall : c.toNat < 0x10000) : Escaped c (escapeUnit c.toNat)
  | pair (hlarge : 0x10000 ≤ c.toNat) :
      Escaped c (escapeUnit (0xD800 + (c.toNat - 0x10000) / 0x400) ++
        escapeUnit (0xDC00 + (c.toNat - 0x10000) % 0x400))

/-- Characters that do not end the quotes in which they stand. -/
def Inner (w : List Char) : Prop :=
  ∀ done cs, tokens? (.quotes done) (w ++ cs) = tokens? (.quotes (done ++ w)) cs

theorem toNat_lt (c : Char) : c.toNat < 0x110000 := by
  rcases c.valid with h | ⟨-, h⟩
  · exact Nat.lt_trans h (by decide)
  · exact h

/-! ## Units -/

section Unit

variable {n : Nat}

theorem escapeUnit_eq (h : n < 0x10000) : escapeUnit n = '\\' :: 'u' :: Text.hexDigits 4 n := by
  rw [escapeUnit, Text.toList_hex h]

theorem hexDigit_plain {d : Nat} (h : d < 16) :
    Printable (Text.hexDigit d) ∧ Text.hexDigit d ≠ '"' ∧ Text.hexDigit d ≠ '\\' := by
  have hall : ∀ d < 16, Printable (Text.hexDigit d) ∧ Text.hexDigit d ≠ '"' ∧ Text.hexDigit d ≠ '\\' := by
    decide
  exact hall d h

theorem printable_escapeUnit (h : n < 0x10000) : ∀ d ∈ escapeUnit n, Printable d := by
  have hdigits : ∀ d ∈ Text.hexDigits 4 n, Printable d := by
    intro d hd
    obtain ⟨v, hv, rfl⟩ := Text.mem_hexDigits hd
    exact (hexDigit_plain hv).1
  rw [escapeUnit_eq h, List.forall_mem_cons, List.forall_mem_cons]
  exact ⟨by decide, by decide, hdigits⟩

theorem quotedUnits?_escapeUnit (h : n < 0x10000) (cs : List Char) :
    quotedUnits? (escapeUnit n ++ cs) = (quotedUnits? cs).map (n :: ·) := by
  obtain ⟨a, b, c, d, ds, hdigits, hread, hvalue⟩ := Text.hexDigits_four h
  rw [escapeUnit_eq h, hdigits]
  simp only [List.cons_append, List.nil_append, quotedUnits?, hread]
  cases quotedUnits? cs <;> simp [hvalue]

theorem units_of_lt {c : Char} (h : c.toNat < 0x10000) : units c = [c.toNat] := if_pos h

theorem quotedUnits?_plain {c : Char} (h : 32 ≤ c.toNat) (hslash : c ≠ '\\') (cs : List Char) :
    quotedUnits? (c :: cs) = (quotedUnits? cs).map (units c ++ ·) := by
  have hguard : (guard (32 ≤ c.toNat) : Option Unit) = some () := (Option.guard_eq_some' ()).mpr h
  rw [quotedUnits?]
  · rw [hguard]
    cases quotedUnits? cs <;> rfl
  all_goals
    intros
    exact hslash ‹_›

theorem quotedUnits?_short {d : Char} (hunit : shortEscape? d = some n) (cs : List Char) :
    quotedUnits? ('\\' :: d :: cs) = (quotedUnits? cs).map (n :: ·) := by
  rw [quotedUnits?, hunit]
  · cases quotedUnits? cs <;> rfl
  · rintro _ _ _ _ _ rfl
    cases hunit

end Unit

/-! ## Characters in quotes -/

theorem inner_nil : Inner [] := fun done cs => by rw [List.nil_append, List.append_nil]

theorem Inner.append {v w : List Char} (hv : Inner v) (hw : Inner w) : Inner (v ++ w) := fun done cs => by
  rw [List.append_assoc, hv, hw, List.append_assoc]

theorem inner_plain {c : Char} (hquote : c ≠ '"') (hslash : c ≠ '\\') : Inner [c] := fun done cs => by
  simp [tokens?, step, hquote, hslash]

theorem inner_slash (c : Char) : Inner ['\\', c] := fun done cs => by
  simp [tokens?, step]

theorem inner_hexDigits (width n : Nat) : Inner (Text.hexDigits width n) := by
  induction width generalizing n with
  | zero => exact inner_nil
  | succ width ih =>
      obtain ⟨-, hquote, hslash⟩ := hexDigit_plain (Nat.mod_lt n (by decide : 16 > 0))
      exact (ih (n / 16)).append (inner_plain hquote hslash)

theorem inner_escapeUnit {n : Nat} (h : n < 0x10000) : Inner (escapeUnit n) := by
  rw [escapeUnit_eq h]
  exact (inner_slash 'u').append (inner_hexDigits 4 n)

/-! ## Escaped characters -/

theorem escaped_escapeChar (c : Char) : Escaped c (escapeChar c) := by
  have heq {n : Nat} (h : c.toNat = n) : c = Char.ofNat n := by rw [← h, Char.ofNat_toNat]
  unfold escapeChar
  simp only [beq_iff_eq, Bool.and_eq_true, decide_eq_true_eq]
  split_ifs with hquote hslash hline hreturn htab hback hfeed hprintable hsmall
  · subst hquote
    exact .short (by decide) (by decide) (by decide)
  · subst hslash
    exact .short (by decide) (by decide) (by decide)
  · subst hline
    exact .short (by decide) (by decide) (by decide)
  · subst hreturn
    exact .short (by decide) (by decide) (by decide)
  · subst htab
    exact .short (by decide) (by decide) (by decide)
  · obtain rfl := heq hback
    exact .short (by decide) (by decide) (by decide)
  · obtain rfl := heq hfeed
    exact .short (by decide) (by decide) (by decide)
  · exact .plain hprintable hquote hslash
  · exact .unit hsmall
  · exact .pair (by omega)

section Escaped

variable {c : Char} {w : List Char}

theorem Escaped.printable (h : Escaped c w) : ∀ d ∈ w, Printable d := by
  have hbound := toNat_lt c
  cases h with
  | plain hprintable => simpa using hprintable
  | short hprintable =>
      rw [List.forall_mem_cons, List.forall_mem_singleton]
      exact ⟨by decide, hprintable⟩
  | unit hsmall => exact printable_escapeUnit hsmall
  | pair hlarge =>
      rw [List.forall_mem_append]
      exact ⟨printable_escapeUnit (by omega), printable_escapeUnit (by omega)⟩

theorem Escaped.inner (h : Escaped c w) : Inner w := by
  have hbound := toNat_lt c
  cases h with
  | plain _ hquote hslash => exact inner_plain hquote hslash
  | short => exact inner_slash _
  | unit hsmall => exact inner_escapeUnit hsmall
  | pair hlarge => exact (inner_escapeUnit (by omega)).append (inner_escapeUnit (by omega))

/-- An escaped character stands for its units. -/
theorem Escaped.quotedUnits? (h : Escaped c w) (cs : List Char) :
    Json.quotedUnits? (w ++ cs) = (Json.quotedUnits? cs).map (units c ++ ·) := by
  have hbound := toNat_lt c
  cases h with
  | plain hprintable _ hslash => exact quotedUnits?_plain hprintable.1 hslash cs
  | short _ hunit hsmall => rw [units_of_lt hsmall]; exact quotedUnits?_short hunit cs
  | unit hsmall => rw [units_of_lt hsmall]; exact quotedUnits?_escapeUnit hsmall cs
  | pair hlarge =>
      rw [List.append_assoc, quotedUnits?_escapeUnit (by omega), quotedUnits?_escapeUnit (by omega),
        Option.map_map, units, if_neg (by omega)]
      rfl

end Escaped

/-! ## Texts -/

theorem printable_quote (s : String) : ∀ c ∈ (quote s).toList, Printable c := by
  have hescaped : ∀ c ∈ s.toList.flatMap escapeChar, Printable c := by
    intro c hc
    obtain ⟨d, -, hd⟩ := List.mem_flatMap.mp hc
    exact (escaped_escapeChar d).printable c hd
  rw [quote, String.toList_ofList, List.forall_mem_cons, List.forall_mem_append, List.forall_mem_singleton]
  exact ⟨by decide, hescaped, by decide⟩

theorem inner_flatMap_escapeChar (cs : List Char) : Inner (cs.flatMap escapeChar) := by
  induction cs with
  | nil => exact inner_nil
  | cons c cs ih => exact (escaped_escapeChar c).inner.append ih

theorem quotedUnits?_flatMap_escapeChar (cs : List Char) :
    quotedUnits? (cs.flatMap escapeChar) = some (cs.flatMap units) := by
  induction cs with
  | nil => rfl
  | cons c cs ih =>
      rw [List.flatMap_cons, (escaped_escapeChar c).quotedUnits?, ih, List.flatMap_cons]
      rfl

/-- A pair of surrogates is read as its character, and any other unit as itself. -/
theorem ofUnits?_units (c : Char) (ns : List Nat) : ofUnits? (units c ++ ns) = (ofUnits? ns).map (c :: ·) := by
  have hbound := toNat_lt c
  unfold units
  split
  · have hvalid : c.toNat < 0xD800 ∨ 0xE000 ≤ c.toNat := by
      rcases c.valid with h | ⟨h, -⟩
      · exact Or.inl h
      · exact Or.inr h
    rw [List.singleton_append, ofUnits?.eq_def]
    simp only
    rw [if_neg (by omega), if_neg (by omega), Char.ofNat_toNat]
  · have hvalue : 0x10000 + (0xD800 + (c.toNat - 0x10000) / 0x400 - 0xD800) * 0x400 +
        (0xDC00 + (c.toNat - 0x10000) % 0x400 - 0xDC00) = c.toNat := by
      omega
    rw [List.cons_append, List.singleton_append, ofUnits?, if_pos (by omega), if_pos (by omega), hvalue,
      Char.ofNat_toNat]

theorem ofUnits?_flatMap_units (cs : List Char) : ofUnits? (cs.flatMap units) = some cs := by
  induction cs with
  | nil => rfl
  | cons c cs ih =>
      rw [List.flatMap_cons, ofUnits?_units, ih]
      rfl

/-- What is written in quotes is read back. -/
theorem quoted?_flatMap_escapeChar (s : String) : quoted? (s.toList.flatMap escapeChar) = some s := by
  rw [quoted?, quotedUnits?_flatMap_escapeChar, Option.bind_some, ofUnits?_flatMap_units, Option.map_some,
    String.ofList_toList]

end CaptureConfig.Json
