import CaptureConfig.Proofs.Text.Blank
import CaptureConfig.Text.Spelling

/-!
# Words in other spellings

White space around a word and the case of its letters do not count when it is recognised. The texts that are
recognised as a word of plain small letters are therefore that word in white space, with any of its letters
in capitals, and nothing else.
-/

namespace CaptureConfig.Text

/-- The second text is the first one in white space, with its ASCII letters in any case. -/
def Respelled (v w : String) : Prop :=
  ∃ core, Padded core w.toList ∧ core.map Char.toLower = v.toList.map Char.toLower

/-- A word of small ASCII letters other than `k`, which is also the small letter of the Kelvin sign. -/
def Plain (word : String) : Prop := ∀ c ∈ word.toList, c.isLower = true ∧ c ≠ 'k'

instance : DecidablePred Plain := fun word =>
  decidable_of_iff (word.toList.all (fun c => c.isLower && c != 'k') = true) (by simp [Plain])

/-! ## Small letters -/

theorem toLower_cases (c : Char) :
    (65 ≤ c.toNat ∧ c.toNat ≤ 90 ∧ c.toLower.toNat = c.toNat + 32) ∨
      ((c.toNat < 65 ∨ 90 < c.toNat) ∧ c.toLower = c) := by
  have hA : 'A'.val.toNat = 65 := by decide
  have hZ : 'Z'.val.toNat = 90 := by decide
  have hstep : ('a'.val - 'A'.val).toNat = 32 := by decide
  have hc : c.val.toNat = c.toNat := Char.toNat_val
  unfold Char.toLower
  split
  · rename_i h
    simp only [ge_iff_le, UInt32.le_iff_toNat_le] at h
    have hsum : (c.val + ('a'.val - 'A'.val)).toNat = c.toNat + 32 := by
      rw [UInt32.toNat_add, hstep]
      omega
    exact Or.inl ⟨by omega, by omega, hsum⟩
  · rename_i h
    simp only [ge_iff_le, UInt32.le_iff_toNat_le] at h
    exact Or.inr ⟨by omega, rfl⟩

theorem isBlank_toLower (c : Char) : isBlank c.toLower = isBlank c := by
  rcases toLower_cases c with ⟨hlo, hhi, h⟩ | ⟨-, h⟩
  · -- neither a capital nor a small letter is white space
    unfold isBlank
    rw [h]
    grind
  · rw [h]

theorem smallLetter_eq (c : Char) : smallLetter c = if c = '\u212a' then 'k' else c.toLower := by
  have hA : 'A' ≤ c ↔ 65 ≤ c.toNat := Iff.rfl
  have hZ : c ≤ 'Z' ↔ c.toNat ≤ 90 := Iff.rfl
  unfold smallLetter
  simp only [Bool.and_eq_true, decide_eq_true_eq, hA, hZ, beq_iff_eq]
  rcases toLower_cases c with ⟨hlo, hhi, h⟩ | ⟨hout, h⟩
  · have hkelvin : c ≠ '\u212a' := by
      rintro rfl
      exact absurd hhi (by decide)
    have hvalid : (c.toNat + 32).isValidChar := Or.inl (by omega)
    rw [if_pos ⟨hlo, hhi⟩, if_neg hkelvin]
    apply Char.toNat_inj.mp
    rw [h, Char.ofNat, dif_pos hvalid]
    rfl
  · rw [if_neg (by omega), h]

theorem smallLetter_toLower (c : Char) : smallLetter c.toLower = smallLetter c := by
  rcases toLower_cases c with ⟨hlo, hhi, h⟩ | ⟨-, h⟩
  · have hsmall : c.toLower.toLower = c.toLower := by
      rcases toLower_cases c.toLower with ⟨-, hhi', -⟩ | ⟨-, h'⟩
      · omega
      · exact h'
    have hkelvin {d : Char} (hd : d.toNat ≤ 122) : d ≠ '\u212a' := by
      rintro rfl
      exact absurd hd (by decide)
    rw [smallLetter_eq, smallLetter_eq, if_neg (hkelvin (by omega)), if_neg (hkelvin (by omega)), hsmall]
  · rw [h]

theorem isLower_iff {c : Char} : c.isLower = true ↔ 97 ≤ c.toNat ∧ c.toNat ≤ 122 := by
  have hdef : c.isLower = (decide ('a'.val ≤ c.val) && decide (c.val ≤ 'z'.val)) := rfl
  rw [hdef, Bool.and_eq_true, decide_eq_true_eq, decide_eq_true_eq, UInt32.le_iff_toNat_le,
    UInt32.le_iff_toNat_le]
  exact Iff.rfl

/-! ## Recognised words -/

variable {v w word : String}

theorem map_smallLetter_eq_iff (hword : Plain word) {cs : List Char} :
    cs.map smallLetter = word.toList ↔ cs.map Char.toLower = word.toList := by
  -- the two maps differ on the Kelvin sign alone, and neither of its images is in the word
  have hagree {c : Char} (hc : smallLetter c ∈ word.toList ∨ c.toLower ∈ word.toList) :
      smallLetter c = c.toLower := by
    rw [smallLetter_eq, if_neg]
    rintro rfl
    rcases hc with hc | hc
    · exact (hword _ hc).2 (by decide)
    · exact absurd (hword _ hc).1 (by decide)
  constructor
  · intro h
    rw [← h]
    refine List.map_congr_left fun c hc => (hagree (Or.inl ?_)).symm
    rw [← h]
    exact List.mem_map_of_mem hc
  · intro h
    rw [← h]
    refine List.map_congr_left fun c hc => hagree (Or.inr ?_)
    rw [← h]
    exact List.mem_map_of_mem hc

theorem Plain.map_toLower (hword : Plain word) : word.toList.map Char.toLower = word.toList := by
  refine (List.map_congr_left fun c hc => ?_).trans (List.map_id _)
  obtain ⟨hlo, -⟩ := isLower_iff.mp (hword c hc).1
  rcases toLower_cases c with ⟨-, hhi, -⟩ | ⟨-, h⟩
  · omega
  · exact h

theorem Plain.trimChars_eq (hword : Plain word) : trimChars word.toList = word.toList := by
  have hletter {c : Char} (hc : c ∈ word.toList) : isBlank c = false := by
    obtain ⟨hlo, hhi⟩ := isLower_iff.mp (hword c hc).1
    unfold isBlank
    grind
  exact trimChars_eq_self (fun c hc => hletter (List.mem_of_head? hc))
    fun c hc => hletter (List.mem_of_getLast? hc)

/-- The texts that are recognised as a word are its other spellings. -/
theorem lowered_trim_eq_iff (hword : Plain word) : lowered (trim v) = word ↔ Respelled word v := by
  have hlowered : lowered (trim v) = word ↔ (trimChars v.toList).map Char.toLower = word.toList := by
    rw [← map_smallLetter_eq_iff hword, lowered, trim, String.toList_ofList, ← String.toList_inj,
      String.toList_ofList]
  rw [hlowered]
  constructor
  · intro h
    exact ⟨_, padded_trimChars _, h.trans hword.map_toLower.symm⟩
  · rintro ⟨core, hcore, h⟩
    rw [trimChars_of_padded hcore, ← trimChars_map isBlank_toLower, h, hword.map_toLower, hword.trimChars_eq]

/-- What a text is recognised as does not change with its spelling. -/
theorem lowered_trim_of_respelled (h : Respelled v w) : lowered (trim w) = lowered (trim v) := by
  obtain ⟨core, hcore, hletters⟩ := h
  have hsmall (cs : List Char) : (cs.map Char.toLower).map smallLetter = cs.map smallLetter := by
    rw [List.map_map]
    exact List.map_congr_left fun c _ => smallLetter_toLower c
  have htrim : (trimChars w.toList).map smallLetter = (trimChars v.toList).map smallLetter := by
    calc (trimChars w.toList).map smallLetter
        = ((trimChars core).map Char.toLower).map smallLetter := by
          rw [trimChars_of_padded hcore, hsmall]
      _ = ((trimChars v.toList).map Char.toLower).map smallLetter := by
          rw [← trimChars_map isBlank_toLower, hletters, trimChars_map isBlank_toLower]
      _ = (trimChars v.toList).map smallLetter := hsmall _
  rw [lowered, lowered, trim, trim, String.toList_ofList, String.toList_ofList, htrim]

end CaptureConfig.Text
