import CaptureConfig.Proofs.Text.Spelling

/-!
# Words in capitals

A letter that is made small keeps its capitals, unless it is the Kelvin sign. A letter with a single capital has
the small letter of that capital, which leaves the few letters whose capitals are plain although they are not.
-/

namespace CaptureConfig.Text

/-- The letters with plain capitals that are not the small letters of these. -/
def strayLetters : List Char :=
  ['\u00df', '\u0131', '\u017f', '\ufb00', '\ufb01', '\ufb02', '\ufb03', '\ufb04', '\ufb05', '\ufb06']

theorem smallLetter_smallLetter (c : Char) : smallLetter (smallLetter c) = smallLetter c := by
  by_cases h : c = '\u212a'
  · subst h
    decide
  · have hsmall : smallLetter c = c.toLower := by rw [smallLetter_eq, if_neg h]
    rw [hsmall, smallLetter_toLower, hsmall]

theorem lowered_lowered (s : String) : lowered (lowered s) = lowered s := by
  unfold lowered
  rw [String.toList_ofList, List.map_map]
  exact congrArg String.ofList (List.map_congr_left fun c _ => smallLetter_smallLetter c)

/-- Capital letters and small letters are as far apart as their classes. -/
theorem capitals_of_capital {c : Char} (h : 65 ≤ c.toNat ∧ c.toNat ≤ 90) :
    capitals (smallLetter c) = [c] ∧ capitals c = [c] := by
  have hall : ∀ n < 26, capitals (smallLetter (Char.ofNat (65 + n))) = [Char.ofNat (65 + n)] ∧
      capitals (Char.ofNat (65 + n)) = [Char.ofNat (65 + n)] := by
    decide
  obtain ⟨n, hn⟩ := Nat.exists_eq_add_of_le h.1
  rw [← Char.ofNat_toNat c, hn]
  exact hall n (by omega)

theorem capitals_smallLetter {c : Char} (h : c ≠ '\u212a') : capitals (smallLetter c) = capitals c := by
  rcases toLower_cases c with ⟨hlo, hhi, -⟩ | ⟨-, hsmall⟩
  · obtain ⟨hsmall, hcapital⟩ := capitals_of_capital ⟨hlo, hhi⟩
    rw [hsmall, hcapital]
  · rw [smallLetter_eq, if_neg h, hsmall]

/-- A word in small letters has the capitals that it had. -/
theorem capitalised_lowered {s : String} (h : '\u212a' ∉ s.toList) :
    capitalised (lowered s) = capitalised s := by
  unfold capitalised lowered
  rw [String.toList_ofList, List.flatMap_map]
  refine congrArg String.ofList (List.flatMap_congr fun c hc => capitals_smallLetter ?_)
  rintro rfl
  exact h hc

theorem capitals_cases (c : Char) :
    (∃ d, capitals c = [d] ∧ smallLetter d = smallLetter c) ∨ c ∈ strayLetters := by
  have hlo : 'a' ≤ c ↔ 97 ≤ c.toNat := Iff.rfl
  have hhi : c ≤ 'z' ↔ c.toNat ≤ 122 := Iff.rfl
  have hstray {n : Nat} (hn : c.toNat = n) (h : Char.ofNat n ∈ strayLetters) : c ∈ strayLetters := by
    rwa [← hn, Char.ofNat_toNat] at h
  unfold capitals
  simp only [Bool.and_eq_true, decide_eq_true_eq, hlo, hhi]
  split
  · rename_i hletter
    have hall : ∀ n < 26, smallLetter (Char.ofNat (97 + n - 32)) = smallLetter (Char.ofNat (97 + n)) := by
      decide
    obtain ⟨n, hn⟩ := Nat.exists_eq_add_of_le hletter.1
    refine Or.inl ⟨_, rfl, ?_⟩
    have h := hall n (by omega)
    rwa [← hn, Char.ofNat_toNat] at h
  · split
    case h_11 => exact Or.inl ⟨c, rfl, rfl⟩
    all_goals
      rename_i hn
      exact Or.inr (hstray hn (by decide))

/-- Where each letter has a single capital, the capitals have the same small letters. -/
theorem lowered_capitalised {s : String} (h : ∀ c ∈ s.toList, c ∉ strayLetters) :
    lowered (capitalised s) = lowered s := by
  unfold lowered capitalised
  rw [String.toList_ofList, List.map_flatMap, List.map_eq_flatMap]
  refine congrArg String.ofList (List.flatMap_congr fun c hc => ?_)
  obtain ⟨d, hd, hsmall⟩ := (capitals_cases c).resolve_right (h c hc)
  rw [hd, List.map_singleton, hsmall]

end CaptureConfig.Text
