import CaptureConfig.Log.Level
import CaptureConfig.Proofs.Text.Capitals
import Mathlib.Data.Bool.AllAny

/-!
# The spellings of levels

A text names a level when its capitals are the name of the level. It still does in small letters, and then it is
the name of the level in small letters, unless it holds a dotless `ı`: the capital of that letter is a plain `I`,
but it is a small letter already and stays as it is.
-/

namespace CaptureConfig.Level

variable {s : String} {level : Level} {c : Char}

/-- The name of a level in small letters. -/
def smallName (level : Level) : String := Text.lowered level.name

theorem named?_eq_some : named? s = some level ↔ Text.capitalised s = level.name := by
  unfold named?
  constructor
  · intro h
    have hname := List.find?_some h
    exact (eq_of_beq hname).symm
  · intro h
    rw [h]
    cases level <;> decide

theorem capitals_infix_name (h : named? s = some level) (hc : c ∈ s.toList) :
    Text.capitals c <:+: level.name.toList := by
  have hname : s.toList.flatMap Text.capitals = level.name.toList := by
    rw [← named?_eq_some.mp h, Text.capitalised, String.toList_ofList]
  rw [← hname]
  exact List.infix_flatMap_of_mem hc _

theorem kelvin_not_mem (h : named? s = some level) : '\u212a' ∉ s.toList := by
  intro hmem
  have hinfix := capitals_infix_name h hmem
  revert hinfix
  cases level <;> decide +kernel

/-- Of the letters with plain capitals that are not their small letters, a level can only hold one. -/
theorem eq_dotless_of_stray (h : named? s = some level) (hc : c ∈ s.toList)
    (hstray : c ∈ Text.strayLetters) : c = '\u0131' := by
  have hall : ∀ level : Level, ∀ c ∈ Text.strayLetters, Text.capitals c <:+: level.name.toList →
      c = '\u0131' := by
    intro level
    refine List.all_iff_forall_prop.mp ?_
    cases level <;> decide +kernel
  exact hall level c hstray (capitals_infix_name h hc)

theorem named?_lowered (h : named? s = some level) : named? (Text.lowered s) = some level := by
  rw [named?_eq_some, Text.capitalised_lowered (kelvin_not_mem h)]
  exact named?_eq_some.mp h

theorem smallName_mem_smallNames (level : Level) : level.smallName ∈ all.map smallName := by
  cases level <;> simp [all]

/-- In small letters a text that names a level is a small name, unless it holds a dotless letter. -/
theorem lowered_mem_smallNames (h : named? s = some level) :
    Text.lowered s ∈ all.map smallName ↔ '\u0131' ∉ s.toList := by
  constructor
  · intro hmem hdotless
    have hkept : '\u0131' ∈ (Text.lowered s).toList := by
      rw [Text.lowered, String.toList_ofList]
      exact List.mem_map.mpr ⟨_, hdotless, by decide⟩
    have hplain : ∀ name ∈ all.map smallName, '\u0131' ∉ name.toList := by decide +kernel
    exact hplain _ hmem hkept
  · intro hdotless
    have hletters : ∀ c ∈ s.toList, c ∉ Text.strayLetters := by
      intro c hc hstray
      exact hdotless (eq_dotless_of_stray h hc hstray ▸ hc)
    rw [← Text.lowered_capitalised hletters, named?_eq_some.mp h]
    exact smallName_mem_smallNames level

end CaptureConfig.Level
