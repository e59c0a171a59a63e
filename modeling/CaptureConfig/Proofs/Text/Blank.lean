import CaptureConfig.Text.Character
import Mathlib.Data.List.DropRight

/-!
# Trimming

Trimming takes white space away at both ends, and all of it, so a trimmed text stays as it is and a blank
one has nothing left.
-/

namespace CaptureConfig.Text

theorem trimChars_prefix_dropWhile (cs : List Char) : trimChars cs <+: cs.dropWhile isBlank :=
  List.rdropWhile_prefix isBlank _

theorem trimChars_subset (cs : List Char) : trimChars cs ⊆ cs :=
  List.Subset.trans (trimChars_prefix_dropWhile cs).subset (List.dropWhile_suffix isBlank).subset

/-- A trimmed text starts with no white space. -/
theorem dropWhile_trimChars (cs : List Char) : (trimChars cs).dropWhile isBlank = trimChars cs := by
  rw [List.dropWhile_eq_self_iff]
  intro hlen
  rw [(trimChars_prefix_dropWhile cs).getElem hlen]
  exact List.dropWhile_get_zero_not isBlank cs _

theorem trimChars_trimChars (cs : List Char) : trimChars (trimChars cs) = trimChars cs := by
  have hright : trimChars (trimChars cs) = ((trimChars cs).dropWhile isBlank).rdropWhile isBlank := rfl
  rw [hright, dropWhile_trimChars]
  exact List.rdropWhile_idempotent isBlank _

theorem trimChars_eq_nil {cs : List Char} : trimChars cs = [] ↔ ∀ c ∈ cs, isBlank c = true := by
  constructor
  · intro h
    have hall : ∀ c ∈ cs.dropWhile isBlank, isBlank c = true := List.rdropWhile_eq_nil_iff.mp h
    rw [← List.dropWhile_eq_nil_iff]
    by_contra hne
    -- what the left end leaves would start with a character that is no white space
    have hhead := List.head_dropWhile_not isBlank hne
    rw [hall _ (List.head_mem hne)] at hhead
    cases hhead
  · intro h
    exact List.rdropWhile_eq_nil_iff.mpr fun c hc => h c ((List.dropWhile_suffix isBlank).subset hc)

/-- White space after a text is trimmed away with it. -/
theorem trimChars_append_of_blank (cs : List Char) {bs : List Char}
    (h : ∀ b ∈ bs, isBlank b = true) : trimChars (cs ++ bs) = trimChars cs := by
  have hbs : bs.dropWhile isBlank = [] := List.dropWhile_eq_nil_iff.mpr h
  unfold trimChars
  rw [List.dropWhile_append]
  split
  · rename_i hcs
    rw [hbs, List.isEmpty_iff.mp hcs]
  · rw [List.reverse_append, List.dropWhile_append_of_pos (by simpa using h)]

/-- White space before a text is trimmed away with it. -/
theorem trimChars_append_of_blank_left {bs : List Char} (h : ∀ b ∈ bs, isBlank b = true)
    (cs : List Char) : trimChars (bs ++ cs) = trimChars cs := by
  unfold trimChars
  rw [List.dropWhile_append_of_pos h]

theorem trim_trim (s : String) : trim (trim s) = trim s := by
  simp [trim, trimChars_trimChars]

theorem mem_of_mem_trim {s : String} {c : Char} (h : c ∈ (trim s).toList) : c ∈ s.toList := by
  rw [trim, String.toList_ofList] at h
  exact trimChars_subset s.toList h

theorem trim_eq_empty {s : String} : trim s = "" ↔ blank s = true := by
  rw [trim, String.ofList_eq_empty_iff, trimChars_eq_nil, blank, List.all_eq_true]

/-! ## Texts in white space -/

/-- The second text is the first one with white space before and after it. -/
def Padded (core cs : List Char) : Prop :=
  ∃ before after, cs = before ++ core ++ after ∧
    (∀ c ∈ before, isBlank c = true) ∧ ∀ c ∈ after, isBlank c = true

theorem trimChars_of_padded {core cs : List Char} (h : Padded core cs) :
    trimChars cs = trimChars core := by
  obtain ⟨before, after, rfl, hbefore, hafter⟩ := h
  rw [trimChars_append_of_blank _ hafter, trimChars_append_of_blank_left hbefore]

theorem padded_trimChars (cs : List Char) : Padded (trimChars cs) cs := by
  have hleft : cs.takeWhile isBlank ++ cs.dropWhile isBlank = cs := List.takeWhile_append_dropWhile
  have hright : trimChars cs ++ (cs.dropWhile isBlank).rtakeWhile isBlank = cs.dropWhile isBlank :=
    List.rdropWhile_append_rtakeWhile
  refine ⟨cs.takeWhile isBlank, (cs.dropWhile isBlank).rtakeWhile isBlank, ?_, ?_, ?_⟩
  · rw [List.append_assoc, hright, hleft]
  · intro c hc
    exact List.mem_takeWhile_imp hc
  · intro c hc
    exact List.mem_rtakeWhile_imp hc

/-- A text is trimmed to what stands between its white space. -/
theorem trimChars_eq_iff {core cs : List Char} (htrim : trimChars core = core) :
    trimChars cs = core ↔ Padded core cs := by
  constructor
  · rintro rfl
    exact padded_trimChars cs
  · intro h
    rw [trimChars_of_padded h, htrim]

/-- A text without white space at either end is trimmed already. -/
theorem trimChars_eq_self {cs : List Char} (hfirst : ∀ c ∈ cs.head?, isBlank c = false)
    (hlast : ∀ c ∈ cs.getLast?, isBlank c = false) : trimChars cs = cs := by
  cases cs with
  | nil => rfl
  | cons c cs =>
      have hleft : (c :: cs).dropWhile isBlank = c :: cs := by
        rw [List.dropWhile_cons, hfirst c rfl]
        rfl
      have hright : (c :: cs).rdropWhile isBlank = c :: cs := by
        rw [List.rdropWhile_eq_self_iff]
        intro hne
        rw [hlast _ (List.getLast?_eq_some_getLast hne)]
        exact Bool.false_ne_true
      change ((c :: cs).dropWhile isBlank).rdropWhile isBlank = c :: cs
      rw [hleft, hright]

/-- A change of characters that makes no white space and takes none away commutes with trimming. -/
theorem trimChars_map {f : Char → Char} (hf : ∀ c, isBlank (f c) = isBlank c) (cs : List Char) :
    trimChars (cs.map f) = (trimChars cs).map f := by
  have hblank : isBlank ∘ f = isBlank := funext hf
  unfold trimChars
  rw [List.dropWhile_map, hblank, ← List.map_reverse, List.dropWhile_map, hblank, List.map_reverse]

end CaptureConfig.Text
