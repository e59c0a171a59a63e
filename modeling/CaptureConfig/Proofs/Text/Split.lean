import CaptureConfig.Text.Split
import Mathlib.Data.List.DropRight
import Mathlib.Data.List.TakeDrop

/-!
# Cutting a text that is put together

A separator between two texts keeps their pieces apart, so separators at the end of a text only add empty
pieces, and lines that the separator ends are cut off as they are. Cutting a text once leaves all separators but
the first one in what stands behind it.
-/

namespace CaptureConfig.Text

theorem splitChars_cons_sep (sep : Char) (cs : List Char) :
    splitChars sep (sep :: cs) = [] :: splitChars sep cs := by
  simp [splitChars]

theorem splitChars_cons_of_ne {sep c : Char} (h : c ≠ sep) {cs piece : List Char}
    {rest : List (List Char)} (hs : splitChars sep cs = piece :: rest) :
    splitChars sep (c :: cs) = (c :: piece) :: rest := by
  simp [splitChars, h, hs]

/-- Cutting is the library's way of splitting a list at an element. -/
theorem splitChars_eq_splitOn (sep : Char) (cs : List Char) : splitChars sep cs = cs.splitOn sep := by
  induction cs with
  | nil => simp [splitChars]
  | cons c cs ih =>
      rw [List.splitOn_cons_eq_if_modifyHead, ← ih]
      by_cases h : c = sep
      · subst h
        simp [splitChars_cons_sep]
      · obtain ⟨piece, rest, hp⟩ := List.exists_cons_of_ne_nil (splitChars_ne_nil sep cs)
        simp [splitChars_cons_of_ne h hp, hp, h]

theorem splitChars_append_sep (sep : Char) (as bs : List Char) :
    splitChars sep (as ++ sep :: bs) = splitChars sep as ++ splitChars sep bs := by
  simp only [splitChars_eq_splitOn, List.splitOn_append_cons_self]

/-- Pieces without the separator can be put together with it and cut again. -/
theorem splitChars_intercalate {sep : Char} {pieces : List (List Char)} (hne : pieces ≠ [])
    (h : ∀ piece ∈ pieces, sep ∉ piece) : splitChars sep ([sep].intercalate pieces) = pieces := by
  rw [splitChars_eq_splitOn]
  exact List.splitOn_intercalate sep h hne

theorem not_mem_of_mem_splitChars {sep : Char} {cs piece : List Char}
    (h : piece ∈ splitChars sep cs) : sep ∉ piece := by
  induction cs generalizing piece with
  | nil =>
      obtain rfl : piece = [] := by simpa [splitChars] using h
      simp
  | cons c cs ih =>
      by_cases hc : c = sep
      · subst hc
        rw [splitChars_cons_sep, List.mem_cons] at h
        rcases h with rfl | h
        · simp
        · exact ih h
      · obtain ⟨first, rest, hp⟩ := List.exists_cons_of_ne_nil (splitChars_ne_nil sep cs)
        rw [hp] at ih
        rw [splitChars_cons_of_ne hc hp, List.mem_cons] at h
        rcases h with rfl | h
        · simp [Ne.symm hc, ih List.mem_cons_self]
        · exact ih (List.mem_cons_of_mem _ h)

theorem splitChars_append_replicate (sep : Char) (cs : List Char) (n : Nat) :
    splitChars sep (cs ++ List.replicate n sep) = splitChars sep cs ++ List.replicate n [] := by
  induction n with
  | zero => simp
  | succ n ih =>
      rw [List.replicate_succ', ← List.append_assoc, splitChars_append_sep, ih, List.append_assoc,
        List.replicate_succ']
      rfl

/-- All pieces are empty exactly when there is nothing between the separators. -/
theorem splitChars_all_nil {sep : Char} {cs : List Char} :
    (∀ piece ∈ splitChars sep cs, piece = []) ↔ ∀ c ∈ cs, c = sep := by
  induction cs with
  | nil => simp [splitChars]
  | cons c cs ih =>
      by_cases h : c = sep
      · subst h
        simp [splitChars_cons_sep, ih]
      · obtain ⟨piece, rest, hp⟩ := List.exists_cons_of_ne_nil (splitChars_ne_nil sep cs)
        simp [splitChars_cons_of_ne h hp, h]

theorem not_mem_of_mem_split {sep : Char} {s piece : String} (h : piece ∈ split sep s) :
    sep ∉ piece.toList := by
  obtain ⟨cs, hcs, rfl⟩ := List.mem_map.mp h
  rw [String.toList_ofList]
  exact not_mem_of_mem_splitChars hcs

/-- A text without the separator is its own and only piece. -/
theorem split_eq_singleton {sep : Char} {s : String} (h : sep ∉ s.toList) : split sep s = [s] := by
  rw [split, splitChars_eq_splitOn, List.splitOn_eq_singleton h, List.map_singleton,
    String.ofList_toList]

theorem split_intercalate {sep : Char} {pieces : List String} (hne : pieces ≠ [])
    (h : ∀ piece ∈ pieces, sep ∉ piece.toList) :
    split sep (String.intercalate (String.singleton sep) pieces) = pieces := by
  have hcut : splitChars sep ([sep].intercalate (pieces.map String.toList)) =
      pieces.map String.toList :=
    splitChars_intercalate (by simpa using hne) (by simpa using h)
  rw [split, String.toList_intercalate, String.toList_singleton, hcut, List.map_map]
  simp [Function.comp_def]

/-- What is joined has only characters of the pieces and of what stands between them. -/
theorem mem_of_mem_intercalate {c : Char} {between : String} {pieces : List String}
    (h : c ∈ (String.intercalate between pieces).toList) :
    c ∈ between.toList ∨ ∃ piece ∈ pieces, c ∈ piece.toList := by
  induction pieces with
  | nil => simp at h
  | cons piece rest ih =>
      cases rest with
      | nil => exact Or.inr ⟨piece, List.mem_singleton_self piece, by simpa using h⟩
      | cons next rest =>
          rw [String.intercalate_cons_cons, String.toList_append, String.toList_append, List.mem_append,
            List.mem_append] at h
          rcases h with (h | h) | h
          · exact Or.inr ⟨piece, List.mem_cons_self, h⟩
          · exact Or.inl h
          · rcases ih h with h | ⟨other, hother, h⟩
            · exact Or.inl h
            · exact Or.inr ⟨other, List.mem_cons_of_mem _ hother, h⟩

theorem split_append_cons {sep : Char} {s : String} (h : sep ∉ s.toList) (rest : String) :
    split sep (s ++ String.singleton sep ++ rest) = s :: split sep rest := by
  have hsplit := splitChars_append_sep sep s.toList rest.toList
  have hfirst : splitChars sep s.toList = [s.toList] := by
    rw [splitChars_eq_splitOn, List.splitOn_eq_singleton h]
  simp [split, hsplit, hfirst]

/-- Lines that are ended by the separator and do not hold it are cut off one by one. -/
theorem split_join {sep : Char} {lines : List String} (h : ∀ line ∈ lines, sep ∉ line.toList) :
    split sep (String.join (lines.map (· ++ String.singleton sep))) = lines ++ [""] := by
  induction lines with
  | nil => rfl
  | cons line lines ih =>
      rw [List.forall_mem_cons] at h
      rw [List.map_cons, String.join_cons, split_append_cons h.1, ih h.2, List.cons_append]

theorem split_append_replicate (sep : Char) (s : String) (n : Nat) :
    split sep (s ++ String.ofList (List.replicate n sep)) = split sep s ++ List.replicate n "" := by
  simp [split, splitChars_append_replicate]

theorem split_all_empty {sep : Char} {s : String} :
    (∀ piece ∈ split sep s, piece = "") ↔ ∀ c ∈ s.toList, c = sep := by
  rw [← splitChars_all_nil]
  simp [split]

theorem rdropWhile_append_replicate {α : Type} {p : α → Bool} {x : α} (hx : p x = true)
    (xs : List α) (n : Nat) : (xs ++ List.replicate n x).rdropWhile p = xs.rdropWhile p := by
  induction n with
  | zero => simp
  | succ n ih =>
      rw [List.replicate_succ', ← List.append_assoc, List.rdropWhile_concat_pos _ _ _ hx, ih]

/-! ## Cutting once -/

/-- What stands before the first separator of a text. -/
def before (sep : Char) (s : String) : String := String.ofList (s.toList.takeWhile (· != sep))

/-- What stands behind the first separator of a text. -/
def behind (sep : Char) (s : String) : String := String.ofList (s.toList.dropWhile (· != sep)).tail

theorem cut?_eq (sep : Char) (s : String) :
    cut? sep s = if sep ∈ s.toList then some (before sep s, behind sep s) else none := by
  have hnone : s.toList.dropWhile (· != sep) = [] ↔ sep ∉ s.toList := by
    rw [List.dropWhile_eq_nil_iff]
    constructor
    · intro h hmem
      simpa using h sep hmem
    · rintro h c hc
      exact bne_iff_ne.mpr fun heq => h (heq ▸ hc)
  unfold cut? before behind
  rw [List.span_eq_takeWhile_dropWhile]
  cases hrest : s.toList.dropWhile (· != sep) with
  | nil => rw [if_neg (hnone.mp hrest)]
  | cons c rest =>
      have hmem : sep ∈ s.toList := by
        by_contra h
        rw [hnone.mpr h] at hrest
        cases hrest
      rw [if_pos hmem]
      rfl

section Joined

variable {sep : Char} {name : String}

theorem before_joined (h : sep ∉ name.toList) (value : String) :
    before sep (name ++ String.singleton sep ++ value) = name := by
  have hall : ∀ c ∈ name.toList, (c != sep) = true := fun c hc => bne_iff_ne.mpr fun heq => h (heq ▸ hc)
  have htext : (name ++ String.singleton sep ++ value).toList = name.toList ++ sep :: value.toList := by
    simp
  rw [before, htext, List.takeWhile_append_of_pos hall]
  simp

theorem behind_joined (h : sep ∉ name.toList) (value : String) :
    behind sep (name ++ String.singleton sep ++ value) = value := by
  have hall : ∀ c ∈ name.toList, (c != sep) = true := fun c hc => bne_iff_ne.mpr fun heq => h (heq ▸ hc)
  have htext : (name ++ String.singleton sep ++ value).toList = name.toList ++ sep :: value.toList := by
    simp
  rw [behind, htext, List.dropWhile_append_of_pos hall]
  simp

end Joined

end CaptureConfig.Text
