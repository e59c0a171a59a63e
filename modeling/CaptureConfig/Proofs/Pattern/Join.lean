import CaptureConfig.Proofs.Pattern.List

/-!
# Lists that are put together

The pieces of two texts one after the other are those of both, where the last piece of the first goes on
with the first piece of the second. A separator between the texts keeps these two apart, unless the first
text ends in a backslash.
-/

namespace CaptureConfig.PatternList

/-- The pieces of one text go on with those of another: the last one with the first. -/
def glue : List (List Char) → List (List Char) → List (List Char)
  | [], ys => ys
  | [x], [] => [x]
  | [x], y :: ys => (x ++ y) :: ys
  | x :: x' :: xs, ys => x :: glue (x' :: xs) ys

/-- Whether a text ends in a backslash. Of an empty text, the character before it decides. -/
def endsInSlash : Bool → List Char → Bool
  | escaped, [] => escaped
  | _, c :: cs => endsInSlash (c == '\\') cs

theorem endsInSlash_iff {cs : List Char} : endsInSlash false cs = true ↔ cs.getLast? = some '\\' := by
  have h : ∀ escaped, endsInSlash escaped cs = (cs.getLast?.map (· == '\\')).getD escaped := by
    induction cs with
    | nil => intro escaped; rfl
    | cons c cs ih =>
        intro escaped
        cases cs with
        | nil => rfl
        | cons d cs =>
            rw [endsInSlash, ih, List.getLast?_cons_cons]
            simp [List.getLast?_cons]
  rw [h]
  cases cs.getLast? <;> simp

theorem endsInSlash_eq_false {cs : List Char} (h : cs.getLast? ≠ some '\\') :
    endsInSlash false cs = false :=
  Bool.eq_false_iff.mpr fun hslash => h (endsInSlash_iff.mp hslash)

/-! ## Putting pieces together -/

section Glue

variable {xs : List (List Char)}

theorem glue_cons (h : xs ≠ []) (x : List Char) (ys : List (List Char)) :
    glue (x :: xs) ys = x :: glue xs ys := by
  cases xs with
  | nil => exact absurd rfl h
  | cons x' xs => rfl

/-- Pieces that begin with an empty one leave those before them as they are. -/
theorem glue_nil_cons (h : xs ≠ []) (ys : List (List Char)) : glue xs ([] :: ys) = xs ++ ys := by
  induction xs with
  | nil => exact absurd rfl h
  | cons x xs ih =>
      by_cases hxs : xs = []
      · subst hxs
        simp [glue]
      · rw [glue_cons hxs, ih hxs, List.cons_append]

theorem glue_modifyHead (h : xs ≠ []) (ys : List (List Char)) (c : Char) :
    glue (xs.modifyHead (c :: ·)) ys = (glue xs ys).modifyHead (c :: ·) := by
  cases xs with
  | nil => exact absurd rfl h
  | cons x xs =>
      by_cases hxs : xs = []
      · subst hxs
        cases ys <;> rfl
      · rw [List.modifyHead_cons, glue_cons hxs, glue_cons hxs, List.modifyHead_cons]

theorem length_glue_singleton {ys : List (List Char)} (h : ys ≠ []) (x : List Char) :
    (glue [x] ys).length = ys.length := by
  cases ys with
  | nil => exact absurd rfl h
  | cons y ys => rfl

end Glue

/-! ## The pieces of two texts -/

theorem pieces_cons {escaped : Bool} {c : Char} (h : ¬ (c = ',' ∧ escaped = false)) (cs : List Char) :
    pieces escaped (c :: cs) = (pieces (c == '\\') cs).modifyHead (c :: ·) := by
  obtain ⟨piece, rest, hp⟩ := List.exists_cons_of_ne_nil (pieces_ne_nil (c == '\\') cs)
  rw [pieces_cons_of_kept h hp, hp, List.modifyHead_cons]

/-- The second text is read on from the last character of the first. -/
theorem pieces_append (escaped : Bool) (as bs : List Char) :
    pieces escaped (as ++ bs) =
      glue (pieces escaped as) (pieces (endsInSlash escaped as) bs) := by
  -- what comes first is told by the character before it, so that is left general
  induction as generalizing escaped with
  | nil =>
      obtain ⟨piece, rest, hp⟩ := List.exists_cons_of_ne_nil (pieces_ne_nil escaped bs)
      simp [pieces, endsInSlash, hp, glue]
  | cons c as ih =>
      rw [List.cons_append, endsInSlash]
      by_cases hsep : c = ',' ∧ escaped = false
      · obtain ⟨rfl, rfl⟩ := hsep
        rw [pieces_cons_comma, pieces_cons_comma, ih false, glue_cons (pieces_ne_nil _ _)]
        rfl
      · rw [pieces_cons hsep, pieces_cons hsep, ih, glue_modifyHead (pieces_ne_nil _ _)]

theorem pieces_append_comma {escaped : Bool} {as : List Char} (h : endsInSlash escaped as = false)
    (bs : List Char) : pieces escaped (as ++ ',' :: bs) = pieces escaped as ++ pieces false bs := by
  rw [pieces_append, h, pieces_cons_comma, glue_nil_cons (pieces_ne_nil _ _)]

theorem pieces_of_not_mem {cs : List Char} (h : ',' ∉ cs) (escaped : Bool) :
    pieces escaped cs = [cs] := by
  induction cs generalizing escaped with
  | nil => rfl
  | cons c cs ih =>
      rw [List.mem_cons, not_or] at h
      rw [pieces_cons (fun hsep => h.1 hsep.1.symm), ih h.2]
      rfl

/-! ## The entries of two texts -/

/-- A comma between two texts separates their entries, unless the first ends in a backslash. -/
theorem entries_append_comma {a : String} (h : a.toList.getLast? ≠ some '\\') (b : String) :
    entries (a ++ "," ++ b) = entries a ++ entries b := by
  have htext : (a ++ "," ++ b).toList = a.toList ++ ',' :: b.toList := by simp
  unfold entries
  rw [htext, pieces_append_comma (endsInSlash_eq_false h), List.map_append, List.filter_append,
    List.map_append]

theorem length_entries_le (value : String) :
    (entries value).length ≤ (pieces false value.toList).length := by
  unfold entries
  rw [List.length_map]
  refine Nat.le_trans (List.length_filter_le _ _) ?_
  rw [List.length_map]

end CaptureConfig.PatternList
