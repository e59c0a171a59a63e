import CaptureConfig.Record.Basic

/-!
# Entries at textual keys

A text is the same key as nothing but that text. So putting an entry at a textual key changes what stands
there and nothing else, and does not change whether all keys are texts.
-/

namespace CaptureConfig.Datum

variable {name : String} {value : Datum} {es : Entries}

theorem sameKey_text {k : Datum} : sameKey k (.text name) = true ↔ k = .text name := by
  cases k <;> simp [sameKey, number?]

theorem sameKey_texts (name other : String) :
    sameKey (.text name) (.text other) = decide (other = name) := by
  rw [Bool.eq_iff_iff, sameKey_text, decide_eq_true_iff, Datum.text.injEq, eq_comm]

theorem entry?_cons (k v : Datum) (es : Entries) (name : String) :
    entry? name ((k, v) :: es) = if sameKey k (.text name) then some v else entry? name es := by
  unfold entry?
  cases h : sameKey k (.text name) <;> simp [h]

theorem insertEntry_cons_of_same {k v : Datum} (h : sameKey k (.text name) = true) :
    insertEntry (.text name) value ((k, v) :: es) = (k, value) :: es := by
  rw [insertEntry, if_pos h]

theorem insertEntry_cons_of_other {k v : Datum} (h : sameKey k (.text name) = false) :
    insertEntry (.text name) value ((k, v) :: es) =
      (k, v) :: insertEntry (.text name) value es := by
  rw [insertEntry, h]
  rfl

theorem entry?_insertEntry (name other : String) (value : Datum) (es : Entries) :
    entry? other (insertEntry (.text name) value es) =
      if other = name then some value else entry? other es := by
  induction es with
  | nil =>
      rw [insertEntry, entry?_cons, sameKey_texts]
      simp
  | cons e es ih =>
      obtain ⟨k, v⟩ := e
      cases hsame : sameKey k (.text name) with
      | true =>
          obtain rfl := sameKey_text.mp hsame
          rw [insertEntry_cons_of_same hsame, entry?_cons, entry?_cons, sameKey_texts]
          by_cases h : other = name <;> simp [h]
      | false =>
          rw [insertEntry_cons_of_other hsame, entry?_cons, entry?_cons, ih]
          by_cases h : other = name
          · subst h
            simp [hsame]
          · simp [h]

/-- An entry that is put at the same key again leaves no trace of the first. -/
theorem insertEntry_insertEntry (name : String) (value value' : Datum) (es : Entries) :
    insertEntry (.text name) value (insertEntry (.text name) value' es) =
      insertEntry (.text name) value es := by
  induction es with
  | nil => exact insertEntry_cons_of_same (sameKey_text.mpr rfl)
  | cons e es ih =>
      obtain ⟨k, v⟩ := e
      cases hsame : sameKey k (.text name) with
      | true =>
          rw [insertEntry_cons_of_same hsame, insertEntry_cons_of_same hsame,
            insertEntry_cons_of_same hsame]
      | false =>
          rw [insertEntry_cons_of_other hsame, insertEntry_cons_of_other hsame,
            insertEntry_cons_of_other hsame, ih]

theorem mem_insertEntry {e : Datum × Datum} (h : e ∈ insertEntry (.text name) value es) :
    e = (.text name, value) ∨ e ∈ es := by
  induction es with
  | nil => exact Or.inl (List.mem_singleton.mp h)
  | cons first es ih =>
      obtain ⟨k, v⟩ := first
      cases hsame : sameKey k (.text name) with
      | true =>
          obtain rfl := sameKey_text.mp hsame
          rw [insertEntry_cons_of_same hsame] at h
          rcases List.mem_cons.mp h with rfl | h
          · exact Or.inl rfl
          · exact Or.inr (List.mem_cons_of_mem _ h)
      | false =>
          rw [insertEntry_cons_of_other hsame] at h
          rcases List.mem_cons.mp h with rfl | h
          · exact Or.inr List.mem_cons_self
          · rcases ih h with h | h
            · exact Or.inl h
            · exact Or.inr (List.mem_cons_of_mem _ h)

theorem areNamed_insertEntry (name : String) (value : Datum) (es : Entries) :
    Entries.areNamed (insertEntry (.text name) value es) = Entries.areNamed es := by
  induction es with
  | nil => rfl
  | cons e es ih =>
      obtain ⟨k, v⟩ := e
      cases hsame : sameKey k (.text name) with
      | true => rw [insertEntry_cons_of_same hsame, Entries.areNamed, Entries.areNamed,
          List.all_cons, List.all_cons]
      | false =>
          unfold Entries.areNamed at ih ⊢
          rw [insertEntry_cons_of_other hsame, List.all_cons, List.all_cons, ih]

end CaptureConfig.Datum
