import CaptureConfig.Disk.Basic
import CaptureConfig.Proofs.Assoc
import CaptureConfig.Proofs.Steps

/-!
# Files that stay as they are

Bytes that are added to a file change that file alone, and making directories changes no file. A path goes on
leading to its file, since only directories lead on and none of them becomes anything else.
-/

namespace CaptureConfig.Disk

/-- A path leads, over the given names, to a file with the given bytes. -/
structure LeadsTo (d : Disk) (p : Path) (names : List String) (bytes : List UInt8) : Prop where
  located : d.locate p = .ok names
  held : d.entry? names = some (.file bytes)

/-- The second disk has all files of the first one, each with the same bytes. -/
def KeepsFiles (d d' : Disk) : Prop :=
  ∀ names bytes, d.entry? names = some (.file bytes) → d'.entry? names = some (.file bytes)

variable {d d' : Disk} {p : Path} {name root : String} {names start out parts : List String}
  {bytes : List UInt8} {e : DiskEntry}

/-! ## Putting one entry -/

theorem isFixed_eq_false (h : d.entry? names ≠ some .directory) : isFixed names = false := by
  rw [Bool.eq_false_iff]
  intro hfixed
  exact h (if_pos hfixed)

theorem entry?_put_of_ne {other : List String} (h : other ≠ names) :
    entry? (d.put names e) other = d.entry? other := by
  have hother : (other == names) = false := beq_false_of_ne h
  unfold entry? put
  rw [Assoc.lookup_insert, hother]
  rfl

theorem entry?_put_self (h : d.entry? names ≠ some .directory) :
    entry? (d.put names e) names = some e := by
  unfold entry? put
  rw [isFixed_eq_false h, Assoc.lookup_insert, beq_self_eq_true]
  rfl

/-- Only a directory leads on, so what is put at any other place is not on the way. -/
theorem next_put (hplace : d.entry? names ≠ some .directory) (h : d.next name start = .ok out) :
    (d.put names e).next name start = .ok out := by
  have hdirectory : d.entry? start = some .directory := by
    unfold next at h
    split at h
    · cases h
    · cases h
    · assumption
  have hne : start ≠ names := by
    rintro rfl
    exact hplace hdirectory
  rw [next, entry?_put_of_ne hne]
  exact h

theorem follow_put (hplace : d.entry? names ≠ some .directory) (h : d.follow start parts = .ok out) :
    (d.put names e).follow start parts = .ok out := by
  induction parts generalizing start with
  | nil => exact h
  | cons part parts ih =>
      obtain ⟨between, hnext, hrest⟩ := Steps.bind_eq_ok.mp h
      exact Steps.bind_eq_ok.mpr ⟨between, next_put hplace hnext, ih hrest⟩

theorem locate_put (hplace : d.entry? names ≠ some .directory) (h : d.locate p = .ok out) :
    (d.put names e).locate p = .ok out := by
  unfold locate at h ⊢
  split at h
  · cases h
  · rename_i hnull
    rw [if_neg hnull]
    exact follow_put hplace h

/-! ## Adding to a file -/

/-- Adding bytes puts a file at the place to which the path leads. There was a file before, or nothing. -/
theorem append_eq_ok : d.append p bytes = .ok d' ↔
    ∃ names old, d.locate p = .ok names ∧ d' = d.put names (.file (old ++ bytes)) ∧
      (old = [] ∧ d.entry? names = none ∨ d.entry? names = some (.file old)) := by
  unfold append
  cases hplace : d.locate p with
  | error cause => simp
  | ok names =>
      cases hentry : d.entry? names with
      | none => simp [hentry, eq_comm]
      | some entry => cases entry <;> simp [hentry, eq_comm]

theorem LeadsTo.append {old : List UInt8} (h : d.LeadsTo p names old) (bytes : List UInt8) :
    d.append p bytes = .ok (d.put names (.file (old ++ bytes))) :=
  append_eq_ok.mpr ⟨names, old, h.located, rfl, Or.inr h.held⟩

theorem LeadsTo.put {old : List UInt8} (h : d.LeadsTo p names old) (bytes : List UInt8) :
    (d.put names (.file bytes)).LeadsTo p names bytes := by
  have hplace : d.entry? names ≠ some .directory := by
    rw [h.held]
    simp
  exact ⟨locate_put hplace h.located, entry?_put_self hplace⟩

/-- A file to which bytes have been added is one to which the path leads. -/
theorem leadsTo_of_append (h : d.append p bytes = .ok d') :
    ∃ names old, d'.LeadsTo p names (old ++ bytes) := by
  obtain ⟨names, old, hlocated, rfl, hentry⟩ := append_eq_ok.mp h
  have hplace : d.entry? names ≠ some .directory := by
    rcases hentry with ⟨-, hentry⟩ | hentry <;> simp [hentry]
  exact ⟨names, old, locate_put hplace hlocated, entry?_put_self hplace⟩

/-! ## Files that are kept -/

theorem KeepsFiles.refl (d : Disk) : KeepsFiles d d := fun _ _ h => h

theorem KeepsFiles.trans {d'' : Disk} (h : KeepsFiles d d') (h' : KeepsFiles d' d'') :
    KeepsFiles d d'' :=
  fun names bytes hfile => h' names bytes (h names bytes hfile)

theorem keepsFiles_put_of_none (h : d.entry? names = none) : KeepsFiles d (d.put names e) := by
  intro other bytes hfile
  have hne : other ≠ names := by
    rintro rfl
    rw [h] at hfile
    cases hfile
  rw [entry?_put_of_ne hne, hfile]

/-- Opening a file adds nothing to it. -/
theorem keepsFiles_append_nil (h : d.append p [] = .ok d') : KeepsFiles d d' := by
  obtain ⟨names, old, -, rfl, ⟨-, hentry⟩ | hentry⟩ := append_eq_ok.mp h
  · exact keepsFiles_put_of_none hentry
  · intro other bytes hfile
    by_cases hother : other = names
    · subst hother
      rw [entry?_put_self (by simp [hentry]), List.append_nil, ← hentry, hfile]
    · rw [entry?_put_of_ne hother, hfile]

theorem keepsFiles_makeDirectory (h : d.makeDirectory p = .ok d') : KeepsFiles d d' := by
  obtain ⟨names, -, hput⟩ := Steps.bind_eq_ok.mp h
  split at hput
  · cases hput
  · rename_i hnone
    obtain rfl := Except.ok.inj hput
    exact keepsFiles_put_of_none hnone

theorem keepsFiles_ensureDirectory (h : d.ensureDirectory p = .ok d') : KeepsFiles d d' := by
  unfold ensureDirectory at h
  split at h
  · rename_i hmade
    obtain rfl := Except.ok.inj h
    exact keepsFiles_makeDirectory hmade
  · split at h
    · obtain rfl := Except.ok.inj h
      exact .refl d
    · cases h

/-- What a request that can be refused on the way leaves of a disk. -/
def left : Except (DiskFault × Disk) Disk → Disk
  | .ok d => d
  | .error (_, d) => d

theorem keepsFiles_refused (p : Path) {outcome : Except DiskCause Disk}
    (h : ∀ d', outcome = .ok d' → KeepsFiles d d') :
    KeepsFiles d (left (ensureDirectories.refused d p outcome)) := by
  cases outcome with
  | ok d' => exact h d' rfl
  | error cause => exact .refl d

/-- Making directories keeps all files, whether or not they can all be made. -/
theorem keepsFiles_ensureDirectories (d : Disk) (root : String) (parts : List String) :
    KeepsFiles d (left (d.ensureDirectories root parts)) := by
  induction parts with
  | nil => exact keepsFiles_refused _ fun _ => keepsFiles_ensureDirectory
  | cons name before ih =>
      unfold ensureDirectories
      dsimp only
      split
      · -- the directory above is made first, and then this one on the disk that this leaves
        cases habove : d.ensureDirectories root before with
        | error refusal =>
            rw [habove] at ih
            exact ih
        | ok d' =>
            rw [habove] at ih
            exact ih.trans (keepsFiles_refused _ fun _ => keepsFiles_ensureDirectory)
      · exact keepsFiles_refused _ fun _ => keepsFiles_ensureDirectory

end CaptureConfig.Disk
