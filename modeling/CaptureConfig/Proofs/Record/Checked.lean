import CaptureConfig.Proofs.Datum.Entry
import CaptureConfig.Proofs.Steps

/-!
# When a record is read

A record is read when all its keys are texts and each of its fields is read, from the entry at its name or
by default.
-/

namespace CaptureConfig

variable {α β : Type}

namespace Checked

theorem ap_eq_ok {f : Checked (α → β)} {x : Checked α} {b : β} :
    ap f x = .ok b ↔ ∃ g a, f = .ok g ∧ x = .ok a ∧ g a = b := by
  cases f <;> cases x <;> simp [ap]

theorem within_eq_ok {place : String} {x : Checked α} {a : α} : x.within place = .ok a ↔ x = .ok a :=
  Steps.mapError_eq_ok

end Checked

namespace Entries

variable {es es' : Entries} {name title : String} {a default : α} {read : Datum → Checked α}

theorem optional_of_none (h : Datum.entry? name es = none) : es.optional name default read = .ok default := by
  rw [optional, h]

theorem optional_of_some {d : Datum} (h : Datum.entry? name es = some d) :
    es.optional name default read = .ok a ↔ read d = .ok a := by
  rw [optional, h]
  exact Checked.within_eq_ok

/-- A field that is read from texts, and whose default is accepted as it is, is read from a text in any case. -/
theorem exists_text {default word : String} {read : Datum → Checked String}
    (hread : ∀ d, read d = d.asText >>= fun s => read (.text s)) (hdefault : read (.text default) = .ok default)
    (h : es.optional name default read = .ok word) :
    ∃ s, read (.text s) = .ok word ∧ ∀ v, Datum.entry? name es = some (.text v) → s = v := by
  cases hentry : Datum.entry? name es with
  | none =>
      rw [optional_of_none hentry] at h
      obtain rfl := Except.ok.inj h
      exact ⟨default, hdefault, nofun⟩
  | some d =>
      rw [optional_of_some hentry, hread] at h
      obtain ⟨s, hs, hword⟩ := Steps.bind_eq_ok.mp h
      refine ⟨s, hword, fun v hv => ?_⟩
      obtain rfl := Option.some.inj hv
      exact (Except.ok.inj hs).symm

theorem optional_congr (h : Datum.entry? name es = Datum.entry? name es') :
    es.optional name default read = es'.optional name default read := by
  rw [optional, optional, h]

theorem optional_insertEntry {value : Datum} :
    optional (Datum.insertEntry (.text name) value es) name default read = .ok a ↔
      read value = .ok a :=
  optional_of_some (by rw [Datum.entry?_insertEntry, if_pos rfl])

theorem optional_insertEntry_of_ne {other : String} {value : Datum} (h : other ≠ name) :
    optional (Datum.insertEntry (.text name) value es) other default read =
      optional es other default read :=
  optional_congr (by rw [Datum.entry?_insertEntry, if_neg h])

theorem build_eq_ok {read : Entries → Checked α} :
    es.build title read = .ok a ↔ es.areNamed = true ∧ read es = .ok a := by
  unfold build
  cases es.areNamed with
  | false => simp
  | true => simp [Steps.mapError_eq_ok, Checked.titled]

end Entries

end CaptureConfig
