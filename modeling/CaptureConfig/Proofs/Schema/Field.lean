import CaptureConfig.Schema.Field
import Mathlib.Data.List.Nodup

/-!
# Looking up fields

The names of a schema are distinct, so each field is found under its own name, and the place of a name
among them is the place of its field.
-/

namespace CaptureConfig.Schema

variable {s : Schema} {f : Field}

theorem field?_of_mem (h : f ∈ s.fields) : s.field? f.name = .ok f := by
  have hfind : s.fields.find? (fun g => g.name == f.name) = some f := by
    rw [List.find?_eq_some_iff_append]
    obtain ⟨before, after, hfields⟩ := List.append_of_mem h
    refine ⟨by simp, before, after, hfields, fun g hg => ?_⟩
    have hdistinct := s.distinct
    rw [hfields, List.map_append, List.map_cons, List.nodup_append] at hdistinct
    have hne : g.name ≠ f.name :=
      hdistinct.2.2 g.name (List.mem_map_of_mem hg) f.name List.mem_cons_self
    simpa using hne
  rw [field?, hfind]

theorem field?_eq_ok {name : String} : s.field? name = .ok f ↔ f ∈ s.fields ∧ f.name = name := by
  constructor
  · intro h
    unfold field? at h
    split at h
    · rename_i g hfind
      obtain rfl := Except.ok.inj h
      have hname : g.name = name := by simpa using List.find?_some hfind
      exact ⟨List.mem_of_find?_eq_some hfind, hname⟩
    · cases h
  · rintro ⟨hmem, rfl⟩
    exact field?_of_mem hmem

theorem mem_of_field? {name : String} (h : s.field? name = .ok f) : f ∈ s.fields :=
  (field?_eq_ok.mp h).1

/-- A field cannot be found exactly when its name is not one of the schema. -/
theorem field?_eq_error {name : String} {fault : OptionFault} :
    s.field? name = .error fault ↔ name ∉ s.names ∧ .unknownField name = fault := by
  unfold field? names
  cases hfind : s.fields.find? fun f => f.name == name with
  | some f =>
      have hmem : name ∈ s.fields.map Field.name :=
        List.mem_map.mpr ⟨f, List.mem_of_find?_eq_some hfind, by simpa using List.find?_some hfind⟩
      simp [hmem]
  | none =>
      have hnone : name ∉ s.fields.map Field.name := by
        rw [List.mem_map]
        rintro ⟨f, hf, rfl⟩
        exact absurd (List.find?_eq_none.mp hfind f hf) (by simp)
      simp [hnone]

/-- The fields come in the order of their names. -/
theorem fields_pairwise (s : Schema) :
    s.fields.Pairwise fun f g => s.names.idxOf f.name ≤ s.names.idxOf g.name := by
  rw [List.pairwise_iff_getElem]
  intro i j hi hj hij
  have hplace : ∀ k (hk : k < s.fields.length), s.names.idxOf (s.fields[k]).name = k := by
    intro k hk
    have hk' : k < s.names.length := by simpa [names] using hk
    have hname : (s.fields[k]).name = s.names[k] := by simp [names]
    rw [hname]
    exact s.distinct.idxOf_getElem k hk'
  rw [hplace i hi, hplace j hj]
  exact Nat.le_of_lt hij

end CaptureConfig.Schema
