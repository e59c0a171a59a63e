import Mathlib.Data.List.Forall2

/-!
# Fallible steps one after another

A list of steps goes on to the first one that fails. So it succeeds when every step does, and the fault
of a list that fails is that of its first failing step, whatever comes after that.
-/

namespace CaptureConfig.Steps

variable {α β ε : Type}

/-- The fault `e` is that of the first step that fails: all steps before it succeed. -/
def FirstFault (f : α → Except ε β) (xs : List α) (e : ε) : Prop :=
  ∃ before x after, xs = before ++ x :: after ∧ (∀ b ∈ before, ∃ y, f b = .ok y) ∧ f x = .error e

/-- Outcomes can be compared, so that what concrete steps give can be evaluated. -/
instance decidableEqExcept [DecidableEq ε] [DecidableEq α] : DecidableEq (Except ε α)
  | .ok a, .ok b => decidable_of_iff (a = b) (by simp)
  | .error d, .error e => decidable_of_iff (d = e) (by simp)
  | .ok _, .error _ => isFalse (by simp)
  | .error _, .ok _ => isFalse (by simp)

/-- It can be evaluated whether a step succeeds, and whether it fails with a given fault. -/
instance decidableExistsOk : (x : Except ε α) → Decidable (∃ a, x = .ok a)
  | .ok a => isTrue ⟨a, rfl⟩
  | .error _ => isFalse (by simp)

instance decidableEqError [DecidableEq ε] (e : ε) : (x : Except ε α) → Decidable (x = .error e)
  | .ok _ => isFalse (by simp)
  | .error d => decidable_of_iff (d = e) (by simp)

theorem bind_eq_ok {x : Except ε α} {f : α → Except ε β} {b : β} :
    (x >>= f) = .ok b ↔ ∃ a, x = .ok a ∧ f a = .ok b := by
  cases x <;> simp [bind, Except.bind]

theorem bind_eq_error {x : Except ε α} {f : α → Except ε β} {e : ε} :
    (x >>= f) = .error e ↔ x = .error e ∨ ∃ a, x = .ok a ∧ f a = .error e := by
  cases x <;> simp [bind, Except.bind]

theorem map_eq_ok {x : Except ε α} {f : α → β} {b : β} :
    x.map f = .ok b ↔ ∃ a, x = .ok a ∧ f a = b := by
  cases x <;> simp [Except.map]

theorem map_eq_error {x : Except ε α} {f : α → β} {e : ε} :
    x.map f = .error e ↔ x = .error e := by
  cases x <;> simp [Except.map]

theorem mapError_eq_ok {δ : Type} {x : Except ε α} {f : ε → δ} {a : α} :
    x.mapError f = .ok a ↔ x = .ok a := by
  cases x <;> simp [Except.mapError]

theorem mapError_eq_error {δ : Type} {x : Except ε α} {f : ε → δ} {d : δ} :
    x.mapError f = .error d ↔ ∃ e, x = .error e ∧ f e = d := by
  cases x <;> simp [Except.mapError]

/-- An outcome is a result or a fault. -/
theorem exists_ok_or_error (x : Except ε α) : (∃ a, x = .ok a) ∨ ∃ e, x = .error e := by
  cases x with
  | ok a => exact Or.inl ⟨a, rfl⟩
  | error e => exact Or.inr ⟨e, rfl⟩

theorem not_ok_iff {x : Except ε α} : (¬ ∃ a, x = .ok a) ↔ ∃ e, x = .error e := by
  cases x <;> simp

/-! ## All steps succeed -/

theorem mapM_eq_ok {f : α → Except ε β} {xs : List α} {ys : List β} :
    xs.mapM f = .ok ys ↔ List.Forall₂ (fun x y => f x = .ok y) xs ys := by
  induction xs generalizing ys with
  | nil => cases ys <;> simp [pure, Except.pure]
  | cons x xs ih =>
      rw [List.mapM_cons, bind_eq_ok, List.forall₂_cons_left_iff]
      constructor
      · rintro ⟨y, hy, h⟩
        obtain ⟨zs, hzs, hout⟩ := bind_eq_ok.mp h
        exact ⟨y, zs, hy, ih.mp hzs, (Except.ok.inj hout).symm⟩
      · rintro ⟨y, zs, hy, hzs, rfl⟩
        exact ⟨y, hy, bind_eq_ok.mpr ⟨zs, ih.mpr hzs, rfl⟩⟩

theorem mapM_ok_iff {f : α → Except ε β} {xs : List α} :
    (∃ ys, xs.mapM f = .ok ys) ↔ ∀ x ∈ xs, ∃ y, f x = .ok y := by
  simp only [mapM_eq_ok]
  induction xs with
  | nil => simp
  | cons x xs ih =>
      simp only [List.forall₂_cons_left_iff, List.forall_mem_cons, ← ih]
      constructor
      · rintro ⟨_, y, ys, hy, hys, rfl⟩
        exact ⟨⟨y, hy⟩, ys, hys⟩
      · rintro ⟨⟨y, hy⟩, ys, hys⟩
        exact ⟨_, y, ys, hy, hys, rfl⟩

theorem mapM_mapError {δ : Type} {f : α → Except ε β} {g : ε → δ} {xs : List α} :
    (xs.mapM f).mapError g = xs.mapM fun x => (f x).mapError g := by
  induction xs with
  | nil => rfl
  | cons x xs ih =>
      rw [List.mapM_cons, List.mapM_cons, ← ih]
      cases f x with
      | error e => rfl
      | ok y => cases xs.mapM f <;> rfl

theorem mapM_congr {f g : α → Except ε β} {xs : List α} (h : ∀ x ∈ xs, f x = g x) :
    xs.mapM f = xs.mapM g := by
  induction xs with
  | nil => rfl
  | cons x xs ih =>
      rw [List.forall_mem_cons] at h
      rw [List.mapM_cons, List.mapM_cons, h.1, ih h.2]

theorem mapM_of_forall_ok {f : α → Except ε β} {g : α → β} {xs : List α}
    (h : ∀ x ∈ xs, f x = .ok (g x)) : xs.mapM f = .ok (xs.map g) := by
  rw [mapM_congr h]
  exact List.mapM_pure

/-! ## The first failing step -/

theorem firstFault_nil {f : α → Except ε β} {e : ε} : ¬ FirstFault f [] e := by
  rintro ⟨before, x, after, h, -, -⟩
  simp at h

theorem firstFault_cons {f : α → Except ε β} {x : α} {xs : List α} {e : ε} :
    FirstFault f (x :: xs) e ↔ f x = .error e ∨ (∃ y, f x = .ok y) ∧ FirstFault f xs e := by
  constructor
  · rintro ⟨before, z, after, h, hbefore, hz⟩
    cases before with
    | nil =>
        obtain ⟨rfl, rfl⟩ := List.cons.inj h
        exact Or.inl hz
    | cons b before =>
        obtain ⟨rfl, rfl⟩ := List.cons.inj h
        have hx := hbefore x List.mem_cons_self
        exact Or.inr ⟨hx, before, z, after, rfl,
          fun c hc => hbefore c (List.mem_cons_of_mem _ hc), hz⟩
  · rintro (h | ⟨hx, before, z, after, rfl, hbefore, hz⟩)
    · exact ⟨[], x, xs, rfl, by simp, h⟩
    · exact ⟨x :: before, z, after, rfl, by simpa using ⟨hx, hbefore⟩, hz⟩

theorem mapM_eq_error {f : α → Except ε β} {xs : List α} {e : ε} :
    xs.mapM f = .error e ↔ FirstFault f xs e := by
  induction xs with
  | nil => simp [firstFault_nil, pure, Except.pure]
  | cons x xs ih =>
      rw [List.mapM_cons, firstFault_cons, bind_eq_error]
      constructor
      · rintro (h | ⟨y, hy, h⟩)
        · exact Or.inl h
        · rcases bind_eq_error.mp h with h | ⟨ys, -, h⟩
          · exact Or.inr ⟨⟨y, hy⟩, ih.mp h⟩
          · cases h
      · rintro (h | ⟨⟨y, hy⟩, h⟩)
        · exact Or.inl h
        · exact Or.inr ⟨y, hy, bind_eq_error.mpr (Or.inl (ih.mpr h))⟩

theorem firstFault_append {f : α → Except ε β} {xs ys : List α} {e : ε} :
    FirstFault f (xs ++ ys) e ↔
      FirstFault f xs e ∨ (∀ x ∈ xs, ∃ y, f x = .ok y) ∧ FirstFault f ys e := by
  induction xs with
  | nil => simp [firstFault_nil]
  | cons x xs ih =>
      simp only [List.cons_append, firstFault_cons, ih, List.forall_mem_cons]
      tauto

/-- Steps in groups fail as the same steps without groups do. -/
theorem firstFault_flatMap {γ : Type} {f : α → Except ε β} {group : γ → List α} {gs : List γ} {e : ε} :
    FirstFault (fun g => (group g).mapM f) gs e ↔ FirstFault f (gs.flatMap group) e := by
  induction gs with
  | nil => simp [firstFault_nil]
  | cons g gs ih =>
      rw [List.flatMap_cons, firstFault_cons, firstFault_append, mapM_eq_error, mapM_ok_iff, ih]

theorem firstFault_unique {f : α → Except ε β} {xs : List α} {e e' : ε} (h : FirstFault f xs e)
    (h' : FirstFault f xs e') : e = e' := by
  rw [← mapM_eq_error] at h h'
  exact Except.error.inj (h.symm.trans h')

/-- Either all steps succeed or one is the first to fail. -/
theorem all_ok_or_firstFault (f : α → Except ε β) (xs : List α) :
    (∀ x ∈ xs, ∃ y, f x = .ok y) ∨ ∃ e, FirstFault f xs e := by
  rcases exists_ok_or_error (xs.mapM f) with h | ⟨e, h⟩
  · exact Or.inl (mapM_ok_iff.mp h)
  · exact Or.inr ⟨e, mapM_eq_error.mp h⟩

theorem exists_firstFault_iff {f : α → Except ε β} {xs : List α} :
    (∃ e, FirstFault f xs e) ↔ ∃ x ∈ xs, ∃ e, f x = .error e := by
  constructor
  · rintro ⟨e, before, x, after, rfl, -, h⟩
    exact ⟨x, by simp, e, h⟩
  · rintro ⟨x, hx, e, h⟩
    rcases all_ok_or_firstFault f xs with hall | hfault
    · obtain ⟨y, hy⟩ := hall x hx
      rw [h] at hy
      cases hy
    · exact hfault

end CaptureConfig.Steps
