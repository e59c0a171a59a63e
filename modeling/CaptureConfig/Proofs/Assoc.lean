import CaptureConfig.Assoc
import Mathlib.Data.List.Basic

/-!
# What an ordered map holds after insertions

Inserting pairs one after another leaves each new key once, at the place of its first pair, with the
value of its last one.
-/

namespace CaptureConfig.Assoc

variable {κ β : Type}

theorem keys_filterMap_keys (keys : List κ) (value? : κ → Option β) :
    (keys.filterMap fun k => (value? k).map fun v => (k, v)).map Prod.fst =
      keys.filter fun k => (value? k).isSome := by
  induction keys with
  | nil => rfl
  | cons k rest ih => cases hv : value? k <;> simp [hv, ih]

variable [BEq κ] [LawfulBEq κ]

theorem lookup_cons [DecidableEq κ] (key x : κ) (value : β) (entries : List (κ × β)) :
    ((key, value) :: entries).lookup x = if x = key then some value else entries.lookup x := by
  by_cases h : x = key
  · simp [h]
  · have hx : (x == key) = false := beq_false_of_ne h
    simp [List.lookup_cons, hx, h]

theorem lookup_insert (key x : κ) (value : β) (entries : List (κ × β)) :
    (insert key value entries).lookup x = if x == key then some value else entries.lookup x := by
  induction entries with
  | nil => cases h : x == key <;> simp [insert, List.lookup_cons, h]
  | cons e rest ih =>
      obtain ⟨k, v⟩ := e
      by_cases hk : k = key
      · subst hk
        cases h : x == k <;> simp [insert, List.lookup_cons, h]
      · by_cases hx : x = k
        · subst hx
          simp [insert, hk]
        · have hxk : (x == k) = false := beq_false_of_ne hx
          simp [insert, hk, List.lookup_cons, ih, hxk]

/-- Where keys are distinct, what is found is what is there. -/
theorem lookup_eq_some {entries : List (κ × β)} (h : (entries.map Prod.fst).Nodup) {x : κ} {value : β} :
    entries.lookup x = some value ↔ (x, value) ∈ entries := by
  induction entries with
  | nil => simp
  | cons e rest ih =>
      obtain ⟨k, v⟩ := e
      rw [List.map_cons, List.nodup_cons] at h
      by_cases hx : x = k
      · subst hx
        have hrest : (x, value) ∉ rest := by
          intro hmem
          exact h.1 (List.mem_map.mpr ⟨_, hmem, rfl⟩)
        simp [hrest, eq_comm]
      · have hxk : (x == k) = false := beq_false_of_ne hx
        simp [List.lookup_cons, hxk, hx, ih h.2]

/-- What is found among the values that some keys have. -/
theorem lookup_filterMap_keys (keys : List κ) (value? : κ → Option β) (x : κ) :
    (keys.filterMap fun k => (value? k).map fun v => (k, v)).lookup x =
      if x ∈ keys then value? x else none := by
  induction keys with
  | nil => rfl
  | cons k rest ih =>
      by_cases hx : x = k
      · subst hx
        cases hv : value? x with
        | none => simp [hv, ih]
        | some v => simp [hv]
      · have hxk : (x == k) = false := beq_false_of_ne hx
        cases hv : value? k <;> simp [hv, ih, hx, List.lookup_cons, hxk]

theorem keys_insert_of_mem {key : κ} {value : β} {entries : List (κ × β)}
    (h : key ∈ entries.map Prod.fst) :
    (insert key value entries).map Prod.fst = entries.map Prod.fst := by
  induction entries with
  | nil => simp at h
  | cons e rest ih =>
      obtain ⟨k, v⟩ := e
      by_cases hk : k = key
      · simp [insert, hk]
      · have hrest : key ∈ rest.map Prod.fst := by
          rcases List.mem_cons.mp h with h | h
          · exact absurd h.symm hk
          · exact h
        simp [insert, hk, ih hrest]

theorem insert_of_not_mem {key : κ} {value : β} {entries : List (κ × β)}
    (h : key ∉ entries.map Prod.fst) : insert key value entries = entries ++ [(key, value)] := by
  induction entries with
  | nil => rfl
  | cons e rest ih =>
      obtain ⟨k, v⟩ := e
      simp only [List.map_cons, List.mem_cons, not_or] at h
      simp [insert, Ne.symm h.1, ih h.2]

theorem keys_insert_of_not_mem {key : κ} {value : β} {entries : List (κ × β)}
    (h : key ∉ entries.map Prod.fst) :
    (insert key value entries).map Prod.fst = entries.map Prod.fst ++ [key] := by
  rw [insert_of_not_mem h, List.map_append]
  rfl

/-- The old keys keep their places, and the new ones follow in the order of their first pairs. -/
theorem keys_insertAll (entries pairs : List (κ × β)) :
    (insertAll entries pairs).map Prod.fst =
      entries.map Prod.fst ++ ((pairs.map Prod.fst).removeAll (entries.map Prod.fst)).eraseDups := by
  induction pairs generalizing entries with
  | nil => simp [insertAll, List.removeAll]
  | cons p rest ih =>
      obtain ⟨k, v⟩ := p
      change (insertAll (insert k v entries) rest).map Prod.fst = _
      rw [ih, List.map_cons]
      -- a known key keeps its place; a new one ends the old keys, and its later pairs add nothing
      by_cases hk : k ∈ entries.map Prod.fst
      · rw [keys_insert_of_mem hk, List.cons_removeAll]
        simp [hk]
      · rw [keys_insert_of_not_mem hk, List.cons_removeAll]
        have hrest : (rest.map Prod.fst).removeAll (entries.map Prod.fst ++ [k]) =
            ((rest.map Prod.fst).removeAll (entries.map Prod.fst)).filter fun b => !b == k := by
          rw [List.removeAll, List.removeAll, List.filter_filter]
          apply List.filter_congr
          intro x _
          simp only [List.elem_eq_contains, List.contains_append, Bool.not_or]
          rw [Bool.and_comm, List.contains_cons, List.contains_nil, Bool.or_false]
        simp [hk, hrest, List.eraseDups_cons]

/-- The last pair of a key decides; without one the key keeps its old value. -/
theorem lookup_insertAll (entries pairs : List (κ × β)) (x : κ) :
    (insertAll entries pairs).lookup x = (pairs.reverse.lookup x).or (entries.lookup x) := by
  induction pairs generalizing entries with
  | nil => rfl
  | cons p rest ih =>
      obtain ⟨k, v⟩ := p
      change (insertAll (insert k v entries) rest).lookup x = _
      rw [ih, lookup_insert, List.reverse_cons, List.lookup_append]
      cases h : x == k <;> simp [List.lookup_cons, h]

theorem keys_ofPairs (pairs : List (κ × β)) :
    (ofPairs pairs).map Prod.fst = (pairs.map Prod.fst).eraseDups := by
  have h := keys_insertAll [] pairs
  simpa [ofPairs, List.removeAll] using h

/-- Pairs with new and distinct keys follow the old entries as they are. -/
theorem insertAll_of_nodup {entries pairs : List (κ × β)}
    (h : ((entries ++ pairs).map Prod.fst).Nodup) : insertAll entries pairs = entries ++ pairs := by
  induction pairs generalizing entries with
  | nil => simp [insertAll]
  | cons p rest ih =>
      obtain ⟨k, v⟩ := p
      have hassoc : entries ++ (k, v) :: rest = (entries ++ [(k, v)]) ++ rest := by simp
      rw [hassoc] at h ⊢
      have hnew : k ∉ entries.map Prod.fst := by
        rw [List.map_append, List.map_append, List.nodup_append] at h
        intro hmem
        have hfirst := h.1
        rw [List.nodup_append] at hfirst
        exact hfirst.2.2 k hmem k (by simp) rfl
      change insertAll (insert k v entries) rest = _
      rw [insert_of_not_mem hnew, ih h]

theorem ofPairs_of_nodup {pairs : List (κ × β)} (h : (pairs.map Prod.fst).Nodup) :
    ofPairs pairs = pairs :=
  insertAll_of_nodup (by simpa using h)

theorem lookup_ofPairs (pairs : List (κ × β)) (x : κ) :
    (ofPairs pairs).lookup x = pairs.reverse.lookup x := by
  simp [ofPairs, lookup_insertAll]

/-- What a map holds is what the last pair of each key says. -/
theorem mem_ofPairs {pairs : List (κ × β)} {x : κ} {value : β} : (x, value) ∈ ofPairs pairs ↔
    ∃ before after, pairs = before ++ (x, value) :: after ∧ ∀ p ∈ after, p.1 ≠ x := by
  have hnodup : ((ofPairs pairs).map Prod.fst).Nodup := nodup_keys_insertAll (by simp)
  rw [← lookup_eq_some hnodup, lookup_ofPairs, List.lookup_eq_some_iff]
  constructor
  · rintro ⟨after, before, hsplit, hafter⟩
    refine ⟨before.reverse, after.reverse, ?_, fun p hp => ?_⟩
    · rw [List.reverse_eq_iff.mp hsplit]
      simp
    · exact Ne.symm (bne_iff_ne.mp (hafter p (List.mem_reverse.mp hp)))
  · rintro ⟨before, after, rfl, hafter⟩
    refine ⟨after.reverse, before.reverse, by simp, fun p hp => ?_⟩
    exact bne_iff_ne.mpr (Ne.symm (hafter p (List.mem_reverse.mp hp)))

end CaptureConfig.Assoc
