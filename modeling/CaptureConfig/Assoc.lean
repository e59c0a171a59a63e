/-!
# Ordered maps as lists of pairs

An entry keeps the place of its first insertion and the value of its last one.
-/

namespace CaptureConfig.Assoc

variable {κ β : Type} [BEq κ]

/-- Puts a value at a key: in place if the key is there, at the end otherwise. -/
def insert (key : κ) (value : β) : List (κ × β) → List (κ × β)
  | [] => [(key, value)]
  | (k, v) :: rest =>
    if k == key then (k, value) :: rest else (k, v) :: insert key value rest

/-- Puts several values, the later ones over the earlier ones. -/
def insertAll (entries : List (κ × β)) (pairs : List (κ × β)) : List (κ × β) :=
  pairs.foldl (fun es (k, v) => insert k v es) entries

/-- The map built from pairs in their order. -/
def ofPairs (pairs : List (κ × β)) : List (κ × β) :=
  insertAll [] pairs

section Laws

variable [LawfulBEq κ]

theorem mem_keys_insert {key x : κ} {value : β} {entries : List (κ × β)} :
    x ∈ (insert key value entries).map Prod.fst ↔ x = key ∨ x ∈ entries.map Prod.fst := by
  induction entries with
  | nil => simp [insert]
  | cons e rest ih =>
    obtain ⟨k, v⟩ := e
    simp only [insert]
    split
    · rename_i h
      have hk : k = key := eq_of_beq h
      subst hk
      simp
    · simp only [List.map_cons, List.mem_cons, ih]
      constructor
      · rintro (h | h | h) <;> simp [h]
      · rintro (h | h | h) <;> simp [h]

theorem nodup_keys_insert {key : κ} {value : β} {entries : List (κ × β)}
    (h : (entries.map Prod.fst).Nodup) : ((insert key value entries).map Prod.fst).Nodup := by
  induction entries with
  | nil => simp [insert]
  | cons e rest ih =>
    obtain ⟨k, v⟩ := e
    simp only [List.map_cons, List.nodup_cons] at h
    simp only [insert]
    split
    · simpa using h
    · rename_i hne
      simp only [List.map_cons, List.nodup_cons]
      refine ⟨?_, ih h.2⟩
      rw [mem_keys_insert]
      rintro (hk | hk)
      · exact hne (by simp [hk])
      · exact h.1 hk

theorem nodup_keys_insertAll {pairs entries : List (κ × β)}
    (h : (entries.map Prod.fst).Nodup) : ((insertAll entries pairs).map Prod.fst).Nodup := by
  induction pairs generalizing entries with
  | nil => simpa [insertAll] using h
  | cons p rest ih => exact ih (nodup_keys_insert h)

end Laws

end CaptureConfig.Assoc
