import CaptureConfig.Option.Store
import CaptureConfig.Proofs.Assoc

/-!
# Reading a store of options

What a getter gives depends on the text of its own option and on nothing else in the store.
-/

namespace CaptureConfig.Options

theorem get?_withPairs (o : Options) (pairs : List (String × String)) (name : String) :
    (o.withPairs pairs).get? name = (pairs.reverse.lookup name).or (o.get? name) :=
  Assoc.lookup_insertAll o.entries pairs name

theorem get?_withPairs_one (o : Options) (name value x : String) :
    (o.withPairs [(name, value)]).get? x = if x = name then some value else o.get? x := by
  rw [get?_withPairs, List.reverse_singleton, Assoc.lookup_cons]
  by_cases h : x = name <;> simp [h]

theorem get?_eq_some {o : Options} {name value : String} :
    o.get? name = some value ↔ (name, value) ∈ o.entries :=
  Assoc.lookup_eq_some o.distinct

/-- A text names a truth value when it is its word, white space around it and case aside. -/
theorem readFlag?_eq_some {v : String} {b : Bool} :
    readFlag? v = some b ↔ Text.lowered (Text.trim v) = if b then "true" else "false" := by
  unfold readFlag?
  by_cases htrue : Text.lowered (Text.trim v) = "true"
  · cases b <;> simp [htrue]
  · by_cases hfalse : Text.lowered (Text.trim v) = "false" <;> cases b <;> simp [htrue, hfalse]

/-! ## Getters of two stores -/

variable {o p : Options} {key : OptionKey}

theorem text?_congr (h : o.get? key.name = p.get? key.name) (default : Option String) :
    o.text? key default = p.text? key default := by
  rw [text?, text?, h]

theorem flag?_congr (h : o.get? key.name = p.get? key.name) (default : Option Bool) :
    o.flag? key default = p.flag? key default := by
  rw [flag?, flag?, text?_congr h]

end CaptureConfig.Options
