import CaptureConfig.Proofs.Option.Store
import CaptureConfig.Proofs.Steps
import CaptureConfig.Proofs.Text.Integer
import CaptureConfig.Proofs.Text.Spelling
import CaptureConfig.Schema.Field

/-!
# Options with values

Truth values and integers are got from a store in the same way: the text of the option is given to a reader,
and the getter fails when that refuses it. The two getters differ in their readers and in the wording of their
faults alone.
-/

namespace CaptureConfig.Options

/-- An option read from its text; the given default is for an option without any text. -/
def readAs {α : Type} (read : String → Option α) (fault : String → String → OptionFault) (o : Options)
    (key : OptionKey) (default : Option α) : Except OptionFault (Option α) :=
  match o.text? key with
  | none => .ok default
  | some v =>
    match read v with
    | some a => .ok (some a)
    | none => .error (fault v key.name)

/-- The integer that a text denotes, if it does. -/
def readInteger? (v : String) : Option Int := (Text.readInteger v).toOption

/-! ## Readers -/

theorem readFlag?_eq_some_iff_respelled {v : String} {b : Bool} :
    readFlag? v = some b ↔ Text.Respelled (if b then "true" else "false") v := by
  rw [readFlag?_eq_some]
  cases b with
  | true => exact Text.lowered_trim_eq_iff (by decide)
  | false => exact Text.lowered_trim_eq_iff (by decide)

theorem readInteger?_eq_some {v : String} {i : Int} :
    readInteger? v = some i ↔ Text.readInteger v = .ok i := by
  unfold readInteger?
  cases Text.readInteger v <;> simp [Except.toOption]

/-! ## Getters -/

variable {α : Type} {read : String → Option α} {fault : String → String → OptionFault} {o p : Options}
  {key : OptionKey} {d : Option α}

theorem flag?_eq_readAs (o : Options) (key : OptionKey) (d : Option Bool) :
    o.flag? key d = o.readAs readFlag? .notBoolean key d := by
  unfold flag? readAs
  cases o.text? key with
  | none => rfl
  | some v => cases hv : readFlag? v <;> simp [hv]

theorem integer?_eq_readAs (o : Options) (key : OptionKey) (d : Option Int) :
    o.integer? key d = o.readAs readInteger? .notInteger key d := by
  unfold integer? readAs readInteger?
  cases o.text? key with
  | none => rfl
  | some v => cases hv : Text.readInteger v <;> simp [hv, Except.toOption]

theorem readAs_of_no_text (h : o.text? key = none) : o.readAs read fault key d = .ok d := by
  rw [readAs, h]

/-- With a text the given default plays no part. -/
theorem readAs_of_text {v : String} (h : o.text? key = some v) :
    o.readAs read fault key d =
      match read v with
      | some a => .ok (some a)
      | none => .error (fault v key.name) := by
  rw [readAs, h]

theorem readAs_ok_iff : (∃ a, o.readAs read fault key d = .ok a) ↔
    ∀ v, o.text? key = some v → ∃ a, read v = some a := by
  unfold readAs
  cases o.text? key with
  | none => simp
  | some v => cases hv : read v <;> simp [hv]

theorem readAs_eq_error {e : OptionFault} : o.readAs read fault key d = .error e ↔
    ∃ v, o.text? key = some v ∧ read v = none ∧ fault v key.name = e := by
  unfold readAs
  cases o.text? key with
  | none => simp
  | some v => cases hv : read v <;> simp [hv]

end CaptureConfig.Options
