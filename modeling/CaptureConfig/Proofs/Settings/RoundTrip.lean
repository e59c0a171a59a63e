import CaptureConfig.Proofs.Option.Typed
import CaptureConfig.Proofs.Settings.Scalar
import CaptureConfig.Proofs.Text.Written

/-!
# Values that are got as they were given

An option is kept as a text, whatever value it was given. The getters of truth values and of integers read
what is written for such a value as that value, so it passes through the text unchanged, whether it comes
from a document or goes into a store at once.
-/

namespace CaptureConfig

/-- A value with a getter of its own: a truth value, or an integer without too many digits. -/
def Datum.IsTyped : Datum → Prop
  | .bool _ => True
  | .int i => Text.Writable i
  | _ => False

namespace Options

variable {m : List (String × Datum)} {ps : List (String × String)} {o : Options} {key : OptionKey}
  {v : Datum} {s : String} {b : Bool} {i : Int}

/-! ## What is written for a value -/

theorem readFlag?_of_write (h : scalarText? (.bool b) = some s) : readFlag? s = some b := by
  obtain rfl := Option.some.inj h
  cases b <;> exact readFlag?_eq_some.mpr (by decide +kernel)

theorem scalarText?_int (i : Int) : scalarText? (.int i) = Text.writeInteger? i := by
  simp only [scalarText?, Datum.text?, Datum.inner?]

theorem readInteger?_of_write (h : scalarText? (.int i) = some s) : readInteger? s = some i := by
  rw [scalarText?_int] at h
  exact readInteger?_eq_some.mpr (Text.readInteger_of_write h)

theorem exists_scalarText? (h : v.IsTyped) : ∃ s, scalarText? v = some s := by
  cases v with
  | bool b => exact ⟨_, rfl⟩
  | int i =>
      rw [scalarText?_int]
      exact ⟨_, Text.writeInteger?_eq_some.mpr ⟨h, rfl⟩⟩
  | _ => exact absurd h not_false

/-! ## What is got for it -/

/-- An option that is there has its own text, and no default counts. -/
theorem text?_of_get? (h : o.get? key.name = some s) : o.text? key = some s := by
  rw [text?, h]
  rfl

theorem text?_of_spelled (h : Spelled m ps) (hnames : (m.map Prod.fst).Nodup)
    (hmem : (key.name, v) ∈ m) (hv : v ≠ .null) :
    ∃ s, scalarText? v = some s ∧ (ofPairs ps).text? key = some s := by
  obtain ⟨s, hs, hin⟩ := h.mem hmem hv
  have hentries : (ofPairs ps).entries = ps :=
    Assoc.ofPairs_of_nodup (h.names_sublist.nodup hnames)
  rw [← hentries] at hin
  exact ⟨s, hs, text?_of_get? (get?_eq_some.mpr hin)⟩

theorem flag?_of_spelled (h : Spelled m ps) (hnames : (m.map Prod.fst).Nodup)
    (hmem : (key.name, .bool b) ∈ m) (d : Option Bool) : (ofPairs ps).flag? key d = .ok (some b) := by
  obtain ⟨s, hs, htext⟩ := text?_of_spelled h hnames hmem nofun
  rw [flag?_eq_readAs, readAs_of_text htext, readFlag?_of_write hs]

theorem integer?_of_spelled (h : Spelled m ps) (hnames : (m.map Prod.fst).Nodup)
    (hmem : (key.name, .int i) ∈ m) (d : Option Int) : (ofPairs ps).integer? key d = .ok (some i) := by
  obtain ⟨s, hs, htext⟩ := text?_of_spelled h hnames hmem nofun
  rw [integer?_eq_readAs, readAs_of_text htext, readInteger?_of_write hs]

end Options

namespace Settings

open Options (Spelled)

variable {m : List (String × Datum)}

/-- **Truth values and integers are got as they were given.** A store of truth values and of integers with
at most 4300 digits can be made at once, or from the properties of a document. From either store, each truth
value and each integer is got by its name unchanged, whatever the defaults. -/
theorem typed_values_are_got_unchanged (hnames : (m.map Prod.fst).Nodup)
    (htyped : ∀ e ∈ m, e.2.IsTyped) :
    ∃ o settings, Options.ofScalars? m = some o ∧ ofProperties m = .ok settings ∧
      ∀ store ∈ [o, Options.ofPairs settings.properties], ∀ key : OptionKey,
        (∀ b d, (key.name, .bool b) ∈ m → store.flag? key d = .ok (some b)) ∧
          ∀ i d, (key.name, .int i) ∈ m → store.integer? key d = .ok (some i) := by
  have hscalar : ∀ e ∈ m, e.2 = .null ∨ isScalar e.2 = true := by
    rintro ⟨name, v⟩ he
    have hv : v.IsTyped := htyped _ he
    cases v with
    | bool b => exact Or.inr rfl
    | int i => exact Or.inr rfl
    | _ => exact absurd hv not_false
  obtain ⟨ps, hspelled⟩ : ∃ ps, Spelled m ps :=
    Options.exists_spelled.mpr fun e he => Or.inr (Options.exists_scalarText? (htyped e he))
  have hdistinct : (ps.map Prod.fst).Nodup := hspelled.names_sublist.nodup hnames
  have hload : ofProperties m = .ok ⟨ps, {}⟩ := ofProperties_of_spelled hscalar hspelled hdistinct
  refine ⟨_, _, Options.ofScalars?_eq_some.mpr ⟨ps, hspelled, rfl⟩, hload, fun store hstore key => ?_⟩
  -- the two stores are one
  have hsame : store = Options.ofPairs ps := by simpa using hstore
  rw [hsame]
  exact ⟨fun b d hmem => Options.flag?_of_spelled hspelled hnames hmem d,
    fun i d hmem => Options.integer?_of_spelled hspelled hnames hmem d⟩

/-- A negative integer, zero and both truth values, got with defaults that differ from them. -/
theorem typed_values_got_from_document :
    let m : List (String × Datum) :=
      [("poll", .int (-12)), ("retries", .int 0), ("ssl", .bool true), ("heartbeat", .bool false)]
    (m.map Prod.fst).Nodup ∧ (∀ e ∈ m, e.2.IsTyped) ∧
      ∃ settings, ofProperties m = .ok settings ∧
        let o := Options.ofPairs settings.properties
        o.integer? ⟨"poll", some "5"⟩ (some 7) = .ok (some (-12)) ∧
          o.integer? ⟨"retries", none⟩ (some 3) = .ok (some 0) ∧
          o.flag? ⟨"ssl", some "false"⟩ = .ok (some true) ∧
          o.flag? ⟨"heartbeat", none⟩ (some true) = .ok (some false) := by
  intro m
  have hnames : (m.map Prod.fst).Nodup := by decide
  have htyped : ∀ e ∈ m, e.2.IsTyped := by
    have hdigits : Text.Writable (-12) ∧ Text.Writable 0 := by simp [Text.Writable, Text.maxDigits]
    simp [m, Datum.IsTyped, hdigits]
  obtain ⟨o, settings, -, hload, hgot⟩ := typed_values_are_got_unchanged hnames htyped
  have hread (key : OptionKey) := hgot (Options.ofPairs settings.properties) (by simp) key
  exact ⟨hnames, htyped, settings, hload, (hread _).2 _ _ (by simp [m]), (hread _).2 _ _ (by simp [m]),
    (hread _).1 _ _ (by simp [m]), (hread _).1 _ _ (by simp [m])⟩

end Settings

end CaptureConfig
