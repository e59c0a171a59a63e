import CaptureConfig.Proofs.Connector.OwnSchema
import CaptureConfig.Proofs.Text.Spelling

/-!
# The decimal mode of any connector

A connector takes its decimal mode from a text or, failing that, from the default of the field. The default
is met twice, in place of a text that is not there and in place of one that names no mode, and both times it
has the last word. So only the text that is given, the default, and what they name decide.
-/

namespace CaptureConfig

namespace DecimalMode

/-- There is a text, and trimmed and in small letters it is the name of the mode. -/
def Named (text : Option String) (mode : DecimalMode) : Prop :=
  ∃ v, text = some v ∧ mode.name = Text.lowered (Text.trim v)

variable {value default : Option String} {mode : DecimalMode} {v w : String}

/-! ## Names in texts -/

theorem bind_named?_eq_some : value.bind named? = some mode ↔ Named value mode := by
  simp only [Option.bind_eq_some_iff, Relational.named?_eq_some, Named]

theorem bind_named?_eq_none : value.bind named? = none ↔ ∀ m, ¬ Named value m := by
  simp only [Option.eq_none_iff_forall_ne_some, ne_eq, bind_named?_eq_some]

theorem parse?_eq_some : parse? value default = some mode ↔
    Named value mode ∨ (∀ m, ¬ Named value m) ∧ Named default mode := by
  rw [parse?, Option.or_eq_some_iff, bind_named?_eq_some, bind_named?_eq_none, bind_named?_eq_some]

theorem parse?_eq_none :
    parse? value default = none ↔ ∀ m, ¬ Named value m ∧ ¬ Named default m := by
  rw [parse?, Option.or_eq_none_iff, bind_named?_eq_none, bind_named?_eq_none, forall_and]

/-- A text and its other spellings name the same mode. -/
theorem named?_of_respelled (h : Text.Respelled v w) : named? w = named? v := by
  unfold named?
  rw [Text.lowered_trim_of_respelled h]

/-- The default that stands in for a text need not be tried again. -/
theorem parse?_text?_key (o : Options) (f : Field) :
    parse? (o.text? f.key) f.default = parse? (o.get? f.name) f.default := by
  rw [Options.text?_key]
  cases o.get? f.name with
  | some v => rfl
  | none => exact Option.or_self

end DecimalMode

namespace Connector

variable {c : Connector} {f : Field} {mode : DecimalMode}

/-! ## The answer of a connector -/

theorem decimalMode?_of_not_mem (h : OptionName.decimalMode ∉ c.schema.names) :
    c.decimalMode? = .error (.option (.unknownField OptionName.decimalMode)) :=
  decimalMode?_eq_unknownField.mpr h

theorem decimalMode?_of_mem (hf : f ∈ c.schema.fields) (hname : f.name = OptionName.decimalMode) :
    c.decimalMode? =
      match DecimalMode.parse? (c.options.get? f.name) f.default with
      | some mode => .ok mode
      | none => .error (.option (.unknownMode f.name (c.options.text? f.key) f.default)) := by
  have hfield : c.field? OptionName.decimalMode = .ok f := by
    rw [field?, ← hname, Schema.field?_of_mem hf]
    rfl
  unfold decimalMode?
  rw [hfield, ← DecimalMode.parse?_text?_key]
  rfl

theorem decimalMode?_eq_ok (hf : f ∈ c.schema.fields) (hname : f.name = OptionName.decimalMode) :
    c.decimalMode? = .ok mode ↔
      DecimalMode.parse? (c.options.get? f.name) f.default = some mode := by
  rw [decimalMode?_of_mem hf hname]
  cases DecimalMode.parse? (c.options.get? f.name) f.default <;> simp

theorem decimalMode?_eq_error (hf : f ∈ c.schema.fields) (hname : f.name = OptionName.decimalMode) :
    (∃ e, c.decimalMode? = .error (.option e)) ↔
      DecimalMode.parse? (c.options.get? f.name) f.default = none := by
  rw [decimalMode?_of_mem hf hname]
  cases DecimalMode.parse? (c.options.get? f.name) f.default <;> simp

/-- **The text decides, and else the default.** The decimal mode of a connector is refused exactly when its
schema has no field for it, or when neither the text of the option nor the default of that field names a mode.
Otherwise it is the mode that the text names, or the one that the default names if the text names none. It is
the same for every other spelling of the text; only a refusal quotes the text as it is. -/
theorem text_decides_else_default (c : Connector) :
    ((∃ e, c.decimalMode? = .error (.option e)) ↔
      OptionName.decimalMode ∉ c.schema.names ∨
        ∃ f ∈ c.schema.fields, f.name = OptionName.decimalMode ∧ ∀ mode,
          ¬ DecimalMode.Named (c.options.get? f.name) mode ∧ ¬ DecimalMode.Named f.default mode) ∧
    (∀ f ∈ c.schema.fields, f.name = OptionName.decimalMode → ∀ mode, c.decimalMode? = .ok mode ↔
      DecimalMode.Named (c.options.get? f.name) mode ∨
        (∀ m, ¬ DecimalMode.Named (c.options.get? f.name) m) ∧ DecimalMode.Named f.default mode) ∧
    ∀ (o : Options) (v w : String), c.options.get? OptionName.decimalMode = some v →
      o.get? OptionName.decimalMode = some w → Text.Respelled v w →
      ∀ mode, { c with options := o }.decimalMode? = .ok mode ↔ c.decimalMode? = .ok mode := by
  refine ⟨?_, fun f hf hname mode => ?_, fun o v w hv hw hvw mode => ?_⟩
  · constructor
    · rintro ⟨e, he⟩
      by_cases hmem : OptionName.decimalMode ∈ c.schema.names
      · obtain ⟨f, hf, hname⟩ := List.mem_map.mp hmem
        exact Or.inr ⟨f, hf, hname, DecimalMode.parse?_eq_none.mp
          ((decimalMode?_eq_error hf hname).mp ⟨e, he⟩)⟩
      · exact Or.inl hmem
    · rintro (hmissing | ⟨f, hf, hname, hnone⟩)
      · exact ⟨_, decimalMode?_of_not_mem hmissing⟩
      · exact (decimalMode?_eq_error hf hname).mpr (DecimalMode.parse?_eq_none.mpr hnone)
  · rw [decimalMode?_eq_ok hf hname, DecimalMode.parse?_eq_some]
  · by_cases hmem : OptionName.decimalMode ∈ c.schema.names
    · obtain ⟨f, hf, hname⟩ := List.mem_map.mp hmem
      rw [decimalMode?_eq_ok (c := { c with options := o }) hf hname, decimalMode?_eq_ok hf hname, hname, hv, hw,
        DecimalMode.parse?, DecimalMode.parse?, Option.bind_some, Option.bind_some,
        DecimalMode.named?_of_respelled hvw]
    · rw [decimalMode?_of_not_mem (c := { c with options := o }) hmem, decimalMode?_of_not_mem hmem]

/-- A field of one's own may have any default. It stands in for a text that names no mode, if it names one. -/
example :
    let field (default : String) : Field :=
      { name := OptionName.decimalMode, displayName := "Decimals", default := some default }
    let mode (default v : String) : Except Fault DecimalMode :=
      { name := "inv", options := .ofPairs [(OptionName.decimalMode, v)], fetchSize := 2000,
        schema := ⟨[field default], by simp⟩, filters := none : Connector }.decimalMode?
    mode " Double " "\tSTRING" = .ok .string ∧ mode " Double " "exact" = .ok .double ∧
      mode "exact" "" = .error (.option (.unknownMode "decimal.handling.mode" (some "") (some "exact"))) := by
  decide +kernel

end Connector

end CaptureConfig
