import CaptureConfig.Proofs.Option.Typed
import CaptureConfig.Schema.Relational

/-!
# Two defaults

An option that is not there can have two defaults: that of its field, and the one that the caller of a getter
gives. The getters of truth values and of integers put the field first. The getter of texts puts the caller
first, so it differs from the two others exactly where the caller gives another text than the field.
-/

namespace CaptureConfig.Options

variable {α : Type} {read : String → Option α} {fault : String → String → OptionFault} {o : Options}
  {f : Field} {s : String}

/-- The text of an option that is not there: the caller's default, and without that the field's. -/
theorem text?_of_absent (habsent : o.get? f.name = none) (d : Option String) :
    o.text? f.key d = d.or f.default := by
  have hget : o.get? f.key.name = none := habsent
  rw [text?, hget, Option.none_or]
  rfl

theorem text?_withPairs_one (o : Options) (name s : String) :
    (o.withPairs [(name, s)]).text? ⟨name, none⟩ = some s := by
  rw [text?, get?_withPairs_one, if_pos rfl]
  rfl

/-- An option that is not there is read as if the default of its field had been given. -/
theorem readAs_of_absent (habsent : o.get? f.name = none) (hs : f.default = some s) (d : Option α) :
    o.readAs read fault f.key d = (o.withPairs [(f.name, s)]).readAs read fault ⟨f.name, none⟩ none := by
  have hdefault : o.text? f.key = some s := by
    rw [text?_of_absent habsent, Option.none_or, hs]
  rw [readAs_of_text hdefault, readAs_of_text (text?_withPairs_one o f.name s)]
  rfl

/-- **The caller's default comes first for texts alone.** When the field of an option that is not there has a
default, that one is read as a truth value or an integer as if it had been given, whatever default the caller
gives. As a text it is got only by a caller without another default. When the field has no default, all three
getters answer with the caller's. -/
theorem caller_comes_first_for_texts_alone (o : Options) (f : Field) (habsent : o.get? f.name = none) :
    (∀ s, f.default = some s →
      let p := o.withPairs [(f.name, s)]
      (∀ d, o.flag? f.key d = p.flag? ⟨f.name, none⟩) ∧
      (∀ d, o.integer? f.key d = p.integer? ⟨f.name, none⟩) ∧
      (∀ d, o.text? f.key d = d.or (p.text? ⟨f.name, none⟩)) ∧
      ∀ d, o.text? f.key d = p.text? ⟨f.name, none⟩ ↔ d = none ∨ d = some s) ∧
    (f.default = none →
      (∀ d, o.flag? f.key d = .ok d) ∧ (∀ d, o.integer? f.key d = .ok d) ∧
      ∀ d, o.text? f.key d = d) := by
  constructor
  · intro s hs p
    have hgiven : p.text? ⟨f.name, none⟩ = some s := text?_withPairs_one o f.name s
    refine ⟨fun d => ?_, fun d => ?_, fun d => ?_, fun d => ?_⟩
    · rw [flag?_eq_readAs, flag?_eq_readAs]
      exact readAs_of_absent habsent hs d
    · rw [integer?_eq_readAs, integer?_eq_readAs]
      exact readAs_of_absent habsent hs d
    · rw [text?_of_absent habsent, hgiven, hs]
    · rw [text?_of_absent habsent, hgiven, hs]
      cases d <;> simp
  · intro hnone
    have htext (d : Option String) : o.text? f.key d = d := by
      rw [text?_of_absent habsent, hnone, Option.or_none]
    refine ⟨fun d => ?_, fun d => ?_, htext⟩
    · rw [flag?_eq_readAs]
      exact readAs_of_no_text (htext none)
    · rw [integer?_eq_readAs]
      exact readAs_of_no_text (htext none)

/-- The default of the flag is `true`, which no other default of a caller turns off. It is no integer, and a
caller with another text does not get it. -/
theorem flag_stays_on_by_default :
    let o := Options.ofPairs [("table.whitelist", "db\\.a")]
    let f := Relational.ignoreBuiltin
    o.flag? f.key (some false) = .ok (some true) ∧
      o.integer? f.key (some 7) = .error (.notInteger "true" "table.ignore.builtin") ∧
      o.text? f.key (some "false") ≠ some "true" := by
  intro o f
  obtain ⟨hdefault, -⟩ := caller_comes_first_for_texts_alone o f (by decide +kernel)
  obtain ⟨hflag, hinteger, htext, -⟩ := hdefault "true" rfl
  rw [hflag, hinteger, htext]
  exact ⟨by decide +kernel, by decide +kernel, by decide⟩

/-- A caller that gives `double` gets it in the place of `precise`, the default of the field. -/
theorem caller_hides_default_mode :
    Relational.decimalMode.default = some "precise" ∧
      empty.get? Relational.decimalMode.name = none ∧
      empty.text? Relational.decimalMode.key (some "double") = some "double" ∧
      ¬ ∀ (o : Options) (f : Field) (s : String), f.default = some s → o.get? f.name = none →
        ∀ d, o.text? f.key d = some s := by
  refine ⟨rfl, rfl, rfl, fun h => ?_⟩
  have hprecise := h empty Relational.decimalMode "precise" rfl rfl (some "double")
  exact absurd hprecise (by decide)

end CaptureConfig.Options
