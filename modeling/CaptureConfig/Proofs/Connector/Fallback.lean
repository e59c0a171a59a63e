import CaptureConfig.Proofs.Connector.Resolve

/-!
# What takes the place of an unreadable text

Two options are read leniently: a text that names no decimal mode gives way to the default, and one that
names no truth value leaves the tables of the database system out, with a warning. The check reads the same
texts strictly, and reports exactly those that gave way.
-/

namespace CaptureConfig.Connector

/-- The warnings among records. -/
def warnings (notices : List Notice) : List Notice := notices.filter fun n => n.level = .warning

variable {o : Options} {c : Connector} {name : String} {isBuiltin : TableId → Bool}
  {nameOf : TableId → String} {size : Int} {problems : List Problem}

/-! ## The decimal mode -/

theorem decimalMode?_gives_way (hschema : c.schema = .relational)
    (hvalid : Schema.relational.validate c.options = .ok problems) :
    ∃ mode, c.decimalMode? = .ok mode ∧ ∀ v,
      (c.options.get? OptionName.decimalMode = some v ∧
        (∀ m : DecimalMode, m.name ≠ Text.lowered (Text.trim v)) ∧ mode = .precise) ↔
      ∃ p ∈ problems, p.field = OptionName.decimalMode ∧ p.value = some v := by
  refine ⟨_, decimalMode?_relational hschema, fun v => ?_⟩
  rw [Relational.exists_reported_decimalMode hvalid, ← Relational.named?_eq_none]
  constructor
  · rintro ⟨hv, hnone, -⟩
    exact ⟨hv, hnone⟩
  · rintro ⟨hv, hnone⟩
    refine ⟨hv, hnone, ?_⟩
    rw [hv, Option.bind_some, hnone]
    rfl

/-! ## Tables of the database system -/

/-- The one option that the filters may warn about. -/
theorem warnings_of_build {f : TableFilters}
    (h : (TableFilters.build o isBuiltin nameOf).outcome = .ok f) :
    warnings (build { name, isBuiltin := some isBuiltin, nameOf := some nameOf, fetchSize := size }
      o).notices = (TableFilters.readIgnoreBuiltin o).2 := by
  have hread : ∀ n ∈ (TableFilters.readIgnoreBuiltin o).2, n.level = .warning := by
    rw [TableFilters.readIgnoreBuiltin_eq]
    split
    · simp
    · split
      · simp
      · intro n hn
        obtain rfl := List.mem_singleton.mp hn
        rfl
  have hkept : warnings (TableFilters.readIgnoreBuiltin o).2 = (TableFilters.readIgnoreBuiltin o).2 :=
    List.filter_eq_self.mpr fun n hn => decide_eq_true (hread n hn)
  change warnings (TableFilters.build o isBuiltin nameOf).notices = _
  rw [TableFilters.build_notices h, warnings, List.filter_append]
  exact (List.append_nil _).trans hkept

theorem ignoreBuiltin_gives_way (hvalid : Schema.relational.validate o = .ok problems) (v : String) :
    (o.get? OptionName.ignoreBuiltin = some v ∧
      Text.lowered (Text.trim v) ≠ "true" ∧ Text.lowered (Text.trim v) ≠ "false" ∧
      (TableFilters.readIgnoreBuiltin o).1 = true ∧
      (TableFilters.readIgnoreBuiltin o).2 = [TableFilters.unreadable v]) ↔
    ∃ p ∈ problems, p.field = OptionName.ignoreBuiltin ∧ p.value = some v := by
  rw [Relational.exists_reported_ignoreBuiltin hvalid, Relational.readFlag?_eq_none]
  constructor
  · rintro ⟨hv, htrue, hfalse, -, -⟩
    exact ⟨hv, htrue, hfalse⟩
  · rintro ⟨hv, htrue, hfalse⟩
    have hnone : Options.readFlag? v = none := Relational.readFlag?_eq_none.mpr ⟨htrue, hfalse⟩
    have hread : TableFilters.readIgnoreBuiltin o = (true, [TableFilters.unreadable v]) := by
      simp only [TableFilters.readIgnoreBuiltin_eq, hv, hnone]
    rw [hread]
    exact ⟨hv, htrue, hfalse, rfl, rfl⟩

theorem ignoreBuiltin_of_not_reported (hvalid : Schema.relational.validate o = .ok problems)
    (h : ¬ ∃ p ∈ problems, p.field = OptionName.ignoreBuiltin) :
    (TableFilters.readIgnoreBuiltin o).2 = [] ∧
      match o.get? OptionName.ignoreBuiltin with
      | none => (TableFilters.readIgnoreBuiltin o).1 = true
      | some v => Text.lowered (Text.trim v) =
          if (TableFilters.readIgnoreBuiltin o).1 then "true" else "false" := by
  have hreported := Relational.exists_reported_ignoreBuiltin hvalid
  rw [TableFilters.readIgnoreBuiltin_eq]
  cases hv : o.get? OptionName.ignoreBuiltin with
  | none => exact ⟨rfl, rfl⟩
  | some v =>
      cases hflag : Options.readFlag? v with
      | some b =>
          simp only [hflag, true_and]
          exact Options.readFlag?_eq_some.mp hflag
      | none =>
          obtain ⟨p, hp, hfield, -⟩ := (hreported v).mpr ⟨hv, hflag⟩
          exact absurd ⟨p, hp, hfield⟩ h

/-- **Nothing gives way silently.** The decimal mode can always be read, and the default stands for a given
text exactly when the check reports that text. Tables of the database system are left out because of a
given text, with one warning, exactly when the check reports that text; when it reports none, they are left
out as the text says, or without a text, and there is no warning. -/
theorem gives_way_exactly_if_reported
    (hbuild : (build { name, isBuiltin := some isBuiltin, nameOf := some nameOf, fetchSize := size }
      o).outcome = .ok c)
    (hvalid : c.validate.outcome = .ok problems) :
    (∃ mode, c.decimalMode? = .ok mode ∧ ∀ v,
      (o.get? OptionName.decimalMode = some v ∧
        (∀ m : DecimalMode, m.name ≠ Text.lowered (Text.trim v)) ∧ mode = .precise) ↔
      ∃ p ∈ problems, p.field = OptionName.decimalMode ∧ p.value = some v) ∧
    ∃ f, c.filters = some f ∧
      let warned := warnings
        (build { name, isBuiltin := some isBuiltin, nameOf := some nameOf, fetchSize := size } o).notices
      (∀ v, (o.get? OptionName.ignoreBuiltin = some v ∧
          Text.lowered (Text.trim v) ≠ "true" ∧ Text.lowered (Text.trim v) ≠ "false" ∧
          f.ignoreBuiltin = true ∧ warned = [TableFilters.unreadable v]) ↔
        ∃ p ∈ problems, p.field = OptionName.ignoreBuiltin ∧ p.value = some v) ∧
      ((¬ ∃ p ∈ problems, p.field = OptionName.ignoreBuiltin) →
        warned = [] ∧ match o.get? OptionName.ignoreBuiltin with
          | none => f.ignoreBuiltin = true
          | some v => Text.lowered (Text.trim v) = if f.ignoreBuiltin then "true" else "false") := by
  obtain ⟨f, hf, rfl⟩ := build_eq_ok.mp hbuild
  rw [validate_outcome] at hvalid
  refine ⟨decimalMode?_gives_way rfl hvalid, f, rfl, ?_⟩
  dsimp only
  rw [warnings_of_build hf, ← (TableFilters.build_eq_ok.mp hf).ignoreBuiltin]
  exact ⟨ignoreBuiltin_gives_way hvalid, ignoreBuiltin_of_not_reported hvalid⟩

/-- A text that is close to a word is not the word: both options give way, and both are reported. -/
theorem two_texts_give_way :
    let o := Options.ofPairs [("database.server.name", "inv"), ("decimal.handling.mode", " Exact "),
      ("table.ignore.builtin", "fal se")]
    let built := build
      { name := "inv", isBuiltin := some fun _ => true, nameOf := some TableId.identifier } o
    ∃ c f, built.outcome = .ok c ∧ c.filters = some f ∧ c.decimalMode? = .ok .precise ∧
      f.ignoreBuiltin = true ∧ warnings built.notices = [TableFilters.unreadable "fal se"] := by
  intro o built
  obtain ⟨c, hc⟩ : ∃ c, built.outcome = .ok c := build_ok_iff.mpr (by decide +kernel)
  let flagProblem := Problem.ofFinding "table.ignore.builtin" (some "fal se") .notBoolean
  let modeProblem := Problem.ofFinding "decimal.handling.mode" (some " Exact ") .unknownMode
  have hproblems : Schema.relational.validate o = .ok [flagProblem, modeProblem] := by decide +kernel
  have hvalid : c.validate.outcome = .ok [flagProblem, modeProblem] := by
    obtain ⟨f, -, rfl⟩ := build_eq_ok.mp hc
    exact (validate_outcome _).trans hproblems
  obtain ⟨⟨mode, hmode, hreported⟩, f, hf, hwarned, -⟩ := gives_way_exactly_if_reported hc hvalid
  obtain ⟨-, -, rfl⟩ := (hreported " Exact ").mpr ⟨modeProblem, by simp, rfl, rfl⟩
  obtain ⟨-, -, -, hbuiltin, hwarning⟩ := (hwarned "fal se").mpr ⟨flagProblem, by simp, rfl, rfl⟩
  exact ⟨c, f, hc, hf, hmode, hbuiltin, hwarning⟩

end CaptureConfig.Connector
