import CaptureConfig.Connector.Basic
import CaptureConfig.Proofs.Schema.Relational
import CaptureConfig.Proofs.Table.Override

/-!
# What a connector can promise after its check

Each accessor reads the raw options again. Over the shared schema it fails only on texts that the checks
report, so a configuration without problems can be resolved. What remains is the list of snapshot
statements, which no check looks at.
-/

namespace CaptureConfig.Connector

variable {o : Options} {c : Connector}

/-! ## Building -/

variable {name : String} {isBuiltin : TableId → Bool} {nameOf : TableId → String} {size : Int}

/-- The filters of a connector, if it has what they are made from. -/
def filtersOf (setup : ConnectorSetup) (o : Options) : Reported (Option TableFilters) :=
  match setup.isBuiltin, setup.nameOf with
  | some isBuiltin, some nameOf =>
    let filters := TableFilters.build o isBuiltin nameOf
    ⟨filters.notices, filters.outcome.map some⟩
  | _, _ => .silent (.ok none)

theorem build_eq (setup : ConnectorSetup) (o : Options) : build setup o =
    ⟨(filtersOf setup o).notices, (filtersOf setup o).outcome.map fun filters =>
      ⟨setup.name, o, setup.fetchSize, schemaOf setup, filters⟩⟩ := by
  obtain ⟨name, isBuiltin, nameOf, size, schema⟩ := setup
  cases isBuiltin with
  | none => rfl
  | some isBuiltin =>
      cases nameOf with
      | none => rfl
      | some nameOf =>
          unfold build filtersOf
          dsimp only
          cases (TableFilters.build o isBuiltin nameOf).outcome <;> rfl

/-- A connector is built unless it has what filters are made from and an entry of a list is refused. -/
theorem exists_build_eq_ok {setup : ConnectorSetup} : (∃ c, (build setup o).outcome = .ok c) ↔
    (setup.isBuiltin.isSome → setup.nameOf.isSome →
      ∀ entry ∈ TableFilters.allEntries o, PatternList.Compiles entry) := by
  have hfilters : (∃ c, (build setup o).outcome = .ok c) ↔
      ∃ filters, (filtersOf setup o).outcome = .ok filters := by
    rw [build_eq]
    simp [Steps.map_eq_ok]
  rw [hfilters, filtersOf]
  cases setup.isBuiltin with
  | none => simp [Reported.silent]
  | some isBuiltin =>
      cases setup.nameOf with
      | none => simp [Reported.silent]
      | some nameOf =>
          rw [← @TableFilters.build_ok_iff o isBuiltin nameOf]
          simp [Steps.map_eq_ok]

/-- A connector that can tell the tables of the database system and has names for the patterns is made
with the filters that its options describe. -/
theorem build_withCollaborators {setup : ConnectorSetup} :
    (build { setup with isBuiltin := some isBuiltin, nameOf := some nameOf } o).outcome = .ok c ↔
      ∃ f, TableFilters.Describes o isBuiltin nameOf f ∧
        (⟨setup.name, o, setup.fetchSize, schemaOf setup, some f⟩ : Connector) = c := by
  have hbuild : (build { setup with isBuiltin := some isBuiltin, nameOf := some nameOf } o).outcome =
      (TableFilters.build o isBuiltin nameOf).outcome.map fun f =>
        ⟨setup.name, o, setup.fetchSize, schemaOf setup, some f⟩ := rfl
  rw [hbuild, Steps.map_eq_ok]
  simp only [TableFilters.build_eq_ok]

theorem build_eq_error {fault : Fault} :
    (build { name, isBuiltin := some isBuiltin, nameOf := some nameOf, fetchSize := size } o).outcome =
        .error fault ↔
      Steps.FirstFault PatternList.compileEntry (TableFilters.allEntries o) fault :=
  Steps.map_eq_error.trans TableFilters.build_eq_error

/-- A connector is built from its filters, and keeps its options and the shared schema. -/
theorem build_eq_ok :
    (build { name, isBuiltin := some isBuiltin, nameOf := some nameOf, fetchSize := size } o).outcome =
        .ok c ↔
      ∃ f, (TableFilters.build o isBuiltin nameOf).outcome = .ok f ∧
        (⟨name, o, size, .relational, some f⟩ : Connector) = c :=
  Steps.map_eq_ok

theorem build_ok_iff :
    (∃ c, (build { name, isBuiltin := some isBuiltin, nameOf := some nameOf, fetchSize := size } o).outcome
        = .ok c) ↔
      ∀ entry ∈ TableFilters.allEntries o, PatternList.Compiles entry := by
  rw [exists_build_eq_ok]
  simp

/-! ## Single accessors -/

theorem field?_relational (hschema : c.schema = .relational) {f : Field} (h : f ∈ Relational.fields) :
    c.field? f.name = .ok f := by
  rw [field?, hschema, Schema.field?_of_mem h]
  rfl

theorem decimalMode?_relational (hschema : c.schema = .relational) : c.decimalMode? =
    .ok (((c.options.get? OptionName.decimalMode).bind DecimalMode.named?).getD .precise) := by
  have hfield : c.field? OptionName.decimalMode = .ok Relational.decimalMode :=
    field?_relational hschema (f := Relational.decimalMode) (by simp [Relational.fields])
  have hdefault : Relational.decimalMode.default.bind DecimalMode.named? = some .precise := by
    decide
  have hname : Relational.decimalMode.name = OptionName.decimalMode := rfl
  unfold decimalMode? DecimalMode.parse?
  simp only [hfield, bind, Except.bind, Options.text?_key, hname, hdefault]
  cases c.options.get? OptionName.decimalMode with
  | none => simp [hdefault, pure, Except.pure]
  | some v => cases hv : DecimalMode.named? v <;> simp [hv, pure, Except.pure]

theorem fetchSize?_relational (hschema : c.schema = .relational) : c.fetchSize? =
    match c.options.get? OptionName.fetchSize with
    | none => .ok (some c.fetchSize)
    | some v => match Text.readInteger v with
      | .ok i => .ok (some i)
      | .error _ => .error (.option (.notInteger v OptionName.fetchSize)) := by
  have hfield : c.field? OptionName.fetchSize = .ok Relational.fetchSize :=
    field?_relational hschema (f := Relational.fetchSize) (by simp [Relational.fields])
  have hname : Relational.fetchSize.name = OptionName.fetchSize := rfl
  have hdefault : Relational.fetchSize.default = none := rfl
  unfold fetchSize? Options.integer?
  simp only [hfield, bind, Except.bind, Options.text?_key, hname, hdefault, Option.or_none]
  cases c.options.get? OptionName.fetchSize with
  | none => rfl
  | some v => cases hv : Text.readInteger v <;> simp [hv, Except.mapError, Field.key, hname]

theorem overrides_relational (hschema : c.schema = .relational) : c.overrides =
    Override.resolve c.options OptionName.snapshotOverrides (some c.name) := by
  have hfield : c.field? OptionName.snapshotOverrides = .ok Relational.snapshotOverrides :=
    field?_relational hschema (f := Relational.snapshotOverrides) (by simp [Relational.fields])
  unfold overrides
  rw [hfield]
  rfl

theorem validate_outcome (c : Connector) : c.validate.outcome = c.schema.validate c.options := by
  unfold validate
  split <;> rename_i h <;> exact h.symm

theorem overrides_outcome (c : Connector) : c.overrides.outcome =
    c.field? OptionName.snapshotOverrides >>= fun f =>
      (Override.resolve c.options f.name (some c.name)).outcome := by
  unfold overrides
  cases c.field? OptionName.snapshotOverrides <;> rfl

theorem resolve_eq_ok {r : Resolved} : c.resolve.outcome = .ok r ↔
    ∃ found mode size, c.overrides.outcome = .ok found ∧ c.decimalMode? = .ok mode ∧
      c.fetchSize? = .ok size ∧
      ⟨c.name, mode, size, Assoc.ofPairs (found.map fun (t, s) => (t.identifier, s)), c.filters⟩ = r := by
  constructor
  · intro h
    obtain ⟨found, hfound, h⟩ := Steps.bind_eq_ok.mp h
    obtain ⟨mode, hmode, h⟩ := Steps.bind_eq_ok.mp h
    obtain ⟨size, hsize, h⟩ := Steps.bind_eq_ok.mp h
    exact ⟨found, mode, size, hfound, hmode, hsize, Except.ok.inj h⟩
  · rintro ⟨found, mode, size, hfound, hmode, hsize, rfl⟩
    exact Steps.bind_eq_ok.mpr ⟨found, hfound, Steps.bind_eq_ok.mpr ⟨mode, hmode,
      Steps.bind_eq_ok.mpr ⟨size, hsize, rfl⟩⟩⟩

/-- The snapshot statements alone can stop a resolution whose other accessors succeed. -/
theorem resolve_eq_error {mode : DecimalMode} {size : Option Int} (hmode : c.decimalMode? = .ok mode)
    (hsize : c.fetchSize? = .ok size) {fault : Fault} :
    c.resolve.outcome = .error fault ↔ c.overrides.outcome = .error fault := by
  unfold resolve
  simp only [hmode, hsize]
  cases c.overrides.outcome <;> simp [bind, Except.bind, pure, Except.pure]

/-! ## Connectors with admissible options -/

theorem decimalMode?_of_admissible (hschema : c.schema = .relational)
    (hgood : Relational.Admissible c.options) :
    ∃ mode, c.decimalMode? = .ok mode ∧
      match c.options.get? OptionName.decimalMode with
      | some v => mode.name = Text.lowered (Text.trim v)
      | none => mode = .precise := by
  rw [decimalMode?_relational hschema]
  refine ⟨_, rfl, ?_⟩
  cases hv : c.options.get? OptionName.decimalMode with
  | none => rfl
  | some v =>
      obtain ⟨mode, hmode⟩ := hgood.decimalMode v hv
      have hnamed : DecimalMode.named? v = some mode := Relational.named?_eq_some.mpr hmode
      simpa [hnamed] using hmode

theorem fetchSize?_of_admissible (hschema : c.schema = .relational)
    (hgood : Relational.Admissible c.options) :
    ∃ n, c.fetchSize? = .ok (some n) ∧
      match c.options.get? OptionName.fetchSize with
      | some v => Text.readInteger v = .ok n ∧ 1 ≤ n
      | none => n = c.fetchSize := by
  rw [fetchSize?_relational hschema]
  cases hv : c.options.get? OptionName.fetchSize with
  | none => exact ⟨c.fetchSize, rfl, rfl⟩
  | some v =>
      obtain ⟨n, hread, hpos⟩ := hgood.fetchSize v hv
      exact ⟨n, by simp [hread], hread, by omega⟩

/-- **A configuration without problems can be resolved.** The connector is built, its representation of
decimals is the one that the option names and its fetch size the one that the option gives, or the default
where the option is not there, and its resolution fails only on a snapshot list with an entry that is no
table name. -/
theorem resolvable_of_validate (o : Options) (name : String) (isBuiltin : TableId → Bool)
    (nameOf : TableId → String) (size : Int) (h : Schema.relational.validate o = .ok []) :
    ∃ c, (build { name, isBuiltin := some isBuiltin, nameOf := some nameOf, fetchSize := size } o).outcome
          = .ok c ∧
      (∃ mode, c.decimalMode? = .ok mode ∧
        match o.get? OptionName.decimalMode with
        | some v => mode.name = Text.lowered (Text.trim v)
        | none => mode = .precise) ∧
      (∃ n, c.fetchSize? = .ok (some n) ∧
        match o.get? OptionName.fetchSize with
        | some v => Text.readInteger v = .ok n ∧ 1 ≤ n
        | none => n = size) ∧
      ((∃ fault, c.resolve.outcome = .error fault) ↔
        ∃ token ∈ Override.listed (o.get? OptionName.snapshotOverrides),
          ∃ e, TableId.parse? token = .error e) ∧
      ∀ fault, c.resolve.outcome = .error fault → ∃ e, fault = .table e := by
  have hgood := Relational.validate_eq_ok_nil_iff.mp h
  have hcompiles := TableFilters.forall_mem_allEntries.mpr hgood.patterns
  obtain ⟨f, hf⟩ : ∃ f, (TableFilters.build o isBuiltin nameOf).outcome = .ok f :=
    TableFilters.build_ok_iff.mpr hcompiles
  -- the accessors below read this connector, whose filters play no part in them
  let c : Connector := ⟨name, o, size, .relational, some f⟩
  have hmode := decimalMode?_of_admissible (c := c) rfl hgood
  have hsize := fetchSize?_of_admissible (c := c) rfl hgood
  have hstop : ∀ fault, c.resolve.outcome = .error fault ↔
      (Override.resolve o OptionName.snapshotOverrides (some name)).outcome = .error fault := by
    obtain ⟨mode, hm, -⟩ := hmode
    obtain ⟨n, hn, -⟩ := hsize
    intro fault
    rw [resolve_eq_error hm hn, overrides_relational rfl]
  refine ⟨c, build_eq_ok.mpr ⟨f, hf, rfl⟩, hmode, hsize, ?_, fun fault hfault => ?_⟩
  · simp only [hstop]
    exact Override.resolve_fails_iff
  · obtain ⟨e, -, rfl⟩ := Override.resolve_eq_error.mp ((hstop fault).mp hfault)
    exact ⟨e, rfl⟩

/-- Texts are read with white space around them and in any case, and an empty entry that is not at the end
of the snapshot list stops the resolution, though not the connector. -/
theorem resolvable_with_gap_in_list :
    let o := Options.ofPairs [("database.server.name", "inv"), ("table.whitelist", "db\\.(a|b)+, x"),
      ("snapshot.fetch.size", " 10"), ("decimal.handling.mode", " Double "),
      ("snapshot.select.statement.overrides", "db.t,,x,")]
    Schema.relational.validate o = .ok [] ∧
      ∃ c, (build { name := "inv", isBuiltin := some fun _ => false, nameOf := some TableId.identifier }
          o).outcome = .ok c ∧
        c.decimalMode? = .ok .double ∧ c.fetchSize? = .ok (some 10) ∧
        ∃ fault, c.resolve.outcome = .error fault := by
  intro o
  have hvalid : Schema.relational.validate o = .ok [] := by decide +kernel
  obtain ⟨c, hbuild, ⟨mode, hmode, hnamed⟩, ⟨n, hsize, hread⟩, hstop, -⟩ :=
    resolvable_of_validate o "inv" (fun _ => false) TableId.identifier 2000 hvalid
  have hmodeText : o.get? OptionName.decimalMode = some " Double " := by decide +kernel
  have hsizeText : o.get? OptionName.fetchSize = some " 10" := by decide +kernel
  have hten : Text.readInteger " 10" = .ok 10 := by decide +kernel
  have hword : Text.lowered (Text.trim " Double ") = DecimalMode.double.name := by decide +kernel
  rw [hmodeText] at hnamed
  rw [hsizeText] at hread
  have hdouble : mode = .double := by
    have hname : mode.name = DecimalMode.double.name := hnamed.trans hword
    revert hname
    cases mode <;> decide
  obtain rfl : 10 = n := Except.ok.inj (hten.symm.trans hread.1)
  refine ⟨hvalid, c, hbuild, hdouble ▸ hmode, hsize, hstop.mpr ⟨"", ?_, .blank, ?_⟩⟩
  · decide +kernel
  · decide +kernel

end CaptureConfig.Connector
