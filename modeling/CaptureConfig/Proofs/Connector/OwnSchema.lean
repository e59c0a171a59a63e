import CaptureConfig.Proofs.Connector.Influence

/-!
# A connector with a schema of its own

A connector that is given a schema asks that one: for the problems of its options, and for the field of
each accessor, which fails when there is no such field. A schema without fields is passed over, and the
connector then answers like one that is given none.
-/

namespace CaptureConfig.Connector

variable {c : Connector}

/-! ## Fields that are not there -/

theorem field?_eq_error {name : String} {fault : Fault} : c.field? name = .error fault ↔
    name ∉ c.schema.names ∧ .option (.unknownField name) = fault := by
  rw [field?, Steps.mapError_eq_error]
  simp only [Schema.field?_eq_error]
  constructor
  · rintro ⟨_, ⟨hname, rfl⟩, h⟩
    exact ⟨hname, h⟩
  · rintro ⟨hname, h⟩
    exact ⟨_, ⟨hname, rfl⟩, h⟩

/-- An accessor that never calls its field unknown once it has it does so exactly when the schema lacks
that field. -/
theorem lookup_eq_unknownField {α : Type} {name : String} {read : Field → Except Fault α}
    (hread : ∀ f, read f ≠ .error (.option (.unknownField name))) :
    (c.field? name >>= read) = .error (.option (.unknownField name)) ↔ name ∉ c.schema.names := by
  rw [Steps.bind_eq_error, field?_eq_error]
  constructor
  · rintro (⟨hname, -⟩ | ⟨f, -, hf⟩)
    · exact hname
    · exact absurd hf (hread f)
  · intro hname
    exact Or.inl ⟨hname, rfl⟩

theorem decimalMode?_eq_unknownField :
    c.decimalMode? = .error (.option (.unknownField OptionName.decimalMode)) ↔
      OptionName.decimalMode ∉ c.schema.names := by
  refine lookup_eq_unknownField fun f => ?_
  dsimp only
  cases DecimalMode.parse? (c.options.text? f.key) f.default with
  | some mode => simp [pure, Except.pure]
  | none => simp [throw, throwThe, MonadExceptOf.throw]

theorem fetchSize?_eq_unknownField :
    c.fetchSize? = .error (.option (.unknownField OptionName.fetchSize)) ↔
      OptionName.fetchSize ∉ c.schema.names := by
  refine lookup_eq_unknownField fun f => ?_
  unfold Options.integer?
  split
  · simp [Except.mapError]
  · split <;> simp [Except.mapError]

theorem overrides_eq_unknownField :
    c.overrides.outcome = .error (.option (.unknownField OptionName.snapshotOverrides)) ↔
      OptionName.snapshotOverrides ∉ c.schema.names := by
  rw [overrides_outcome]
  refine lookup_eq_unknownField fun f hf => ?_
  -- what stops the reading of a list is an entry, never a field
  obtain ⟨e, -, he⟩ := Override.resolve_eq_error.mp hf
  cases he

/-! ## Which schema is asked -/

theorem schemaOf_own (setup : ConnectorSetup) (s : Schema) :
    schemaOf { setup with schema := some s } = if s.fields = [] then .relational else s := by
  cases h : s.fields <;> simp [schemaOf, h]

/-- **A schema of one's own counts unless it is empty.** Whatever schema a connector is given, it is built
or refused as without it. Once built, its schema has the names of the given one exactly if that has a field;
its check comes to what the given schema finds exactly in that case, or if the shared schema finds nothing;
and an accessor fails on its missing field exactly if the given schema has fields but not that one. -/
theorem own_schema_counts_unless_empty (setup : ConnectorSetup) (s : Schema) (o : Options) :
    let built := (build { setup with schema := some s } o).outcome
    ((∃ c, built = .ok c) ↔ (setup.isBuiltin.isSome → setup.nameOf.isSome →
      ∀ entry ∈ TableFilters.allEntries o, PatternList.Compiles entry)) ∧
    ∀ c, built = .ok c →
      (c.schema.names = s.names ↔ s.fields ≠ []) ∧
      (c.validate.outcome = s.validate o ↔ s.fields ≠ [] ∨ Schema.relational.validate o = .ok []) ∧
      (c.decimalMode? = .error (.option (.unknownField OptionName.decimalMode)) ↔
        s.fields ≠ [] ∧ OptionName.decimalMode ∉ s.names) ∧
      (c.fetchSize? = .error (.option (.unknownField OptionName.fetchSize)) ↔
        s.fields ≠ [] ∧ OptionName.fetchSize ∉ s.names) ∧
      (c.overrides.outcome = .error (.option (.unknownField OptionName.snapshotOverrides)) ↔
        s.fields ≠ [] ∧ OptionName.snapshotOverrides ∉ s.names) := by
  refine ⟨exists_build_eq_ok, fun c hc => ?_⟩
  rw [build_eq, Steps.map_eq_ok, schemaOf_own] at hc
  obtain ⟨filters, -, rfl⟩ := hc
  rw [validate_outcome, decimalMode?_eq_unknownField, fetchSize?_eq_unknownField,
    overrides_eq_unknownField]
  by_cases hempty : s.fields = []
  · -- the shared schema stands in: it has all three fields, and the empty one finds no problem
    have hnames : s.names = [] := by rw [Schema.names, hempty, List.map_nil]
    have hvalid : s.validate o = .ok [] := by rw [Schema.validate, hempty, collect_nil]
    have hshared : ∀ name ∈ [OptionName.decimalMode, OptionName.fetchSize,
        OptionName.snapshotOverrides], name ∈ Schema.relational.names := by
      decide
    have hsome : Schema.relational.names ≠ [] := by decide
    simp only [List.forall_mem_cons] at hshared
    simp [hempty, hnames, hvalid, hshared, hsome]
  · simp [hempty]

/-- A schema of two fields has no field for the decimal mode, so that accessor fails, while the missing name
of the server is no problem. -/
theorem own_schema_of_two_fields :
    let s : Schema := ⟨[Relational.fetchSize, Relational.snapshotOverrides], by decide⟩
    let o := Options.ofPairs [("snapshot.fetch.size", "0")]
    ∃ c, (build { name := "inv", schema := some s } o).outcome = .ok c ∧
      c.schema.names = ["snapshot.fetch.size", "snapshot.select.statement.overrides"] ∧
      c.validate.outcome =
        .ok [.ofFinding "snapshot.fetch.size" (some "0") .notPositive] ∧
      c.decimalMode? = .error (.option (.unknownField "decimal.handling.mode")) ∧
      c.overrides.outcome ≠ .error (.option (.unknownField "snapshot.select.statement.overrides")) := by
  intro s o
  obtain ⟨hbuilt, hanswers⟩ := own_schema_counts_unless_empty { name := "inv" } s o
  obtain ⟨c, hc⟩ := hbuilt.mpr (by simp)
  obtain ⟨hnames, hproblems, hmode, -, hstatements⟩ := hanswers c hc
  have hfields : s.fields ≠ [] := by simp [s]
  refine ⟨c, hc, hnames.mpr hfields, (hproblems.mpr (Or.inl hfields)).trans ?_,
    hmode.mpr ⟨hfields, by decide⟩, fun h => (hstatements.mp h).2 (by decide)⟩
  decide +kernel

/-- An empty schema is passed over: the connector has the ten shared fields, misses the name of the server,
and knows a decimal mode. -/
theorem empty_schema_is_passed_over :
    ∃ c, (build { name := "inv", schema := some .empty } .empty).outcome = .ok c ∧
      c.schema.names = Schema.relational.names ∧ c.schema.names ≠ Schema.empty.names ∧
      c.validate.outcome = .ok [.ofFinding "database.server.name" none .missing] ∧
      Schema.empty.validate .empty = .ok [] ∧
      OptionName.decimalMode ∉ Schema.empty.names ∧ c.decimalMode? = .ok .precise := by
  refine ⟨_, rfl, rfl, by decide, ?_, rfl, by decide, ?_⟩
  · decide +kernel
  · decide +kernel

end CaptureConfig.Connector
