import CaptureConfig.Proofs.Connector.Influence
import CaptureConfig.Proofs.Table.Precedence
import CaptureConfig.Proofs.Table.Same

/-!
# Filters beside the defaults of a schema

The checks read an option through its field, and so see the default of the field where the option is not
there. The filters are made from the options alone. Both act on the same values exactly when the defaults
of the options that are not there say nothing that filters would notice, as those of the shared schema do.
-/

namespace CaptureConfig

/-! ## Options with the defaults of a schema -/

/-- The default of the field with the given name. -/
def Schema.default? (s : Schema) (name : String) : Option String :=
  (s.field? name).toOption.bind Field.default

theorem Schema.default?_of_mem {s : Schema} {f : Field} (h : f ∈ s.fields) :
    s.default? f.name = f.default := by
  rw [default?, field?_of_mem h]
  rfl

/-- The options with the defaults of a schema for those of the given ones that are not there. -/
def Options.withDefaults (o : Options) (s : Schema) (names : List String) : Options :=
  o.withPairs (names.filterMap fun name =>
    (if o.contains name then none else s.default? name).map fun d => (name, d))

theorem Options.get?_withDefaults (o : Options) (s : Schema) (names : List String) (name : String) :
    (o.withDefaults s names).get? name =
      (o.get? name).or (if name ∈ names then s.default? name else none) := by
  rw [withDefaults, get?_withPairs, ← List.filterMap_reverse, Assoc.lookup_filterMap_keys]
  obtain ho | ⟨v, ho⟩ := (o.get? name).eq_none_or_eq_some <;> simp [contains, ho]

/-- A field of the schema gives the same text with its default filled in or not. -/
theorem Schema.sameTexts_withDefaults (s : Schema) (o : Options) (names : List String) :
    s.SameTexts o (o.withDefaults s names) := by
  intro f hf
  rw [Options.text?_key, Options.text?_key, Options.get?_withDefaults, default?_of_mem hf]
  cases o.get? f.name with
  | some v => simp
  | none => by_cases hname : f.name ∈ names <;> simp [hname]

namespace TableFilters

/-- The options that filters are made from. -/
def options : List String := OptionName.ignoreBuiltin :: patternOptions

/-- The defaults of the options that are not there say nothing that filters would notice: those of the
lists have no entry, and that of the flag does not let the tables of the database system in. -/
structure IdleDefaults (s : Schema) (o : Options) : Prop where
  lists : ∀ name ∈ patternOptions, o.get? name = none →
    ∀ d, s.default? name = some d → ¬ PatternList.Lists d
  ignoreBuiltin : o.get? OptionName.ignoreBuiltin = none →
    ∀ d, s.default? OptionName.ignoreBuiltin = some d → Options.readFlag? d ≠ some false

variable {s : Schema} {o : Options}

theorem entriesOf_withDefaults {name : String} (hname : name ∈ options) :
    entriesOf o name = entriesOf (o.withDefaults s options) name ↔
      (o.get? name = none → ∀ d, s.default? name = some d → ¬ PatternList.Lists d) := by
  have hget := Options.get?_withDefaults o s options name
  rw [if_pos hname] at hget
  cases ho : o.get? name with
  | some v => simp [entriesOf, hget, ho]
  | none =>
      rw [ho, Option.none_or] at hget
      have hnone : entriesOf o name = [] := by simp [entriesOf, ho, PatternList.entries_empty]
      rw [hnone, eq_comm, entriesOf_eq_nil, HasEntry, hget]
      simp

theorem readIgnoreBuiltin_withDefaults :
    (readIgnoreBuiltin o).1 = (readIgnoreBuiltin (o.withDefaults s options)).1 ↔
      (o.get? OptionName.ignoreBuiltin = none →
        ∀ d, s.default? OptionName.ignoreBuiltin = some d → Options.readFlag? d ≠ some false) := by
  have hget := Options.get?_withDefaults o s options OptionName.ignoreBuiltin
  rw [if_pos (by decide)] at hget
  rw [readIgnoreBuiltin_eq, readIgnoreBuiltin_eq, hget]
  cases o.get? OptionName.ignoreBuiltin with
  | some v => simp
  | none =>
      cases s.default? OptionName.ignoreBuiltin with
      | none => simp
      | some d =>
          -- without the option the tables are left out, so the default must not let them in
          cases hflag : Options.readFlag? d with
          | none => simp [hflag]
          | some b => cases b <;> simp [hflag]

theorem sameFilters_withDefaults :
    SameFilters o (o.withDefaults s options) ↔ IdleDefaults s o := by
  constructor
  · rintro ⟨hentries, hbuiltin⟩
    exact ⟨fun name hname => (entriesOf_withDefaults (List.mem_cons_of_mem _ hname)).mp
      (hentries name hname), readIgnoreBuiltin_withDefaults.mp hbuiltin⟩
  · rintro ⟨hlists, hbuiltin⟩
    exact ⟨fun name hname => (entriesOf_withDefaults (List.mem_cons_of_mem _ hname)).mpr
      (hlists name hname), readIgnoreBuiltin_withDefaults.mpr hbuiltin⟩

/-- The defaults of the shared schema are idle beside any options. -/
theorem idleDefaults_relational (o : Options) : IdleDefaults .relational o where
  lists name hname _ d hd := by
    have hnone : ∀ name ∈ patternOptions, Schema.relational.default? name = none := by decide
    rw [hnone name hname] at hd
    cases hd
  ignoreBuiltin _ d hd := by
    have htrue : Schema.relational.default? OptionName.ignoreBuiltin = some "true" := by decide
    rw [htrue] at hd
    obtain rfl := Option.some.inj hd
    decide

end TableFilters

namespace Connector

open TableFilters (IdleDefaults)

variable {c : Connector} {o : Options} {s : Schema} {isBuiltin : TableId → Bool}
  {nameOf : TableId → String}

/-- **Defaults reach the checks but not the filters.** Let a schema have fields for all options that
filters are made from. The checks read these options as if the defaults of the fields stood in the place
of those that are not there, and find the same problems once they do. The filters are made without the
defaults, and are those of the options with the defaults exactly when the defaults are idle. -/
theorem defaults_reach_checks_but_not_filters (setup : ConnectorSetup)
    (hs : setup.schema = some s) (hnames : ∀ name ∈ TableFilters.options, name ∈ s.names)
    (hc : (build { setup with isBuiltin := some isBuiltin, nameOf := some nameOf } o).outcome = .ok c) :
    let p := o.withDefaults s TableFilters.options
    (∀ name ∈ TableFilters.options, ∃ f ∈ s.fields, f.name = name ∧ o.text? f.key = p.get? name) ∧
    s.validate p = s.validate o ∧ c.validate.outcome = s.validate p ∧
    ∃ f, c.filters = some f ∧ (TableFilters.build o isBuiltin nameOf).outcome = .ok f ∧
      ((TableFilters.build p isBuiltin nameOf).outcome = .ok f ↔ IdleDefaults s o) := by
  intro p
  have hvalid : s.validate p = s.validate o :=
    (Schema.validate_congr_texts (s.sameTexts_withDefaults o TableFilters.options)).symm
  have hfields : s.fields.isEmpty = false := by
    obtain ⟨f, hf, -⟩ := List.mem_map.mp (hnames OptionName.ignoreBuiltin (by decide))
    simpa using List.ne_nil_of_mem hf
  obtain ⟨f, hf, rfl⟩ := build_withCollaborators.mp hc
  refine ⟨fun name hname => ?_, hvalid, ?_, f, rfl, TableFilters.build_eq_ok.mpr hf, ?_⟩
  · obtain ⟨field, hfield, rfl⟩ := List.mem_map.mp (hnames name hname)
    refine ⟨field, hfield, rfl, ?_⟩
    rw [Options.text?_key, Options.get?_withDefaults, if_pos hname, Schema.default?_of_mem hfield]
  · rw [validate_outcome, hvalid]
    simp [schemaOf, hs, hfields]
  · rw [TableFilters.build_eq_ok, hf.iff_sameFilters, TableFilters.sameFilters_withDefaults]

/-- Over the shared schema filters and checks act on the same values, here with the lists written out and
the flag left to its default. -/
theorem shared_defaults_are_idle :
    let o := Options.ofPairs [("table.whitelist", "db\\.a"), ("column.blacklist", "db\\.a\\.id")]
    let p := o.withDefaults .relational TableFilters.options
    let setup : ConnectorSetup :=
      { name := "inv", isBuiltin := some fun t => t.catalog = some "mysql",
        nameOf := some TableId.identifier, schema := some .relational }
    ∃ c f, (build setup o).outcome = .ok c ∧ c.filters = some f ∧
      p.get? "table.ignore.builtin" = some "true" ∧
      (TableFilters.build p (fun t => t.catalog = some "mysql") TableId.identifier).outcome = .ok f := by
  intro o p setup
  obtain ⟨c, hc⟩ : ∃ c, (build setup o).outcome = .ok c :=
    exists_build_eq_ok.mpr fun _ _ => by decide +kernel
  obtain ⟨-, -, -, f, hf, -, hsame⟩ :=
    defaults_reach_checks_but_not_filters setup rfl (by decide) hc
  exact ⟨c, f, hc, hf, by decide +kernel, hsame.mpr (TableFilters.idleDefaults_relational o)⟩

/-- In a schema where the excluded tables have a default, the table that it excludes is captured as long as
nothing but the default says so. -/
theorem default_exclusion_is_passed_over :
    let s : Schema := ⟨[Relational.includedTables,
      { Relational.excludedTables with default := some "db\\.a" }, Relational.ignoreBuiltin,
      Relational.excludedColumns, Relational.includedSchemas, Relational.excludedSchemas], by decide⟩
    let p := Options.empty.withDefaults s TableFilters.options
    let setup : ConnectorSetup :=
      { name := "inv", isBuiltin := some fun _ => false, nameOf := some TableId.identifier,
        schema := some s }
    (∀ name ∈ TableFilters.options, name ∈ s.names) ∧ p.get? "table.blacklist" = some "db\\.a" ∧
    ∃ c g, (build setup .empty).outcome = .ok c ∧
      (TableFilters.build p (fun _ => false) TableId.identifier).outcome = .ok g ∧
      c.filters.map (·.captures ⟨some "db", none, "a"⟩) = some true ∧
      g.captures ⟨some "db", none, "a"⟩ = false := by
  intro s p setup
  obtain ⟨c, hc⟩ : ∃ c, (build setup .empty).outcome = .ok c :=
    exists_build_eq_ok.mpr fun _ _ => by decide +kernel
  obtain ⟨g, hg⟩ : ∃ g, (TableFilters.build p (fun _ => false) TableId.identifier).outcome = .ok g :=
    TableFilters.build_ok_iff.mpr (by decide +kernel)
  have hcaptured : (build setup .empty).outcome.map
      (fun c => c.filters.map (·.captures ⟨some "db", none, "a"⟩)) = .ok (some true) := by
    decide +kernel
  have hexcluded : (TableFilters.build p (fun _ => false) TableId.identifier).outcome.map
      (fun g => g.captures ⟨some "db", none, "a"⟩) = .ok false := by
    decide +kernel
  rw [hc] at hcaptured
  rw [hg] at hexcluded
  exact ⟨by decide, by decide +kernel, c, g, hc, hg, Except.ok.inj hcaptured, Except.ok.inj hexcluded⟩

end Connector

end CaptureConfig
