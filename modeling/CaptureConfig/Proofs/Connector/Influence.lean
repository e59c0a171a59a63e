import CaptureConfig.Connector.Description
import CaptureConfig.Proofs.Connector.Resolve

/-!
# The options that have an influence

A connector over the shared schema reads the options of its fields and the snapshot statements of tables.
Whatever else a store holds, and in whatever order, makes no difference to how the connector is built, to
its answers, or to what it reports.
-/

namespace CaptureConfig.Connector

/-- The options that a connector over the shared schema reads: those of the fields, and the statements. -/
def Reads (name : String) : Prop :=
  name ∈ Schema.relational.names ∨ (OptionName.snapshotOverrides ++ ".").toList <+: name.toList

instance : DecidablePred Reads := fun name => by
  unfold Reads
  infer_instance

/-- Two stores hold the same at each option that is read, or neither has it. -/
def SameOptions (o p : Options) : Prop := ∀ name, Reads name → o.get? name = p.get? name

/-- Two connectors give the same answers, with the same records. -/
structure AnswerAlike (c d : Connector) : Prop where
  tables : ∀ t, c.filters.map (·.captures t) = d.filters.map (·.captures t)
  schemas : ∀ s, c.filters.map (·.capturesSchema s) = d.filters.map (·.capturesSchema s)
  columns : ∀ t column,
    c.filters.map (·.capturesColumn t column) = d.filters.map (·.capturesColumn t column)
  patterns : c.filters.map TableFilters.toJson = d.filters.map TableFilters.toJson
  decimalMode : c.decimalMode? = d.decimalMode?
  fetchSize : c.fetchSize? = d.fetchSize?
  overrides : c.overrides = d.overrides
  problems : c.validate = d.validate

variable {o p : Options} {c d : Connector}

/-! ## Reading the same options -/

namespace SameOptions

theorem field (h : SameOptions o p) {name : String} (hname : name ∈ Schema.relational.names) :
    o.get? name = p.get? name :=
  h name (Or.inl hname)

theorem statement (h : SameOptions o p) (token : String) :
    o.get? (Override.statementKey OptionName.snapshotOverrides token) =
      p.get? (Override.statementKey OptionName.snapshotOverrides token) := by
  refine h _ (Or.inr ?_)
  rw [Override.statementKey, @String.toList_append _ token]
  exact List.prefix_append _ _

/-- The order of the entries does not matter: it is enough that each entry that is read is in both. -/
theorem of_entries (h : ∀ e ∈ o.entries, Reads e.1 → e ∈ p.entries)
    (h' : ∀ e ∈ p.entries, Reads e.1 → e ∈ o.entries) : SameOptions o p := by
  intro name hname
  apply Option.ext
  intro value
  rw [Options.get?_eq_some, Options.get?_eq_some]
  exact ⟨fun hmem => h _ hmem hname, fun hmem => h' _ hmem hname⟩

theorem filtersOf_congr (h : SameOptions o p) (setup : ConnectorSetup) :
    filtersOf setup o = filtersOf setup p := by
  have hpatterns : ∀ name ∈ TableFilters.patternOptions, name ∈ Schema.relational.names := by
    decide
  have hbuild : TableFilters.build o = TableFilters.build p := by
    funext isBuiltin nameOf
    exact TableFilters.build_congr
      (fun name hname => TableFilters.patternsOf_congr (h.field (hpatterns name hname)))
      (h.field (by decide))
  rw [filtersOf, filtersOf, hbuild]

/-- Connectors that differ in their stores alone answer alike if the stores hold the same options. -/
theorem answerAlike (h : SameOptions o p) {name : String} {size : Int} {filters : Option TableFilters} :
    AnswerAlike ⟨name, o, size, .relational, filters⟩ ⟨name, p, size, .relational, filters⟩ where
  tables _ := rfl
  schemas _ := rfl
  columns _ _ := rfl
  patterns := rfl
  decimalMode := by
    have hmode : o.get? OptionName.decimalMode = p.get? OptionName.decimalMode := h.field (by decide)
    simp only [decimalMode?_relational, hmode]
  fetchSize := by
    have hsize : o.get? OptionName.fetchSize = p.get? OptionName.fetchSize := h.field (by decide)
    simp only [fetchSize?_relational, hsize]
  overrides := by
    rw [overrides_relational rfl, overrides_relational rfl]
    exact Override.resolve_congr (h.field (by decide)) h.statement
  problems := by
    unfold validate
    dsimp only
    rw [Schema.validate_congr fun name hname => h.field hname]

end SameOptions

/-- **Unread options have no influence.** From two stores that hold the same at the options of the shared
schema and at the snapshot statements, connectors are built with the same records and stopped by the same
faults, and those that are built give the same answers. -/
theorem unread_options_have_no_influence (h : SameOptions o p) (setup : ConnectorSetup)
    (hschema : schemaOf setup = .relational) :
    (build setup o).notices = (build setup p).notices ∧
      (∀ fault, (build setup o).outcome = .error fault ↔ (build setup p).outcome = .error fault) ∧
      ∀ c d, (build setup o).outcome = .ok c → (build setup p).outcome = .ok d → AnswerAlike c d := by
  rw [build_eq, build_eq, h.filtersOf_congr, hschema]
  refine ⟨rfl, fun fault => by rw [Steps.map_eq_error, Steps.map_eq_error], fun c d hc hd => ?_⟩
  obtain ⟨filters, hfilters, rfl⟩ := Steps.map_eq_ok.mp hc
  obtain ⟨filters', hfilters', rfl⟩ := Steps.map_eq_ok.mp hd
  obtain rfl := Except.ok.inj (hfilters.symm.trans hfilters')
  exact h.answerAlike

/-- Options of other connectors, names that only start like one that is read, and the order of the entries
make no difference. -/
theorem answers_beside_other_options :
    let o := Options.ofPairs [("database.server.name", "inv"), ("table.whitelist", "db\\..*"),
      ("snapshot.select.statement.overrides", "db.t, x"),
      ("snapshot.select.statement.overrides.db.t", "SELECT 1"), ("plugin.name", "decoderbufs")]
    let p := Options.ofPairs [("snapshot.select.statement.overrides2", "db..t"),
      ("snapshot.select.statement.overrides.db.t", "SELECT 1"), ("table.whitelist.old", "("),
      ("snapshot.select.statement.overrides", "db.t, x"), ("table.whitelist", "db\\..*"),
      ("database.server.name", "inv")]
    let setup : ConnectorSetup :=
      { name := "inv", isBuiltin := some fun _ => false, nameOf := some TableId.identifier }
    ∃ c d, (build setup o).outcome = .ok c ∧ (build setup p).outcome = .ok d ∧ AnswerAlike c d := by
  intro o p setup
  have hsame : SameOptions o p := SameOptions.of_entries (by decide +kernel) (by decide +kernel)
  obtain ⟨-, hfaults, halike⟩ := unread_options_have_no_influence hsame setup rfl
  obtain ⟨c, hc⟩ : ∃ c, (build setup o).outcome = .ok c := build_ok_iff.mpr (by decide +kernel)
  obtain ⟨d, hd⟩ : ∃ d, (build setup p).outcome = .ok d := by
    rcases Steps.exists_ok_or_error (build setup p).outcome with hok | ⟨fault, hfault⟩
    · exact hok
    · rw [(hfaults fault).mpr hfault] at hc
      cases hc
  exact ⟨c, d, hc, hd, halike c d hc hd⟩

end CaptureConfig.Connector
