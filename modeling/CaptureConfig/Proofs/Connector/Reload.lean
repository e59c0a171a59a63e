import CaptureConfig.Proofs.Connector.Influence
import CaptureConfig.Proofs.Table.Same

/-!
# A connector whose options are replaced

The options of a connector can be replaced at any time, and almost every answer is then that of a connector
made from the new options. The filters are not: they stay those of the options that the connector was made
from. So its answers and its description are up to date exactly when the new options describe the same
filters as the first ones, whatever came in between.
-/

namespace CaptureConfig.Connector

open TableFilters (SameFilters)

/-! ## Replacing the options -/

/-- The connector with other options in place of its own. -/
def withOptions (c : Connector) (o : Options) : Connector := { c with options := o }

/-- The connector after its options have been replaced several times. -/
def reloaded (c : Connector) (os : List Options) : Connector := os.foldl withOptions c

/-- The connector with other filters in place of its own. -/
def withFilters (c : Connector) (filters : Option TableFilters) : Connector :=
  { c with filters := filters }

variable {c d : Connector} {o p : Options}

/-- Nothing but the options changes. -/
theorem reloaded_eq_withOptions (c : Connector) (os : List Options) :
    ∃ o, c.reloaded os = c.withOptions o := by
  induction os generalizing c with
  | nil => exact ⟨c.options, rfl⟩
  | cons o os ih =>
      obtain ⟨p, hp⟩ := ih (c.withOptions o)
      exact ⟨p, hp⟩

/-- The last options count, whatever came before them. -/
theorem reloaded_append_singleton (c : Connector) (before : List Options) (p : Options) :
    c.reloaded (before ++ [p]) = c.withOptions p := by
  obtain ⟨o, ho⟩ := reloaded_eq_withOptions c before
  unfold reloaded at ho ⊢
  rw [List.foldl_append, ho]
  rfl

/-! ## Answers with other filters -/

theorem resolve_withFilters (d : Connector) (filters : Option TableFilters) :
    (d.withFilters filters).resolve =
      ⟨d.resolve.notices, d.resolve.outcome.map fun r => { r with filters := filters }⟩ := by
  unfold resolve
  have hoverrides : (d.withFilters filters).overrides = d.overrides := rfl
  have hmode : (d.withFilters filters).decimalMode? = d.decimalMode? := rfl
  have hsize : (d.withFilters filters).fetchSize? = d.fetchSize? := rfl
  simp only [hoverrides, hmode, hsize]
  cases d.overrides.outcome with
  | error fault => rfl
  | ok found =>
      cases d.decimalMode? with
      | error fault => rfl
      | ok mode => cases d.fetchSize? <;> rfl

theorem filters_of_resolve {r : Resolved} (h : d.resolve.outcome = .ok r) : r.filters = d.filters := by
  obtain ⟨found, mode, size, -, -, -, rfl⟩ := resolve_eq_ok.mp h
  rfl

/-- The resolved settings as they are shown, with the records made on the way. -/
def description (c : Connector) : Reported Json :=
  ⟨c.resolve.notices, c.resolve.outcome.map Resolved.toJson⟩

theorem toJson_withFilters {r : Resolved} {f g : TableFilters} (h : r.filters = some g) :
    ({ r with filters := some f } : Resolved).toJson = r.toJson ↔ f.toJson = g.toJson := by
  simp [Resolved.toJson, h]

/-- The filters show in a description, unless there is none. -/
theorem description_withFilters {f g : TableFilters} (hg : d.filters = some g) :
    (d.withFilters (some f)).description = d.description ↔
      f.toJson = g.toJson ∨ ∃ fault, d.resolve.outcome = .error fault := by
  unfold description
  rw [resolve_withFilters]
  cases h : d.resolve.outcome with
  | error fault => simp [Except.map]
  | ok r =>
      rw [← toJson_withFilters ((filters_of_resolve h).trans hg)]
      simp [Except.map]

/-! ## The filters that stay -/

variable {setup : ConnectorSetup} {isBuiltin : TableId → Bool} {nameOf : TableId → String}

/-- The description of a connector whose options were replaced mixes the first options with the last ones
unless they describe the same filters. -/
theorem description_reloaded (setup : ConnectorSetup) (before : List Options)
    (hc : (build { setup with isBuiltin := some isBuiltin, nameOf := some nameOf } o).outcome = .ok c)
    (hd : (build { setup with isBuiltin := some isBuiltin, nameOf := some nameOf } p).outcome = .ok d) :
    (c.reloaded (before ++ [p])).description = d.description ↔
      SameFilters o p ∨ ∃ fault, d.resolve.outcome = .error fault := by
  obtain ⟨f, hf, rfl⟩ := build_withCollaborators.mp hc
  obtain ⟨g, hg, rfl⟩ := build_withCollaborators.mp hd
  rw [reloaded_append_singleton, ← hf.toJson_eq_iff hg]
  exact description_withFilters (d := ⟨setup.name, p, setup.fetchSize, schemaOf setup, some g⟩) rfl

/-- **What a replacement of the options reaches.** After any replacements the connector answers like one
made from the last options, apart from its filters: they are still those it was made with. So all its
answers are those of the other one exactly when the first and the last options describe the same filters,
and its description is the same exactly in that case or when neither has one. -/
theorem reloading_reaches_all_but_the_filters (setup : ConnectorSetup) (before : List Options)
    (hc : (build { setup with isBuiltin := some isBuiltin, nameOf := some nameOf } o).outcome = .ok c)
    (hd : (build { setup with isBuiltin := some isBuiltin, nameOf := some nameOf } p).outcome = .ok d) :
    let r := c.reloaded (before ++ [p])
    (r.decimalMode? = d.decimalMode? ∧ r.fetchSize? = d.fetchSize? ∧ r.overrides = d.overrides ∧
      r.validate = d.validate) ∧
    r.filters = c.filters ∧
    (AnswerAlike r d ↔ SameFilters o p) ∧
    (r.description = d.description ↔
      SameFilters o p ∨ ∃ fault, d.resolve.outcome = .error fault) := by
  have hdescription := description_reloaded setup before hc hd
  obtain ⟨f, hf, rfl⟩ := build_withCollaborators.mp hc
  obtain ⟨g, hg, rfl⟩ := build_withCollaborators.mp hd
  dsimp only
  rw [reloaded_append_singleton] at hdescription ⊢
  refine ⟨⟨rfl, rfl, rfl, rfl⟩, rfl, ⟨fun h => ?_, fun h => ?_⟩, hdescription⟩
  · exact (hf.toJson_eq_iff hg).mp (Option.some.inj h.patterns)
  · obtain rfl := (hf.of_sameFilters h).unique hg
    exact ⟨fun _ => rfl, fun _ => rfl, fun _ _ => rfl, rfl, rfl, rfl, rfl, rfl⟩

/-- Lists that are only written in another way leave nothing of the options before the last ones. -/
theorem reloaded_in_other_words :
    let first := Options.ofPairs [("table.whitelist", "db\\.a,b"), ("decimal.handling.mode", "string")]
    let between := Options.ofPairs [("table.whitelist", "("), ("snapshot.fetch.size", "many")]
    let last := Options.ofPairs [("table.whitelist", " db\\.a , b,"), ("table.ignore.builtin", " TRUE "),
      ("decimal.handling.mode", "double")]
    let setup : ConnectorSetup :=
      { name := "inv", isBuiltin := some fun _ => false, nameOf := some TableId.identifier }
    ∃ c d, (build setup first).outcome = .ok c ∧ (build setup last).outcome = .ok d ∧
      AnswerAlike (c.reloaded [between, last]) d := by
  intro first between last setup
  obtain ⟨c, hc⟩ : ∃ c, (build setup first).outcome = .ok c := build_ok_iff.mpr (by decide +kernel)
  obtain ⟨d, hd⟩ : ∃ d, (build setup last).outcome = .ok d := build_ok_iff.mpr (by decide +kernel)
  have hsame : SameFilters first last := ⟨by decide +kernel, by decide +kernel⟩
  obtain ⟨-, -, halike, -⟩ :=
    reloading_reaches_all_but_the_filters setup [between] hc hd
  exact ⟨c, d, hc, hd, halike.mpr hsame⟩

/-- A table that the new options leave out stays captured, and the description shows the new decimal mode
beside the old filters. -/
theorem reloading_mixes_two_configurations :
    let p := Options.ofPairs [("table.whitelist", "db\\.a"), ("decimal.handling.mode", "double")]
    let setup : ConnectorSetup :=
      { name := "inv", isBuiltin := some fun _ => false, nameOf := some TableId.identifier }
    ∃ c d, (build setup .empty).outcome = .ok c ∧ (build setup p).outcome = .ok d ∧
      (c.reloaded [p]).filters.map (·.captures ⟨some "db", none, "b"⟩) = some true ∧
      d.filters.map (·.captures ⟨some "db", none, "b"⟩) = some false ∧
      (c.reloaded [p]).decimalMode? = .ok .double ∧
      (c.reloaded [p]).description ≠ d.description := by
  intro p setup
  obtain ⟨c, hc⟩ : ∃ c, (build setup .empty).outcome = .ok c := build_ok_iff.mpr (by decide +kernel)
  obtain ⟨d, hd⟩ : ∃ d, (build setup p).outcome = .ok d := build_ok_iff.mpr (by decide +kernel)
  have hold : (build setup .empty).outcome.map (fun c =>
      ((c.reloaded [p]).filters.map (·.captures ⟨some "db", none, "b"⟩),
        (c.reloaded [p]).decimalMode?)) = .ok (some true, .ok .double) := by
    decide +kernel
  have hnew : (build setup p).outcome.map (fun d => d.filters.map (·.captures ⟨some "db", none, "b"⟩)) =
      .ok (some false) := by
    decide +kernel
  have hshown : (build setup p).outcome.map (fun d => d.resolve.outcome.isOk) = .ok true := by
    decide +kernel
  rw [hc] at hold
  rw [hd] at hnew hshown
  obtain ⟨hcaptured, hmode⟩ := Prod.mk.inj (Except.ok.inj hold)
  refine ⟨c, d, hc, hd, hcaptured, Except.ok.inj hnew, hmode, fun hsame => ?_⟩
  rcases (description_reloaded setup [] hc hd).mp hsame with h | ⟨fault, hfault⟩
  · exact absurd (h.entries OptionName.includedTables (by decide)) (by decide +kernel)
  · rw [Except.map, hfault] at hshown
    cases hshown

end CaptureConfig.Connector
