import CaptureConfig.Proofs.Schema.Check
import CaptureConfig.Proofs.Table.Filter
import CaptureConfig.Schema.Relational

/-!
# The configurations without problems

What the shared schema checks is said of the raw texts of the options. Defaults never decide, since each
passes the check of its own field, and an option counts as given even if its text is empty.
-/

namespace CaptureConfig

namespace Relational

/-- The texts of the options are as the shared schema wants them. -/
structure Admissible (o : Options) : Prop where
  serverName : ∃ v, o.get? OptionName.serverName = some v ∧ Text.blank v = false
  fetchSize : ∀ v, o.get? OptionName.fetchSize = some v → ∃ i, Text.readInteger v = .ok i ∧ 0 < i
  patterns : ∀ name ∈ TableFilters.patternOptions, ∀ v, o.get? name = some v →
    ∀ entry ∈ PatternList.entries v, PatternList.Compiles entry
  ignoreBuiltin : ∀ v, o.get? OptionName.ignoreBuiltin = some v →
    Text.lowered (Text.trim v) = "true" ∨ Text.lowered (Text.trim v) = "false"
  decimalMode : ∀ v, o.get? OptionName.decimalMode = some v →
    ∃ mode : DecimalMode, mode.name = Text.lowered (Text.trim v)
  tables : ¬ (o.contains OptionName.includedTables ∧ o.contains OptionName.excludedTables)
  schemas : ¬ (o.contains OptionName.includedSchemas ∧ o.contains OptionName.excludedSchemas)

/-- The problem of two lists at once: there is one when both options are there, with the text of the
second. -/
def conflict (o : Options) (included excluded : String) (finding : Finding) : List Problem :=
  match o.get? included, o.get? excluded with
  | some _, some value => [⟨excluded, some value, finding.message⟩]
  | _, _ => []

variable {o : Options}

theorem checks_eq : Schema.relational.checks =
    [(serverName, .required), (fetchSize, .positiveInteger), (includedTables, .patternList),
      (excludedTables, .patternList), (excludedTables, .tableLists), (ignoreBuiltin, .boolean),
      (excludedColumns, .patternList), (decimalMode, .decimalMode), (includedSchemas, .patternList),
      (excludedSchemas, .patternList), (excludedSchemas, .schemaLists)] := rfl

/-! ## Single options -/

theorem readFlag?_isSome {v : String} : (Options.readFlag? v).isSome ↔
    Text.lowered (Text.trim v) = "true" ∨ Text.lowered (Text.trim v) = "false" := by
  unfold Options.readFlag?
  by_cases htrue : Text.lowered (Text.trim v) = "true" <;>
    by_cases hfalse : Text.lowered (Text.trim v) = "false" <;> simp [htrue, hfalse]

theorem named?_eq_some {v : String} {mode : DecimalMode} :
    DecimalMode.named? v = some mode ↔ mode.name = Text.lowered (Text.trim v) := by
  unfold DecimalMode.named?
  constructor
  · intro h
    simpa using List.find?_some h
  · intro h
    rw [← h]
    cases mode <;> decide

theorem named?_isSome {v : String} : (DecimalMode.named? v).isSome ↔
    ∃ mode : DecimalMode, mode.name = Text.lowered (Text.trim v) := by
  simp only [Option.isSome_iff_exists, named?_eq_some]

theorem named?_eq_none {v : String} : DecimalMode.named? v = none ↔
    ∀ mode : DecimalMode, mode.name ≠ Text.lowered (Text.trim v) := by
  rw [← Option.not_isSome_iff_eq_none, named?_isSome, not_exists]

theorem readFlag?_eq_none {v : String} : Options.readFlag? v = none ↔
    Text.lowered (Text.trim v) ≠ "true" ∧ Text.lowered (Text.trim v) ≠ "false" := by
  rw [← Option.not_isSome_iff_eq_none, readFlag?_isSome, not_or]

/-- Every default of the shared schema passes the check of its own field. -/
theorem default_admissible :
    (∀ d, ignoreBuiltin.default = some d → (Options.readFlag? d).isSome) ∧
      ∀ d, decimalMode.default = some d → (DecimalMode.named? d).isSome := by
  constructor
  · intro d hd
    obtain rfl : "true" = d := Option.some.inj hd
    decide
  · intro d hd
    obtain rfl : "precise" = d := Option.some.inj hd
    decide

theorem run_serverName : Check.run o serverName .relational .required = .ok [] ↔
    ∃ v, o.get? OptionName.serverName = some v ∧ Text.blank v = false := by
  rw [Check.run_required, Options.text?_key]
  simp only [serverName, Option.or_none]

theorem run_fetchSize : Check.run o fetchSize .relational .positiveInteger = .ok [] ↔
    ∀ v, o.get? OptionName.fetchSize = some v → ∃ i, Text.readInteger v = .ok i ∧ 0 < i := by
  rw [Check.run_positiveInteger, Options.text?_key]
  simp only [fetchSize, Option.or_none]

theorem run_ignoreBuiltin : Check.run o ignoreBuiltin .relational .boolean = .ok [] ↔
    ∀ v, o.get? OptionName.ignoreBuiltin = some v →
      Text.lowered (Text.trim v) = "true" ∨ Text.lowered (Text.trim v) = "false" := by
  rw [Check.run_boolean, Options.forall_text?_key default_admissible.1]
  simp only [readFlag?_isSome, ignoreBuiltin]

theorem run_decimalMode : Check.run o decimalMode .relational .decimalMode = .ok [] ↔
    ∀ v, o.get? OptionName.decimalMode = some v →
      ∃ mode : DecimalMode, mode.name = Text.lowered (Text.trim v) := by
  rw [Check.run_decimalMode, Options.forall_text?_key default_admissible.2]
  simp only [named?_isSome, decimalMode]

theorem run_patternList {f : Field} (hdefault : f.default = none) :
    Check.run o f .relational .patternList = .ok [] ↔
      ∀ v, o.get? f.name = some v → ∀ entry ∈ PatternList.entries v, PatternList.Compiles entry := by
  rw [Check.run_patternList, Options.text?_key, hdefault, Option.or_none]

/-! ## Two lists at once -/

theorem run_tableLists : Check.run o excludedTables .relational .tableLists =
    .ok (conflict o OptionName.includedTables OptionName.excludedTables .tablesIncludedToo) := by
  have hwhite : Schema.relational.field? OptionName.includedTables = .ok includedTables :=
    Schema.field?_of_mem (f := includedTables) (by simp [Schema.relational, fields])
  have hblack : Schema.relational.field? OptionName.excludedTables = .ok excludedTables :=
    Schema.field?_of_mem (f := excludedTables) (by simp [Schema.relational, fields])
  refine (Check.bothLists_eq_ok hwhite hblack).trans (congrArg Except.ok ?_)
  rw [Options.text?_key, Options.text?_key]
  simp only [includedTables, excludedTables, Option.or_none]
  rfl

theorem run_schemaLists : Check.run o excludedSchemas .relational .schemaLists =
    .ok (conflict o OptionName.includedSchemas OptionName.excludedSchemas .schemasIncludedToo) := by
  have hwhite : Schema.relational.field? OptionName.includedSchemas = .ok includedSchemas :=
    Schema.field?_of_mem (f := includedSchemas) (by simp [Schema.relational, fields])
  have hblack : Schema.relational.field? OptionName.excludedSchemas = .ok excludedSchemas :=
    Schema.field?_of_mem (f := excludedSchemas) (by simp [Schema.relational, fields])
  refine (Check.bothLists_eq_ok hwhite hblack).trans (congrArg Except.ok ?_)
  rw [Options.text?_key, Options.text?_key]
  simp only [includedSchemas, excludedSchemas, Option.or_none]
  rfl

theorem conflict_eq_nil {included excluded : String} {finding : Finding} :
    conflict o included excluded finding = [] ↔ ¬ (o.contains included ∧ o.contains excluded) := by
  unfold conflict Options.contains
  cases o.get? included <;> cases o.get? excluded <;> simp

/-! ## All checks together -/

theorem validate_eq_ok_nil_iff : Schema.relational.validate o = .ok [] ↔ Admissible o := by
  rw [validate_eq_ok_nil, checks_eq]
  simp only [List.forall_mem_cons, List.not_mem_nil, false_implies, implies_true, and_true,
    run_serverName, run_fetchSize, run_tableLists, run_schemaLists, Except.ok.injEq, conflict_eq_nil,
    run_ignoreBuiltin, run_decimalMode]
  rw [run_patternList rfl, run_patternList rfl, run_patternList rfl, run_patternList rfl,
    run_patternList rfl]
  constructor
  · rintro ⟨hserver, hfetch, hit, het, htables, hflag, hec, hmode, his, hes, hschemas⟩
    refine ⟨hserver, hfetch, ?_, hflag, hmode, htables, hschemas⟩
    simp only [TableFilters.patternOptions, List.forall_mem_cons]
    exact ⟨hit, het, his, hes, hec, by simp⟩
  · rintro ⟨hserver, hfetch, hpatterns, hflag, hmode, htables, hschemas⟩
    simp only [TableFilters.patternOptions, List.forall_mem_cons] at hpatterns
    obtain ⟨hit, het, his, hes, hec, -⟩ := hpatterns
    exact ⟨hserver, hfetch, hit, het, htables, hflag, hec, hmode, his, hes, hschemas⟩

/-- When one check alone comes to a finding, and to no other, the problems so worded are the problems of
that check. -/
theorem filter_message {problems : List Problem} {finding : Finding}
    (h : Schema.relational.validate o = .ok problems) (before after : List (Field × Check))
    (d : Field × Check) (hchecks : Schema.relational.checks = before ++ d :: after)
    (hrest : ∀ d' ∈ before ++ after, d'.2 ≠ d.2)
    (hcheck : ∀ check found, check.Finds found → (check = d.2 ↔ found = finding))
    (hmessage : ∀ found : Finding, found.message = finding.message ↔ found = finding) :
    d.2.run o d.1 .relational =
      .ok (problems.filter fun p => decide (p.message = finding.message)) := by
  refine Schema.filter_validate before after d h hchecks (fun value found hfound => ?_)
    (fun d' hd' value found hfound => ?_)
  · exact decide_eq_true ((hmessage found).mpr ((hcheck _ _ hfound).mp rfl))
  · exact decide_eq_false fun heq =>
      hrest d' hd' ((hcheck _ _ hfound).mpr ((hmessage found).mp heq))

theorem filter_tablesIncludedToo {problems : List Problem}
    (h : Schema.relational.validate o = .ok problems) :
    (problems.filter fun p => p.message = Finding.tablesIncludedToo.message) =
      conflict o OptionName.includedTables OptionName.excludedTables .tablesIncludedToo := by
  have hrun := filter_message h (Schema.relational.checks.take 4) (Schema.relational.checks.drop 5)
    (excludedTables, .tableLists) rfl (by decide)
    (fun check found hfinds => by cases hfinds <;> simp)
    (fun found => Finding.message_inj_of_lists.1)
  exact (Except.ok.inj (run_tableLists.symm.trans hrun)).symm

theorem filter_schemasIncludedToo {problems : List Problem}
    (h : Schema.relational.validate o = .ok problems) :
    (problems.filter fun p => p.message = Finding.schemasIncludedToo.message) =
      conflict o OptionName.includedSchemas OptionName.excludedSchemas .schemasIncludedToo := by
  have hrun := filter_message h (Schema.relational.checks.take 10) [] (excludedSchemas, .schemaLists)
    rfl (by decide) (fun check found hfinds => by cases hfinds <;> simp)
    (fun found => Finding.message_inj_of_lists.2)
  exact (Except.ok.inj (run_schemaLists.symm.trans hrun)).symm

/-! ## Problems with one text -/

/-- The check of decimal modes reports a text exactly when it is given and names none. -/
theorem exists_reported_decimalMode {problems : List Problem}
    (h : Schema.relational.validate o = .ok problems) (v : String) :
    (∃ p ∈ problems, p.field = OptionName.decimalMode ∧ p.value = some v) ↔
      o.get? OptionName.decimalMode = some v ∧ DecimalMode.named? v = none := by
  have hrun := Schema.filter_field (Schema.relational.checks.take 7) (Schema.relational.checks.drop 8)
    (decimalMode, .decimalMode) h rfl (by decide)
  have hreported := exists_reported_iff (f := decimalMode) (Except.ok.inj hrun) default_admissible.2 v
  rwa [← Bool.not_eq_true, Option.not_isSome_iff_eq_none] at hreported

/-- The check of truth values reports a text exactly when it is given and names none. -/
theorem exists_reported_ignoreBuiltin {problems : List Problem}
    (h : Schema.relational.validate o = .ok problems) (v : String) :
    (∃ p ∈ problems, p.field = OptionName.ignoreBuiltin ∧ p.value = some v) ↔
      o.get? OptionName.ignoreBuiltin = some v ∧ Options.readFlag? v = none := by
  have hrun := Schema.filter_field (Schema.relational.checks.take 5) (Schema.relational.checks.drop 6)
    (ignoreBuiltin, .boolean) h rfl (by decide)
  have hreported := exists_reported_iff (f := ignoreBuiltin) (Except.ok.inj hrun) default_admissible.1 v
  rwa [← Bool.not_eq_true, Option.not_isSome_iff_eq_none] at hreported

/-- **What the shared schema finds.** A configuration has no problem exactly when the texts of its
options are as wanted. Whatever else is found, two lists of one kind make one problem, which is reported
on the second list and with its text, and the problems come in the order of the fields. -/
theorem validate_relational (o : Options) :
    (Schema.relational.validate o = .ok [] ↔ Admissible o) ∧
      ∀ problems, Schema.relational.validate o = .ok problems →
        (problems.filter fun p => p.message = Finding.tablesIncludedToo.message) =
            conflict o OptionName.includedTables OptionName.excludedTables .tablesIncludedToo ∧
          (problems.filter fun p => p.message = Finding.schemasIncludedToo.message) =
            conflict o OptionName.includedSchemas OptionName.excludedSchemas .schemasIncludedToo ∧
          (∀ p ∈ problems, p.field ∈ Schema.relational.names) ∧
          problems.Pairwise fun p q =>
            Schema.relational.names.idxOf p.field ≤ Schema.relational.names.idxOf q.field := by
  refine ⟨validate_eq_ok_nil_iff, fun problems h => ?_⟩
  -- also the checks of two lists report on the field that asks for them, which is the second list
  have hself : ∀ d ∈ Schema.relational.checks, d.2.reportsOn d.1 = d.1.name := by
    decide
  refine ⟨filter_tablesIncludedToo h, filter_schemasIncludedToo h, fun p hp => ?_, ?_⟩
  · obtain ⟨d, hd, value, finding, -, rfl⟩ := Schema.mem_validate h hp
    have hname : ∀ d ∈ Schema.relational.checks, d.1.name ∈ Schema.relational.names := by
      decide
    exact (hself d hd).symm ▸ hname d hd
  · exact Schema.validate_pairwise h hself

end Relational

end CaptureConfig
