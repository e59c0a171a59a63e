import CaptureConfig.Proofs.Option.Store
import CaptureConfig.Proofs.Pattern.List
import CaptureConfig.Table.Filter

/-!
# When filters can be built

Five options are lists of regular expressions. The filters are built exactly when all entries of the five
lists compile, and otherwise the fault names the first refused entry, the lists taken in the order in
which they are compiled. The option about tables of the database system never stands in the way. Filters
that are built hold the expressions of these options, and no other option has a part in them.
-/

namespace CaptureConfig.TableFilters

/-- The options that are lists of regular expressions, in the order in which they are compiled. -/
def patternOptions : List String :=
  [OptionName.includedTables, OptionName.excludedTables, OptionName.includedSchemas,
    OptionName.excludedSchemas, OptionName.excludedColumns]

/-- The entries of an option; an option that is not there has none. -/
def entriesOf (o : Options) (name : String) : List String :=
  PatternList.entries ((o.get? name).getD "")

/-- The entries of all five lists. -/
def allEntries (o : Options) : List String := patternOptions.flatMap (entriesOf o)

variable {o : Options} {isBuiltin : TableId → Bool} {nameOf : TableId → String}

theorem patternsOf_eq (o : Options) (name : String) :
    patternsOf o name = (entriesOf o name).mapM PatternList.compileEntry :=
  PatternList.compile?_mapError _

theorem forall_mem_entriesOf {name : String} {motive : String → Prop} :
    (∀ entry ∈ entriesOf o name, motive entry) ↔
      ∀ v, o.get? name = some v → ∀ entry ∈ PatternList.entries v, motive entry := by
  cases h : o.get? name <;> simp [entriesOf, h, PatternList.entries_empty]

theorem forall_mem_allEntries {motive : String → Prop} :
    (∀ entry ∈ allEntries o, motive entry) ↔
      ∀ name ∈ patternOptions, ∀ v, o.get? name = some v →
        ∀ entry ∈ PatternList.entries v, motive entry := by
  simp only [allEntries, List.forall_mem_flatMap, forall_mem_entriesOf]

/-- The outcome of building is that of compiling the five lists one after another. -/
theorem build_outcome (o : Options) (isBuiltin : TableId → Bool) (nameOf : TableId → String) :
    (build o isBuiltin nameOf).outcome = (do
      let includedTables ← patternsOf o OptionName.includedTables
      let excludedTables ← patternsOf o OptionName.excludedTables
      let includedSchemas ← patternsOf o OptionName.includedSchemas
      let excludedSchemas ← patternsOf o OptionName.excludedSchemas
      let excludedColumns ← patternsOf o OptionName.excludedColumns
      return ⟨(readIgnoreBuiltin o).1, isBuiltin, nameOf, includedTables, excludedTables,
        includedSchemas, excludedSchemas, excludedColumns⟩) := by
  unfold build
  dsimp only
  split <;> rename_i h <;> exact h.symm

/-- Building fails as compiling the five lists does: nothing after them can fail. -/
theorem build_eq_error_iff_mapM {fault : Fault} :
    (build o isBuiltin nameOf).outcome = .error fault ↔
      patternOptions.mapM (patternsOf o) = .error fault := by
  rw [build_outcome]
  simp [patternOptions, Steps.bind_eq_error, pure, Except.pure]

/-- **What stops the filters.** The fault is that of the first entry, over all five lists, that does not
compile. -/
theorem build_eq_error {fault : Fault} :
    (build o isBuiltin nameOf).outcome = .error fault ↔
      Steps.FirstFault PatternList.compileEntry (allEntries o) fault := by
  rw [build_eq_error_iff_mapM, Steps.mapM_eq_error, allEntries, ← Steps.firstFault_flatMap]
  exact iff_of_eq (congrArg (Steps.FirstFault · _ fault) (funext (patternsOf_eq o)))

theorem build_ok_iff : (∃ f, (build o isBuiltin nameOf).outcome = .ok f) ↔
    ∀ entry ∈ allEntries o, PatternList.Compiles entry := by
  simp only [← PatternList.compileEntry_ok_iff]
  rw [← Steps.mapM_ok_iff, ← not_iff_not, Steps.not_ok_iff, Steps.not_ok_iff]
  simp only [build_eq_error, Steps.mapM_eq_error]

/-! ## The filters that are built -/

/-- The filters are those that the options describe. -/
structure Describes (o : Options) (isBuiltin : TableId → Bool) (nameOf : TableId → String)
    (f : TableFilters) : Prop where
  ignoreBuiltin : (readIgnoreBuiltin o).1 = f.ignoreBuiltin
  isBuiltin : isBuiltin = f.isBuiltin
  nameOf : nameOf = f.nameOf
  includedTables : patternsOf o OptionName.includedTables = .ok f.includedTables
  excludedTables : patternsOf o OptionName.excludedTables = .ok f.excludedTables
  includedSchemas : patternsOf o OptionName.includedSchemas = .ok f.includedSchemas
  excludedSchemas : patternsOf o OptionName.excludedSchemas = .ok f.excludedSchemas
  excludedColumns : patternsOf o OptionName.excludedColumns = .ok f.excludedColumns

theorem build_eq_ok {f : TableFilters} :
    (build o isBuiltin nameOf).outcome = .ok f ↔ Describes o isBuiltin nameOf f := by
  rw [build_outcome]
  simp only [Steps.bind_eq_ok]
  constructor
  · rintro ⟨_, hit, _, het, _, his, _, hes, _, hec, h⟩
    obtain rfl := Except.ok.inj h
    exact ⟨rfl, rfl, rfl, hit, het, his, hes, hec⟩
  · intro h
    refine ⟨_, h.includedTables, _, h.excludedTables, _, h.includedSchemas, _, h.excludedSchemas, _,
      h.excludedColumns, ?_⟩
    rw [h.ignoreBuiltin, h.isBuiltin, h.nameOf]
    rfl

/-- The record about the filters that were built. -/
def summary (f : TableFilters) : Notice :=
  .plain .debug
    ("Built table filters with " ++ Text.showNat f.includedTables.length ++ " included and " ++
      Text.showNat f.excludedTables.length ++ " excluded table pattern(s)")

theorem build_notices {f : TableFilters} (h : (build o isBuiltin nameOf).outcome = .ok f) :
    (build o isBuiltin nameOf).notices = (readIgnoreBuiltin o).2 ++ [summary f] := by
  unfold build at h ⊢
  dsimp only at h ⊢
  split at h
  · obtain rfl := Except.ok.inj h
    rfl
  · cases h

/-- The warning about a text that does not tell whether tables of the database system are left out. -/
def unreadable (v : String) : Notice :=
  .plain .warning
    ((OptionFault.notBoolean v OptionName.ignoreBuiltin).message ++ "; built-in tables are ignored")

/-- Tables of the database system are left out unless a text says that they are not. -/
theorem readIgnoreBuiltin_eq (o : Options) : readIgnoreBuiltin o =
    match o.get? OptionName.ignoreBuiltin with
    | none => (true, [])
    | some v => match Options.readFlag? v with
      | some b => (b, [])
      | none => (true, [unreadable v]) := by
  unfold readIgnoreBuiltin Options.flag? Options.text?
  simp only [Option.or_none]
  cases o.get? OptionName.ignoreBuiltin with
  | none => rfl
  | some v => cases hv : Options.readFlag? v <;> simp [hv, unreadable]

/-! ## Filters of two stores -/

theorem readIgnoreBuiltin_congr {o p : Options}
    (h : o.get? OptionName.ignoreBuiltin = p.get? OptionName.ignoreBuiltin) :
    readIgnoreBuiltin o = readIgnoreBuiltin p := by
  unfold readIgnoreBuiltin
  rw [Options.flag?_congr h]

theorem patternsOf_congr {o p : Options} {name : String} (h : o.get? name = p.get? name) :
    patternsOf o name = patternsOf p name := by
  rw [patternsOf, patternsOf, h]

/-- The patterns of an option are written as its entries are. -/
theorem sources_of_patternsOf {name : String} {ps : List Pattern} (h : patternsOf o name = .ok ps) :
    ps.map Pattern.source = entriesOf o name := by
  rw [patternsOf_eq] at h
  exact PatternList.sources_of_mapM h

/-- Filters are built alike from stores that agree on the patterns of the five lists and on the option
about tables of the database system. -/
theorem build_congr {o p : Options}
    (hpatterns : ∀ name ∈ patternOptions, patternsOf o name = patternsOf p name)
    (hbuiltin : o.get? OptionName.ignoreBuiltin = p.get? OptionName.ignoreBuiltin) :
    build o isBuiltin nameOf = build p isBuiltin nameOf := by
  simp only [patternOptions, List.forall_mem_cons] at hpatterns
  obtain ⟨hit, het, his, hes, hec, -⟩ := hpatterns
  unfold build
  rw [readIgnoreBuiltin_congr hbuiltin, hit, het, his, hes, hec]

end CaptureConfig.TableFilters
