import CaptureConfig.Connector.Description
import CaptureConfig.Proofs.Table.Filter

/-!
# Options that describe the same filters

Two stores describe the same filters when their lists have the same entries and both say the same about
tables of the database system, whatever they have in common otherwise. A description of the filters shows
all of that, so it tells apart the filters of any two stores that do not.
-/

namespace CaptureConfig.TableFilters

/-- Two stores describe the same filters: all lists have the same entries, and tables of the database
system are left out by both or by neither. -/
structure SameFilters (o p : Options) : Prop where
  entries : ∀ name ∈ patternOptions, entriesOf o name = entriesOf p name
  ignoreBuiltin : (readIgnoreBuiltin o).1 = (readIgnoreBuiltin p).1

variable {o p : Options} {isBuiltin : TableId → Bool} {nameOf : TableId → String} {f g : TableFilters}

theorem toJson_eq_toJson : f.toJson = g.toJson ↔
    f.ignoreBuiltin = g.ignoreBuiltin ∧
      f.includedTables.map Pattern.source = g.includedTables.map Pattern.source ∧
      f.excludedTables.map Pattern.source = g.excludedTables.map Pattern.source ∧
      f.includedSchemas.map Pattern.source = g.includedSchemas.map Pattern.source ∧
      f.excludedSchemas.map Pattern.source = g.excludedSchemas.map Pattern.source ∧
      f.excludedColumns.map Pattern.source = g.excludedColumns.map Pattern.source := by
  have hsources (ps qs : List Pattern) :
      (ps.map fun p => Json.text p.source) = (qs.map fun p => Json.text p.source) ↔
        ps.map Pattern.source = qs.map Pattern.source := by
    have hinj : Function.Injective Json.text := fun s t h => Json.text.inj h
    rw [← List.map_inj_right (fun s t h => hinj h), List.map_map, List.map_map]
    rfl
  simp only [toJson, Json.object.injEq, List.cons.injEq, Prod.mk.injEq, Json.bool.injEq,
    Json.array.injEq, hsources, true_and, and_true]

namespace Describes

theorem unique (hf : Describes o isBuiltin nameOf f) (hg : Describes o isBuiltin nameOf g) : f = g := by
  rw [← build_eq_ok] at hf hg
  exact Except.ok.inj (hf.symm.trans hg)

/-- Filters can be told apart by their description exactly when the options describe different ones. -/
theorem toJson_eq_iff (hf : Describes o isBuiltin nameOf f) (hg : Describes p isBuiltin nameOf g) :
    f.toJson = g.toJson ↔ SameFilters o p := by
  rw [toJson_eq_toJson, sources_of_patternsOf hf.includedTables, sources_of_patternsOf hg.includedTables,
    sources_of_patternsOf hf.excludedTables, sources_of_patternsOf hg.excludedTables,
    sources_of_patternsOf hf.includedSchemas, sources_of_patternsOf hg.includedSchemas,
    sources_of_patternsOf hf.excludedSchemas, sources_of_patternsOf hg.excludedSchemas,
    sources_of_patternsOf hf.excludedColumns, sources_of_patternsOf hg.excludedColumns,
    ← hf.ignoreBuiltin, ← hg.ignoreBuiltin]
  constructor
  · rintro ⟨hbuiltin, hit, het, his, hes, hec⟩
    refine ⟨?_, hbuiltin⟩
    simp only [patternOptions, List.forall_mem_cons]
    exact ⟨hit, het, his, hes, hec, by simp⟩
  · rintro ⟨hentries, hbuiltin⟩
    simp only [patternOptions, List.forall_mem_cons] at hentries
    obtain ⟨hit, het, his, hes, hec, -⟩ := hentries
    exact ⟨hbuiltin, hit, het, his, hes, hec⟩

/-- Filters stay described by options that describe the same ones. -/
theorem of_sameFilters (hf : Describes o isBuiltin nameOf f) (h : SameFilters o p) :
    Describes p isBuiltin nameOf f := by
  have hpatterns : ∀ name ∈ patternOptions, patternsOf p name = patternsOf o name := by
    intro name hname
    rw [patternsOf_eq, patternsOf_eq, h.entries name hname]
  simp only [patternOptions, List.forall_mem_cons] at hpatterns
  obtain ⟨hit, het, his, hes, hec, -⟩ := hpatterns
  exact
    { ignoreBuiltin := h.ignoreBuiltin.symm.trans hf.ignoreBuiltin
      isBuiltin := hf.isBuiltin
      nameOf := hf.nameOf
      includedTables := hit.trans hf.includedTables
      excludedTables := het.trans hf.excludedTables
      includedSchemas := his.trans hf.includedSchemas
      excludedSchemas := hes.trans hf.excludedSchemas
      excludedColumns := hec.trans hf.excludedColumns }

theorem iff_sameFilters (hf : Describes o isBuiltin nameOf f) :
    Describes p isBuiltin nameOf f ↔ SameFilters o p :=
  ⟨fun hp => (hf.toJson_eq_iff hp).mp rfl, hf.of_sameFilters⟩

end Describes

end CaptureConfig.TableFilters
