import CaptureConfig.Proofs.Pattern.Join
import CaptureConfig.Proofs.Table.Precedence
import CaptureConfig.Proofs.Table.Same

/-!
# Entries added to a list

Text that is put behind an option, with a comma between them, adds its patterns to the list of the option
and does nothing else to the filters. More exclusions let no table and no column in, and more inclusions
keep no table out, provided that there were inclusions before: the first one turns from capturing everything
to capturing what it matches.
-/

namespace CaptureConfig.TableFilters

/-- The second store has more text behind one option, after a comma that no backslash escapes. An option that
is not there counts as an empty text. -/
structure Appended (name more : String) (o p : Options) : Prop where
  separated : ((o.get? name).getD "").toList.getLast? ≠ some '\\'
  appended : p.get? name = some ((o.get? name).getD "" ++ "," ++ more)
  others : ∀ other ≠ name, p.get? other = o.get? other

/-- The filters with more patterns at the end of the list of an option. -/
def withMore (f : TableFilters) (name : String) (more : List Pattern) : TableFilters :=
  let extended (option : String) (ps : List Pattern) := if option = name then ps ++ more else ps
  { f with
    includedTables := extended OptionName.includedTables f.includedTables
    excludedTables := extended OptionName.excludedTables f.excludedTables
    includedSchemas := extended OptionName.includedSchemas f.includedSchemas
    excludedSchemas := extended OptionName.excludedSchemas f.excludedSchemas
    excludedColumns := extended OptionName.excludedColumns f.excludedColumns }

variable {o p : Options} {isBuiltin : TableId → Bool} {nameOf : TableId → String} {f g : TableFilters}
  {name more : String} {ps added : List Pattern}

/-! ## The patterns of a longer text -/

theorem entriesOf_appended (h : Appended name more o p) :
    entriesOf p name = entriesOf o name ++ PatternList.entries more := by
  unfold entriesOf
  rw [h.appended, Option.getD_some, PatternList.entries_append_comma h.separated]

theorem patternsOf_appended (h : Appended name more o p)
    (hadded : (PatternList.entries more).mapM PatternList.compileEntry = .ok added) {option : String}
    (hps : patternsOf o option = .ok ps) :
    patternsOf p option = .ok (if option = name then ps ++ added else ps) := by
  by_cases hoption : option = name
  · subst hoption
    rw [patternsOf_eq] at hps
    rw [patternsOf_eq, entriesOf_appended h, List.mapM_append, hps, hadded, if_pos rfl]
    rfl
  · rw [if_neg hoption, patternsOf_congr (h.others option hoption), hps]

/-- Where the filters can be built, so can the patterns of the text behind the comma. -/
theorem Describes.exists_added (hg : Describes p isBuiltin nameOf g) (h : Appended name more o p)
    (hname : name ∈ patternOptions) :
    ∃ added, (PatternList.entries more).mapM PatternList.compileEntry = .ok added := by
  have hall := build_ok_iff.mp ⟨g, build_eq_ok.mpr hg⟩
  refine Steps.mapM_ok_iff.mpr fun entry hentry => PatternList.compileEntry_ok_iff.mpr ?_
  refine hall entry (List.mem_flatMap.mpr ⟨name, hname, ?_⟩)
  rw [entriesOf_appended h]
  exact List.mem_append_right _ hentry

theorem Describes.withMore (hf : Describes o isBuiltin nameOf f) (h : Appended name more o p)
    (hname : name ∈ patternOptions)
    (hadded : (PatternList.entries more).mapM PatternList.compileEntry = .ok added) :
    Describes p isBuiltin nameOf (f.withMore name added) := by
  have hbuiltin : OptionName.ignoreBuiltin ≠ name := by
    rintro rfl
    exact absurd hname (by decide)
  exact
    { ignoreBuiltin := by
        rw [readIgnoreBuiltin_congr (h.others _ hbuiltin)]
        exact hf.ignoreBuiltin
      isBuiltin := hf.isBuiltin
      nameOf := hf.nameOf
      includedTables := patternsOf_appended h hadded hf.includedTables
      excludedTables := patternsOf_appended h hadded hf.excludedTables
      includedSchemas := patternsOf_appended h hadded hf.includedSchemas
      excludedSchemas := patternsOf_appended h hadded hf.excludedSchemas
      excludedColumns := patternsOf_appended h hadded hf.excludedColumns }

/-! ## Filters with more patterns -/

/-- One filter captures no table that the other does not: tables are named and left out alike, and each
kind of list admits no more. -/
structure NoMoreThan (f g : TableFilters) : Prop where
  eligible : f.eligible = g.eligible
  nameOf : f.nameOf = g.nameOf
  schemas : ∀ text, admits f.includedSchemas f.excludedSchemas text = true →
    admits g.includedSchemas g.excludedSchemas text = true
  tables : ∀ text, admits f.includedTables f.excludedTables text = true →
    admits g.includedTables g.excludedTables text = true

theorem NoMoreThan.captures (h : NoMoreThan f g) {t : TableId} (ht : f.captures t = true) :
    g.captures t = true := by
  simp only [TableFilters.captures, Bool.and_eq_true] at ht ⊢
  obtain ⟨⟨heligible, hschema⟩, htable⟩ := ht
  refine ⟨⟨?_, ?_⟩, ?_⟩
  · rw [← h.eligible]
    exact heligible
  · cases hs : t.schema with
    | none => rfl
    | some schema =>
        rw [hs] at hschema
        exact h.schemas schema hschema
  · rw [← h.nameOf]
    exact h.tables _ htable

theorem matchesAny_append (ps qs : List Pattern) (text : String) :
    PatternList.matchesAny (ps ++ qs) text =
      (PatternList.matchesAny ps text || PatternList.matchesAny qs text) :=
  List.any_append

theorem admits_of_more_excluded {included excluded : List Pattern} {text : String}
    (h : admits included (excluded ++ added) text = true) : admits included excluded text = true := by
  unfold admits at h ⊢
  split
  · rename_i hempty
    rw [if_pos hempty, matchesAny_append] at h
    simp only [Bool.not_or, Bool.and_eq_true] at h
    exact h.1
  · rename_i hempty
    rw [if_neg hempty] at h
    exact h

theorem admits_more_included {included excluded : List Pattern} (hne : included ≠ []) {text : String}
    (h : admits included excluded text = true) : admits (included ++ added) excluded text = true := by
  have hmore : included ++ added ≠ [] := by simp [hne]
  rw [admits_of_ne_nil hne] at h
  rw [admits_of_ne_nil hmore, matchesAny_append, h, Bool.true_or]

theorem withMore_excluded_noMoreThan (f : TableFilters) (added : List Pattern)
    (hname : name ∈ [OptionName.excludedTables, OptionName.excludedSchemas]) :
    NoMoreThan (f.withMore name added) f := by
  rcases List.mem_pair.mp hname with rfl | rfl
  · exact ⟨rfl, rfl, fun _ h => h, fun _ h => admits_of_more_excluded h⟩
  · exact ⟨rfl, rfl, fun _ h => admits_of_more_excluded h, fun _ h => h⟩

theorem Describes.noMoreThan_withMore (hf : Describes o isBuiltin nameOf f)
    (hname : name ∈ [OptionName.includedTables, OptionName.includedSchemas]) (hentry : HasEntry o name)
    (added : List Pattern) : NoMoreThan f (f.withMore name added) := by
  rcases List.mem_pair.mp hname with rfl | rfl
  · have hne := patterns_ne_nil hentry hf.includedTables
    exact ⟨rfl, rfl, fun _ h => h, fun _ h => admits_more_included hne h⟩
  · have hne := patterns_ne_nil hentry hf.includedSchemas
    exact ⟨rfl, rfl, fun _ h => admits_more_included hne h, fun _ h => h⟩

theorem capturesColumn_withMore (f : TableFilters) (added : List Pattern) (t : TableId)
    (column : String) :
    (f.withMore OptionName.excludedColumns added).capturesColumn t column =
      (f.capturesColumn t column &&
        !PatternList.matchesAny added (f.nameOf t ++ "." ++ column)) := by
  have hcolumns : (f.withMore OptionName.excludedColumns added).excludedColumns =
      f.excludedColumns ++ added := rfl
  unfold capturesColumn
  rw [hcolumns, matchesAny_append, Bool.not_or]
  rfl

/-- **More entries decide one way.** Text behind an option adds the patterns of its entries to one list of
the filters. More exclusions of tables or schemas capture no table that was not captured, more inclusions
beside some entry drop no table that was, and more exclusions of columns keep no column that was dropped. -/
theorem more_entries_decide_one_way (isBuiltin : TableId → Bool) (nameOf : TableId → String)
    (o p : Options) (f g : TableFilters) (name more : String) (h : Appended name more o p)
    (hf : (build o isBuiltin nameOf).outcome = .ok f)
    (hg : (build p isBuiltin nameOf).outcome = .ok g) :
    (name ∈ [OptionName.excludedTables, OptionName.excludedSchemas] →
      ∀ t, f.captures t = false → g.captures t = false) ∧
    (name ∈ [OptionName.includedTables, OptionName.includedSchemas] → HasEntry o name →
      ∀ t, f.captures t = true → g.captures t = true) ∧
    (name = OptionName.excludedColumns →
      ∀ t column, f.capturesColumn t column = false → g.capturesColumn t column = false) ∧
    (name ∈ patternOptions → ∃ added, PatternList.compile? more = .ok added ∧
      g = f.withMore name added) := by
  rw [build_eq_ok] at hf hg
  have hwithMore : name ∈ patternOptions → ∃ added, PatternList.compile? more = .ok added ∧
      g = f.withMore name added := by
    intro hname
    obtain ⟨added, hadded⟩ := hg.exists_added h hname
    have hcompiled := (PatternList.compile?_mapError more).trans hadded
    exact ⟨added, Steps.mapError_eq_ok.mp hcompiled, hg.unique (hf.withMore h hname hadded)⟩
  have hsub : ∀ option ∈ [OptionName.excludedTables, OptionName.excludedSchemas,
      OptionName.includedTables, OptionName.includedSchemas], option ∈ patternOptions := by
    decide
  refine ⟨fun hname t ht => ?_, fun hname hentry t ht => ?_, fun hname t column hc => ?_, hwithMore⟩
  · obtain ⟨added, -, rfl⟩ := hwithMore (hsub _ (List.mem_append_left [_, _] hname))
    rw [← Bool.not_eq_true] at ht ⊢
    exact fun hg => ht ((withMore_excluded_noMoreThan f added hname).captures hg)
  · obtain ⟨added, -, rfl⟩ := hwithMore (hsub _ (List.mem_cons_of_mem _ (List.mem_cons_of_mem _ hname)))
    exact (hf.noMoreThan_withMore hname hentry added).captures ht
  · subst hname
    obtain ⟨added, -, rfl⟩ := hwithMore (by decide)
    rw [capturesColumn_withMore, hc, Bool.false_and]

/-- A blank entry and one with an escaped comma are added to the included tables: what was captured stays so,
and what the second one matches comes in. -/
theorem added_inclusion_lets_table_in :
    let o := Options.ofPairs [("table.whitelist", "db\\.t")]
    let p := o.withPairs [("table.whitelist", "db\\.t, ,db\\.(u|v\\,w)")]
    let filters (o : Options) := build o (fun _ => false) TableId.identifier
    ∃ f g, (filters o).outcome = .ok f ∧ (filters p).outcome = .ok g ∧
      f.captures ⟨some "db", none, "t"⟩ = true ∧ g.captures ⟨some "db", none, "t"⟩ = true ∧
      f.captures ⟨some "db", none, "v,w"⟩ = false ∧ g.captures ⟨some "db", none, "v,w"⟩ = true := by
  intro o p filters
  obtain ⟨f, hf⟩ : ∃ f, (filters o).outcome = .ok f := build_ok_iff.mpr (by decide +kernel)
  obtain ⟨g, hg⟩ : ∃ g, (filters p).outcome = .ok g := build_ok_iff.mpr (by decide +kernel)
  have happended : Appended OptionName.includedTables " ,db\\.(u|v\\,w)" o p := by
    refine ⟨by decide +kernel, by decide +kernel, fun other hother => ?_⟩
    exact (Options.get?_withPairs_one o _ _ other).trans (if_neg hother)
  have hentry : HasEntry o OptionName.includedTables :=
    ⟨"db\\.t", by decide +kernel, by decide +kernel⟩
  obtain ⟨-, hincluded, -, -⟩ := more_entries_decide_one_way (fun _ => false) TableId.identifier o p f g
    OptionName.includedTables " ,db\\.(u|v\\,w)" happended hf hg
  have hbefore : (filters o).outcome.map (fun f =>
      (f.captures ⟨some "db", none, "t"⟩, f.captures ⟨some "db", none, "v,w"⟩)) = .ok (true, false) := by
    decide +kernel
  have hafter : (filters p).outcome.map (fun g => g.captures ⟨some "db", none, "v,w"⟩) = .ok true := by
    decide +kernel
  rw [hf] at hbefore
  rw [hg] at hafter
  obtain ⟨hcaptured, hout⟩ := Prod.mk.inj (Except.ok.inj hbefore)
  exact ⟨f, g, hf, hg, hcaptured, hincluded (by simp) hentry _ hcaptured, hout, Except.ok.inj hafter⟩

end CaptureConfig.TableFilters
