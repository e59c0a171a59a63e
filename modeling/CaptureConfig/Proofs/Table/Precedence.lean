import CaptureConfig.Proofs.Table.Filter

/-!
# Inclusions take precedence over exclusions

As soon as a list of inclusions has an entry, the exclusions of the same kind decide nothing, whether or not
their option is there. Whether it has one depends on the text: white space and commas make no entry, and a
list of nothing else is like an option that is not there.
-/

namespace CaptureConfig.TableFilters

/-- The option is there and its list has an entry. -/
def HasEntry (o : Options) (name : String) : Prop := ∃ v, o.get? name = some v ∧ PatternList.Lists v

variable {o p : Options} {isBuiltin : TableId → Bool} {nameOf : TableId → String} {f g : TableFilters}
  {name : String} {ps qs : List Pattern}

/-! ## The patterns of one option -/

theorem entriesOf_eq_nil : entriesOf o name = [] ↔ ¬ HasEntry o name := by
  unfold entriesOf HasEntry
  cases o.get? name with
  | none => simp [PatternList.entries_empty]
  | some v => simp [PatternList.entries_eq_nil]

/-- There is a pattern exactly when there is an entry. -/
theorem patternsOf_eq_ok_nil : patternsOf o name = .ok [] ↔ ¬ HasEntry o name := by
  rw [patternsOf_eq, Steps.mapM_eq_ok, List.forall₂_nil_right_iff, entriesOf_eq_nil]

theorem patterns_ne_nil (h : HasEntry o name) (hps : patternsOf o name = .ok ps) : ps ≠ [] := by
  rintro rfl
  exact patternsOf_eq_ok_nil.mp hps h

theorem patterns_unique (h : o.get? name = p.get? name) (hps : patternsOf o name = .ok ps)
    (hqs : patternsOf p name = .ok qs) : ps = qs := by
  rw [patternsOf_congr h, hqs] at hps
  exact (Except.ok.inj hps).symm

/-! ## Inclusions beside exclusions -/

theorem admits_of_ne_nil {included : List Pattern} (h : included ≠ []) (excluded : List Pattern) :
    admits included excluded = PatternList.matchesAny included := by
  have hempty : included.isEmpty = false := by simpa using h
  funext text
  simp only [admits, hempty]
  rfl

/-- Two stores with the same inclusions admit the same names, if they have the same exclusions or the
inclusions have an entry. -/
theorem admits_congr {included excluded : String} {ps' qs' : List Pattern}
    (hincluded : o.get? included = p.get? included)
    (hexcluded : o.get? excluded = p.get? excluded ∨ HasEntry o included)
    (hps : patternsOf o included = .ok ps) (hps' : patternsOf p included = .ok ps')
    (hqs : patternsOf o excluded = .ok qs) (hqs' : patternsOf p excluded = .ok qs') :
    admits ps qs = admits ps' qs' := by
  obtain rfl := patterns_unique hincluded hps hps'
  rcases hexcluded with h | h
  · rw [patterns_unique h hqs hqs']
  · have hne := patterns_ne_nil h hps
    rw [admits_of_ne_nil hne, admits_of_ne_nil hne]

theorem capturesSchema_congr
    (h : admits f.includedSchemas f.excludedSchemas = admits g.includedSchemas g.excludedSchemas) :
    f.capturesSchema = g.capturesSchema := by
  funext schema
  cases schema with
  | none => rfl
  | some schema => exact congrFun h schema

theorem Describes.captures_congr (hf : Describes o isBuiltin nameOf f)
    (hg : Describes p isBuiltin nameOf g)
    (hbuiltin : o.get? OptionName.ignoreBuiltin = p.get? OptionName.ignoreBuiltin)
    (hschemas : f.capturesSchema = g.capturesSchema)
    (htables : admits f.includedTables f.excludedTables = admits g.includedTables g.excludedTables) :
    f.captures = g.captures := by
  have heligible : f.eligible = g.eligible := by
    funext t
    rw [eligible, eligible, ← hf.ignoreBuiltin, ← hg.ignoreBuiltin, ← hf.isBuiltin, ← hg.isBuiltin,
      readIgnoreBuiltin_congr hbuiltin]
  funext t
  rw [captures, captures, heligible, hschemas, htables, ← hf.nameOf, ← hg.nameOf]

/-- **Inclusions take precedence.** Between two configurations that differ only in the excluded tables,
and whose included tables have an entry, no table makes a difference; between two that differ only in the
excluded schemas, and whose included schemas have an entry, neither a table nor a schema does. Inclusions
without an entry are like inclusions that are not there, and an entry is there as soon as the text has a
character besides white space and commas. -/
theorem inclusions_take_precedence (isBuiltin : TableId → Bool) (nameOf : TableId → String) :
    (∀ o p f g, (∀ name ≠ OptionName.excludedTables, o.get? name = p.get? name) →
      (build o isBuiltin nameOf).outcome = .ok f → (build p isBuiltin nameOf).outcome = .ok g →
      HasEntry o OptionName.includedTables → ∀ t, f.captures t = g.captures t) ∧
    (∀ o p f g, (∀ name ≠ OptionName.excludedSchemas, o.get? name = p.get? name) →
      (build o isBuiltin nameOf).outcome = .ok f → (build p isBuiltin nameOf).outcome = .ok g →
      HasEntry o OptionName.includedSchemas →
      (∀ t, f.captures t = g.captures t) ∧ ∀ s, f.capturesSchema s = g.capturesSchema s) ∧
    (∀ o p, ∀ included ∈ [OptionName.includedTables, OptionName.includedSchemas],
      ¬ HasEntry o included → p.get? included = none →
      (∀ name ≠ included, o.get? name = p.get? name) →
      build o isBuiltin nameOf = build p isBuiltin nameOf) ∧
    ∀ v, PatternList.Lists v ↔ ∃ c ∈ v.toList, Text.isBlank c = false ∧ c ≠ ',' := by
  refine ⟨fun o p f g h hf hg hentry t => ?_, fun o p f g h hf hg hentry => ?_,
    fun o p included hincluded hentry habsent h => ?_, fun v => PatternList.lists_iff⟩
  · rw [build_eq_ok] at hf hg
    have hschemas := admits_congr (h _ (by decide)) (Or.inl (h _ (by decide))) hf.includedSchemas
      hg.includedSchemas hf.excludedSchemas hg.excludedSchemas
    have htables := admits_congr (h _ (by decide)) (Or.inr hentry) hf.includedTables
      hg.includedTables hf.excludedTables hg.excludedTables
    exact congrFun (hf.captures_congr hg (h _ (by decide)) (capturesSchema_congr hschemas) htables) t
  · rw [build_eq_ok] at hf hg
    have hschemas := admits_congr (h _ (by decide)) (Or.inr hentry) hf.includedSchemas
      hg.includedSchemas hf.excludedSchemas hg.excludedSchemas
    have htables := admits_congr (h _ (by decide)) (Or.inl (h _ (by decide))) hf.includedTables
      hg.includedTables hf.excludedTables hg.excludedTables
    have hcaptured := capturesSchema_congr hschemas
    exact ⟨congrFun (hf.captures_congr hg (h _ (by decide)) hcaptured htables), congrFun hcaptured⟩
  · have hnone : ¬ HasEntry p included := by
      rintro ⟨v, hv, -⟩
      rw [habsent] at hv
      cases hv
    have hpatterns : ∀ name, patternsOf o name = patternsOf p name := by
      intro name
      by_cases hname : name = included
      · rw [hname, patternsOf_eq_ok_nil.mpr hentry, patternsOf_eq_ok_nil.mpr hnone]
      · exact patternsOf_congr (h name hname)
    have hbuiltin : OptionName.ignoreBuiltin ≠ included := by
      rintro rfl
      exact absurd hincluded (by decide)
    exact build_congr (fun name _ => hpatterns name) (h _ hbuiltin)

/-- A table that is included stays captured when it is excluded too, and a list of included schemas that
holds only commas and a line break holds no table back. -/
theorem captures_table_on_both_lists :
    let p := Options.ofPairs [("table.whitelist", " , db\\.(t|a\\,b)")]
    let o := p.withPairs [("table.blacklist", "DB\\.T")]
    let q := o.withPairs [("schema.whitelist", ",\u2029,")]
    let filters (o : Options) := build o (fun _ => false) TableId.identifier
    ∃ f g, (filters o).outcome = .ok f ∧ (filters p).outcome = .ok g ∧ filters q = filters o ∧
      f.captures ⟨some "db", none, "t"⟩ = g.captures ⟨some "db", none, "t"⟩ ∧
      g.captures ⟨some "db", none, "t"⟩ = true := by
  intro p o q filters
  obtain ⟨htables, -, hblank, -⟩ := inclusions_take_precedence (fun _ => false) TableId.identifier
  obtain ⟨f, hf⟩ : ∃ f, (filters o).outcome = .ok f := build_ok_iff.mpr (by decide +kernel)
  obtain ⟨g, hg⟩ : ∃ g, (filters p).outcome = .ok g := build_ok_iff.mpr (by decide +kernel)
  have hother : ∀ name ≠ OptionName.excludedTables, o.get? name = p.get? name := by
    intro name hname
    exact (Options.get?_withPairs_one p _ _ name).trans (if_neg hname)
  have hentry : HasEntry o OptionName.includedTables :=
    ⟨" , db\\.(t|a\\,b)", by decide +kernel, by decide +kernel⟩
  have hnone : ¬ HasEntry q OptionName.includedSchemas := by
    rintro ⟨v, hv, hlists⟩
    have hvalue : q.get? OptionName.includedSchemas = some ",\u2029," := by decide +kernel
    obtain rfl := Option.some.inj (hvalue.symm.trans hv)
    revert hlists
    decide +kernel
  have hschemas : ∀ name ≠ OptionName.includedSchemas, q.get? name = o.get? name := by
    intro name hname
    exact (Options.get?_withPairs_one o _ _ name).trans (if_neg hname)
  have hcaptured : (filters p).outcome.map (fun g => g.captures ⟨some "db", none, "t"⟩) = .ok true := by
    decide +kernel
  refine ⟨f, g, hf, hg, hblank q o _ (by simp) hnone (by decide +kernel) hschemas,
    htables o p f g hother hf hg hentry _, ?_⟩
  rw [hg] at hcaptured
  exact Except.ok.inj hcaptured

end CaptureConfig.TableFilters
