import CaptureConfig.Proofs.Settings.Document
import CaptureConfig.Proofs.Settings.Logging
import CaptureConfig.Proofs.Settings.Properties

/-!
# Overriding a document is layering over its settings

Overrides go into the raw sections of a document, which are read afterwards. Where the keys of the
properties section are written differently, the settings are those of the document alone with the
overrides put over its options and over its level.
-/

namespace CaptureConfig.Settings

open Datum

variable {es es' found : Entries} {name s : String} {base : Settings} {ps qs : List (String × String)}
  {logging logging' : LoggingSettings} {overrides : List (String × String)} {level : Option String}

/-! ## Sections as mappings -/

/-- A section that can be read is missing, null or a mapping. What it is read as is what the mapping that
overrides are put into is read as. -/
theorem section_of_optional {α : Type} {default a : α} {read : Datum → Checked α}
    {readMap : Entries → Checked α} (hempty : readMap [] = .ok default)
    (hread : ∀ d, read d = .ok a →
      d = .null ∧ a = default ∨ ∃ found, d = .map found ∧ readMap found = .ok a)
    (h : es.optional name default read = .ok a) :
    ∃ found, sectionOf es name = .ok found ∧ readMap found = .ok a ∧
      (found = [] ∨ entry? name es = some (.map found)) := by
  cases hentry : entry? name es with
  | none =>
      rw [Entries.optional_of_none hentry] at h
      obtain rfl := Except.ok.inj h
      exact ⟨[], by rw [sectionOf, hentry], hempty, Or.inl rfl⟩
  | some d =>
      rcases hread d ((Entries.optional_of_some hentry).mp h) with ⟨rfl, rfl⟩ | ⟨found, rfl, hfound⟩
      · exact ⟨[], by rw [sectionOf, hentry]; rfl, hempty, Or.inl rfl⟩
      · exact ⟨found, sectionOf_map hentry, hfound, Or.inr rfl⟩

theorem section_of_properties (h : es.optional "properties" [] readProperties = .ok ps) :
    ∃ found, sectionOf es "properties" = .ok found ∧ flatten found [] = .ok ps ∧
      (found = [] ∨ entry? "properties" es = some (.map found)) := by
  refine section_of_optional rfl (fun d hd => ?_) h
  cases d with
  | null => exact Or.inl ⟨rfl, (Except.ok.inj hd).symm⟩
  | map found => exact Or.inr ⟨found, rfl, hd⟩
  | _ => cases hd

theorem section_of_logging (h : es.optional "logging" {} LoggingSettings.ofDatum = .ok logging) :
    ∃ found, sectionOf es "logging" = .ok found ∧ LoggingSettings.read found = .ok logging := by
  have hmap : ∀ d, LoggingSettings.ofDatum d = .ok logging →
      d = .null ∧ logging = {} ∨ ∃ found, d = .map found ∧ LoggingSettings.read found = .ok logging := by
    intro d hd
    cases d with
    | map found => exact Or.inr ⟨found, rfl, hd⟩
    | _ => cases hd
  have hempty : LoggingSettings.read [] = .ok {} := rfl
  obtain ⟨found, hfound, hread, -⟩ := section_of_optional hempty hmap h
  exact ⟨found, hfound, hread⟩

/-! ## The sections of an overridden document -/

theorem entry?_of_editSection {change : Entries → Entries} (hfound : sectionOf es name = .ok found)
    (h : editSection name change es = .ok es') : entry? name es' = some (.map (change found)) := by
  rw [editSection, hfound] at h
  obtain rfl := Except.ok.inj h
  rw [entry?_insertEntry, if_pos rfl]

theorem entry?_properties_overridden (hoverrides : overrides ≠ [])
    (hfound : sectionOf es "properties" = .ok found) (h : overridden overrides level es = .ok es') :
    entry? "properties" es' = some (.map (layered overrides found)) := by
  obtain ⟨es₁, hproperties, hlevel⟩ := Steps.bind_eq_ok.mp h
  rw [overrideProperties_eq hoverrides] at hproperties
  rw [(sameBeside_of_overrideLevel hlevel).entries _ (by decide)]
  exact entry?_of_editSection hfound hproperties

theorem entry?_logging_overridden (hlevel : level.getD "" ≠ "")
    (hfound : sectionOf es "logging" = .ok found) (h : overridden overrides level es = .ok es') :
    entry? "logging" es' = some (.map (insertEntry (.text "level") (.text (level.getD "")) found)) := by
  obtain ⟨es₁, hproperties, hedited⟩ := Steps.bind_eq_ok.mp h
  have hsame : entry? "logging" es₁ = entry? "logging" es :=
    (sameBeside_of_overrideProperties hproperties).entries _ (by decide)
  rw [overrideLevel_eq hlevel] at hedited
  refine entry?_of_editSection ?_ hedited
  rw [sectionOf, hsame]
  exact hfound

theorem entry?_logging_overridden_of_blank (hlevel : level.getD "" = "")
    (h : overridden overrides level es = .ok es') : entry? "logging" es' = entry? "logging" es := by
  obtain ⟨es₁, hproperties, hedited⟩ := Steps.bind_eq_ok.mp h
  rw [overrideLevel_of_blank hlevel] at hedited
  obtain rfl := Except.ok.inj hedited
  exact (sameBeside_of_overrideProperties hproperties).entries _ (by decide)

/-! ## Reading the sections of an overridden document -/

/-- The properties of the overridden document are those of the section with the overrides put over it. -/
theorem properties_of_overridden (hread : es.optional "properties" [] readProperties = .ok ps)
    (hfound : sectionOf es "properties" = .ok found) (hplain : flatten found [] = .ok ps)
    (hlayered : flatten (layered overrides found) [] = .ok qs)
    (h : overridden overrides level es = .ok es') :
    es'.optional "properties" [] readProperties = .ok qs := by
  by_cases hoverrides : overrides = []
  · subst hoverrides
    have hsame : ps = qs := Except.ok.inj (hplain.symm.trans hlayered)
    rw [Entries.optional_congr (properties_overridden_nil h), hread, hsame]
  · rw [Entries.optional_of_some (entry?_properties_overridden hoverrides hfound h)]
    exact hlayered

/-- The logging settings of a document, with a level put over them. -/
def withLevel (level : Option String) (logging : LoggingSettings) : LoggingSettings :=
  if level.getD "" = "" then logging else { logging with level := Text.lowered (level.getD "") }

theorem logging_of_overridden
    (hread : es.optional "logging" {} LoggingSettings.ofDatum = .ok logging)
    (hfound : sectionOf es "logging" = .ok found) (hplain : LoggingSettings.read found = .ok logging)
    (hlevel : level.getD "" = "" ∨ (Level.named? (level.getD "")).isSome = true)
    (h : overridden overrides level es = .ok es') :
    es'.optional "logging" {} LoggingSettings.ofDatum = .ok (withLevel level logging) := by
  unfold withLevel
  by_cases hblank : level.getD "" = ""
  · rw [if_pos hblank, Entries.optional_congr (entry?_logging_overridden_of_blank hblank h), hread]
  · have hnamed := hlevel.resolve_left hblank
    rw [if_neg hblank, Entries.optional_of_some (entry?_logging_overridden hblank hfound h)]
    exact LoggingSettings.read_insertEntry_level hplain (LoggingSettings.readLevel_eq_ok.mpr ⟨hnamed, rfl⟩)

/-! ## Reading a document with overrides -/

theorem ofEntries_eq_ok : ofEntries es = .ok base ↔
    es.optional "properties" [] readProperties = .ok base.properties ∧
      es.optional "logging" {} LoggingSettings.ofDatum = .ok base.logging := by
  simp only [ofEntries, Checked.ap_eq_ok, Steps.map_eq_ok]
  constructor
  · rintro ⟨_, logging, ⟨properties, hproperties, rfl⟩, hlogging, rfl⟩
    exact ⟨hproperties, hlogging⟩
  · rintro ⟨hproperties, hlogging⟩
    exact ⟨_, _, ⟨_, hproperties, rfl⟩, hlogging, rfl⟩

/-- A document is read when it is a mapping with textual keys whose sections are read once the overrides
are put in. -/
theorem ofDocument_eq_ok {document : Datum} : ofDocument document overrides level = .ok base ↔
    ∃ es es', document = .map es ∧ overridden overrides level es = .ok es' ∧ Entries.areNamed es = true ∧
      es'.optional "properties" [] readProperties = .ok base.properties ∧
      es'.optional "logging" {} LoggingSettings.ofDatum = .ok base.logging := by
  constructor
  · intro h
    cases document with
    | map es =>
        rw [ofDocument_map] at h
        obtain ⟨es', hedited, hbuild⟩ := Steps.bind_eq_ok.mp h
        have hoverridden := Steps.mapError_eq_ok.mp hedited
        obtain ⟨hnamed, hentries⟩ := Entries.build_eq_ok.mp (Steps.mapError_eq_ok.mp hbuild)
        rw [areNamed_overridden hoverridden] at hnamed
        exact ⟨es, es', rfl, hoverridden, hnamed, ofEntries_eq_ok.mp hentries⟩
    | _ => cases h
  · rintro ⟨es, es', rfl, hoverridden, hnamed, hsections⟩
    rw [← areNamed_overridden hoverridden] at hnamed
    have hbuild : Entries.build es' "ConnectorSettings" ofEntries = .ok base :=
      Entries.build_eq_ok.mpr ⟨hnamed, ofEntries_eq_ok.mpr hsections⟩
    rw [ofDocument_map, hoverridden]
    exact Steps.mapError_eq_ok.mpr hbuild

/-- **Overriding a document is layering over its settings.** A document that is read alone, with no two
keys of its properties section written alike, is read with overrides as well, if the level among them is
blank or accepted. Its options are those of the document alone with the overrides put over them, and its
logging settings differ from those of the document alone in the level at most: an override that is not
blank gives it, as it is accepted. -/
theorem overriding_is_layering {document : Datum} {base : Settings}
    (overrides : List (String × String)) (level : Option String) (hbase : ofDocument document [] none = .ok base)
    (hdistinct : ∀ es found, document = .map es → entry? "properties" es = some (.map found) →
      DistinctTexts found)
    (hlevel : level.getD "" = "" ∨ ∃ accepted, LoggingSettings.ofLevel (level.getD "") = .ok accepted) :
    ∃ settings, ofDocument document overrides level = .ok settings ∧
      (settings.properties.map Prod.fst).Nodup ∧
      (∀ name, settings.properties.lookup name =
        ((Options.ofPairs base.properties).withPairs overrides).get? name) ∧
      (level.getD "" = "" → settings.logging = base.logging) ∧
      ∀ accepted, LoggingSettings.ofLevel (level.getD "") = .ok accepted →
        settings.logging = { base.logging with level := accepted.level } := by
  obtain ⟨es, _, rfl, hplain, hnamed, hproperties, hlogging⟩ := ofDocument_eq_ok.mp hbase
  obtain rfl := Except.ok.inj hplain
  obtain ⟨found, hfound, hread, hsection⟩ := section_of_properties hproperties
  obtain ⟨foundLogging, hfoundLogging, hreadLogging⟩ := section_of_logging hlogging
  -- both sections were read as mappings, so both of them take overrides
  obtain ⟨es', hedited⟩ := overridden_ok_iff.mpr
    ⟨fun _ => sectionOf_ok_iff.mp ⟨found, hfound⟩,
      fun _ => sectionOf_ok_iff.mp ⟨foundLogging, hfoundLogging⟩⟩
  have hlast : TextKeysLast found := by
    rcases hsection with rfl | hentry
    · exact List.Pairwise.nil
    · exact (hdistinct es found rfl hentry).textKeysLast
  obtain ⟨qs, hlayered, hnodup, hlookup⟩ := flatten_layered hlast hread overrides
  have hnamedLevel : level.getD "" = "" ∨ (Level.named? (level.getD "")).isSome = true :=
    hlevel.imp_right fun ⟨_, haccepted⟩ => (LoggingSettings.ofLevel_eq_ok.mp haccepted).1
  refine ⟨⟨qs, withLevel level base.logging⟩, ofDocument_eq_ok.mpr ⟨es, es', rfl, hedited, hnamed, ?_, ?_⟩,
    hnodup, hlookup, fun hblank => if_pos hblank, fun accepted haccepted => ?_⟩
  · exact properties_of_overridden hproperties hfound hread hlayered hedited
  · exact logging_of_overridden hlogging hfoundLogging hreadLogging hnamedLevel hedited
  · obtain ⟨hnamed', rfl⟩ := LoggingSettings.ofLevel_eq_ok.mp haccepted
    refine if_neg fun hblank => ?_
    rw [hblank] at hnamed'
    revert hnamed'
    decide

/-- The overrides meet a numeric key and a null entry. The key with the digits of the number comes after
the number, the null entry is filled, and the form of the log lines stays. -/
theorem overrides_over_number_and_null :
    let document : Datum := .map [
      (.text "properties", .map [(.int 1, .bool true), (.text "table.whitelist", .null)]),
      (.text "logging", .map [(.text "format", .text "JSON")])]
    ∃ settings, ofDocument document [("1", "b"), ("table.whitelist", "db")] (some "WARNING") =
        .ok settings ∧
      settings.properties.lookup "1" = some "b" ∧
      settings.properties.lookup "table.whitelist" = some "db" ∧
      settings.logging = { level := "warning", format := "json" } := by
  intro document
  have hbase : ofDocument document [] none = .ok ⟨[("1", "true")], { format := "json" }⟩ := by
    decide +kernel
  have haccepted : LoggingSettings.ofLevel "WARNING" = .ok { level := "warning" } := by
    decide +kernel
  have hdistinct : ∀ es found, document = .map es → entry? "properties" es = some (.map found) →
      DistinctTexts found := by
    rintro es found hes hfound
    obtain rfl := Datum.map.inj hes
    obtain rfl := Datum.map.inj (Option.some.inj hfound)
    refine List.pairwise_pair.mpr fun text htext => ?_
    have hone : (Datum.int 1).text? = some "1" := by decide +kernel
    obtain rfl := Option.some.inj (hone.symm.trans htext)
    decide
  obtain ⟨settings, hsettings, -, hlookup, -, hlogging⟩ :=
    overriding_is_layering [("1", "b"), ("table.whitelist", "db")] (some "WARNING") hbase
      hdistinct (.inr ⟨_, haccepted⟩)
  refine ⟨settings, hsettings, ?_, ?_, hlogging _ haccepted⟩
  · rw [hlookup]
    rfl
  · rw [hlookup]
    rfl

end CaptureConfig.Settings
