import CaptureConfig.Proofs.Log.Level
import CaptureConfig.Proofs.Log.Use
import CaptureConfig.Proofs.Settings.Logging

/-!
# Logs set up from accepted settings

Accepted settings name a level and a form, so a log can always be set up from them, and it has the severity of
that level as its threshold. They are accepted again as they are. The form is kept by its name; the level is kept
by its small name, unless it is spelled with a dotless `ı`.
-/

namespace CaptureConfig

/-- The form of the lines of a target. -/
def LogTarget.form : LogTarget → LogFormat
  | .console form => form
  | .file form _ => form

namespace LoggingSettings

variable {es : Entries} {settings : LoggingSettings} {s word : String} {level : Level}

/-- The entries that settings are read from again. -/
def entries (settings : LoggingSettings) : Entries :=
  [(.text "level", .text settings.level), (.text "format", .text settings.format),
    (.text "log_to_file", .bool settings.toFile), (.text "log_file_path", .ofText? settings.filePath)]

/-! ## Accepted levels -/

theorem readLevel_of_named (h : Level.named? s = some level) :
    readLevel (.text (Text.lowered s)) = .ok (Text.lowered s) := by
  rw [readLevel_eq_ok, Level.named?_lowered h, Text.lowered_lowered]
  exact ⟨rfl, rfl⟩

theorem exists_level (h : es.optional "level" "info" readLevel = .ok word) :
    ∃ s level, word = Text.lowered s ∧ Level.named? s = some level ∧
      ∀ v, Datum.entry? "level" es = some (.text v) → s = v := by
  have hdefault : readLevel (.text "info") = .ok "info" := by decide +kernel
  obtain ⟨s, hs, hgiven⟩ := Entries.exists_text (fun _ => rfl) hdefault h
  obtain ⟨hnamed, hword⟩ := readLevel_eq_ok.mp hs
  obtain ⟨level, hlevel⟩ := Option.isSome_iff_exists.mp hnamed
  exact ⟨s, level, hword.symm, hlevel, hgiven⟩

/-! ## Accepted forms -/

/-- A text is accepted as a form only if it is the name of one in other letters. -/
theorem form_of_readFormat (h : readFormat (.text s) = .ok word) :
    Text.lowered s = word ∧ ∃ form : LogFormat, word = form.name := by
  have hread : readFormat (.text s) =
      if Text.lowered s = LogFormat.text.name || Text.lowered s = LogFormat.json.name then
        .ok (Text.lowered s)
      else Checked.mismatch
        (.refused ("Invalid logging format: " ++ s ++ ". Must be one of " ++ formatNames)) := rfl
  rw [hread] at h
  split at h
  · rename_i hname
    obtain rfl := Except.ok.inj h
    rw [Bool.or_eq_true, decide_eq_true_eq, decide_eq_true_eq] at hname
    rcases hname with hname | hname
    · exact ⟨rfl, .text, hname⟩
    · exact ⟨rfl, .json, hname⟩
  · cases h

theorem readFormat_name (form : LogFormat) : readFormat (.text form.name) = .ok form.name := by
  cases form <;> decide +kernel

theorem exists_form (h : es.optional "format" "text" readFormat = .ok word) :
    ∃ s, ∃ form : LogFormat, word = form.name ∧ Text.lowered s = form.name ∧
      ∀ v, Datum.entry? "format" es = some (.text v) → s = v := by
  obtain ⟨s, hs, hgiven⟩ := Entries.exists_text (fun _ => rfl) (readFormat_name .text) h
  obtain ⟨hword, form, rfl⟩ := form_of_readFormat hs
  exact ⟨s, form, rfl, hword, hgiven⟩

theorem form_eq {form : LogFormat} (h : settings.format = form.name) : settings.form = form := by
  unfold LoggingSettings.form
  rw [h]
  cases form <;> decide

/-! ## Accepted settings -/

theorem ofEntries_entries (hlevel : readLevel (.text settings.level) = .ok settings.level)
    (hformat : readFormat (.text settings.format) = .ok settings.format) :
    ofEntries settings.entries = .ok settings := by
  refine Entries.build_eq_ok.mpr ⟨rfl, read_eq_ok.mpr ⟨?_, ?_, ?_, ?_⟩⟩
  · exact (Entries.optional_of_some rfl).mpr hlevel
  · exact (Entries.optional_of_some rfl).mpr hformat
  · exact (Entries.optional_of_some rfl).mpr rfl
  · refine (Entries.optional_of_some rfl).mpr ?_
    cases settings.filePath <;> rfl

theorem form_of_target (l : Logger) (settings : LoggingSettings) (d : Disk) :
    LogTarget.console settings.form ∈ (l.setUp settings d).logger.targets ∧
      ∀ target ∈ (l.setUp settings d).logger.targets, target.form = settings.form := by
  obtain ⟨file, hready, -⟩ := LogState.ready_setUp ⟨l, d⟩ settings
  have htargets : (l.setUp settings d).logger.targets = _ := hready.targets
  rw [htargets]
  refine ⟨List.mem_cons_self, fun target htarget => ?_⟩
  rcases List.mem_cons.mp htarget with rfl | htarget
  · rfl
  · cases file with
    | none => cases htarget
    | some f =>
        obtain rfl := List.mem_singleton.mp htarget
        rfl

/-- **Accepted settings can be set up.** They name a level and a form and are accepted again without a change,
and every log that is set up from them has the severity of that level and writes in that form. The texts that
were given for the level and the form name them too, and the level that is kept is one of the small names
exactly if its text has no dotless `ı`. -/
theorem accepted_settings_can_be_set_up (h : ofEntries es = .ok settings) :
    ∃ level form, Level.named? settings.level = some level ∧ settings.format = form.name ∧
      ofEntries settings.entries = .ok settings ∧
      (∀ (l : Logger) (d : Disk), (l.setUp settings d).logger.threshold = level.number ∧
        .console form ∈ (l.setUp settings d).logger.targets ∧
        ∀ target ∈ (l.setUp settings d).logger.targets, target.form = form) ∧
      (∀ v, Datum.entry? "format" es = some (.text v) → Text.lowered v = form.name) ∧
      ∀ v, Datum.entry? "level" es = some (.text v) → Level.named? v = some level ∧
        (settings.level ∈ Level.all.map Level.smallName ↔ '\u0131' ∉ v.toList) := by
  obtain ⟨-, hread⟩ := Entries.build_eq_ok.mp h
  obtain ⟨hlevelEntry, hformEntry, -, -⟩ := read_eq_ok.mp hread
  obtain ⟨s, level, hkept, hnamed, hgiven⟩ := exists_level hlevelEntry
  obtain ⟨t, form, hform, hformText, hformGiven⟩ := exists_form hformEntry
  have hsettled : Level.named? settings.level = some level := hkept ▸ Level.named?_lowered hnamed
  refine ⟨level, form, hsettled, hform, ofEntries_entries ?_ ?_, fun l d => ?_, fun v hv => ?_,
    fun v hv => ?_⟩
  · rw [hkept]
    exact readLevel_of_named hnamed
  · rw [hform]
    exact readFormat_name form
  · obtain ⟨hconsole, htargets⟩ := form_of_target l settings d
    obtain ⟨file, hready, -⟩ := LogState.ready_setUp ⟨l, d⟩ settings
    have hthreshold : (l.setUp settings d).logger.threshold = settings.threshold.number := hready.threshold
    rw [form_eq hform] at hconsole htargets
    rw [hthreshold, LoggingSettings.threshold, hsettled]
    exact ⟨rfl, hconsole, htargets⟩
  · obtain rfl := hformGiven v hv
    exact hformText
  · obtain rfl := hgiven v hv
    rw [hkept]
    exact ⟨hnamed, Level.lowered_mem_smallNames hnamed⟩

/-- The level and the form are kept in small letters, in which they are accepted again. -/
theorem mixed_spellings_are_set_up :
    let es : Entries := [(.text "format", .text "JSon"), (.text "level", .text "WarninG")]
    let settings : LoggingSettings := { level := "warning", format := "json" }
    ofEntries es = .ok settings ∧ ofEntries settings.entries = .ok settings ∧
      ∀ (l : Logger) (d : Disk), (l.setUp settings d).logger.threshold = 30 := by
  intro es settings
  have haccepted : ofEntries es = .ok settings := by decide +kernel
  obtain ⟨level, form, hlevel, -, hagain, hsetUp, -⟩ := accepted_settings_can_be_set_up haccepted
  have hwarning : Level.named? settings.level = some .warning := by decide +kernel
  obtain rfl := Option.some.inj (hwarning.symm.trans hlevel)
  exact ⟨haccepted, hagain, fun l d => (hsetUp l d).1⟩

/-- A level that is spelled with a dotless letter is accepted, but it is not kept by its small name. -/
theorem dotless_level_is_kept :
    ∃ settings, ofEntries [(.text "level", .text "\u0131nfo")] = .ok settings ∧
      settings.level ∉ Level.all.map Level.smallName := by
  exact ⟨{ level := "\u0131nfo" }, by decide +kernel, by decide +kernel⟩

end LoggingSettings

end CaptureConfig
