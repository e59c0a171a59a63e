import CaptureConfig.Proofs.Record.Checked
import CaptureConfig.Settings.Logging

/-!
# Reading logging settings

Logging settings are read field by field, each from the entry at its name. So a level that is put over
them changes the level and nothing else.
-/

namespace CaptureConfig.LoggingSettings

open Datum

variable {es : Entries} {settings accepted : LoggingSettings} {s word : String}

theorem read_eq_ok : read es = .ok settings ↔
    es.optional "level" "info" readLevel = .ok settings.level ∧
      es.optional "format" "text" readFormat = .ok settings.format ∧
      es.optional "log_to_file" false asFlag = .ok settings.toFile ∧
      es.optional "log_file_path" none asOptionalText = .ok settings.filePath := by
  simp only [read, Checked.ap_eq_ok, Steps.map_eq_ok]
  constructor
  · rintro ⟨_, path, ⟨_, flag, ⟨_, form, ⟨level, hlevel, rfl⟩, hform, rfl⟩, hflag, rfl⟩, hpath, rfl⟩
    exact ⟨hlevel, hform, hflag, hpath⟩
  · rintro ⟨hlevel, hform, hflag, hpath⟩
    exact ⟨_, _, ⟨_, _, ⟨_, _, ⟨_, hlevel, rfl⟩, hform, rfl⟩, hflag, rfl⟩, hpath, rfl⟩

/-- A text is accepted as a level when it names one, and is kept in small letters. -/
theorem readLevel_eq_ok :
    readLevel (.text s) = .ok word ↔ (Level.named? s).isSome = true ∧ Text.lowered s = word := by
  have hread : readLevel (.text s) =
      if (Level.named? s).isSome then .ok (Text.lowered s)
      else Checked.mismatch
        (.refused ("Invalid logging level: " ++ s ++ ". Must be one of " ++ levelNames)) := rfl
  rw [hread]
  cases (Level.named? s).isSome <;> simp [Checked.mismatch]

theorem read_insertEntry_level (hread : read es = .ok settings)
    (hlevel : readLevel (.text s) = .ok word) :
    read (insertEntry (.text "level") (.text s) es) = .ok { settings with level := word } := by
  obtain ⟨-, hform, hflag, hpath⟩ := read_eq_ok.mp hread
  refine read_eq_ok.mpr ⟨?_, ?_, ?_, ?_⟩
  · exact Entries.optional_insertEntry.mpr hlevel
  · rwa [Entries.optional_insertEntry_of_ne (by decide)]
  · rwa [Entries.optional_insertEntry_of_ne (by decide)]
  · rwa [Entries.optional_insertEntry_of_ne (by decide)]

/-- The settings with a level and no other entry. -/
def ofLevel (s : String) : Except KeywordFault LoggingSettings := ofEntries [(.text "level", .text s)]

theorem read_level (hlevel : readLevel (.text s) = .ok word) :
    read [(.text "level", .text s)] = .ok { level := word } := by
  have hdefault : read [] = .ok {} := rfl
  have hinsert : insertEntry (.text "level") (.text s) [] = [(.text "level", .text s)] := rfl
  rw [← hinsert, read_insertEntry_level hdefault hlevel]

theorem ofLevel_eq_ok : ofLevel s = .ok accepted ↔
    (Level.named? s).isSome = true ∧ accepted = { level := Text.lowered s } := by
  rw [ofLevel, ofEntries, Entries.build_eq_ok]
  constructor
  · rintro ⟨-, hread⟩
    have hlevel : readLevel (.text s) = .ok accepted.level :=
      (Entries.optional_of_some rfl).mp (read_eq_ok.mp hread).1
    obtain ⟨hnamed, hword⟩ := readLevel_eq_ok.mp hlevel
    rw [read_level hlevel, ← hword] at hread
    exact ⟨hnamed, (Except.ok.inj hread).symm⟩
  · rintro ⟨hnamed, rfl⟩
    have hlevel : readLevel (.text s) = .ok (Text.lowered s) := readLevel_eq_ok.mpr ⟨hnamed, rfl⟩
    exact ⟨rfl, read_level hlevel⟩

end CaptureConfig.LoggingSettings
