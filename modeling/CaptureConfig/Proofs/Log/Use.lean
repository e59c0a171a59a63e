import CaptureConfig.Proofs.Disk.File
import CaptureConfig.Proofs.Log.Level
import CaptureConfig.Proofs.Log.Line
import CaptureConfig.Proofs.Log.Logger

/-!
# What a log in use writes

A log can be set up again and again, with notices in between, and a set-up can fail on its file. Whatever came
before, the last one decides: it leaves the console as a target and, if it opened a file, that file as well, and
from then on the log hands nothing on to the targets of its surroundings. Logging leaves the targets and every
other file as they are, so each notice from the threshold on is written once to the console and once to the file,
and any other notice not at all.
-/

namespace CaptureConfig

namespace Logger

variable {l : Logger} {s : LoggingSettings} {d d' : Disk} {path : Path} {refusal : DiskFault × Disk}

theorem setUp_of_no_file (h : s.file? = none) : l.setUp s d = ⟨l.onConsole s, d, none⟩ := by
  simp only [setUp, h]

theorem setUp_of_refused (h : s.file? = some path) (hopen : openFile path d = .error refusal) :
    l.setUp s d = ⟨l.onConsole s, refusal.2, some refusal.1⟩ := by
  simp only [setUp, h, hopen]

theorem setUp_of_opened (h : s.file? = some path) (hopen : openFile path d = .ok d') :
    l.setUp s d =
      ⟨{ l.onConsole s with targets := [.console s.form, .file s.form path.plain] }, d', none⟩ := by
  simp only [setUp, h, hopen]
  rfl

theorem writeTo_file {r : LogRecord} {written : String × Disk} {form : LogFormat}
    (h : written.2.append path (r.lineIn form ++ "\n").toUTF8.toList = .ok d') :
    writeTo r written (.file form path) = (written.1, d') := by
  simp only [writeTo, h]

end Logger

/-- What is done with a log: it is set up, or a notice is logged at a point of time. -/
inductive LogUse where
  | setUp (settings : LoggingSettings)
  | log (now : Instant) (notice : Notice)

/-- A log and the disk on which it writes. -/
structure LogState where
  logger : Logger
  disk : Disk

namespace LogState

/-- A set-up, which may have failed on the file. -/
def setUp (state : LogState) (s : LoggingSettings) : LogState :=
  ⟨(state.logger.setUp s state.disk).logger, (state.logger.setUp s state.disk).disk⟩

/-- Why the file of a set-up cannot be opened. -/
def faultOf (state : LogState) (s : LoggingSettings) : Option DiskFault :=
  (state.logger.setUp s state.disk).fault

/-- A notice. One that makes no record leaves everything as it is. -/
def log (state : LogState) (now : Instant) (n : Notice) : LogState :=
  match state.logger.log now n state.disk with
  | .ok (_, disk) => { state with disk }
  | .error _ => state

/-- One use. -/
def after (state : LogState) : LogUse → LogState
  | .setUp s => state.setUp s
  | .log now n => state.log now n

/-- Several uses, one after another. -/
def afterAll (state : LogState) (uses : List LogUse) : LogState := uses.foldl after state

/-- A log as settings leave it. It has a file at most, which is given by its path and by the names over which
the path leads there. -/
structure Ready (origin : Logger) (s : LoggingSettings) (file : Option (Path × List String))
    (state : LogState) : Prop where
  name : state.logger.name = origin.name
  threshold : state.logger.threshold = s.threshold.number
  handsOn : state.logger.handsOn = false
  targets : state.logger.targets = .console s.form :: (file.map fun f => .file s.form f.1).toList
  leads : ∀ f ∈ file, ∃ bytes, state.disk.LeadsTo f.1 f.2 bytes

/-- A text has been added to the file at a place, if there is one, and nothing else has changed. -/
def Written (place : Option (List String)) (line : String) (d d' : Disk) : Prop :=
  match place with
  | none => d' = d
  | some names => ∃ bytes, d.entry? names = some (.file bytes) ∧
      d' = d.put names (.file (bytes ++ line.toUTF8.toList))

variable {state : LogState} {origin : Logger} {s : LoggingSettings} {now : Instant} {n : Notice}
  {line : String} {file : Option (Path × List String)} {place : Option (List String)} {names : List String}
  {d d' : Disk}

theorem afterAll_append (state : LogState) (uses uses' : List LogUse) :
    state.afterAll (uses ++ uses') = (state.afterAll uses).afterAll uses' := List.foldl_append

theorem entry?_of_written (h : Written place line d d') (hplace : some names ≠ place) :
    d'.entry? names = d.entry? names := by
  cases place with
  | none => rw [show d' = d from h]
  | some names' =>
      obtain ⟨bytes, -, rfl⟩ := h
      exact Disk.entry?_put_of_ne fun heq => hplace (congrArg some heq)

/-! ## Setting up -/

theorem file?_eq_some {path : Path} : s.file? = some path ↔
    s.toFile = true ∧ ∃ text, s.filePath = some text ∧ text ≠ "" ∧ Path.ofText text = path := by
  unfold LoggingSettings.file?
  cases s.filePath with
  | none => simp
  | some text => by_cases htext : text = "" <;> simp [htext]

theorem file?_isSome_iff : s.file?.isSome ↔
    s.toFile = true ∧ ∃ text, s.filePath = some text ∧ text ≠ "" := by
  rw [Option.isSome_iff_exists]
  simp only [file?_eq_some]
  constructor
  · rintro ⟨-, htoFile, text, htext, hne, -⟩
    exact ⟨htoFile, text, htext, hne⟩
  · rintro ⟨htoFile, text, htext, hne⟩
    exact ⟨_, htoFile, text, htext, hne, rfl⟩

theorem openFile_eq_ok {path : Path} (h : Logger.openFile path d = .ok d') :
    ∃ d₁, d.ensureDirectories path.root path.parent.parts.reverse = .ok d₁ ∧
      d₁.append path.plain [] = .ok d' := by
  obtain ⟨d₁, hmade, hopened⟩ := Steps.bind_eq_ok.mp h
  exact ⟨d₁, hmade, Steps.mapError_eq_ok.mp hopened⟩

/-- Opening a file changes no file, and neither does an attempt that fails. -/
theorem keepsFiles_openFile (path : Path) (d : Disk) :
    d.KeepsFiles (Disk.left (Logger.openFile path d)) := by
  have hmade := Disk.keepsFiles_ensureDirectories d path.root path.parent.parts.reverse
  unfold Logger.openFile
  cases hdirectories : d.ensureDirectories path.root path.parent.parts.reverse with
  | error refusal =>
      rw [hdirectories] at hmade
      exact hmade
  | ok d₁ =>
      rw [hdirectories] at hmade
      refine hmade.trans ?_
      cases hopened : d₁.append path.plain [] with
      | error fault =>
          simp only [bind, Except.bind, hopened, Except.mapError]
          exact .refl d₁
      | ok d' =>
          simp only [bind, Except.bind, hopened, Except.mapError]
          exact Disk.keepsFiles_append_nil hopened

theorem ready_console (l : Logger) (s : LoggingSettings) (d : Disk) :
    Ready l s none ⟨l.onConsole s, d⟩ := by
  constructor <;> simp [Logger.onConsole]

theorem ready_file (l : Logger) (s : LoggingSettings) {path : Path} {bytes : List UInt8}
    (h : d.LeadsTo path names bytes) :
    Ready l s (some (path, names))
      ⟨{ l.onConsole s with targets := [.console s.form, .file s.form path] }, d⟩ := by
  constructor
  case leads =>
    rintro f hf
    obtain rfl := Option.some.inj hf
    exact ⟨bytes, h⟩
  all_goals simp [Logger.onConsole]

/-- What a set-up leaves. If it opens a file, the path of the settings leads there. -/
theorem ready_setUp (state : LogState) (s : LoggingSettings) :
    ∃ file : Option (Path × List String), Ready state.logger s file (state.setUp s) ∧
      (file.isSome ↔ state.faultOf s = none ∧ s.file?.isSome) ∧
      (∀ f ∈ file, ∃ path, s.file? = some path ∧ path.plain = f.1) ∧
      state.disk.KeepsFiles (state.setUp s).disk := by
  unfold setUp faultOf
  cases hfile : s.file? with
  | none =>
      rw [Logger.setUp_of_no_file hfile]
      exact ⟨none, ready_console _ _ _, by simp, by simp, .refl _⟩
  | some path =>
      have hkept := keepsFiles_openFile path state.disk
      cases hopen : Logger.openFile path state.disk with
      | error refusal =>
          rw [hopen] at hkept
          rw [Logger.setUp_of_refused hfile hopen]
          exact ⟨none, ready_console _ _ _, by simp, by simp, hkept⟩
      | ok d =>
          rw [hopen] at hkept
          obtain ⟨d₁, -, hopened⟩ := openFile_eq_ok hopen
          obtain ⟨names, old, hleads⟩ := Disk.leadsTo_of_append hopened
          rw [Logger.setUp_of_opened hfile hopen]
          refine ⟨some (path.plain, names), ready_file _ _ hleads, by simp, ?_, hkept⟩
          rintro f hf
          obtain rfl := Option.some.inj hf
          exact ⟨path, rfl, rfl⟩

/-! ## Logging -/

/-- A log that hands nothing on reaches its own targets only. -/
theorem Ready.reach (h : Ready origin s file state) :
    state.logger.reach = .console s.form :: (file.map fun f => .file s.form f.1).toList := by
  rw [Logger.reach, h.handsOn, ← h.targets]
  rfl

/-- Every record of a log that is set up goes to the console and to the file, if there is one. -/
theorem Ready.write (h : Ready origin s file state) (now : Instant) (n : Notice) :
    ∃ d', state.logger.write (state.logger.recordOf now n) state.disk = (s.lineOf origin.name now n, d') ∧
      Written (file.map Prod.snd) (s.lineOf origin.name now n) state.disk d' := by
  have hline : (state.logger.recordOf now n).lineIn s.form ++ "\n" = s.lineOf origin.name now n := by
    rw [Logger.lineIn_form, h.name]
  have hconsole : Logger.writeTo (state.logger.recordOf now n) ("", state.disk) (.console s.form) =
      (s.lineOf origin.name now n, state.disk) := by
    simp only [Logger.writeTo, String.empty_append, hline]
  unfold Logger.write
  rw [h.reach]
  cases file with
  | none => exact ⟨state.disk, hconsole, rfl⟩
  | some f =>
      obtain ⟨bytes, hleads⟩ := h.leads f rfl
      refine ⟨_, ?_, bytes, hleads.held, rfl⟩
      change Logger.writeTo _ (Logger.writeTo _ _ _) (.file s.form f.1) = _
      rw [hconsole, ← hline]
      exact Logger.writeTo_file (hleads.append _)

theorem Ready.of_written (h : Ready origin s file state)
    (hwritten : Written (file.map Prod.snd) line state.disk d') :
    Ready origin s file { state with disk := d' } := by
  refine ⟨h.name, h.threshold, h.handsOn, h.targets, ?_⟩
  rintro f rfl
  obtain ⟨bytes, hleads⟩ := h.leads f rfl
  obtain ⟨bytes', -, rfl⟩ := hwritten
  exact ⟨_, hleads.put _⟩

theorem Ready.admits_iff (h : Ready origin s file state) (severity : Nat) :
    state.logger.admits severity = true ↔ s.threshold.number ≤ severity := by
  have hne : s.threshold.number ≠ 0 := by
    cases s.threshold <;> decide
  unfold Logger.admits
  rw [h.threshold, if_neg hne, decide_eq_true_iff]

/-- Below the threshold a notice writes nothing, and from there on its line goes to all targets. -/
theorem Ready.log_of_loggable (h : Ready origin s file state) (now : Instant) (hn : n.Loggable) :
    (n.level.number < s.threshold.number →
      state.logger.log now n state.disk = .ok ("", state.disk)) ∧
    (s.threshold.number ≤ n.level.number → ∃ d',
      state.logger.log now n state.disk = .ok (s.lineOf origin.name now n, d') ∧
      Written (file.map Prod.snd) (s.lineOf origin.name now n) state.disk d') := by
  rw [Logger.log_of_loggable _ _ hn]
  refine ⟨fun hbelow => ?_, fun hfrom => ?_⟩
  · have hrefused : ¬ state.logger.admits n.level.number = true := by
      rw [h.admits_iff]
      omega
    rw [if_neg hrefused]
  · obtain ⟨d', hwrite, hwritten⟩ := h.write now n
    rw [if_pos ((h.admits_iff _).mpr hfrom), hwrite]
    exact ⟨d', rfl, hwritten⟩

/-- A notice changes neither the targets nor any other file. -/
theorem Ready.log (h : Ready origin s file state) (now : Instant) (n : Notice) :
    Ready origin s file (state.log now n) ∧
      ∀ names, some names ≠ file.map Prod.snd →
        (state.log now n).disk.entry? names = state.disk.entry? names := by
  unfold LogState.log
  rcases state.logger.log_cases now n state.disk with ⟨fault, hlog⟩ | hlog | hlog
  · rw [hlog]
    exact ⟨h, fun _ _ => rfl⟩
  · rw [hlog]
    exact ⟨h, fun _ _ => rfl⟩
  · obtain ⟨d', hwrite, hwritten⟩ := h.write now n
    rw [hlog, hwrite]
    exact ⟨h.of_written hwritten, fun _ hne => entry?_of_written hwritten hne⟩

theorem Ready.afterAll_log (h : Ready origin s file state) (later : List (Instant × Notice)) :
    Ready origin s file (state.afterAll (later.map fun e => .log e.1 e.2)) ∧
      ∀ names, some names ≠ file.map Prod.snd →
        (state.afterAll (later.map fun e => .log e.1 e.2)).disk.entry? names = state.disk.entry? names := by
  induction later generalizing state with
  | nil => exact ⟨h, fun _ _ => rfl⟩
  | cons e later ih =>
      obtain ⟨hready, hframe⟩ := h.log e.1 e.2
      obtain ⟨hend, hframe'⟩ := ih hready
      exact ⟨hend, fun names hne => (hframe' names hne).trans (hframe names hne)⟩

theorem name_log (state : LogState) (now : Instant) (n : Notice) :
    (state.log now n).logger = state.logger := by
  unfold LogState.log
  split <;> rfl

/-- Whatever is done with a log, it keeps its name. -/
theorem name_afterAll (state : LogState) (uses : List LogUse) :
    (state.afterAll uses).logger.name = state.logger.name := by
  induction uses generalizing state with
  | nil => rfl
  | cons use uses ih =>
      refine (ih (state.after use)).trans ?_
      cases use with
      | setUp s =>
          obtain ⟨file, hready, -⟩ := ready_setUp state s
          exact hready.name
      | log now n => exact congrArg Logger.name (name_log state now n)

/-- The threshold of settings is the level that their text names in capitals. -/
theorem threshold_eq {level : Level} (h : Text.capitalised s.level = level.name) : s.threshold = level := by
  rw [LoggingSettings.threshold, Level.named?_eq_some.mpr h]
  rfl

/-- **Each notice is written once.** Whatever was done with a log before it was set up for the last time, and
whichever notices have been logged since, a notice below the level of that set-up writes nothing. Any other one
writes its line, in the format of that set-up, once to the console and once to the file of that set-up. There is
such a file exactly if the set-up came without a fault and its settings ask for one, and no other file changes from
that set-up on, be it one of the surroundings. -/
theorem each_notice_is_written_once (start : LogState) (before : List LogUse) (s : LoggingSettings)
    (level : Level) (hlevel : Text.capitalised s.level = level.name) :
    let last := start.afterAll before
    ∃ place : Option (List String),
      (place.isSome ↔ last.faultOf s = none ∧ s.toFile = true ∧
        ∃ path, s.filePath = some path ∧ path ≠ "") ∧
      (∀ names ∈ place, ∃ path, s.filePath = some path ∧
        (last.setUp s).disk.locate (Path.ofText path).plain = .ok names) ∧
      ∀ later : List (Instant × Notice),
        let state := start.afterAll (before ++ .setUp s :: later.map fun e => .log e.1 e.2)
        (∀ names bytes, some names ≠ place → last.disk.entry? names = some (.file bytes) →
          state.disk.entry? names = some (.file bytes)) ∧
        ∀ now n, n.Loggable →
          (n.level.number < level.number → state.logger.log now n state.disk = .ok ("", state.disk)) ∧
          (level.number ≤ n.level.number → ∃ disk,
            state.logger.log now n state.disk = .ok (s.lineOf start.logger.name now n, disk) ∧
            Written place (s.lineOf start.logger.name now n) state.disk disk) := by
  intro last
  obtain rfl := threshold_eq hlevel
  obtain ⟨file, hready, hfile, hpath, hkept⟩ := ready_setUp last s
  have hstart : Ready start.logger s file (last.setUp s) :=
    ⟨hready.name.trans (name_afterAll start before), hready.threshold, hready.handsOn, hready.targets,
      hready.leads⟩
  refine ⟨file.map Prod.snd, ?_, ?_, ?_⟩
  · rw [Option.isSome_map, hfile, file?_isSome_iff]
  · intro names hnames
    obtain ⟨f, hf, rfl⟩ := Option.map_eq_some_iff.mp hnames
    obtain ⟨path, hsettings, hplain⟩ := hpath f hf
    obtain ⟨-, text, htext, -, rfl⟩ := file?_eq_some.mp hsettings
    obtain ⟨bytes, hleads⟩ := hready.leads f hf
    exact ⟨text, htext, hplain ▸ hleads.located⟩
  · intro later state
    obtain ⟨hend, hframe⟩ := hstart.afterAll_log later
    have hstate : state = (last.setUp s).afterAll (later.map fun e => .log e.1 e.2) :=
      afterAll_append start before _
    rw [← hstate] at hend hframe
    refine ⟨fun names bytes hne hheld => ?_, fun now n hn => hend.log_of_loggable now hn⟩
    rw [hframe names hne]
    exact hkept names bytes hheld

/-- A set-up that fails because its path leads to a directory is followed by one whose path leads back out of
that directory. A warning reaches the file of the latter, and a message for information does not. The targets that
surround the log get neither. -/
theorem warning_is_written_after_failed_setup :
    let now : Instant := { seconds := 1700000000 }
    let surroundings : Surroundings :=
      { threshold := 10, targets := [.console .text, .file .text (.ofText "old.log")] }
    let start : LogState := ⟨{ surroundings }, ⟨[(["logs"], .directory), (["old.log"], .file [])]⟩⟩
    let failing : LoggingSettings := { toFile := true, filePath := some "logs/" }
    let s : LoggingSettings :=
      { level := "warning", format := "json", toFile := true, filePath := some "logs/../a.log" }
    let warning : Notice :=
      { level := .warning, message := "%d", details := [("connector", .text "inv")], origin := "warning" }
    let line := "\x7b\"timestamp\": \"2023-11-14 22:13:20,000\", \"level\": \"WARNING\", " ++
      "\"logger\": \"relational_config\", \"message\": \"%d\", \"module\": \"logger\", " ++
      "\"function\": \"warning\", \"line\": 0, \"connector\": \"inv\"\x7d\n"
    let before : List LogUse := [.setUp failing, .log now warning]
    let state := start.afterAll (before ++ [.setUp s, .log now warning])
    start.faultOf failing = some ⟨.isDirectory, "logs"⟩ ∧
    state.disk.entry? ["old.log"] = some (.file []) ∧
    state.logger.log now { warning with level := .info } state.disk = .ok ("", state.disk) ∧
    ∃ disk, state.logger.log now warning state.disk = .ok (line, disk) ∧
      Written (some ["a.log"]) line state.disk disk := by
  intro now surroundings start failing s warning line before state
  have hloggable : ∀ level, Notice.Loggable { warning with level } := by
    intro level
    refine Notice.loggable_of_shown fun d hd => ?_
    obtain rfl := List.mem_singleton.mp hd
    decide
  have hlevel : Text.capitalised s.level = Level.warning.name := by decide +kernel
  obtain ⟨place, hplace, hnames, hlater⟩ := each_notice_is_written_once start before s .warning hlevel
  have hfault : (start.afterAll before).faultOf s = none := by decide +kernel
  obtain ⟨names, rfl⟩ := Option.isSome_iff_exists.mp
    (hplace.mpr ⟨hfault, rfl, "logs/../a.log", rfl, by decide⟩)
  obtain ⟨path, hpath, hlocated⟩ := hnames names rfl
  obtain rfl := Option.some.inj hpath
  have hlocate : ((start.afterAll before).setUp s).disk.locate (Path.ofText "logs/../a.log").plain =
      .ok ["a.log"] := by
    decide +kernel
  obtain rfl := Except.ok.inj (hlocated.symm.trans hlocate)
  obtain ⟨hkept, hlog⟩ := hlater [(now, warning)]
  have hline : s.lineOf start.logger.name now warning = line := by decide +kernel
  refine ⟨by decide +kernel, hkept ["old.log"] [] (by decide) (by decide +kernel), ?_, ?_⟩
  · exact (hlog now { warning with level := .info } (hloggable .info)).1 (by decide)
  · rw [← hline]
    exact (hlog now warning (hloggable .warning)).2 (by decide)

end LogState

end CaptureConfig
