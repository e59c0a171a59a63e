import CaptureConfig.Command.Run
import CaptureConfig.Proofs.Connector.Resolve
import CaptureConfig.Proofs.Log.Logger

/-!
# When a run reports the problems of its configuration

A run prints the problems of a configuration line by line and ends with one. It only gets that far when
its log can be opened and its connector can be built, and the connector needs every regular expression of
the five lists to compile. A refused expression escapes from the run before anything is printed, though
the check would have reported it.
-/

namespace CaptureConfig.Command

/-- The lines in which problems are printed: each gives the field, the value between quotes, and what is wrong. -/
def problemLines : List Problem → String
  | [] => ""
  | p :: ps =>
    p.field ++ "=" ++ p.value.elim "None" Text.quoted ++ ": " ++ p.message ++ "\n" ++ problemLines ps

theorem problemLines_cons (p : Problem) (ps : List Problem) :
    problemLines (p :: ps) = p.text ++ "\n" ++ problemLines ps := by
  rw [problemLines, Problem.text]
  cases p.value <;> rfl

namespace Run

variable {α β : Type} {s : Console} {l : Logger} {now : Instant}

/-- A step that starts on a console ends in the given way and prints the given text, whatever it logs
and writes. -/
def Prints (r : Run α) (s : Console) (result : Except Escape α) (text : String) : Prop :=
  ∃ err disk, r.run.run s = (result, ⟨s.out ++ text, err, disk⟩)

theorem Prints.outcome {r : Run α} {disk : Disk} {result : Except Escape α} {text : String}
    (h : Prints r { disk } result text) :
    (r.run.run { disk }).1 = result ∧ (r.run.run { disk }).2.out = text := by
  obtain ⟨err, disk', h⟩ := h
  rw [h]
  exact ⟨rfl, String.empty_append⟩

theorem prints_pure (a : α) : Prints (pure a) s (.ok a) "" := by
  refine ⟨s.err, s.disk, ?_⟩
  rw [String.append_empty]
  rfl

theorem prints_throw (e : Escape) : Prints (throw e : Run α) s (.error e) "" := by
  refine ⟨s.err, s.disk, ?_⟩
  rw [String.append_empty]
  rfl

theorem run_get : StateT.run (ExceptT.run (get : Run Console)) s = (.ok s, s) := rfl

theorem prints_bind {x : Run α} {f : α → Run β} {a : α} {result : Except Escape β}
    {first rest : String} (hx : Prints x s (.ok a) first)
    (hf : ∀ s', Prints (f a) s' result rest) : Prints (x >>= f) s result (first ++ rest) := by
  obtain ⟨err, disk, hx⟩ := hx
  obtain ⟨err', disk', hf⟩ := hf ⟨s.out ++ first, err, disk⟩
  refine ⟨err', disk', ?_⟩
  simp only [ExceptT.run_bind, StateT.run_bind, hx]
  rw [← String.append_assoc]
  exact hf

/-- A step that prints nothing leaves the printing to those after it. -/
theorem prints_bind_silent {x : Run α} {f : α → Run β} {a : α} {result : Except Escape β}
    {text : String} (hx : Prints x s (.ok a) "") (hf : ∀ s', Prints (f a) s' result text) :
    Prints (x >>= f) s result text := by
  have h := prints_bind hx hf
  rwa [String.empty_append] at h

theorem prints_bind_error {x : Run α} {f : α → Run β} {e : Escape} {text : String}
    (hx : Prints x s (.error e) text) : Prints (x >>= f) s (.error e) text := by
  obtain ⟨err, disk, hx⟩ := hx
  refine ⟨err, disk, ?_⟩
  simp only [ExceptT.run_bind, StateT.run_bind, hx]
  rfl

theorem prints_print (text : String) : Prints (print text) s (.ok ()) text :=
  ⟨s.err, s.disk, rfl⟩

theorem prints_report {notices : List Notice} (h : ∀ n ∈ notices, n.Loggable) :
    Prints (report l now notices) s (.ok ()) "" := by
  obtain ⟨⟨written, disk⟩, hlog⟩ := Logger.logAll_ok l now h s.disk
  refine ⟨s.err ++ written, disk, ?_⟩
  simp only [report, ExceptT.run_bind, StateT.run_bind, run_get]
  simp only [bind, hlog, String.append_empty]
  rfl

theorem prints_inform (level : Level) (message : String) :
    Prints (inform l now level message) s (.ok ()) "" :=
  prints_report fun n hn => by
    obtain rfl := List.mem_singleton.mp hn
    exact Notice.plain_loggable level message

theorem prints_problems (problems : List Problem) :
    Prints (forIn problems PUnit.unit fun p _ => do
      print (p.text ++ "\n")
      pure (ForInStep.yield PUnit.unit)) s (.ok ()) (problemLines problems) := by
  induction problems generalizing s with
  | nil => exact prints_pure ()
  | cons p ps ih =>
      simp only [List.forIn_cons, bind_assoc, pure_bind]
      rw [problemLines_cons]
      exact prints_bind (prints_print _) fun s' => ih

end Run

open Run

variable {s : Console} {l : Logger} {now : Instant} {c : Connector}

/-! ## The parts of a run -/

theorem openLog_prints (settings : LoggingSettings) :
    Prints (openLog settings) s
      (match (Logger.setUp {} settings s.disk).fault with
        | some fault => .error (.disk fault)
        | none => .ok (Logger.setUp {} settings s.disk).logger) "" := by
  refine ⟨s.err, (Logger.setUp {} settings s.disk).disk, ?_⟩
  have hrun : (openLog settings).run.run s = ExceptT.run
      (match (Logger.setUp {} settings s.disk).fault with
        | some fault => (throw (Escape.disk fault) : Run Logger)
        | none => pure (Logger.setUp {} settings s.disk).logger)
      { s with disk := (Logger.setUp {} settings s.disk).disk } := rfl
  rw [hrun, String.append_empty]
  cases (Logger.setUp {} settings s.disk).fault <;> rfl

/-- A check that finds problems prints them all in order and ends with one. -/
theorem check_prints {problems : List Problem} {showsResolved : Bool}
    (h : c.schema.validate c.options = .ok problems) (hne : problems ≠ []) :
    Prints (check l now c showsResolved) s (.ok 1) (problemLines problems) := by
  have houtcome : c.validate.outcome = .ok problems := c.validate_outcome.trans h
  have hempty : problems.isEmpty = false := by
    simpa using hne
  unfold check
  refine prints_bind_silent (prints_report c.validate_loggable) fun s' => ?_
  rw [houtcome, ← String.append_empty (s := problemLines problems)]
  refine prints_bind (prints_problems problems) fun s'' => ?_
  rw [hempty]
  exact prints_bind_silent (prints_inform _ _) fun _ => prints_pure 1

variable (now) (path : Path) {settings : Settings} (showsResolved : Bool)

/-- Once the log is open, the outcome of building the connector decides how a run goes on. -/
theorem runSettings_prints {result : Except Escape Nat} {text : String} {built : Except Fault Connector}
    (hlog : (Logger.setUp {} settings.logging s.disk).fault = none)
    (hbuilt : (Connector.build
      { name := connectorName (Options.ofPairs settings.properties) path,
        isBuiltin := some fun _ => false, nameOf := some TableId.identifier }
      (Options.ofPairs settings.properties)).outcome = built)
    (hfault : ∀ fault, built = .error fault → ∀ s', Prints (endWith fault) s' result text)
    (hok : ∀ c, built = .ok c → ∀ l s', Prints (check l now c showsResolved) s' result text) :
    Prints (runSettings now path settings showsResolved) s result text := by
  have hopen := openLog_prints (s := s) settings.logging
  rw [hlog] at hopen
  refine prints_bind_silent hopen fun _ => ?_
  refine prints_bind_silent (prints_inform _ _) fun _ => ?_
  refine prints_bind_silent (prints_report (Connector.build_loggable _ _)) fun _ => ?_
  rw [hbuilt]
  cases built with
  | error fault => exact hfault fault rfl _
  | ok c => exact hok c rfl _ _

theorem runSettings_reports {problems : List Problem}
    (hlog : (Logger.setUp {} settings.logging s.disk).fault = none)
    (hcompiles : ∀ entry ∈ TableFilters.allEntries (Options.ofPairs settings.properties),
      PatternList.Compiles entry)
    (h : Schema.relational.validate (Options.ofPairs settings.properties) = .ok problems)
    (hne : problems ≠ []) :
    Prints (runSettings now path settings showsResolved) s (.ok 1) (problemLines problems) := by
  obtain ⟨f, hf⟩ := TableFilters.build_ok_iff.mpr hcompiles
  refine runSettings_prints now path showsResolved hlog (Connector.build_eq_ok.mpr ⟨f, hf, rfl⟩)
    (fun _ hfault => by cases hfault) fun c hc l s' => ?_
  obtain rfl := Except.ok.inj hc
  exact check_prints h hne

theorem runSettings_escapes {fault : Fault}
    (hlog : (Logger.setUp {} settings.logging s.disk).fault = none)
    (h : Steps.FirstFault PatternList.compileEntry
      (TableFilters.allEntries (Options.ofPairs settings.properties)) fault) :
    Prints (runSettings now path settings showsResolved) s (.error (.connector fault)) "" := by
  refine runSettings_prints now path showsResolved hlog (Connector.build_eq_error.mpr h)
    (fun fault' hfault s' => ?_) (fun _ hc => by cases hc)
  obtain rfl := Except.error.inj hfault
  obtain ⟨before, entry, after, -, -, hentry⟩ := h
  obtain ⟨refusal, -, rfl⟩ := PatternList.compileEntry_eq_error.mp hentry
  exact prints_throw _

theorem runSettings_stops {fault : DiskFault}
    (hlog : (Logger.setUp {} settings.logging s.disk).fault = some fault) :
    Prints (runSettings now path settings showsResolved) s (.error (.disk fault)) "" := by
  have hopen := openLog_prints (s := s) settings.logging
  rw [hlog] at hopen
  exact prints_bind_error hopen

/-! ## Whole runs -/

/-- The words name a file on the disk from which the settings are loaded. -/
def Loads (words : List String) (disk : Disk) (path : Path) (settings : Settings) : Prop :=
  ∃ arguments overrides, Arguments.ofTexts words = .ok arguments ∧
    readOverrides arguments.items = .ok overrides ∧ Path.ofText arguments.file = path ∧
    disk.contains path = .ok true ∧
    Settings.ofFile disk path overrides arguments.level = .ok settings

/-- A run that loads its settings goes on with them on the same disk. -/
theorem run_of_loads {path : Path} {words : List String} {disk : Disk}
    (h : Loads words disk path settings) :
    ∃ showsResolved,
      run now words disk = (runSettings now path settings showsResolved).run.run { disk } := by
  obtain ⟨arguments, overrides, hwords, hitems, rfl, hthere, hfile⟩ := h
  refine ⟨arguments.showsResolved, ?_⟩
  unfold run runWords runArguments
  -- what is read before the settings leaves the console as it is
  simp only [hwords, hitems, ExceptT.run_bind, StateT.run_bind, run_get]
  simp only [bind, hthere, hfile]

/-- **When a run reports problems.** A connector can be built exactly when every entry of the five lists
compiles, and otherwise fails with the first refused one. Hence a run that loads a configuration with
problems prints all of them in order and ends with one exactly when its log can be opened and all those
entries compile; a refused entry escapes before anything is printed. -/
theorem run_reports_problems (now : Instant) (words : List String) (disk : Disk) :
    (∀ o name isBuiltin nameOf size,
      let built := (Connector.build
        { name, isBuiltin := some isBuiltin, nameOf := some nameOf, fetchSize := size } o).outcome
      ((∃ c, built = .ok c) ↔ ∀ entry ∈ TableFilters.allEntries o, PatternList.Compiles entry) ∧
      ∀ fault, built = .error fault ↔
        Steps.FirstFault PatternList.compileEntry (TableFilters.allEntries o) fault) ∧
    ∀ path settings problems, Loads words disk path settings →
      Schema.relational.validate (Options.ofPairs settings.properties) = .ok problems →
      problems ≠ [] →
      let entries := TableFilters.allEntries (Options.ofPairs settings.properties)
      let opened := (Logger.setUp {} settings.logging disk).fault = none
      (((run now words disk).1 = .ok 1 ∧ (run now words disk).2.out = problemLines problems) ↔
        opened ∧ ∀ entry ∈ entries, PatternList.Compiles entry) ∧
      (opened → ∀ fault, Steps.FirstFault PatternList.compileEntry entries fault →
        (run now words disk).1 = .error (.connector fault) ∧ (run now words disk).2.out = "") := by
  refine ⟨fun o name isBuiltin nameOf size =>
    ⟨Connector.build_ok_iff, fun fault => Connector.build_eq_error⟩, ?_⟩
  intro path settings problems hloads hvalidate hne entries opened
  obtain ⟨showsResolved, hrun⟩ := run_of_loads now hloads
  rw [hrun]
  -- the log is opened first, then the connector is built, and only then the check runs
  refine ⟨⟨fun h => ?_, fun h => ?_⟩, fun hopened fault hfault => ?_⟩
  · cases hlog : (Logger.setUp {} settings.logging disk).fault with
    | some fault =>
        have hstop := (runSettings_stops now path showsResolved (s := { disk }) hlog).outcome
        rw [hstop.1] at h
        cases h.1
    | none =>
        refine ⟨hlog, ?_⟩
        rcases Steps.all_ok_or_firstFault PatternList.compileEntry entries with hall | ⟨fault, hfault⟩
        · exact fun entry hentry => PatternList.compileEntry_ok_iff.mp (hall entry hentry)
        · have hescape :=
            (runSettings_escapes now path showsResolved (s := { disk }) hlog hfault).outcome
          rw [hescape.1] at h
          cases h.1
  · exact (runSettings_reports now path showsResolved h.1 h.2 hvalidate hne).outcome
  · exact (runSettings_escapes now path showsResolved hopened hfault).outcome

/-- Problems are reported in order while all expressions compile. -/
theorem run_reports_two_problems :
    let document := "properties:\n  table.whitelist: a\n  table.blacklist: '[b]'\n"
    let disk : Disk := ⟨[(["c.yaml"], .file document.toUTF8.toList)]⟩
    let problems := [Problem.ofFinding "database.server.name" none .missing,
      Problem.ofFinding "table.blacklist" (some "[b]") .tablesIncludedToo]
    (run ⟨0, 0⟩ ["c.yaml"] disk).1 = .ok 1 ∧
      (run ⟨0, 0⟩ ["c.yaml"] disk).2.out = problemLines problems := by
  intro document disk problems
  let settings : Settings := ⟨[("table.whitelist", "a"), ("table.blacklist", "[b]")], {}⟩
  let o := Options.ofPairs settings.properties
  have hloads : Loads ["c.yaml"] disk (Path.ofText "c.yaml") settings := by
    refine ⟨⟨"c.yaml", [], none, false⟩, [], ?_, ?_, ?_, ?_, ?_⟩ <;> decide +kernel
  have hvalidate : Schema.relational.validate o = .ok problems := by decide +kernel
  have hcompiles : ∀ entry ∈ TableFilters.allEntries o, PatternList.Compiles entry := by
    decide +kernel
  have hreports := ((run_reports_problems ⟨0, 0⟩ ["c.yaml"] disk).2 _ _ _ hloads hvalidate (by simp)).1
  exact hreports.mpr ⟨rfl, hcompiles⟩

/-- A refused expression is a problem that the check finds, but it escapes before it is printed. -/
theorem refused_expression_escapes :
    let document := "logging:\n  level: CRITICAL\nproperties:\n  database.server.name: inv\n" ++
      "  table.whitelist: '('\n"
    let disk : Disk := ⟨[(["c.yaml"], .file document.toUTF8.toList)]⟩
    let settings : Settings :=
      ⟨[("database.server.name", "inv"), ("table.whitelist", "(")], { level := "critical" }⟩
    let o := Options.ofPairs settings.properties
    let refusal : Pattern.Refusal := .syntactic .unterminatedGroup (some 0)
    let problem := Problem.ofFinding "table.whitelist" (some "(") (.badPattern "(" refusal)
    Loads ["c.yaml"] disk (Path.ofText "c.yaml") settings ∧
      Schema.relational.validate o = .ok [problem] ∧
      (¬ ∃ c, (Connector.build
        { name := "inv", isBuiltin := some fun _ => false, nameOf := some TableId.identifier }
        o).outcome = .ok c) ∧
      (run ⟨0, 0⟩ ["c.yaml"] disk).1 = .error (.connector (.pattern "(" refusal)) ∧
      (run ⟨0, 0⟩ ["c.yaml"] disk).2.out = "" := by
  intro document disk settings o refusal problem
  have hloads : Loads ["c.yaml"] disk (Path.ofText "c.yaml") settings := by
    refine ⟨⟨"c.yaml", [], none, false⟩, [], ?_, ?_, ?_, ?_, ?_⟩ <;> decide +kernel
  have hvalidate : Schema.relational.validate o = .ok [problem] := by decide +kernel
  have hentries : TableFilters.allEntries o = ["("] := by decide +kernel
  have hrefused : PatternList.compileEntry "(" = .error (.pattern "(" refusal) := by
    decide +kernel
  have hfirst : Steps.FirstFault PatternList.compileEntry (TableFilters.allEntries o)
      (.pattern "(" refusal) :=
    ⟨[], "(", [], hentries, by simp, hrefused⟩
  obtain ⟨showsResolved, hrun⟩ := run_of_loads ⟨0, 0⟩ hloads
  refine ⟨hloads, hvalidate, ?_, ?_⟩
  · exact Steps.not_ok_iff.mpr ⟨_, Connector.build_eq_error.mpr hfirst⟩
  · rw [hrun]
    exact (runSettings_escapes ⟨0, 0⟩ _ showsResolved rfl hfirst).outcome

end CaptureConfig.Command
