import CaptureConfig.Proofs.Json.ReadBack
import CaptureConfig.Proofs.Log.Logger

/-!
# Records as JSON lines

A record whose shown details are texts or null is written on one line of printable ASCII, whatever the texts hold.
Read back, the line has the message as it was given, and each detail that is shown exactly if the record has it.
So the lines that a run leaves on the console are its records, one a line.
-/

namespace CaptureConfig

namespace LogRecord

/-- The members that the JSON line of every record has. -/
def fixedMembers (r : LogRecord) : List (String × Json) :=
  [("timestamp", .text (r.stamp ++ "," ++ r.fraction)), ("level", .text (Level.nameOfNumber r.severity)),
    ("logger", .text r.log), ("message", .text r.message), ("module", .text r.origin),
    ("function", .text r.function), ("line", .int r.line)]

/-- The members for the details that are shown. -/
def shownMembers (r : LogRecord) : List (String × Json) :=
  shownDetails.filterMap fun name => ((r.details.lookup name).map Datum.toJson).map fun x => (name, x)

/-- The details that are shown are as given. One that is not given is not there, and one that is given without a
text is null. -/
def Shows (details : List (String × Datum)) (shown : String → Option (Option String)) : Prop :=
  ∀ name ∈ shownDetails, details.lookup name = (shown name).map Datum.ofText?

variable {r : LogRecord} {shown : String → Option (Option String)} {name : String}

theorem toJson_eq (r : LogRecord) : r.toJson = .object (r.fixedMembers ++ r.shownMembers) := by
  simp [toJson, fixedMembers, shownMembers, Function.comp_def]

/-! ## The names of members -/

theorem names_nodup (r : LogRecord) : ((r.fixedMembers ++ r.shownMembers).map Prod.fst).Nodup := by
  have hnames : (r.fixedMembers.map Prod.fst ++ shownDetails).Nodup := by
    simp [fixedMembers, shownDetails]
  have hshown : (r.shownMembers.map Prod.fst).Sublist shownDetails := by
    rw [shownMembers, Assoc.keys_filterMap_keys]
    exact List.filter_sublist
  rw [List.map_append]
  exact hnames.sublist ((List.Sublist.refl _).append hshown)

/-- No fixed member has the name of a detail that is shown. -/
theorem lookup_members (r : LogRecord) (h : name ∈ shownDetails) :
    (r.fixedMembers ++ r.shownMembers).lookup name = (r.details.lookup name).map Datum.toJson := by
  have hfixed : r.fixedMembers.lookup name = none := by
    simp only [shownDetails, List.mem_cons, List.not_mem_nil, or_false] at h
    rcases h with rfl | rfl | rfl <;> rfl
  rw [List.lookup_append, hfixed, Option.none_or, shownMembers, Assoc.lookup_filterMap_keys, if_pos h]

/-! ## The values of members -/

theorem toJson_ofText? (s : Option String) : (Datum.ofText? s).toJson = Json.ofText? s := by
  cases s <;> rfl

theorem exact_ofText? (s : Option String) : (Json.ofText? s).Exact := by
  cases s <;> exact trivial

theorem exact_toJson (hshown : Shows r.details shown) (hline : Text.Writable r.line) : r.toJson.Exact := by
  rw [toJson_eq]
  refine ⟨r.names_nodup, Json.exactMembers_iff.mpr fun e he => ?_⟩
  rcases List.mem_append.mp he with he | he
  · have hfixed : Json.ExactMembers r.fixedMembers :=
      ⟨trivial, trivial, trivial, trivial, trivial, trivial, hline, trivial⟩
    exact Json.exactMembers_iff.mp hfixed e he
  · obtain ⟨name, hname, he⟩ := List.mem_filterMap.mp he
    obtain ⟨x, hx, rfl⟩ := Option.map_eq_some_iff.mp he
    rw [hshown name hname, Option.map_map] at hx
    obtain ⟨s, -, rfl⟩ := Option.map_eq_some_iff.mp hx
    rw [Function.comp_apply, toJson_ofText?]
    exact exact_ofText? s

/-- Nothing is lost in a JSON line, and nothing in it ends the line. -/
theorem line_is_read_back (hshown : Shows r.details shown) (hline : Text.Writable r.line) :
    (∀ c ∈ (r.lineIn .json).toList, Json.Printable c) ∧ Json.read? (r.lineIn .json) = some r.toJson :=
  have hexact : r.toJson.Exact := exact_toJson hshown hline
  ⟨Json.printable_compact _ hexact, Json.read?_compact hexact⟩

/-- **The JSON line of a record is one line and is read back.** It has the message of the notice that the record
is made from, and of the details that are shown those of the notice. The texts are sequences of Unicode characters,
without surrogates. -/
theorem json_line_is_read_back (l : Logger) (now : Instant) (n : Notice) (line : Int)
    (hshown : Shows n.details shown) (hline : Text.Writable line) :
    let r := { l.recordOf now n with line }
    (∀ c ∈ (r.lineIn .json).toList, Json.Printable c) ∧
      ∃ members, r.toJson = .object members ∧ Json.read? (r.lineIn .json) = some (.object members) ∧
        members.lookup "message" = some (.text n.message) ∧
        ∀ name ∈ shownDetails, members.lookup name = (shown name).map Json.ofText? := by
  intro r
  obtain ⟨hprintable, hread⟩ := line_is_read_back (r := r) hshown hline
  refine ⟨hprintable, _, r.toJson_eq, hread.trans (congrArg some r.toJson_eq), rfl, fun name hname => ?_⟩
  have hdetail : r.details.lookup name = (shown name).map Datum.ofText? := hshown name hname
  rw [r.lookup_members hname, hdetail, Option.map_map]
  exact congrArg (Option.map · (shown name)) (funext toJson_ofText?)

/-- A table whose name holds a line break and quotes cannot begin a record of its own. -/
theorem forged_table_is_read_back :
    let table := "orders\n\x7b\"level\": \"ERROR\"\x7d %s 😀"
    let r := { ({} : Logger).recordOf { seconds := 0 } (.missingOverride none table "select") with line := 127 }
    (∀ c ∈ (r.lineIn .json).toList, Json.Printable c) ∧
      ∃ members, Json.read? (r.lineIn .json) = some (.object members) ∧
        members.lookup "message" = some (.text r.message) ∧ members.lookup "connector" = some .null ∧
        members.lookup "field" = none ∧ members.lookup "table_name" = some (.text table) := by
  intro table r
  have hshown : Shows [("connector", .null), ("table_name", .text table)]
      fun name => [("connector", none), ("table_name", some table)].lookup name := by
    simp [Shows, shownDetails, Assoc.lookup_cons, Datum.ofText?]
  have hline : Text.Writable 127 := by simp [Text.Writable, Text.maxDigits]
  obtain ⟨hprintable, members, -, hread, hmessage, hdetails⟩ := json_line_is_read_back {} { seconds := 0 }
    (.missingOverride none table "select") 127 hshown hline
  exact ⟨hprintable, members, hread, hmessage, hdetails "connector" (by decide), hdetails "field" (by decide),
    hdetails "table_name" (by decide)⟩

end LogRecord

/-! ## The lines of a run -/

namespace Logger

variable {l : Logger} {form : LogFormat} (now : Instant) {n : Notice} {ns : List Notice}

theorem log_on_console (hreach : l.reach = [.console form]) (hn : n.Loggable) (d : Disk) :
    l.log now n d =
      .ok (if l.admits n.level.number then (l.recordOf now n).lineIn form ++ "\n" else "", d) := by
  have hwrite : l.write (l.recordOf now n) d = ((l.recordOf now n).lineIn form ++ "\n", d) := by
    simp [write, hreach, writeTo]
  rw [log_of_loggable l now hn, hwrite]
  split <;> rfl

/-- On the console a run leaves the lines of the notices that the log admits, in order. -/
theorem logAll_on_console (hreach : l.reach = [.console form]) (hns : ∀ n ∈ ns, n.Loggable) (d : Disk) :
    l.logAll now ns d =
      .ok (String.join (((ns.filter fun n => l.admits n.level.number).map fun n =>
        (l.recordOf now n).lineIn form).map (· ++ "\n")), d) := by
  induction ns with
  | nil => rfl
  | cons n ns ih =>
      rw [List.forall_mem_cons] at hns
      simp only [logAll, log_on_console now hreach hns.1, ih hns.2, bind, Except.bind, pure, Except.pure]
      cases h : l.admits n.level.number <;> simp [h]

/-- **No text of a notice adds a line to a log or takes one away.** Cut at its line breaks, what a log with JSON
lines writes on the console is read as the records of the notices that it admits, one a line and in order. -/
theorem console_lines_are_records (hreach : l.reach = [.console .json])
    (hns : ∀ n ∈ ns, n.Loggable ∧ Text.Writable n.line ∧ ∃ shown, LogRecord.Shows n.details shown)
    (d : Disk) :
    ∃ out, l.logAll now ns d = .ok (out, d) ∧ (Text.split '\n' out).dropLast.map Json.read? =
      (ns.filter fun n => l.admits n.level.number).map fun n => some (l.recordOf now n).toJson := by
  have hline : ∀ n ∈ ns, '\n' ∉ ((l.recordOf now n).lineIn .json).toList ∧
      Json.read? ((l.recordOf now n).lineIn .json) = some (l.recordOf now n).toJson := by
    intro n hn
    obtain ⟨-, hwritable, shown, hshown⟩ := hns n hn
    obtain ⟨hprintable, hread⟩ := LogRecord.line_is_read_back (r := l.recordOf now n) hshown hwritable
    exact ⟨fun hbreak => absurd (hprintable '\n' hbreak) (by decide), hread⟩
  refine ⟨_, logAll_on_console now hreach (fun n hn => (hns n hn).1) d, ?_⟩
  have hbreaks : ∀ line ∈ (ns.filter fun n => l.admits n.level.number).map fun n =>
      (l.recordOf now n).lineIn .json, '\n' ∉ line.toList := by
    intro line hmem
    obtain ⟨n, hn, rfl⟩ := List.mem_map.mp hmem
    exact (hline n (List.mem_of_mem_filter hn)).1
  have hbreak : String.singleton '\n' = "\n" := rfl
  have hsplit := Text.split_join hbreaks
  rw [hbreak] at hsplit
  rw [hsplit, List.dropLast_concat, List.map_map]
  exact List.map_congr_left fun n hn => (hline n (List.mem_of_mem_filter hn)).2

end Logger

end CaptureConfig
