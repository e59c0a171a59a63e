import CaptureConfig.Log.Logger
import CaptureConfig.Proofs.Text.Written

/-!
# The lines of notices

A line of text gives the time, the log, the level and the message of a notice, with dashes between them. A JSON
line is an object with the same, the operation and the line that report, and those of three details that the
notice has. Both are written out here piece by piece, and what a log makes of a notice is one or the other.
-/

namespace CaptureConfig

/-! ## Lines written out -/

namespace Instant

/-- A number with zeros before it, up to a width. -/
def padded (width n : Nat) : String := String.ofList ((Nat.toDigits 10 n).leftpad width '0')

/-- The day and the time of day. -/
def dayAndTime (t : Instant) : String :=
  let m := Moment.ofSeconds t.seconds
  toString m.date.year ++ "-" ++ padded 2 m.date.month ++ "-" ++ padded 2 m.date.day ++ " " ++
    padded 2 m.hour ++ ":" ++ padded 2 m.minute ++ ":" ++ padded 2 m.second

/-- The thousandths, in three places. -/
def thousandths (t : Instant) : String :=
  if t.millis < 0 then "-" ++ padded 2 t.millis.natAbs else padded 3 t.millis.natAbs

end Instant

namespace Notice

/-- The line of text of a notice in a log. -/
def textLine (n : Notice) (log : String) (now : Instant) : String :=
  now.dayAndTime ++ " - " ++ log ++ " - " ++ n.level.name ++ " - " ++ n.message

/-- The member of a JSON line for a detail, if the notice has it. -/
def member? (n : Notice) (name : String) : Option String :=
  (n.details.lookup name).map fun d => "\"" ++ name ++ "\": " ++ d.toJson.compact

/-- The JSON line of a notice in a log. -/
def jsonLine (n : Notice) (log : String) (now : Instant) : String :=
  "\x7b" ++ String.intercalate ", "
    (["\"timestamp\": " ++ Json.quote (now.dayAndTime ++ "," ++ now.thousandths),
      "\"level\": " ++ Json.quote n.level.name,
      "\"logger\": " ++ Json.quote log,
      "\"message\": " ++ Json.quote n.message,
      "\"module\": \"logger\"",
      "\"function\": " ++ Json.quote n.origin,
      "\"line\": " ++ toString n.line] ++
      ["connector", "field", "table_name"].filterMap n.member?) ++ "\x7d"

end Notice

/-- The line of a notice under settings: a JSON line if that is their format, and a line of text otherwise. -/
def LoggingSettings.lineOf (s : LoggingSettings) (log : String) (now : Instant) (n : Notice) : String :=
  (if s.format = "json" then n.jsonLine log now else n.textLine log now) ++ "\n"

/-! ## Times -/

theorem Instant.padded_eq (width n : Nat) : padded width n = Date.digits width n := by
  simp [padded, Date.digits, Text.padLeft, Text.showNat, Text.decimalChars_eq_toDigits, List.leftpad]

namespace LogRecord

variable (r : LogRecord)

theorem stamp_eq : r.stamp = r.time.dayAndTime := by
  simp only [stamp, Moment.clock, Instant.dayAndTime, Instant.padded_eq, Text.showNat_eq_toString,
    String.append_assoc]

theorem fraction_eq : r.fraction = r.time.thousandths := by
  simp only [fraction, Instant.thousandths, Instant.padded_eq]

end LogRecord

/-! ## The two forms -/

theorem Level.nameOfNumber_number (level : Level) : nameOfNumber level.number = level.name := by
  cases level <;> rfl

namespace Json

theorem compactMembers_eq_map (members : List (String × Json)) :
    compactMembers members = members.map fun e => quote e.1 ++ ": " ++ e.2.compact := by
  induction members with
  | nil => rfl
  | cons e members ih => rw [compactMembers, ih, List.map_cons]

theorem quote_name {name : String} (h : name ∈ LogRecord.shownDetails) :
    quote name ++ ": " = "\"" ++ name ++ "\": " := by
  simp only [LogRecord.shownDetails, List.mem_cons, List.not_mem_nil, or_false] at h
  rcases h with rfl | rfl | rfl <;> decide

end Json

namespace Logger

variable (l : Logger) (now : Instant) (n : Notice)

/-- A notice has no arguments, so its text is the message of its record as it stands. -/
theorem recordOf_eq : l.recordOf now n =
    { log := l.name, severity := n.level.number, message := n.message, time := now, origin := "logger",
      function := n.origin, line := n.line, details := n.details } := rfl

theorem lineIn_text : (l.recordOf now n).lineIn .text = n.textLine l.name now := by
  rw [recordOf_eq, LogRecord.lineIn, LogRecord.text, LogRecord.stamp_eq, Level.nameOfNumber_number]
  rfl

/-- The details that are shown, as members of a JSON line. -/
theorem shown_members : Json.compactMembers (LogRecord.shownDetails.filterMap fun name =>
    (n.details.lookup name).map fun d => (name, d.toJson)) = LogRecord.shownDetails.filterMap n.member? := by
  rw [Json.compactMembers_eq_map, List.map_filterMap]
  apply List.filterMap_congr
  intro name hname
  rw [Option.map_map, Notice.member?]
  exact congrArg (Option.map · _) (funext fun d => congrArg (· ++ d.toJson.compact) (Json.quote_name hname))

theorem lineIn_json : (l.recordOf now n).lineIn .json = n.jsonLine l.name now := by
  -- the names of members need no escape, so each is one literal with its quotes and its colon
  have hnames : (["timestamp", "level", "logger", "message", "function", "line"].map
      fun name => Json.quote name ++ ": ") =
      ["\"timestamp\": ", "\"level\": ", "\"logger\": ", "\"message\": ", "\"function\": ", "\"line\": "] := by
    decide
  have horigin : Json.quote "module" ++ ": " ++ Json.quote "logger" = "\"module\": \"logger\"" := by decide
  simp only [List.map_cons, List.map_nil, List.cons.injEq, and_true] at hnames
  rw [recordOf_eq, LogRecord.lineIn, LogRecord.toJson, LogRecord.stamp_eq, LogRecord.fraction_eq,
    Level.nameOfNumber_number]
  simp only [Json.compact, Datum.bracketed, List.cons_append, List.nil_append, Json.compactMembers,
    shown_members, hnames, horigin, Text.showInteger_eq_toString]
  rfl

theorem lineIn_form (s : LoggingSettings) :
    (l.recordOf now n).lineIn s.form ++ "\n" = s.lineOf l.name now n := by
  unfold LoggingSettings.form LoggingSettings.lineOf
  change (l.recordOf now n).lineIn (if s.format = "json" then .json else .text) ++ "\n" = _
  split
  · rw [lineIn_json]
  · rw [lineIn_text]

end Logger

end CaptureConfig
