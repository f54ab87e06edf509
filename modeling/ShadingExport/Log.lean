import ShadingExport.Session.Basic
import ShadingExport.Text.ControlSequence

/-!
# Log lines

What a program run writes to its log. A line has a level, a target that says which part of the
program speaks, and a message; the verbosity of the run decides which levels are written. A message
of several lines is indented from its second line on, and terminal controls in a line never reach
the log.
-/

namespace ShadingExport

/-- The level of a log line. -/
inductive LogLevel where
  /-- For whoever looks into an export. -/
  | debug
  /-- Progress. -/
  | info
  /-- Something was dropped or replaced. -/
  | warning
  deriving DecidableEq, Repr

namespace LogLevel

/-- The name of a level. -/
def name : LogLevel → String
  | .debug => "DEBUG"
  | .info => "INFO"
  | .warning => "WARN"

/-- How important a level is. -/
def rank : LogLevel → Nat
  | .debug => 0
  | .info => 1
  | .warning => 2

end LogLevel

/-- Which log lines are written. -/
inductive Verbosity where
  /-- None. -/
  | silent
  /-- Those of a level and of all more important ones. -/
  | atLeast (level : LogLevel)
  deriving DecidableEq, Repr

/-- Lines of this level are written. -/
def Verbosity.admits : Verbosity → LogLevel → Bool
  | .silent, _ => false
  | .atLeast least, level => least.rank ≤ level.rank

/-- The verbosity of a name: that of a level, in any letter case, or `off`. -/
def Verbosity.ofName? (name : String) : Option Verbosity :=
  match name.toLower with
  | "off" => some .silent
  | "error" => some .silent
  | "warn" => some (.atLeast .warning)
  | "info" => some (.atLeast .info)
  | "debug" => some (.atLeast .debug)
  | "trace" => some (.atLeast .debug)
  | _ => none

/-- A line of the log. -/
structure LogLine where
  /-- The level. -/
  level : LogLevel
  /-- The part of the program that speaks. -/
  target : String
  /-- The message. -/
  message : String
  deriving DecidableEq, Repr

/-- The log line of a report. -/
def Report.logLine (report : Report) : LogLine :=
  { level := match report.severity with
      | .info => .info
      | .warning => .warning
    target := "darts_export"
    message := report.message }

/-- The log line of a trace. -/
def Trace.logLine (trace : Trace) : LogLine :=
  { level := .debug
    target := match trace with
      | .translating .. => "darts_material_export::exporter::surface"
      | .alreadyExported _ => "darts_material_export::exporter::driver"
    message := trace.message }

/-- The log line of an event; asking for a texture leaves none. -/
def Event.logLine? : Event → Option LogLine
  | .report message => some message.logLine
  | .trace note => some note.logLine
  | .texture _ => none

/-- The log lines of a session, in order. -/
def Session.logLines (session : Session) : List LogLine :=
  session.journal.filterMap Event.logLine?

namespace LogLine

/-- A line as it is written, without its end: level and target in brackets, then the message. -/
def text (line : LogLine) : String :=
  let level := line.level.name
  let padding := String.ofList (List.replicate (5 - level.length) ' ')
  let message := "\n    ".intercalate (line.message.splitOn "\n")
  "[" ++ level ++ padding ++ " " ++ line.target ++ "] " ++ message

/-- The lines that a verbosity admits, each with its end and without terminal controls. A sequence
that a line leaves open swallows its end, but no part of the next line. -/
def render (verbosity : Verbosity) (lines : List LogLine) : String :=
  String.join ((lines.filter fun line => verbosity.admits line.level).map fun line =>
    String.ofList (Text.visible (line.text ++ "\n").toList))

end LogLine

end ShadingExport
