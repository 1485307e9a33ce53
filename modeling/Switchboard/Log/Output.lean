import Switchboard.Json.Printer
import Switchboard.Log.Filter
import Switchboard.Settings.Basic

/-!
# Writing events

The events that pass a filter are written one on a line: as text, with the level, the part of the
program, the message and the fields; or as JSON objects that hold the same.

The filter is the one that the environment names, if it names a good one, and otherwise
the one of the settings, without the rules in it that cannot be read. There is no output at all if
the filter that is asked has a torn rule.
-/

namespace Switchboard

/-- The name of a level in lines of the log. -/
def Level.label : Level → String
  | .error => "ERROR"
  | .warn => "WARN"
  | .info => "INFO"
  | .debug => "DEBUG"
  | .trace => "TRACE"

namespace LogValue

/-- A value as it is shown in a line of text. -/
def shown : LogValue → String
  | .text s => s
  | .number n => toString n
  | .flag b => toString b

/-- A value as JSON. -/
def toJson : LogValue → Json
  | .text s => .string s
  | .number n => .integer n
  | .flag b => .bool b

end LogValue

namespace LogRecord

/-- The width in which levels are written on the right. -/
def levelWidth : Nat := 5

/-- A record as a line of text. -/
def shown (r : LogRecord) : String :=
  let label := r.event.level.label
  let pad := String.ofList (List.replicate (levelWidth - label.length) ' ')
  let fields := r.event.fields.map fun (name, v) => s!" {name}=" ++ v.shown
  pad ++ label ++ " " ++ r.target ++ ": " ++ r.event.message ++ String.join fields

/-- A record as JSON. -/
def toJson (r : LogRecord) : Json :=
  let fields := r.event.fields.map fun (name, v) => (name, v.toJson)
  .object
    [("level", .string r.event.level.label),
      ("fields", .object ((LogEvent.messageField, .string r.event.message) :: fields)),
      ("target", .string r.target)]

end LogRecord

/-- Where events go. -/
structure LogOutput where
  filter : LogFilter
  /-- Whether events are written as JSON. -/
  json : Bool
  /-- What has to be said of rules that could not be read. -/
  complaints : List String := []
  deriving DecidableEq, Repr, Inhabited

namespace LogOutput

/-- The variable that names a filter. -/
def filterVariable : String := "RUST_LOG"

/-- What is said of a rule that cannot be read. -/
def complaint (text : String) (fault : LogRuleFault) : String :=
  s!"ignoring `{text}`: {fault.message}"

/-- The output with the filter of the settings. A torn rule is no rule to be left out. -/
def ofLevel? (s : LogSettings) : Option LogOutput :=
  let (filter, unread) := LogFilter.read s.level
  if unread.any fun (_, fault) => fault = .torn then none
  else
    some
      { filter, json := s.json
        complaints := unread.map fun (text, fault) => complaint text fault }

/-- The output that settings ask for, unless the environment names a filter; none if one of the two
has a torn rule. A filter is read up to its first fault, so what follows another one is not seen. -/
def ofSettings? (s : LogSettings) (named : Option String) : Option LogOutput :=
  match named.map LogFilter.parse with
  | some (.ok filter) => some { filter, json := s.json }
  | some (.error .torn) => none
  | _ => ofLevel? s

/-- The line of a record. -/
def line (o : LogOutput) (r : LogRecord) : String := if o.json then r.toJson.print else r.shown

/-- The lines of those records that pass. -/
def lines (o : LogOutput) (records : List LogRecord) : List String :=
  (records.filter o.filter.admits).map o.line

/-- The record of the output itself having been set up. -/
def opened (s : LogSettings) : LogRecord :=
  { target := "ara_realtime::telemetry"
    event :=
      { level := .info, message := "Tracing initialized"
        fields := [("level", .text s.level), ("json", .flag s.json)] } }

end LogOutput

end Switchboard
