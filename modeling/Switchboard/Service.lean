import Switchboard.Log.Output
import Switchboard.Settings.Load

/-!
# The service from its start to its end

A service starts by loading its settings and opening its log; if it cannot do so it ends at once and
says why.
Otherwise it tells the log what it does until it listens, and again when a signal stops it.
-/

namespace Switchboard

/-- A signal that stops a service. -/
inductive StopSignal where
  | interrupt
  | terminate
  deriving DecidableEq, Repr

/-- Why a service cannot start. -/
inductive StartFault where
  /-- The settings cannot be loaded. -/
  | settings (e : Error)
  /-- The filter of the log has a torn rule. -/
  | filter

/-- What a service that has ended leaves behind: its exit code, the lines of its log and its
complaints. -/
structure Outcome where
  code : UInt32
  log : List String
  complaints : String
  deriving DecidableEq, Repr

/-- A service that has been started. -/
structure Service where
  settings : Settings
  output : LogOutput
  deriving DecidableEq, Repr

namespace Service

/-- The part of the program that a service names in the log. -/
def target : String := "ara_realtime"

/-- An event of a service. -/
def announce (message : String) (fields : List (String × LogValue)) : LogRecord :=
  { target, event := { level := .info, message, fields } }

/-- Start a service with an environment and files by name. -/
def start (env : Environment) (files : List (String × String)) : Except StartFault Service :=
  match Settings.load env files with
  | .error e => .error (.settings e)
  | .ok settings =>
    let named := (Settings.environment env files).lookup LogOutput.filterVariable
    match LogOutput.ofSettings? settings.logging named with
    | some output => .ok { settings, output }
    | none => .error .filter

/-- What a service says until it listens. -/
def opening (s : Service) : List LogRecord :=
  let c := s.settings.websocket
  [LogOutput.opened s.settings.logging,
    announce "Configuration loaded"
      [("heartbeat_interval_ms", .number c.heartbeat), ("read_timeout_ms", .number c.readTimeout),
        ("queue_capacity", .number c.queueCapacity)],
    announce "Application state initialized" [],
    announce s!"Server listening on {s.settings.address}" []]

/-- What a service says of the signal that stops it. -/
def farewell : StopSignal → String
  | .interrupt => "Received Ctrl+C, initiating graceful shutdown"
  | .terminate => "Received terminate signal, initiating graceful shutdown"

/-- What a service says when a signal stops it. -/
def closing (signal : StopSignal) : List LogRecord :=
  [announce (farewell signal) [], announce "Server shutdown complete" []]

/-- The lines of a text, each moved to the right. -/
def indented (s : String) : String := "\n".intercalate ((s.splitOn "\n").map ("    " ++ ·))

/-- What a service says that cannot load its settings: the error, and what caused it if the error
wraps that. -/
def errorText (e : Error) : String :=
  let cause := match e with
    | .config fault => s!"\n\nCaused by:\n" ++ indented fault.message
    | _ => ""
  s!"Error: {e.message}" ++ cause ++ "\n"

/-- What a service that cannot start says. -/
def failureText : StartFault → String
  | .settings e => errorText e
  | .filter => LogRuleFault.torn.message ++ "\n"

/-- The exit code of a service that cannot start. -/
def failureCode : StartFault → UInt32
  | .settings _ => 1
  | .filter => 101

/-- Run a service until a signal stops it. -/
def run (env : Environment) (files : List (String × String)) (signal : StopSignal) : Outcome :=
  match start env files with
  | .error fault => { code := failureCode fault, log := [], complaints := failureText fault }
  | .ok s =>
    { code := 0
      log := s.output.lines (s.opening ++ closing signal)
      complaints := String.join (s.output.complaints.map (· ++ "\n")) }

end Service

end Switchboard
