import Switchboard.Decimal.Reader
import Switchboard.Settings.Basic
import Switchboard.Settings.Reader
import Switchboard.Text.Ascii

/-!
# From a tree to settings

A setting is converted from whatever scalar stands in its place, as long as that makes sense:
numbers are rounded, texts are read as numbers or as yes and no, numbers are written out. A section
is a table of settings, or a list of them in the order in which they are declared here; what is not
given keeps its default, and what is not known is passed over. If several settings cannot be
converted, the fault is that of the one which the reader of settings comes across first.
-/

namespace Switchboard

/-- The greatest number that a setting can have. -/
def Settings.maxNumber : Nat := Nat.pow 2 64 - 1

namespace Setting

/-- The fault of a value that cannot be converted. -/
def mismatch (s : Setting) (expected : String) : SettingsFault :=
  .mismatch s.found expected [] s.origin

/-- The yes or no that a word stands for. -/
def yesOrNo? (s : String) : Option Bool :=
  let s := Ascii.lower s
  if s = "true" || s = "on" || s = "yes" then some true
  else if s = "false" || s = "off" || s = "no" then some false
  else none

/-- A real number to the nearest natural one that a setting can have. -/
def nearestNumber : Binary64 → Nat
  | .nan | .infinite true => 0
  | .infinite false => Settings.maxNumber
  | .finite true _ _ => 0
  | .finite false m e => min (Binary64.natAbsRound m e) Settings.maxNumber

/-- A value as a number. -/
def toNumber (s : Setting) : Except SettingsFault Nat :=
  match s with
  | .scalar _ (.integer i) =>
    if 0 ≤ i then .ok i.toNat else .error (s.mismatch "an unsigned 64 bit or less integer")
  | .scalar _ (.real x) => .ok (nearestNumber x)
  | .scalar _ (.bool b) => .ok b.toNat
  | .scalar _ (.text t) =>
    match yesOrNo? t, Decimal.natural? Settings.maxNumber t.toList with
    | some b, _ => .ok b.toNat
    | none, some n => .ok n
    | none, none => .error (s.mismatch "an integer")
  | _ => .error (s.mismatch "an integer")

/-- A value as the number of a port. -/
def toPort (s : Setting) : Except SettingsFault Nat := do
  let n ← s.toNumber
  if n < 65536 then return n
  else .error (.mismatch (.unsigned n) "an unsigned 16 bit integer" [] none)

/-- A value as yes or no. -/
def toFlag (s : Setting) : Except SettingsFault Bool :=
  match s with
  | .scalar _ (.bool b) => .ok b
  | .scalar _ (.integer i) => .ok (i ≠ 0)
  | .scalar _ (.real x) => .ok !x.isZero
  | .scalar origin (.text t) =>
    match yesOrNo? t with
    | some b => .ok b
    | none =>
      if t = "1" then .ok true
      else if t = "0" then .ok false
      else .error (.mismatch (.text (Lowercase.lower t)) "a boolean" [] origin)
  | _ => .error (s.mismatch "a boolean")

/-- A value as text. -/
def toText (s : Setting) : Except SettingsFault String :=
  match s with
  | .scalar _ (.text t) => .ok t
  | .scalar _ (.bool b) => .ok (toString b)
  | .scalar _ (.integer i) => .ok (toString i)
  | .scalar _ (.real x) => .ok x.plain
  | _ => .error (s.mismatch "a string")

/-- The items of a list as texts, `index` being the place of the first of them. -/
def textsFrom : (index : Nat) → List Setting → Except SettingsFault (List String)
  | _, [] => .ok []
  | index, s :: rest => do
    let t ← s.toText.mapError (·.within (.index index))
    return t :: (← textsFrom (index + 1) rest)

/-- A value as a list of texts. -/
def toTexts : Setting → Except SettingsFault (List String)
  | .list _ items => textsFrom 0 items
  | s => .error (.shapeless s.found "a sequence")

/-- The parts of a section, by name; `names` are those of its settings. -/
def sectionParts (title : String) (names : List String) :
    Setting → Except SettingsFault (List (String × KeyPart × Setting))
  | .table _ entries => .ok (entries.map fun (name, s) => (name, .name name, s))
  | .list _ items =>
    .ok ((names.zip items).zipIdx.map fun ((name, s), i) => (name, .index i, s))
  | s => .error (.shapeless s.found title)

/-- A setting of a section, or its default if the section does not give it. -/
def part (parts : List (String × KeyPart × Setting)) (name : String)
    (convert : Setting → Except SettingsFault α) (default : α) : Except SettingsFault α :=
  match parts.lookup name with
  | some (key, s) => (convert s).mapError (·.within key)
  | none => .ok default

/-- Why a part cannot be converted, if it cannot. -/
def fault? (part : Except SettingsFault α) : Option SettingsFault :=
  match part with
  | .error fault => some fault
  | .ok _ => none

/-- A section from its parts, of which some may have faults. They are gone through by name, in the
order of `names`, and the first fault that is come across is that of the section. -/
def fromParts (names : List String) (faults : List (String × Option SettingsFault))
    (whole : Except SettingsFault α) : Except SettingsFault α :=
  match names.findSome? fun name => (faults.lookup name).bind id with
  | some fault => .error fault
  | none => whole

/-- The names of the entries of a section, in the order in which they are gone through. -/
def namesIn (r : SettingsReader) (way : List String) (s : Setting) : List String :=
  (r.order way s.entries).map Prod.fst

/-- A section as where to listen. -/
def toServer (r : SettingsReader) (s : Setting) : Except SettingsFault ServerSettings := do
  let parts ← s.sectionParts "struct ServerConfig" ["host", "port"]
  let d : ServerSettings := {}
  let host := part parts "host" toText d.host
  let port := part parts "port" toPort d.port
  fromParts (namesIn r ["server"] s) [("host", fault? host), ("port", fault? port)] do
    return { host := ← host, port := ← port }

/-- The names of the settings of connections. -/
def socketNames : List String :=
  ["read_buffer_size", "write_buffer_size", "allowed_origins", "read_timeout_ms",
    "write_timeout_ms", "heartbeat_interval_ms", "max_message_size", "queue_capacity"]

/-- A section as how to run connections. -/
def toSocket (r : SettingsReader) (s : Setting) : Except SettingsFault SocketConfig := do
  let parts ← s.sectionParts "struct WebSocketConfig" socketNames
  let d : SocketConfig := {}
  let readBufferSize := part parts "read_buffer_size" toNumber d.readBufferSize
  let writeBufferSize := part parts "write_buffer_size" toNumber d.writeBufferSize
  let allowedOrigins := part parts "allowed_origins" toTexts d.allowedOrigins
  let readTimeout := part parts "read_timeout_ms" toNumber d.readTimeout
  let writeTimeout := part parts "write_timeout_ms" toNumber d.writeTimeout
  let heartbeat := part parts "heartbeat_interval_ms" toNumber d.heartbeat
  let maxMessageSize := part parts "max_message_size" toNumber d.maxMessageSize
  let queueCapacity := part parts "queue_capacity" toNumber d.queueCapacity
  fromParts (namesIn r ["websocket"] s)
    [("read_buffer_size", fault? readBufferSize), ("write_buffer_size", fault? writeBufferSize),
      ("allowed_origins", fault? allowedOrigins), ("read_timeout_ms", fault? readTimeout),
      ("write_timeout_ms", fault? writeTimeout), ("heartbeat_interval_ms", fault? heartbeat),
      ("max_message_size", fault? maxMessageSize), ("queue_capacity", fault? queueCapacity)] do
    return {
      readBufferSize := ← readBufferSize
      writeBufferSize := ← writeBufferSize
      allowedOrigins := ← allowedOrigins
      readTimeout := ← readTimeout
      writeTimeout := ← writeTimeout
      heartbeat := ← heartbeat
      maxMessageSize := ← maxMessageSize
      queueCapacity := ← queueCapacity }

/-- A section as what to log. -/
def toLogging (r : SettingsReader) (s : Setting) : Except SettingsFault LogSettings := do
  let parts ← s.sectionParts "struct LoggingConfig" ["level", "json"]
  let d : LogSettings := {}
  let level := part parts "level" toText d.level
  let json := part parts "json" toFlag d.json
  fromParts (namesIn r ["logging"] s) [("level", fault? level), ("json", fault? json)] do
    return { level := ← level, json := ← json }

/-- A tree as settings. -/
def toSettings (r : SettingsReader) (s : Setting) : Except SettingsFault Settings := do
  let parts ← s.sectionParts "struct Settings" ["server", "websocket", "logging"]
  let server := part parts "server" (toServer r) {}
  let websocket := part parts "websocket" (toSocket r) {}
  let logging := part parts "logging" (toLogging r) {}
  fromParts (namesIn r [] s)
    [("server", fault? server), ("websocket", fault? websocket), ("logging", fault? logging)] do
    return { server := ← server, websocket := ← websocket, logging := ← logging }

end Setting

end Switchboard
