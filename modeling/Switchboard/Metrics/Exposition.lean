import Switchboard.Decimal.Shortest
import Switchboard.Metrics

/-!
# The text in which counters are exposed

Each family of samples is announced by its help text and type and followed by its samples; families
come in alphabetical order, labelled samples in the order of their labels, and a labelled family
without samples is left out. Numbers are written as doubles, positionally.
-/

namespace Switchboard.Exposition

/-- What the samples of a family are. -/
inductive FamilyType where
  | counter
  | gauge
  | histogram

/-- The name of a type. -/
def FamilyType.name : FamilyType → String
  | .counter => "counter"
  | .gauge => "gauge"
  | .histogram => "histogram"

/-- A sample: what follows the name of its family, and its value. -/
structure Sample where
  suffix : String
  value : String

/-- A family of samples. -/
structure Family where
  name : String
  help : String
  type : FamilyType
  samples : List Sample

/-- The lines of a family. -/
def Family.lines (f : Family) : List String :=
  if f.samples.isEmpty then []
  else
    s!"# HELP {f.name} {f.help}" :: s!"# TYPE {f.name} {f.type.name}" ::
      f.samples.map fun s => s!"{f.name}{s.suffix} {s.value}"

/-- A count as a double. -/
def countText (n : Nat) : String := (Binary64.ofNat n).plain

/-- A gauge as a double. -/
def gaugeText (i : Int) : String :=
  (Binary64.round (decide (i < 0)) i.natAbs 1).plain

/-- A character of a label's value. -/
def escapeChar (c : Char) : List Char :=
  match c with
  | '\\' => ['\\', '\\']
  | '"' => ['\\', '"']
  | '\n' => ['\\', 'n']
  | c => [c]

/-- A label with its value. -/
def label (key value : String) : String :=
  let escaped := value.toList.flatMap escapeChar
  String.ofList ('\x7b' :: (key.toList ++ '=' :: '"' :: (escaped ++ ['"', '\x7d'])))

/-- Put a count into a list in ascending order of labels. -/
def insertSorted (entry : String × Nat) : List (String × Nat) → List (String × Nat)
  | [] => [entry]
  | e :: rest => if entry.1 < e.1 then entry :: e :: rest else e :: insertSorted entry rest

/-- The samples of counts by label. -/
def tallySamples (key : String) (t : Tally) : List Sample :=
  (t.counts.foldr insertSorted []).map fun (value, n) => ⟨label key value, countText n⟩

/-- A family with one unlabelled sample. -/
def single (name help : String) (type : FamilyType) (value : String) : Family :=
  ⟨name, help, type, [⟨"", value⟩]⟩

/-- The upper bounds of the lifetime buckets in seconds. -/
def buckets : List Nat := [1, 10, 60, 300, 1800, 3600, 14400, 86400]

/-- The name of the family of lifetimes. -/
def lifetimeName : String := "ara_ws_connection_duration_seconds"

/-- The suffix of the sample that sums up a histogram. -/
def sumSuffix : String := "_sum"

/-- The histogram of lifetimes. -/
def lifetimeSamples (m : Metrics) : List Sample :=
  let bucket (bound : Nat) : Sample :=
    ⟨"_bucket" ++ label "le" (toString bound),
      countText (m.lifetimes.countP fun x => x.le (.ofNat bound))⟩
  let count := countText m.lifetimes.length
  buckets.map bucket ++
    [⟨"_bucket" ++ label "le" "+Inf", count⟩, ⟨sumSuffix, m.lifetimeSum.plain⟩, ⟨"_count", count⟩]

/-- All families. -/
def families (m : Metrics) : List Family :=
  [single "ara_connections_active" "Number of registered WebSocket connections" .gauge
      (gaugeText m.connectionsActive),
    single "ara_handler_panics_total" "Total message handler panics" .counter
      (countText m.handlerPanics),
    single "ara_messages_dropped_total" "Total outbound frames dropped" .counter
      (countText m.dropped),
    ⟨"ara_messages_sent_total", "Total delivery requests", .counter,
      tallySamples "target" m.sent⟩,
    single "ara_users_connected" "Number of unique connected users" .gauge
      (gaugeText m.usersConnected),
    ⟨lifetimeName, "WebSocket connection lifetime in seconds", .histogram, lifetimeSamples m⟩,
    ⟨"ara_ws_connections_closed_total", "Total WebSocket connections closed", .counter,
      tallySamples "reason" m.closed⟩,
    single "ara_ws_connections_opened_total" "Total WebSocket connections opened" .counter
      (countText m.opened),
    ⟨"ara_ws_messages_received_total", "Total inbound data frames", .counter,
      tallySamples "kind" m.received⟩,
    single "ara_ws_upgrade_failures_total" "Total failed WebSocket upgrades" .counter
      (countText m.upgradeFailures)]

/-- The lines of the exposition. -/
def lines (m : Metrics) : List String := (families m).flatMap Family.lines

/-- The text of the exposition. -/
def text (m : Metrics) : String := String.join ((lines m).map (· ++ "\n"))

/-- The unlabelled and labelled counts and gauges, without the histogram, by the names of their
samples. -/
def counts (m : Metrics) : List (String × Int) :=
  let tallied (name key : String) (t : Tally) : List (String × Int) :=
    t.counts.map fun (value, n) => (name ++ label key value, (n : Int))
  [("ara_connections_active", m.connectionsActive),
    ("ara_handler_panics_total", (m.handlerPanics : Int)),
    ("ara_messages_dropped_total", (m.dropped : Int)),
    ("ara_users_connected", m.usersConnected),
    ("ara_ws_connections_opened_total", (m.opened : Int)),
    ("ara_ws_upgrade_failures_total", (m.upgradeFailures : Int))] ++
    tallied "ara_messages_sent_total" "target" m.sent ++
    tallied "ara_ws_connections_closed_total" "reason" m.closed ++
    tallied "ara_ws_messages_received_total" "kind" m.received

end Switchboard.Exposition
