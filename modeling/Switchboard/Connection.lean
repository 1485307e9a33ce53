import Switchboard.Handler
import Switchboard.Outbox
import Switchboard.Registry
import Switchboard.Text.Quoted

/-!
# Connections

A connection is alive until it is torn down, and never again after. Two tasks serve it. The writer
takes frames from the outbox and sends heartbeats; `WriterPhase` says what it waits for. The reader
takes what arrives and gives it to the handlers; `ReaderPhase` says until when it waits for a sign
of life from the peer.
-/

namespace Switchboard

/-- What a connection's writer is doing. -/
inductive WriterPhase where
  /-- It has not run yet. -/
  | starting
  /-- It waits for the teardown, a frame or the next heartbeat. -/
  | idle
  /-- It waits, until `limit` at most, for a frame of the given kind to be handed over. -/
  | sending (kind : FrameKind) (limit : Nat)
  /-- The connection is torn down; it waits for the close frame to be handed over. -/
  | sendingClose (limit : Nat)
  /-- It waits for the sink to close. -/
  | closingSink (limit : Nat)
  | stopped
  deriving DecidableEq, Repr, Inhabited

/-- What a connection's reader is doing. -/
inductive ReaderPhase where
  /-- It has not run yet. -/
  | starting
  /-- It waits for what arrives, until `deadline` at most. -/
  | reading (deadline : Nat)
  | stopped
  deriving DecidableEq, Repr, Inhabited

/-- A connection over a transport of type `τ`. -/
structure Connection (τ : Type) where
  member : Member
  /-- The wall-clock time at which it was opened, in milliseconds. -/
  createdAt : Nat
  alive : Bool := true
  handlers : List Handler
  outbox : Outbox
  writer : WriterPhase := .starting
  /-- The instant at which the next heartbeat is due. -/
  heartbeat : Nat := 0
  reader : ReaderPhase := .starting
  link : τ

namespace Connection

/-- The id of a connection. -/
def id (c : Connection τ) : String := c.member.id

/-- An optional text for a reader of logs. -/
def optionText : Option String → String
  | none => "None"
  | some s => s!"Some({Quoted.quote s})"

/-- A connection for a reader of logs. -/
def describe (c : Connection τ) : String :=
  "Connection \x7b id: " ++ Quoted.quote c.id ++ ", user_id: " ++ optionText c.member.user ++
    ", app_tag: " ++ optionText c.member.tag ++ ", alive: " ++ toString c.alive ++ " \x7d"

end Connection

end Switchboard
