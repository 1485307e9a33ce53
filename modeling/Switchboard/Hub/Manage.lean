import Switchboard.Hub.Basic

/-!
# Opening, finding and removing connections

`Hub.upgrade` opens a connection over a transport, if one was made: it is registered and its two
tasks are started. `Hub.remove` tears down the connection registered under an id; of several
removals only one counts.
-/

namespace Switchboard

/-- How a connection is to be opened. -/
structure ConnectOptions where
  user : Option String := none
  tag : Option String := none
  handlers : List Handler := []
  /-- The capacity of the outbox, in place of the configured one. -/
  capacity : Option Nat := none

/-- What came of opening a connection. -/
inductive Upgrade where
  | opened (member : Member)
  | refused (e : Error)
  /-- No outbox can have the capacity asked for. -/
  | crashed
  deriving DecidableEq, Repr

namespace Hub

variable {τ : Type}

/-- The capacity of the outbox of a connection. -/
def capacityFor (h : Hub τ) (o : ConnectOptions) : Nat :=
  max 1 (o.capacity.getD h.config.queueCapacity)

/-- Open a connection over a transport, under an id that no other has. -/
def accept (h : Hub τ) (id : String) (link : τ) (o : ConnectOptions) : Upgrade × Hub τ :=
  let capacity := h.capacityFor o
  if capacity > Outbox.maxCapacity then (.crashed, h)
  else
    let member := Member.ofTexts id o.user o.tag
    let c : Connection τ :=
      { member, link, createdAt := h.wallClock, handlers := o.handlers, outbox := { capacity } }
    let h := { h with
      connections := h.connections ++ [c]
      registry := h.registry.insert member }
    let h := (h.wake (.writer id)).wake (.reader id)
    let h := h.count Metrics.countOpened
    let h := h.logAbout id .info "Connection registered"
      [("user_id", .text (member.user.getD "")), ("app_tag", .text (member.tag.getD "")),
        ("queue_capacity", .number capacity)]
    (.opened member, h)

/-- Record that no transport could be made. -/
def upgradeFailed (h : Hub τ) (reason : String) : Hub τ :=
  (h.count Metrics.countUpgradeFailure).logEvent
    ⟨.warn, "WebSocket upgrade failed", [("error", .text reason)]⟩

/-- Open a connection over the transport that was made, or record why none could be. -/
def upgrade (h : Hub τ) (id : String) (made : Except Error τ) (o : ConnectOptions) :
    Upgrade × Hub τ :=
  match made with
  | .ok link => h.accept id link o
  | .error e => (.refused e, h.upgradeFailed e.message)

/-- Remove the connection registered under an id: whether this tore it down. -/
def remove (h : Hub τ) (id : String) : Bool × Hub τ :=
  let (won, h) := match h.registry.lookup id with
    | some m => h.teardown m.id .removed
    | none => (false, h)
  (won, h.record (.removal id won))

/-- Whether a request that names an origin, or none, may open a connection. -/
def checkOrigin (h : Hub τ) (origin : Option String) : Bool := h.origins.admits h.config origin

/-- The first connection of a user with a tag that is alive. -/
def lookupUserByTag (h : Hub τ) (user tag : String) : Option Member :=
  h.registry.lookupUserByTag h.isAlive user tag

/-- Add to the handlers of a connection. -/
def addHandlers (h : Hub τ) (id : String) (handlers : List Handler) : Hub τ :=
  h.update id fun c => { c with handlers := c.handlers ++ handlers }

/-- Replace the handlers of a connection. -/
def setHandlers (h : Hub τ) (id : String) (handlers : List Handler) : Hub τ :=
  h.update id fun c => { c with handlers := handlers }

end Hub

end Switchboard
