import Switchboard.Hub.Basic

/-!
# What peers do

A peer acts on the link of its connection. If something has arrived after that, the connection's
reader is woken, and its writer if it waits for the link.
-/

namespace Switchboard.Hub

variable {τ : Type} [Transport τ]

/-- Wake a connection's writer if it waits for its link. -/
def wakeBlockedWriter (h : Hub τ) (id : String) : Hub τ :=
  match h.find? id with
  | none => h
  | some c =>
    match c.writer with
    | .sending _ _ | .sendingClose _ | .closingSink _ => h.wake (.writer id)
    | _ => h

/-- Let the peer of a connection act on their link. -/
def peerActs (h : Hub τ) (id : String) (act : τ → α × τ) : Option α × Hub τ :=
  match h.find? id with
  | none => (none, h)
  | some c =>
    let (a, link) := act c.link
    let h := h.update id fun c => { c with link := link }
    let h := if Transport.hasArrived link then h.wakeReader id else h
    (some a, h.wakeBlockedWriter id)

end Switchboard.Hub
