import Switchboard.Proofs.Oversized

/-!
# What follows a close frame on a web socket

A web socket takes no frame from its connection after a close frame, whichever end that came from:
it refuses each and stays as it is (`SocketLink.send_of_closing`), for good
(`SocketLink.keeps_closing`). What it still sends is at most one pong, for a ping that was taken
before the close frame went out: a reply goes behind the frames that are to be written
(`SocketLink.Concludes`).

## Shape of the proof

`SocketLink.wire` is what the peer received, followed by what is to be written out and by the reply.
Writing out moves frames along the wire or loses them in a pipe that nobody reads, so that what is
after a close frame gets no more (`afterClose_sublist`). A frame is put on the wire only while the
exchange is open, and then no close frame is there.
-/

namespace Switchboard

open scoped List

/-- The frames after the first close frame. -/
def afterClose (fs : List Frame) : List Frame := (fs.dropWhile fun f => f.kind ≠ .close).tail

section Frames

variable {fs gs : List Frame} {f : Frame}

theorem afterClose_cons_of_close (hf : f.kind = .close) (fs : List Frame) :
    afterClose (f :: fs) = fs := by
  rw [afterClose, List.dropWhile_cons_of_neg (by simp [hf]), List.tail_cons]

theorem afterClose_cons_of_ne (hf : f.kind ≠ .close) (fs : List Frame) :
    afterClose (f :: fs) = afterClose fs := by
  rw [afterClose, List.dropWhile_cons_of_pos (by simp [hf]), afterClose]

theorem afterClose_append_of_none (hfs : ∀ f ∈ fs, f.kind ≠ .close) (gs : List Frame) :
    afterClose (fs ++ gs) = afterClose gs := by
  rw [afterClose, List.dropWhile_append_of_pos fun f hf => decide_eq_true (hfs f hf), afterClose]

theorem afterClose_sublist_self (fs : List Frame) : afterClose fs <+ fs :=
  (List.tail_sublist _).trans (List.dropWhile_sublist _)

/-- Where frames are lost, no more of them are after a close frame. -/
theorem afterClose_sublist (hsub : fs <+ gs) : afterClose fs <+ afterClose gs := by
  induction hsub with
  | slnil => exact .slnil
  | @cons fs gs g hsub ih =>
    by_cases hg : g.kind = .close
    · rw [afterClose_cons_of_close hg]
      exact (afterClose_sublist_self fs).trans hsub
    · rwa [afterClose_cons_of_ne hg]
  | @cons_cons fs gs g hsub ih =>
    by_cases hg : g.kind = .close
    · rwa [afterClose_cons_of_close hg, afterClose_cons_of_close hg]
    · rwa [afterClose_cons_of_ne hg, afterClose_cons_of_ne hg]

/-- In a list of frames, only a pong may come after a close frame, and nothing after that. -/
def PongAtMost (fs : List Frame) : Prop := ∃ payload, afterClose fs <+ [⟨.pong, payload⟩]

theorem PongAtMost.of_sublist (hgs : PongAtMost gs) (hsub : fs <+ gs) : PongAtMost fs :=
  hgs.imp fun _ hpong => (afterClose_sublist hsub).trans hpong

theorem pongAtMost_of_none (hfs : ∀ f ∈ fs, f.kind ≠ .close) : PongAtMost fs := by
  refine ⟨[], ?_⟩
  rw [← List.append_nil fs, afterClose_append_of_none hfs]
  exact List.nil_sublist _

theorem pongAtMost_append_close (hfs : ∀ f ∈ fs, f.kind ≠ .close) (hf : f.kind = .close)
    (payload : Bytes) (hgs : gs <+ [⟨.pong, payload⟩]) : PongAtMost (fs ++ f :: gs) := by
  refine ⟨payload, ?_⟩
  rwa [afterClose_append_of_none hfs, afterClose_cons_of_close hf]

end Frames

theorem SocketFrame.kind_toFrame_eq_close {f : SocketFrame} :
    f.toFrame.kind = .close ↔ ∃ reason, f = .close reason := by
  cases f with
  | close reason => cases reason <;> simp [toFrame, Frame.close]
  | text s => simp [toFrame, Frame.ofText]
  | _ => simp [toFrame]

namespace SocketLink

variable {s s' : SocketLink}

/-! ## A socket that is closing takes nothing -/

/-- A socket that is closing refuses every frame and stays as it is. -/
theorem send_of_closing (hclosing : s.closing ≠ .open) (now : Nat) (f : Frame) :
    ∃ e, s.send now f = (.failed e, s) := by
  rw [send]
  cases f.toSocket with
  | error fault => exact ⟨_, rfl⟩
  | ok frame =>
    dsimp only
    cases hphase : s.closing with
    | «open» => exact absurd hphase hclosing
    | _ => exact ⟨_, rfl⟩

theorem closing_flush_ne (hclosing : s.closing ≠ .open) (now : Nat) :
    (s.flush now).2.closing ≠ .open := by
  have hwrites := (writes_enqueueReply s).trans (writes_writeOut now s.enqueueReply)
  rw [flush]
  generalize s.enqueueReply.writeOut now = r at hwrites ⊢
  obtain ⟨written, s'⟩ := r
  have hsame : s'.closing ≠ .open := hwrites.closing_eq ▸ hclosing
  cases written with
  | all =>
    dsimp only
    split
    · exact hsame
    · simp
  | waits => exact hsame
  | failed => exact hsame

/-- After a close frame was handed over, the socket is closing. -/
theorem closing_send_of_close {f : Frame} (hf : f.kind = .close) (now : Nat) (s : SocketLink) :
    (s.send now f).2.closing ≠ .open := by
  have hframe : f.toSocket = .ok (.close (some (SocketFrame.normalClosure,
      Utf8.decodeLossy f.payload))) := by rw [Frame.toSocket, hf]
  by_cases hopen : s.closing = .open
  · rw [send, hframe, hopen]
    dsimp only
    rw [snd_progress]
    exact closing_flush_ne (by simp [enqueue]) now
  · obtain ⟨e, heq⟩ := send_of_closing hopen now f
    rwa [heq]

theorem closing_react_ne (hclosing : s.closing ≠ .open) (f : SocketFrame) :
    (s.react f).closing ≠ .open := by
  unfold react
  split
  · rename_i hopen
    exact absurd hopen hclosing
  · rename_i hopen
    exact absurd hopen hclosing
  · simp
  · exact hclosing

theorem closing_take_ne (hclosing : s.closing ≠ .open) : s.take.2.closing ≠ .open := by
  rw [take]
  dsimp only
  split
  · exact hclosing
  · exact closing_react_ne (s := { s with arriving := [], inbound := _ }) hclosing _
  · split
    · exact hclosing
    · simp [finish]

theorem closing_receive_ne (hclosing : s.closing ≠ .open) (now : Nat) :
    (s.receive now).2.closing ≠ .open := by
  rw [receive]
  split
  · exact hclosing
  · split
    · have hflush := closing_flush_ne hclosing now
      generalize s.flush now = r at hflush ⊢
      obtain ⟨written, s'⟩ := r
      cases written with
      | failed => exact hflush
      | waits => exact closing_take_ne (s := { s' with replyWaits := true }) hflush
      | all =>
        dsimp only
        split
        · exact hflush
        · exact closing_take_ne hflush
    · split
      · exact closing_take_ne hclosing
      · simp

theorem closing_release (now : Nat) (s : SocketLink) : (s.release now).closing = s.closing := by
  rw [release]
  split <;> rfl

/-- A socket that is closing never opens again. -/
theorem keeps_closing : Transport.Keeps fun s : SocketLink => s.closing ≠ .open where
  send now f s hclosing := by
    obtain ⟨e, heq⟩ := send_of_closing hclosing now f
    change (s.send now f).2.closing ≠ .open
    rwa [heq]
  resume now s hclosing := by
    change (progress (s.flush now)).2.closing ≠ .open
    rw [snd_progress]
    exact closing_flush_ne hclosing now
  close now s hclosing := by
    change (s.closeSink now).2.closing ≠ .open
    rw [closeSink, if_neg hclosing, snd_progress]
    exact closing_flush_ne hclosing now
  receive now s hclosing := closing_receive_ne hclosing now
  releaseSink now s hclosing := (closing_release now { s with sinkHeld := false }).symm ▸ hclosing
  releaseStream now s hclosing :=
    (closing_release now { s with streamHeld := false }).symm ▸ hclosing

/-! ## What is on the wire -/

/-- What the peer received, what is to be written out, and the reply, in the order in which they
reach the peer. -/
def wire (s : SocketLink) : List Frame :=
  (s.received.map Delivery.frame).reverse ++ (s.outgoing ++ s.reply.toList).map SocketFrame.toFrame

/-- How far an exchange has come is seen on the wire. -/
structure Concludes (s : SocketLink) : Prop where
  /-- While the exchange is open there is no close frame. -/
  unclosed : s.closing = .open → ∀ f ∈ s.wire, f.kind ≠ .close
  reply : ∀ f ∈ s.reply, f.toFrame.kind = .pong ∨ f.toFrame.kind = .close
  last : PongAtMost s.wire

/-- Nothing was sent over the socket, and no close frame came. -/
structure Fresh (s : SocketLink) : Prop where
  closing_eq : s.closing = .open
  received_eq : s.received = []
  outgoing_eq : s.outgoing = []
  reply_eq : s.reply = none

theorem Fresh.concludes (fresh : s.Fresh) : s.Concludes := by
  have hwire : s.wire = [] := by
    rw [wire, fresh.received_eq, fresh.outgoing_eq, fresh.reply_eq]
    rfl
  refine ⟨fun _ => ?_, ?_, ?_⟩
  · rw [hwire]
    exact fun _ hf => absurd hf List.not_mem_nil
  · rw [fresh.reply_eq]
    exact fun _ hf => by cases hf
  · rw [hwire]
    exact pongAtMost_of_none fun _ hf => absurd hf List.not_mem_nil

/-- What is lost on the wire is no harm, nor is it that an open exchange ends. -/
theorem Concludes.of_sublist (concludes : s.Concludes) (hwire : s'.wire <+ s.wire)
    (hreply : ∀ f ∈ s'.reply, f ∈ s.reply) (hclosing : s'.closing = .open → s.closing = .open) :
    s'.Concludes where
  unclosed hopen f hf := concludes.unclosed (hclosing hopen) f (hwire.subset hf)
  reply f hf := concludes.reply f (hreply f hf)
  last := concludes.last.of_sublist hwire

/-- Nothing on the wire changes. -/
theorem Concludes.of_same (concludes : s.Concludes) (hwire : s'.wire = s.wire)
    (hreply : s'.reply = s.reply) (hclosing : s'.closing = .open → s.closing = .open) :
    s'.Concludes :=
  concludes.of_sublist (hwire ▸ .refl _) (fun _ hf => hreply ▸ hf) hclosing

/-- The reply of an open exchange is a pong. -/
theorem Concludes.reply_sublist (concludes : s.Concludes) (hopen : s.closing = .open) :
    ∃ payload, s.reply.toList.map SocketFrame.toFrame <+ [⟨.pong, payload⟩] := by
  cases hreply : s.reply with
  | none => exact ⟨[], List.nil_sublist _⟩
  | some f =>
    have hwire : f.toFrame ∈ s.wire := by simp [wire, hreply]
    have hkind : f.toFrame.kind = .pong :=
      (concludes.reply f hreply).resolve_right (concludes.unclosed hopen _ hwire)
    exact ⟨f.toFrame.payload, by rw [← hkind]; exact .refl _⟩

/-- What is before the reply of an open exchange. -/
theorem Concludes.not_close (concludes : s.Concludes) (hopen : s.closing = .open) :
    ∀ f ∈ (s.received.map Delivery.frame).reverse ++ s.outgoing.map SocketFrame.toFrame,
      f.kind ≠ .close := by
  intro f hf
  refine concludes.unclosed hopen f ?_
  rw [wire, List.map_append, ← List.append_assoc]
  exact List.mem_append_left _ hf

/-! ## Frames are put on the wire -/

theorem wire_enqueue (s : SocketLink) (f : SocketFrame) : (s.enqueue f).wire =
    ((s.received.map Delivery.frame).reverse ++ s.outgoing.map SocketFrame.toFrame) ++
      f.toFrame :: s.reply.toList.map SocketFrame.toFrame := by
  simp [wire, enqueue]

theorem concludes_enqueue (concludes : s.Concludes) (hopen : s.closing = .open) {f : SocketFrame}
    (hf : f.toFrame.kind ≠ .close) : (s.enqueue f).Concludes := by
  have hnone : ∀ g ∈ (s.enqueue f).wire, g.kind ≠ .close := by
    intro g hg
    rw [wire_enqueue] at hg
    rcases List.mem_append.mp hg with hg | hg
    · exact concludes.not_close hopen g hg
    · rcases List.mem_cons.mp hg with rfl | hg
      · exact hf
      · refine concludes.unclosed hopen g ?_
        rw [wire, List.map_append]
        exact List.mem_append_right _ (List.mem_append_right _ hg)
  exact ⟨fun _ => hnone, concludes.reply, pongAtMost_of_none hnone⟩

/-- A close frame goes before the reply. -/
theorem concludes_enqueue_close (concludes : s.Concludes) (hopen : s.closing = .open)
    (reason : Option (Nat × String)) :
    ({ s with closing := .byUs } : SocketLink).enqueue (.close reason) |>.Concludes := by
  refine ⟨fun hno => ?_, concludes.reply, ?_⟩
  · cases hno
  · obtain ⟨payload, hreply⟩ := concludes.reply_sublist hopen
    rw [wire_enqueue]
    exact pongAtMost_append_close (concludes.not_close hopen)
      (SocketFrame.kind_toFrame_eq_close.mpr ⟨reason, rfl⟩) payload hreply

/-- A reply takes the place of one that was to be sent; only a close frame is never replaced, and no
open exchange has one. -/
theorem concludes_setReply (concludes : s.Concludes) (hopen : s.closing = .open) {f : SocketFrame}
    (closing : Closing) (hf : f.toFrame.kind = .pong ∨ f.toFrame.kind = .close)
    (hclose : f.toFrame.kind = .close → closing ≠ .open) :
    ({ s with closing } : SocketLink).setReply f |>.Concludes := by
  have hset : ({ s with closing } : SocketLink).setReply f =
      { s with closing, reply := some f } := by
    rw [setReply]
    dsimp only
    split
    · rename_i reason hreply
      have hwire : (SocketFrame.close reason).toFrame ∈ s.wire := by simp [wire, hreply]
      exact absurd (SocketFrame.kind_toFrame_eq_close.mpr ⟨reason, rfl⟩)
        (concludes.unclosed hopen _ hwire)
    · rfl
  have hwire : ({ s with closing, reply := some f } : SocketLink).wire =
      ((s.received.map Delivery.frame).reverse ++ s.outgoing.map SocketFrame.toFrame) ++
        [f.toFrame] := by
    simp [wire]
  rw [hset]
  refine ⟨fun hstill g hg => ?_, fun g hg => ?_, ?_⟩
  · rw [hwire] at hg
    rcases List.mem_append.mp hg with hg | hg
    · exact concludes.not_close hopen g hg
    · rw [List.mem_singleton.mp hg]
      exact fun hkind => hclose hkind hstill
  · obtain rfl := Option.some.inj hg
    exact hf
  · rw [hwire]
    by_cases hkind : f.toFrame.kind = .close
    · exact pongAtMost_append_close (concludes.not_close hopen) hkind [] (List.nil_sublist _)
    · refine pongAtMost_of_none fun g hg => ?_
      rcases List.mem_append.mp hg with hg | hg
      · exact concludes.not_close hopen g hg
      · rwa [List.mem_singleton.mp hg]

/-! ## Writing out -/

theorem wire_enqueueReply (s : SocketLink) : s.enqueueReply.wire = s.wire := by
  rw [enqueueReply]
  split
  · rename_i f hreply
    simp [wire, enqueue, hreply]
  · rfl

theorem reply_enqueueReply (s : SocketLink) : s.enqueueReply.reply = none := by
  rw [enqueueReply]
  split
  · rfl
  · assumption

/-- What the peer sends is not on the wire to it. -/
theorem push_eq (s : SocketLink) (bs : Bytes) : (s.push bs).2.received = s.received ∧
    (s.push bs).2.outgoing = s.outgoing ∧ (s.push bs).2.reply = s.reply := by
  rw [push]
  split <;> exact ⟨rfl, rfl, rfl⟩

/-- The peer receives a frame, and the rest of the wire is as it was. -/
theorem deliver_eq (now : Nat) (s : SocketLink) (f : SocketFrame) :
    ((s.deliver now f).received.map Delivery.frame) = f.toFrame :: s.received.map Delivery.frame ∧
      (s.deliver now f).outgoing = s.outgoing ∧ (s.deliver now f).reply = s.reply := by
  cases f with
  | ping payload =>
    rw [deliver]
    dsimp only
    split
    · obtain ⟨hreceived, houtgoing, hreply⟩ := push_eq { s with
        received := ⟨now, (SocketFrame.ping payload).toFrame, codeOf (.ping payload)⟩ ::
          s.received } (peerBytes .pong payload)
      rw [hreceived, houtgoing, hreply]
      exact ⟨rfl, rfl, rfl⟩
    · exact ⟨rfl, rfl, rfl⟩
  | _ => exact ⟨rfl, rfl, rfl⟩

theorem foldl_deliver_eq (now : Nat) (fs : List SocketFrame) (s : SocketLink) :
    ((fs.foldl (deliver now) s).received.map Delivery.frame).reverse =
        (s.received.map Delivery.frame).reverse ++ fs.map SocketFrame.toFrame ∧
      (fs.foldl (deliver now) s).outgoing = s.outgoing ∧
      (fs.foldl (deliver now) s).reply = s.reply := by
  induction fs generalizing s with
  | nil => simp
  | cons f fs ih =>
    obtain ⟨hreceived, houtgoing, hreply⟩ := deliver_eq now s f
    obtain ⟨ihreceived, ihoutgoing, ihreply⟩ := ih (s.deliver now f)
    rw [List.foldl_cons, ihreceived, ihoutgoing, ihreply, hreceived, houtgoing, hreply]
    simp

/-- Frames that are written out reach the peer, or are lost in a pipe that it does not read. -/
theorem wire_writeOut_sublist (now : Nat) (s : SocketLink) :
    (s.writeOut now).2.wire <+ s.wire ∧ (s.writeOut now).2.reply = s.reply := by
  rw [writeOut]
  split
  · exact ⟨.refl _, rfl⟩
  · split
    · exact ⟨.refl _, rfl⟩
    · split
      · obtain ⟨hreceived, houtgoing, hreply⟩ :=
          foldl_deliver_eq now s.outgoing { s with outgoing := [], backlog := 0 }
        refine ⟨?_, hreply⟩
        rw [wire, hreceived, houtgoing, hreply, wire]
        simp
      · dsimp only
        split
        · exact ⟨.append (.refl _) ((List.sublist_append_right s.outgoing _).map _), rfl⟩
        · exact ⟨.refl _, rfl⟩

theorem concludes_flush (concludes : s.Concludes) (now : Nat) : (s.flush now).2.Concludes := by
  have hwrites := (writes_enqueueReply s).trans (writes_writeOut now s.enqueueReply)
  obtain ⟨hwire, hreply⟩ := wire_writeOut_sublist now s.enqueueReply
  rw [wire_enqueueReply] at hwire
  rw [reply_enqueueReply] at hreply
  rw [flush]
  generalize s.enqueueReply.writeOut now = r at hwrites hwire hreply ⊢
  obtain ⟨written, s'⟩ := r
  have written' : s'.Concludes := concludes.of_sublist hwire
    (fun f hf => by rw [hreply] at hf; cases hf) fun hopen => hwrites.closing_eq.symm.trans hopen
  cases written with
  | all =>
    dsimp only
    split
    · exact written'.of_same rfl rfl fun hopen => hopen
    · exact written'.of_same rfl rfl fun hno => by cases hno
  | waits => exact written'
  | failed => exact written'

/-! ## Whatever is done with the socket -/

theorem concludes_send (concludes : s.Concludes) (now : Nat) (f : Frame) :
    (s.send now f).2.Concludes := by
  by_cases hopen : s.closing = .open
  · rw [send]
    cases f.toSocket with
    | error fault => exact concludes
    | ok frame =>
      rw [hopen]
      dsimp only
      rw [snd_progress]
      refine concludes_flush ?_ now
      cases frame with
      | pong payload =>
        have hset := concludes_setReply (f := .pong payload) concludes hopen s.closing (.inl rfl)
          fun hno => by cases hno
        exact hset
      | close reason => exact concludes_enqueue_close concludes hopen reason
      | text t =>
        exact concludes_enqueue concludes hopen (by simp [SocketFrame.kind_toFrame_eq_close])
      | binary payload =>
        exact concludes_enqueue concludes hopen (by simp [SocketFrame.kind_toFrame_eq_close])
      | ping payload =>
        exact concludes_enqueue concludes hopen (by simp [SocketFrame.kind_toFrame_eq_close])
  · obtain ⟨e, heq⟩ := send_of_closing hopen now f
    rwa [heq]

theorem concludes_closeSink (concludes : s.Concludes) (now : Nat) :
    (s.closeSink now).2.Concludes := by
  rw [closeSink, snd_progress]
  refine concludes_flush ?_ now
  split
  · rename_i hopen
    exact concludes_enqueue_close concludes hopen none
  · exact concludes

theorem concludes_react (concludes : s.Concludes) (f : SocketFrame) : (s.react f).Concludes := by
  unfold react
  split
  · rename_i payload hopen
    exact concludes_setReply concludes hopen s.closing (.inl rfl) fun hno => by cases hno
  · rename_i reason hopen
    exact concludes_setReply concludes hopen .byPeer
      (.inr (SocketFrame.kind_toFrame_eq_close.mpr ⟨reason, rfl⟩)) fun _ => by simp
  · exact concludes.of_same rfl rfl fun hno => by cases hno
  · exact concludes

theorem concludes_take (concludes : s.Concludes) : s.take.2.Concludes := by
  rw [take]
  dsimp only
  split
  · exact concludes.of_same rfl rfl id
  · exact concludes_react (s := { s with arriving := [], inbound := _ })
      (concludes.of_same rfl rfl id) _
  · split
    · exact concludes.of_same rfl rfl id
    · exact concludes.of_same rfl rfl fun hno => by cases hno

theorem concludes_receive (concludes : s.Concludes) (now : Nat) :
    (s.receive now).2.Concludes := by
  rw [receive]
  split
  · exact concludes.of_same rfl rfl id
  · split
    · have hflush := concludes_flush concludes now
      generalize s.flush now = r at hflush ⊢
      obtain ⟨written, s'⟩ := r
      cases written with
      | failed => exact hflush.of_same rfl rfl id
      | waits =>
        exact concludes_take (s := { s' with replyWaits := true }) (hflush.of_same rfl rfl id)
      | all =>
        dsimp only
        split
        · exact hflush.of_same rfl rfl id
        · exact concludes_take hflush
    · split
      · exact concludes_take concludes
      · exact concludes.of_same rfl rfl fun hno => by cases hno

theorem concludes_release (concludes : s.Concludes) (now : Nat) : (s.release now).Concludes := by
  rw [release]
  split
  · exact concludes.of_same rfl rfl id
  · exact concludes

theorem keeps_concludes : Transport.Keeps Concludes where
  send now f _ concludes := concludes_send concludes now f
  resume now s concludes := by
    change (progress (s.flush now)).2.Concludes
    rw [snd_progress]
    exact concludes_flush concludes now
  close now _ concludes := concludes_closeSink concludes now
  receive now _ concludes := concludes_receive concludes now
  releaseSink now s concludes :=
    concludes_release (s := { s with sinkHeld := false }) (concludes.of_same rfl rfl id) now
  releaseStream now s concludes :=
    concludes_release (s := { s with streamHeld := false }) (concludes.of_same rfl rfl id) now

end SocketLink

end Switchboard
