import Switchboard.Http.Exchange
import Switchboard.Proofs.Handling
import Switchboard.Proofs.Links
import Switchboard.Proofs.Reader
import Switchboard.Proofs.Wire

/-!
# Messages beyond the limit

The limit for messages is known at two places. A reader refuses a frame that is too long and tears
its connection down because the frame is too large. A web socket, which is told the same limit,
refuses a message before the reader sees it; to the reader that is a stream that fails.

`oversized_refused` says which of the two happens: over a link within the process it is the reader,
over a web socket always the socket, so that no connection over one is ever torn down because a
frame is too large. Within the limit both treat a message alike: it is counted and given to the
handlers.

## Shape of the proof

The limit of a link is set when its connection is opened, and neither the connection changes it
(`Link.keeps_limit?`) nor the peer (`Link.PeerAct.limit?_eq`). What a link brings (`Link.Brings`) is
taken in the reader's next turn: `Link.receive_of_brings` says what the reader gets, and
`Hub.refuses_of_fault` and `Hub.takes_of_frame` what it makes of that.
-/

namespace Switchboard

/-! ## The limit of a web socket -/

theorem exists_of_map_eq_ok {ε α β : Type} {r : Except ε α} {f : α → β} {b : β}
    (hok : r.map f = .ok b) : ∃ a, r = .ok a ∧ f a = b := by
  cases r with
  | error e => cases hok
  | ok a => exact ⟨a, rfl, Except.ok.inj hok⟩

theorem exists_of_bind_eq_ok {ε α β : Type} {r : Except ε α} {f : α → Except ε β} {b : β}
    (hok : r.bind f = .ok b) : ∃ a, r = .ok a ∧ f a = .ok b := by
  cases r with
  | error e => cases hok
  | ok a => exact ⟨a, rfl, hok⟩

namespace Inbound

variable {i after : Inbound} {m : Option SocketFrame}

theorem limit_of_extend {final : Bool} {kind : FrameKind} {seen payload : Bytes}
    (hok : i.extend final kind seen payload = .ok (m, after)) : after.limit = i.limit := by
  by_cases hlong : i.limit < (seen ++ payload).length
  · rw [extend_of_long hlong] at hok
    cases hok
  · rw [extend_of_short (Nat.le_of_not_lt hlong)] at hok
    obtain ⟨-, -, hok⟩ := exists_of_bind_eq_ok hok
    split at hok
    · obtain ⟨_, -, heq⟩ := exists_of_map_eq_ok hok
      cases heq
      rfl
    · cases hok
      rfl

theorem limit_of_data {final : Bool} {o : Wire.Opcode} {payload : Bytes}
    (hok : i.data final o payload = .ok (m, after)) : after.limit = i.limit := by
  unfold data at hok
  dsimp only at hok
  split at hok
  · cases hok
  · exact limit_of_extend hok
  · cases hok
  · split at hok
    · exact limit_of_extend hok
    · split at hok
      · cases hok
      · obtain ⟨_, -, heq⟩ := exists_of_map_eq_ok hok
        cases heq
        rfl

theorem limit_of_judge {h : Wire.Header} {o : Wire.Opcode} {payload : Bytes}
    (hok : i.judge h o payload = .ok (m, after)) : after.limit = i.limit := by
  unfold judge at hok
  split at hok
  · cases hok
  · rename_i key _
    dsimp only at hok
    split at hok
    · cases hok
    · split at hok
      · obtain ⟨_, -, heq⟩ := exists_of_map_eq_ok hok
        cases heq
        rfl
      · exact limit_of_data hok

/-- Taking a message does not change the limit. -/
theorem limit_of_next (hok : i.next = .ok (m, after)) : after.limit = i.limit := by
  -- the last two cases: a frame completes a message, or is kept and the next one is taken
  fun_induction next i with
  | case1 => cases hok; rfl
  | case2 => cases hok
  | case3 => cases hok
  | case4 => cases hok; rfl
  | case5 => cases hok
  | case6 i header size rest hscan o ho hframe hthere left m' after' hjudge =>
    cases hok
    exact limit_of_judge (i := left) hjudge
  | case7 i header size rest hscan o ho hframe hthere left after' hjudge ih =>
    have hlimit : after'.limit = left.limit := limit_of_judge hjudge
    exact (ih hok).trans hlimit

end Inbound

namespace SocketLink

/-- What writing leaves of a link: what came in is as it was, and more may have arrived. -/
structure Writes (s s' : SocketLink) : Prop where
  inbound_eq : s'.inbound = s.inbound
  closing_eq : s'.closing = s.closing
  receiving_eq : s'.receiving = s.receiving
  arriving : ∃ more, s'.arriving = s.arriving ++ more

variable {s s' s'' : SocketLink}

theorem Writes.refl (s : SocketLink) : s.Writes s := ⟨rfl, rfl, rfl, [], (List.append_nil _).symm⟩

theorem Writes.trans (first : s.Writes s') (second : s'.Writes s'') : s.Writes s'' where
  inbound_eq := second.inbound_eq.trans first.inbound_eq
  closing_eq := second.closing_eq.trans first.closing_eq
  receiving_eq := second.receiving_eq.trans first.receiving_eq
  arriving := by
    obtain ⟨more, heq⟩ := first.arriving
    obtain ⟨more', heq'⟩ := second.arriving
    exact ⟨more ++ more', by rw [heq', heq, List.append_assoc]⟩

theorem writes_push (s : SocketLink) (bs : Bytes) : s.Writes (s.push bs).2 := by
  rw [push]
  split
  · exact ⟨rfl, rfl, rfl, bs, rfl⟩
  · exact .refl s

theorem writes_deliver (now : Nat) (s : SocketLink) (f : SocketFrame) :
    s.Writes (s.deliver now f) := by
  have hreceived : s.Writes { s with received := ⟨now, f.toFrame, codeOf f⟩ :: s.received } :=
    ⟨rfl, rfl, rfl, [], (List.append_nil _).symm⟩
  cases f with
  | ping payload =>
    rw [deliver]
    dsimp only
    split
    · exact hreceived.trans (writes_push _ _)
    · exact hreceived
  | _ => exact hreceived

theorem writes_foldl_deliver (now : Nat) (fs : List SocketFrame) (s : SocketLink) :
    s.Writes (fs.foldl (deliver now) s) := by
  induction fs generalizing s with
  | nil => exact .refl s
  | cons f fs ih => exact (writes_deliver now s f).trans (ih _)

theorem writes_writeOut (now : Nat) (s : SocketLink) : s.Writes (s.writeOut now).2 := by
  have hsame : ∀ (outgoing : List SocketFrame) (backlog unread : Nat),
      s.Writes { s with outgoing, backlog, unread } :=
    fun _ _ _ => ⟨rfl, rfl, rfl, [], (List.append_nil _).symm⟩
  rw [writeOut]
  split
  · exact .refl s
  · split
    · exact .refl s
    · split
      · exact (hsame [] 0 s.unread).trans (writes_foldl_deliver now _ _)
      · dsimp only
        split
        · exact hsame _ _ _
        · exact hsame s.outgoing _ _

theorem writes_enqueueReply (s : SocketLink) : s.Writes s.enqueueReply := by
  rw [enqueueReply]
  split
  · exact ⟨rfl, rfl, rfl, [], (List.append_nil _).symm⟩
  · exact .refl s

/-- Writing out ends an exchange only if the peer may not send more. -/
theorem writes_flush (now : Nat) (hopen : s.closing.canRead = true) :
    s.Writes (s.flush now).2 := by
  have hwrites := (writes_enqueueReply s).trans (writes_writeOut now s.enqueueReply)
  rw [flush]
  generalize s.enqueueReply.writeOut now = r at hwrites ⊢
  obtain ⟨written, s'⟩ := r
  cases written with
  | all =>
    dsimp only at hwrites ⊢
    rw [hwrites.closing_eq, if_pos hopen]
    exact ⟨hwrites.inbound_eq, rfl, hwrites.receiving_eq, hwrites.arriving⟩
  | waits => exact hwrites
  | failed => exact hwrites

theorem inbound_flush (now : Nat) (s : SocketLink) : (s.flush now).2.inbound = s.inbound := by
  have hwrites := (writes_enqueueReply s).trans (writes_writeOut now s.enqueueReply)
  rw [flush]
  generalize s.enqueueReply.writeOut now = r at hwrites ⊢
  obtain ⟨written, s'⟩ := r
  cases written with
  | all =>
    dsimp only
    split <;> exact hwrites.inbound_eq
  | waits => exact hwrites.inbound_eq
  | failed => exact hwrites.inbound_eq

/-- While the peer receives, writing out does not fail. -/
theorem flush_ne_failed (now : Nat) (hreceiving : s.receiving = true) :
    (s.flush now).1 ≠ .failed := by
  have hpeer : s.enqueueReply.receiving = true :=
    (writes_enqueueReply s).receiving_eq.trans hreceiving
  have hwritten : (s.enqueueReply.writeOut now).1 ≠ .failed := by
    rw [writeOut, hpeer]
    split
    · simp
    · split
      · rename_i hno
        cases hno
      · split
        · simp
        · dsimp only
          split <;> simp
  rw [flush]
  generalize s.enqueueReply.writeOut now = r at hwritten ⊢
  obtain ⟨written, s'⟩ := r
  cases written with
  | all => simp
  | waits => simp
  | failed => exact absurd rfl hwritten

/-- The socket takes what comes in next: the stream goes on, and the reply that is to be sent
before, if there is one, can be written. -/
structure Listens (s : SocketLink) : Prop where
  goesOn : s.ended = false
  canRead : s.closing.canRead = true
  canReply : s.receiving = true ∨ s.reply = none ∧ s.replyWaits = false

theorem receive_of_listens (listens : s.Listens) (now : Nat) :
    ∃ s', s.Writes s' ∧ s.receive now = s'.take := by
  have hover : ¬ s.closing = .over := fun hover => by
    have hopen := listens.canRead
    rw [hover] at hopen
    cases hopen
  have hgoes : ¬ ((s.ended || decide (s.closing = .over)) = true) := by
    simp [listens.goesOn, hover]
  rw [receive, if_neg hgoes]
  -- a reply that is to be sent is written out before anything is taken
  split
  · rename_i hreply
    have hreceiving : s.receiving = true := listens.canReply.resolve_right fun hnone => by
      rw [hnone.1, hnone.2] at hreply
      cases hreply
    have hwrites := writes_flush now listens.canRead
    have hwritten := flush_ne_failed now hreceiving
    generalize s.flush now = r at hwrites hwritten ⊢
    obtain ⟨written, s'⟩ := r
    cases written with
    | failed => exact absurd rfl hwritten
    | waits =>
      exact ⟨{ s' with replyWaits := true },
        hwrites.trans ⟨rfl, rfl, rfl, [], (List.append_nil _).symm⟩, rfl⟩
    | all =>
      refine ⟨s', hwrites, ?_⟩
      dsimp only at hwrites ⊢
      rw [hwrites.closing_eq, if_neg hover]
  · rw [if_pos listens.canRead]
    exact ⟨s, .refl s, rfl⟩

/-! ## The limit stays -/

theorem snd_progress (r : Written × SocketLink) : (progress r).2 = r.2 := by
  obtain ⟨written, s⟩ := r
  cases written <;> rfl

theorem inbound_send (now : Nat) (f : Frame) (s : SocketLink) :
    (s.send now f).2.inbound = s.inbound := by
  rw [send]
  split
  · rfl
  · split
    · rfl
    · rw [snd_progress, inbound_flush]
      split
      · rw [setReply]
        split <;> rfl
      · rfl
      · rfl
    · rfl

theorem inbound_closeSink (now : Nat) (s : SocketLink) :
    (s.closeSink now).2.inbound = s.inbound := by
  rw [closeSink, snd_progress, inbound_flush]
  split <;> rfl

theorem inbound_react (s : SocketLink) (f : SocketFrame) : (s.react f).inbound = s.inbound := by
  have hreply : ∀ (s : SocketLink) (g : SocketFrame), (s.setReply g).inbound = s.inbound :=
    fun s g => by
      rw [setReply]
      split <;> rfl
  unfold react
  split
  · exact hreply _ _
  · exact hreply _ _
  · rfl
  · rfl

theorem limit_take (s : SocketLink) : s.take.2.inbound.limit = s.inbound.limit := by
  rw [take]
  dsimp only
  split
  · rfl
  · rename_i hnext
    have hlimit := Inbound.limit_of_next hnext
    rw [inbound_react]
    exact hlimit
  · rename_i hnext
    have hlimit := Inbound.limit_of_next hnext
    split
    · exact hlimit
    · exact hlimit

theorem limit_receive (now : Nat) (s : SocketLink) :
    (s.receive now).2.inbound.limit = s.inbound.limit := by
  rw [receive]
  split
  · rfl
  · split
    · have hflush := inbound_flush now s
      generalize s.flush now = r at hflush ⊢
      obtain ⟨written, s'⟩ := r
      dsimp only at hflush
      cases written with
      | failed => exact congrArg Inbound.limit hflush
      | waits => exact (limit_take { s' with replyWaits := true }).trans (congrArg _ hflush)
      | all =>
        dsimp only
        split
        · exact congrArg Inbound.limit hflush
        · exact (limit_take s').trans (congrArg _ hflush)
    · split
      · exact limit_take s
      · rfl

theorem inbound_release (now : Nat) (s : SocketLink) : (s.release now).inbound = s.inbound := by
  rw [release]
  split <;> rfl

/-- A connection never changes the limit of its web socket. -/
theorem keeps_limit (n : Option Nat) :
    Transport.Keeps fun s : SocketLink => some s.inbound.limit = n := by
  have hlimit : ∀ {s s' : SocketLink}, s'.inbound.limit = s.inbound.limit →
      some s.inbound.limit = n → some s'.inbound.limit = n := fun heq hn => heq ▸ hn
  exact {
    send := fun now f s hn => hlimit (congrArg Inbound.limit (s.inbound_send now f)) hn
    resume := fun now s hn => by
      have hflush := s.inbound_flush now
      rw [← snd_progress] at hflush
      exact hlimit (congrArg Inbound.limit hflush) hn
    close := fun now s hn => hlimit (congrArg Inbound.limit (s.inbound_closeSink now)) hn
    receive := fun now s hn => hlimit (s.limit_receive now) hn
    releaseSink := fun now s hn =>
      hlimit (congrArg Inbound.limit (inbound_release now { s with sinkHeld := false })) hn
    releaseStream := fun now s hn =>
      hlimit (congrArg Inbound.limit (inbound_release now { s with streamHeld := false })) hn }

end SocketLink

namespace Link

/-- The limit for messages that a link is told; only web sockets are. -/
def limit? : Link → Option Nat
  | .socket s => some s.inbound.limit
  | .memory _ | .scripted _ => none

/-- What is kept of web sockets is kept of all links, if all that matters of the others is what they
are. -/
theorem keeps_of_socket {P : Link → Prop} (hsocket : Transport.Keeps fun s => P (.socket s))
    (hmemory : ∀ m m', P (.memory m) → P (.memory m'))
    (hscripted : ∀ s s', P (.scripted s) → P (.scripted s')) : Transport.Keeps P where
  send now f l hP := by
    cases l with
    | socket s => exact hsocket.send now f hP
    | memory m => exact hmemory _ _ hP
    | scripted s => exact hscripted _ _ hP
  resume now l hP := by
    cases l with
    | socket s => exact hsocket.resume now hP
    | memory m => exact hmemory _ _ hP
    | scripted s => exact hscripted _ _ hP
  close now l hP := by
    cases l with
    | socket s => exact hsocket.close now hP
    | memory m => exact hmemory _ _ hP
    | scripted s => exact hscripted _ _ hP
  receive now l hP := by
    cases l with
    | socket s => exact hsocket.receive now hP
    | memory m => exact hmemory _ _ hP
    | scripted s => exact hscripted _ _ hP
  releaseSink now l hP := by
    cases l with
    | socket s => exact hsocket.releaseSink now hP
    | memory m => exact hmemory _ _ hP
    | scripted s => exact hscripted _ _ hP
  releaseStream now l hP := by
    cases l with
    | socket s => exact hsocket.releaseStream now hP
    | memory m => exact hmemory _ _ hP
    | scripted s => exact hscripted _ _ hP

theorem keeps_limit? (n : Option Nat) : Transport.Keeps fun l : Link => l.limit? = n :=
  keeps_of_socket (SocketLink.keeps_limit n) (fun _ _ hn => hn) fun _ _ hn => hn

/-- What a peer can do to its link. -/
inductive PeerAct : (Link → Link) → Prop
  | send (f : Frame) (code : Option Nat) : PeerAct fun l => (l.peerSend f code).2
  | sendBytes (bs : Bytes) : PeerAct fun l => (l.peerSendBytes bs).2
  | fail (e : Error) : PeerAct fun l => (l.peerFail e).2
  | hangUp : PeerAct hangUp
  | stopReceiving : PeerAct stopReceiving
  | stopReading : PeerAct stopReading
  | vanish : PeerAct vanish

/-- Nor does a peer change the limit. -/
theorem PeerAct.limit?_eq {act : Link → Link} (peer : PeerAct act) (l : Link) :
    (act l).limit? = l.limit? := by
  have hpush : ∀ (s : SocketLink) (bs : Bytes), (s.push bs).2.inbound.limit = s.inbound.limit :=
    fun s bs => congrArg Inbound.limit (s.writes_push bs).inbound_eq
  cases l with
  | socket s =>
    cases peer with
    | send f code =>
      simp only [peerSend]
      split
      · exact congrArg some (hpush s _)
      · rfl
    | sendBytes bs =>
      simp only [peerSendBytes]
      split
      · exact congrArg some (hpush s bs)
      · rfl
    | fail e => rfl
    | hangUp => rfl
    | stopReceiving => rfl
    | stopReading => rfl
    | vanish => rfl
  | memory m =>
    cases peer with
    | send f code =>
      simp only [peerSend]
      split <;> rfl
    | fail e =>
      simp only [peerFail]
      split <;> rfl
    | sendBytes bs => rfl
    | hangUp => rfl
    | stopReceiving => rfl
    | stopReading => rfl
    | vanish => rfl
  | scripted s => cases peer <;> rfl

end Link

/-! ## The next message -/

/-- The socket takes the data message `f` next: it listens, and the frames of `f` have come in, or
those of them that it has not taken yet. -/
structure SocketLink.Brings (f : Frame) (s : SocketLink) : Prop where
  listens : s.Listens
  suits : Inbound.Suits f.kind f.payload
  message : ∃ seen o ps rest, s.inbound.Awaits f.kind seen o ∧ ps ≠ [] ∧
    (∀ p ∈ ps, Wire.Piece.Sendable p) ∧ seen ++ Wire.whole ps = f.payload ∧
    s.inbound.bytes ++ s.arriving = Wire.pieces o ps ++ rest

/-- What a peer sends while nothing is under way comes next. -/
theorem SocketLink.brings_push {f : Frame} {s : SocketLink} (listens : s.Listens)
    (hdata : f.kind.isData = true) (suits : Inbound.Suits f.kind f.payload)
    (hlength : f.payload.length < 2 ^ 64) (hbytes : s.inbound.bytes ++ s.arriving = [])
    (hnone : s.inbound.partialMessage = none) (hsent : (s.push (frameBytes f none)).1 = true) :
    (s.push (frameBytes f none)).2.Brings f := by
  have sendable : Wire.Piece.Sendable ⟨[0, 0, 0, 0], f.payload⟩ := ⟨rfl, hlength⟩
  have hframe : frameBytes f none = Wire.pieces (opcodeOf f.kind) [⟨[0, 0, 0, 0], f.payload⟩] :=
    (Wire.pieces_singleton _ sendable).symm
  rw [push] at hsent ⊢
  split at hsent
  · rename_i hopen
    rw [if_pos hopen]
    refine ⟨⟨listens.goesOn, listens.canRead, listens.canReply⟩, suits, [], _,
      [⟨[0, 0, 0, 0], f.payload⟩], [], ⟨hdata, .inl ⟨hnone, rfl, rfl⟩⟩, List.cons_ne_nil _ _,
      fun p hp => List.mem_singleton.mp hp ▸ sendable, List.append_nil _, ?_⟩
    dsimp only
    rw [← List.append_assoc, hbytes, hframe, List.nil_append, List.append_nil]
  · cases hsent

theorem SocketLink.receive_of_brings {f : Frame} {s : SocketLink} (brings : s.Brings f)
    (now : Nat) :
    (s.inbound.limit < f.payload.length → ∃ length limit, limit < length ∧
      (s.receive now).1 = .failed (SocketFault.tooLong length limit).toError) ∧
    (f.payload.length ≤ s.inbound.limit → f.payload.length ≤ Inbound.maxFrame →
      (s.receive now).1 = .frame f) := by
  obtain ⟨listens, suits, seen, o, ps, rest, awaits, hne, hsendable, hwhole, hbytes⟩ := brings
  obtain ⟨s', writes, hreceive⟩ := receive_of_listens listens now
  obtain ⟨more, harriving⟩ := writes.arriving
  -- what is taken next is what came in before the reply was written, and then what came in since
  have hnext : ({ s'.inbound with bytes := s'.inbound.bytes ++ s'.arriving } : Inbound) =
      { s.inbound with bytes := Wire.pieces o ps ++ (rest ++ more) } := by
    rw [writes.inbound_eq, harriving, ← List.append_assoc, hbytes, List.append_assoc]
  have awaits' : ({ s.inbound with bytes := Wire.pieces o ps ++ (rest ++ more) } : Inbound).Awaits
      f.kind seen o := ⟨awaits.data, awaits.next⟩
  rw [← hwhole] at suits
  constructor
  · intro hlong
    rw [← hwhole] at hlong
    obtain ⟨length, limit, hlt, hfault⟩ :=
      Inbound.next_of_long hne hsendable awaits' rfl hlong suits
    refine ⟨length, limit, hlt, ?_⟩
    rw [hreceive, take, hnext, hfault]
  · intro hfits hframe
    rw [← hwhole] at hfits hframe
    have hframes : ∀ p ∈ ps, p.payload.length ≤ Inbound.maxFrame := fun p hp => by
      refine Nat.le_trans ?_ hframe
      rw [List.length_append]
      exact Nat.le_add_left_of_le (Wire.length_le_whole hp)
    obtain ⟨m, hm, hok⟩ := Inbound.next_of_fits hne hsendable hframes awaits' rfl hfits suits
    rw [hreceive, take, hnext, hok]
    dsimp only
    rw [hm, hwhole]

namespace Link

/-- The data message `f` is what the reader of a connection takes from its link next. -/
def Brings (f : Frame) : Link → Prop
  | .memory m => m.inbound.head? = some (.frame f)
  | .socket s => s.Brings f
  | .scripted _ => False

/-- Why a connection over a link is torn down after a message that is too long. -/
def oversizeReason (l : Link) : CloseReason :=
  if l.limit?.isSome then .readError else .frameTooLarge

theorem receive_of_brings {f : Frame} {l : Link} {limit : Nat} (hlimit : ∀ n ∈ l.limit?, n = limit)
    (hdata : f.kind.isData = true) (brings : l.Brings f) (late : Prop) (now : Nat) :
    (limit < f.payload.length →
      Connection.ReadFault limit late (Transport.receive now l).1 l.oversizeReason) ∧
    (f.payload.length ≤ limit → (l.limit?.isSome → f.payload.length ≤ Inbound.maxFrame) →
      (Transport.receive now l).1 = .frame f) := by
  cases l with
  | memory m =>
    obtain ⟨rest, hinbound⟩ := List.head?_eq_some_iff.mp brings
    have hreceive : (Transport.receive now (Link.memory m)).1 = .frame f := by
      change (m.receive).1 = _
      rw [MemoryLink.receive, hinbound]
    rw [hreceive]
    exact ⟨fun hlong => .tooLong hdata hlong, fun _ _ => rfl⟩
  | socket s =>
    obtain rfl := hlimit _ rfl
    obtain ⟨hlong, hfits⟩ := SocketLink.receive_of_brings brings now
    refine ⟨fun hlt => ?_, fun hle hframe => hfits hle (hframe rfl)⟩
    obtain ⟨length, n, -, hfailed⟩ := hlong hlt
    have hreceive : (Transport.receive now (Link.socket s)).1 = .failed _ := hfailed
    rw [hreceive]
    exact .failed _
  | scripted s => cases brings

end Link

/-! ## What the reader makes of it -/

namespace Hub

variable {τ : Type} [Transport τ] {h : Hub τ} {id : String} {c : Connection τ} {deadline : Nat}
  {reason : CloseReason} {f : Frame}

/-- In an event, the connection `id` is torn down for a reason, and nothing is counted as received
or given to its handlers. -/
structure Refuses (id : String) (reason : CloseReason) (e : Event τ) (h : Hub τ) : Prop where
  closed : h.newsSince (h.step e) = [.closed id reason]
  dead : (h.step e).isAlive id = false
  uncounted : (h.step e).metrics.received = h.metrics.received
  silent : h.episode? e = none

/-- In an event, the frame `f` is counted as received by its kind and given to the handlers of the
connection `id`, and only they can tear it down. -/
structure Takes (id : String) (f : Frame) (e : Event τ) (h : Hub τ) : Prop where
  counted : (h.step e).metrics.received = h.metrics.received.bump f.kind.name
  given : ∃ is, h.episode? e = some (.dispatched id f is) ∧ h.Dispatches id f is (h.step e) ∧
    ((h.step e).isAlive id = true ↔ ∀ i ∈ is, .removed true ∉ i.actions)

/-- What ends a connection is given to nobody. -/
theorem forHandlers?_of_fault {config : SocketConfig} {late : Prop} {a : Arrival}
    (fault : Connection.ReadFault config.maxMessageSize late a reason) :
    Connection.forHandlers? config a = none := by
  cases fault with
  | closed hkind => simp [Connection.forHandlers?, hkind, FrameKind.isData]
  | tooLong data long => simp [Connection.forHandlers?, Nat.not_le_of_lt long]
  | ended | failed | panicked | timedOut => rfl

/-- What is entered of frames received in a turn of the reader. -/
theorem receipts_readerEntries (h : Hub τ) (id : String) :
    receipts (h.readerEntries id) =
      ((h.find? id).bind (Connection.dispatched? h.now h.config)).toList := by
  rw [readerEntries]
  cases hc : h.find? id with
  | none => rfl
  | some c =>
    rw [Option.bind_some]
    dsimp only
    cases hf : c.dispatched? h.now h.config with
    | none => rfl
    | some f =>
      have hrest : receipts ((h.received c f).dispatchEntries
          { c with link := (Transport.receive h.now c.link).2 } f) = [] := by
        refine List.filterMap_eq_nil_iff.mpr fun x hx => ?_
        obtain ⟨g, o, rfl⟩ := eq_tried_of_mem_handlerEntries _ _ _ _ _ x hx
        rfl
      exact congrArg (f :: ·) hrest

/-- A turn of the reader counts the frame that it gives to the handlers, and no other. -/
theorem received_step_reader (hc : h.find? id = some c) (roomFirst : Nat → Bool) :
    (h.step (.turn (.reader id) roomFirst)).metrics.received =
      h.metrics.received.receive (c.dispatched? h.now h.config).toList := by
  have hreceipts := receipts_readerEntries { h with ready := h.ready.erase (.reader id) } id
  change _ = ((h.find? id).bind (Connection.dispatched? h.now h.config)).toList at hreceipts
  rw [hc, Option.bind_some] at hreceipts
  rw [← hreceipts]
  exact (balances_step h (.turn (.reader id) roomFirst)).received

theorem refuses_of_fault (hc : h.find? id = some c) (halive : c.alive = true)
    (hreading : c.reader = .reading deadline)
    (fault : Connection.ReadFault h.config.maxMessageSize (deadline ≤ h.now)
      (Transport.receive h.now c.link).1 reason) (roomFirst : Nat → Bool) :
    h.Refuses id reason (.turn (.reader id) roomFirst) := by
  obtain rfl := id_of_find? hc
  -- nothing is dispatched, so the turn is that of the reader alone
  have hnone : c.dispatched? h.now h.config = none := by
    rw [Connection.dispatched?_of_reading halive hreading, forHandlers?_of_fault fault]
  have hstopped : (({ c with link := (Transport.receive h.now c.link).2 } :
      Connection τ).stopReader h.now).alive = true := halive
  have hturn : (c.readerTurn h.now h.config).news = [.closed c.id reason] ∧
      (c.readerTurn h.now h.config).conn.alive = false := by
    rw [Connection.readerTurn_of_reading halive hreading, Connection.takeArrival_of_fault fault,
      Connection.failReader, Connection.torn_of_alive hstopped]
    exact ⟨rfl, rfl⟩
  constructor
  · obtain ⟨h', makes, hp⟩ :=
      reads_readerTurn (h := { h with ready := h.ready.erase (.reader c.id) }) hc
    change _ = (c.dispatched? h.now h.config).elim h' _ at hp
    rw [hnone] at hp
    have hhistory : (h.step (.turn (.reader c.id) roomFirst)).history =
        [.closed c.id reason] ++ h.history := by
      refine (history_poll h roomFirst (.reader c.id)).trans ?_
      refine (congrArg Hub.history hp).trans (makes.gets.history_eq.trans ?_)
      exact congrArg (· ++ h.history) hturn.1
    exact newsSince_eq hhistory
  · obtain ⟨c', hc', -, -, hlives, -⟩ := reader_turn hc roomFirst
    refine Bool.eq_false_iff.mpr fun hagain => ?_
    obtain ⟨c'', hc'', halive''⟩ := isAlive_iff.mp hagain
    obtain rfl := Option.some.inj (hc'.symm.trans hc'')
    exact Bool.false_ne_true (hturn.2.symm.trans (hlives halive''))
  · rw [received_step_reader hc, hnone]
    rfl
  · rw [episode?, hc, Option.bind_some, hnone]
    rfl

theorem takes_of_frame (hc : h.find? id = some c) (halive : c.alive = true)
    (hreading : c.reader = .reading deadline) (hdata : f.kind.isData = true)
    (hfits : f.payload.length ≤ h.config.maxMessageSize)
    (hframe : (Transport.receive h.now c.link).1 = .frame f) (roomFirst : Nat → Bool) :
    h.Takes id f (.turn (.reader id) roomFirst) := by
  have hdispatched : c.dispatched? h.now h.config = some f := by
    rw [Connection.dispatched?_of_reading halive hreading, hframe]
    simp [Connection.forHandlers?, hdata, hfits]
  have hepisode : h.episode? (.turn (.reader id) roomFirst) =
      some (.dispatched id f (h.dispatchCalls c f)) := by
    rw [episode?, hc, Option.bind_some, hdispatched, Option.map_some]
  have dispatches := dispatches_of_episode? hepisode
  refine ⟨?_, _, hepisode, dispatches, dispatches.isAlive_iff⟩
  rw [received_step_reader hc, hdispatched]
  rfl

end Hub

/-! ## Which limit counts -/

/-- The links over which connections are opened: to a peer within the process, or to a client that
asked for a web socket. -/
inductive Link.Offered (config : SocketConfig) : Link → Prop
  | memory (m : MemoryLink) : Offered config (.memory m)
  | socket (client : Http.Client) (arriving : Bytes) :
      Offered config (Http.Exchange.linkTo config client arriving)

/-- If the event is an act of a peer, it is one that peers are capable of. -/
def Event.ByPeer : Event Link → Prop
  | .peer _ change => Link.PeerAct change
  | _ => True

theorem Link.Offered.limit?_eq {config : SocketConfig} {link : Link}
    (offered : link.Offered config) :
    ∀ n ∈ link.limit?, n = config.maxMessageSize := by
  cases offered with
  | memory m => exact fun n hn => nomatch hn
  | socket client arriving =>
    intro n hn
    rw [Http.Exchange.linkTo] at hn
    split at hn
    · exact (Option.some.inj hn).symm
    · exact (Option.some.inj hn).symm

variable {h₀ h : Hub Link} {es : List (Event Link)} {id : String} {link : Link}
  {o : ConnectOptions} {m : Member} {c : Connection Link} {deadline : Nat} {f : Frame}

/-- **Who refuses a message that is too long.** Let a connection be opened over a link within the
process or after a request for a web socket, and let its reader be about to take a data message. A
message that is longer than the limit is neither counted nor given to the handlers, and the
connection is torn down: because a frame is too large if the link is within the process, but because
the stream has failed if it is a web socket. Any other message, if a web socket admits frames of its
length, is counted and given to the handlers. -/
theorem oversized_refused (hfresh : h₀.find? id = none)
    (hopened : (h₀.upgrade id (.ok link) o).1 = .opened m) (offered : link.Offered h₀.config)
    (run : Run (h₀.upgrade id (.ok link) o).2 es h) (peers : ∀ e ∈ es, e.ByPeer)
    (hc : h.find? id = some c) (halive : c.alive = true) (hreading : c.reader = .reading deadline)
    (hdata : f.kind.isData = true) (brings : c.link.Brings f) (roomFirst : Nat → Bool) :
    (h₀.config.maxMessageSize < f.payload.length →
      h.Refuses id link.oversizeReason (.turn (.reader id) roomFirst)) ∧
    (f.payload.length ≤ h₀.config.maxMessageSize →
      (link.limit?.isSome → f.payload.length ≤ Inbound.maxFrame) →
      h.Takes id f (.turn (.reader id) roomFirst)) := by
  have hconfig : h.config = h₀.config :=
    Run.config_eq (Run.cons (e := .upgrade id (.ok link) o) hfresh run)
  have hfit : h₀.capacityFor o ≤ Outbox.maxCapacity := by
    by_contra hover
    have hcrashed : (h₀.upgrade id (.ok link) o).1 = .crashed :=
      congrArg Prod.fst (Hub.accept_of_over (Nat.lt_of_not_le hover) link)
    rw [hcrashed] at hopened
    cases hopened
  have hover := (Hub.opens_accept hfresh hfit link).find?_self
  have leaves : ∀ e ∈ es, e.Leaves fun l => l.limit? = link.limit? := fun e he => by
    have hpeer := peers e he
    cases e with
    | peer d change => exact fun l hl => (Link.PeerAct.limit?_eq hpeer l).trans hl
    | _ => trivial
  -- the limit is that of the link over which the connection was opened
  obtain ⟨c', hc', hlimit⟩ := run.keeps_over (Link.keeps_limit? link.limit?) leaves ⟨_, hover, rfl⟩
  obtain rfl := Option.some.inj (hc.symm.trans hc')
  have hreason : c.link.oversizeReason = link.oversizeReason := by
    rw [Link.oversizeReason, Link.oversizeReason, hlimit]
  obtain ⟨hlong, hfits⟩ := Link.receive_of_brings (hlimit ▸ offered.limit?_eq) hdata brings
    (deadline ≤ h.now) h.now
  rw [hreason] at hlong
  rw [hlimit] at hfits
  constructor
  · intro hlt
    exact Hub.refuses_of_fault hc halive hreading (hconfig ▸ hlong hlt) roomFirst
  · intro hle hframe
    exact Hub.takes_of_frame hc halive hreading hdata (hconfig ▸ hle) (hfits hle hframe) roomFirst

/-- A hub that takes messages of four bytes at most. -/
def fourAtMost : Hub Link := Hub.initial { maxMessageSize := 4 } .listed [] 0 0

/-- A reader starts, and the peer sends a text of five bytes. -/
def sendsFive : List (Event Link) :=
  [.turn (.reader "a") Hub.teardownFirst,
    .peer "a" fun l => (l.peerSend (.ofText "hello") none).2]

theorem oversized_refused_of_sendsFive :
    (sendsFive.foldl Hub.step (fourAtMost.upgrade "a"
        (.ok (Http.Exchange.linkTo fourAtMost.config {} [])) {}).2).Refuses "a" .readError
        (.turn (.reader "a") Hub.teardownFirst) ∧
      (sendsFive.foldl Hub.step (fourAtMost.upgrade "a" (.ok (.memory {})) {}).2).Refuses "a"
        .frameTooLarge (.turn (.reader "a") Hub.teardownFirst) := by
  have peers : ∀ e ∈ sendsFive, e.ByPeer := by
    simp [sendsFive, Event.ByPeer, Link.PeerAct.send]
  have suits : Inbound.Suits .text (Utf8.encode "hello") := fun _ => Utf8.isValid_encode "hello"
  have brings := SocketLink.brings_push (f := .ofText "hello") (s := { inbound := { limit := 4 } })
    ⟨rfl, rfl, .inl rfl⟩ rfl suits (by decide +kernel) rfl rfl rfl
  constructor
  · have run : Run (fourAtMost.upgrade "a"
        (.ok (Http.Exchange.linkTo fourAtMost.config {} [])) {}).2 sendsFive _ :=
      .of_always_allowed (by simp [sendsFive, Event.Allowed]) _
    exact (oversized_refused (f := .ofText "hello") (m := ⟨"a", none, none⟩) rfl rfl
      (.socket {} []) run peers rfl rfl rfl rfl brings Hub.teardownFirst).1
      (by decide +kernel)
  · have run : Run (fourAtMost.upgrade "a" (.ok (.memory {})) {}).2 sendsFive _ :=
      .of_always_allowed (by simp [sendsFive, Event.Allowed]) _
    exact (oversized_refused (f := .ofText "hello") (m := ⟨"a", none, none⟩) rfl rfl (.memory {})
      run peers rfl rfl rfl rfl rfl Hub.teardownFirst).1 (by decide +kernel)

end Switchboard
