import Switchboard.Proofs.Balance
import Switchboard.Proofs.Utf8
import Switchboard.Transport.Socket

/-!
# Frames in the terms of a web socket, and back

A frame and a web socket's frame say the same, but for two things: a text frame need not hold text,
and the reason of a close frame need not either, while its code is not kept.

* `Frame.Translates` says what becomes of a frame on the way to a web socket and back: it is refused
  if it should hold text and does not; otherwise it comes back as it was, except that the reason of
  a close frame is repaired (`Utf8.Repairs`).
* `SocketFrame.normalized` is what becomes of a web socket's frame the other way round.
* `Hub.Screens` says that the frames that are refused are those that a writer drops: it hands over
  none of them, so that handing over never fails for that reason.
-/

namespace Switchboard

/-- A web socket's frame with the code of an ordinary end, if it is a close frame. -/
def SocketFrame.normalized : SocketFrame → SocketFrame
  | .close none => .close (some (normalClosure, ""))
  | .close (some (_, reason)) => .close (some (normalClosure, reason))
  | w => w

namespace Frame

/-- A frame on its way to a web socket and back. -/
def roundTrip (f : Frame) : Except Utf8.Fault Frame := f.toSocket.map SocketFrame.toFrame

/-- What becomes of a frame on its way to a web socket and back. -/
structure Translates (f : Frame) : Prop where
  /-- It is refused if it should hold text and does not. -/
  refused_iff : (∃ fault, f.toSocket = .error fault) ↔
    f.kind = .text ∧ ¬ ∃ s, f.payload = Utf8.encode s
  kind_eq : ∀ g, f.roundTrip = .ok g → g.kind = f.kind
  payload_eq : ∀ g, f.roundTrip = .ok g → f.kind ≠ .close → g.payload = f.payload
  /-- The reason of a close frame is repaired. -/
  repaired : f.kind = .close → ∃ reason, Utf8.Repairs f.payload reason.toList ∧
    f.toSocket = .ok (.close (some (1000, reason))) ∧
    f.roundTrip = .ok ⟨.close, Utf8.encode reason⟩
  /-- It comes back as it was unless it is a close frame whose reason had to be repaired. -/
  same_iff : ∀ g, f.roundTrip = .ok g →
    (g = f ↔ ¬ (f.kind = .close ∧ ¬ ∃ s, f.payload = Utf8.encode s))
  /-- Nothing more becomes of it on the same way again. -/
  settles : ∀ g, f.roundTrip = .ok g → g.roundTrip = .ok g

section Translation

variable {f g : Frame} {s : String}

theorem toSocket_ofText (s : String) : (ofText s).toSocket = .ok (.text s) := by
  simp [toSocket, ofText, Except.map]

theorem toSocket_close (payload : Bytes) :
    toSocket ⟨.close, payload⟩ = .ok (.close (some (1000, Utf8.decodeLossy payload))) := rfl

theorem roundTrip_close (payload : Bytes) :
    roundTrip ⟨.close, payload⟩ = .ok ⟨.close, Utf8.encode (Utf8.decodeLossy payload)⟩ := rfl

/-- A text frame comes back as it was if it holds text, and is refused otherwise. -/
theorem toSocket_text_cases (payload : Bytes) :
    (∃ s, payload = Utf8.encode s ∧ toSocket ⟨.text, payload⟩ = .ok (.text s)) ∨
      (¬ ∃ s, payload = Utf8.encode s) ∧ ∃ fault, toSocket ⟨.text, payload⟩ = .error fault := by
  cases hdecode : Utf8.decode payload with
  | ok s =>
    obtain rfl := Utf8.decode_eq_ok_iff.mp hdecode
    exact .inl ⟨s, rfl, toSocket_ofText s⟩
  | error fault =>
    refine .inr ⟨?_, fault, by rw [toSocket, hdecode]; rfl⟩
    rintro ⟨s, rfl⟩
    rw [Utf8.decode_encode] at hdecode
    cases hdecode

theorem refused_iff (f : Frame) : (∃ fault, f.toSocket = .error fault) ↔
    f.kind = .text ∧ ¬ ∃ s, f.payload = Utf8.encode s := by
  obtain ⟨kind, payload⟩ := f
  cases kind with
  | text =>
    rcases toSocket_text_cases payload with ⟨s, htext, hok⟩ | ⟨hno, hfault⟩
    · refine iff_of_false ?_ fun h => h.2 ⟨s, htext⟩
      rintro ⟨fault, hfault⟩
      exact Except.noConfusion rfl rfl (heq_of_eq (hfault.symm.trans hok))
    · exact iff_of_true hfault ⟨rfl, hno⟩
  | binary | ping | pong | close =>
    refine iff_of_false ?_ fun h => FrameKind.noConfusion h.1
    rintro ⟨fault, hfault⟩
    cases hfault

/-- What a writer drops is what a web socket refuses. -/
theorem isSendable_eq_false_iff : f.isSendable = false ↔ ∃ fault, f.toSocket = .error fault := by
  rw [refused_iff, ← Utf8.isValid_iff, isSendable]
  simp

theorem exists_toSocket_of_isSendable (hsend : f.isSendable = true) :
    ∃ w, f.toSocket = .ok w := by
  cases hsocket : f.toSocket with
  | ok w => exact ⟨w, rfl⟩
  | error fault =>
    rw [isSendable_eq_false_iff.mpr ⟨fault, hsocket⟩] at hsend
    cases hsend

/-- A frame that comes back, comes back as it was, or is a close frame. -/
theorem eq_or_close_of_roundTrip (hg : f.roundTrip = .ok g) :
    f.kind ≠ .close ∧ g = f ∨ f.kind = .close ∧
      g = ⟨.close, Utf8.encode (Utf8.decodeLossy f.payload)⟩ := by
  obtain ⟨kind, payload⟩ := f
  cases kind with
  | text =>
    refine .inl ⟨FrameKind.noConfusion, ?_⟩
    rcases toSocket_text_cases payload with ⟨s, rfl, hok⟩ | ⟨-, fault, hfault⟩
    · rw [roundTrip, hok] at hg
      cases hg
      rfl
    · rw [roundTrip, hfault] at hg
      cases hg
  | close =>
    cases hg
    exact .inr ⟨rfl, rfl⟩
  | binary | ping | pong =>
    cases hg
    exact .inl ⟨FrameKind.noConfusion, rfl⟩

theorem translates (f : Frame) : f.Translates where
  refused_iff := f.refused_iff
  kind_eq g hg := by
    rcases eq_or_close_of_roundTrip hg with ⟨-, rfl⟩ | ⟨hclose, rfl⟩
    · rfl
    · exact hclose.symm
  payload_eq g hg hkind := by
    rcases eq_or_close_of_roundTrip hg with ⟨-, rfl⟩ | ⟨hclose, -⟩
    · rfl
    · exact absurd hclose hkind
  repaired hclose := by
    obtain ⟨kind, payload⟩ := f
    cases hclose
    exact ⟨Utf8.decodeLossy payload, Utf8.repairs_iff.mpr String.ofList_toList.symm, rfl, rfl⟩
  same_iff g hg := by
    rcases eq_or_close_of_roundTrip hg with ⟨hkind, rfl⟩ | ⟨hclose, rfl⟩
    · exact iff_of_true rfl fun h => hkind h.1
    · obtain ⟨kind, payload⟩ := f
      cases hclose
      rw [← Utf8.isValid_iff, ← Utf8.encode_decodeLossy_eq_iff]
      simp
  settles g hg := by
    rcases eq_or_close_of_roundTrip hg with ⟨-, rfl⟩ | ⟨-, rfl⟩
    · exact hg
    · rw [roundTrip_close, Utf8.decodeLossy_encode]

end Translation

end Frame

/-- The other way round, only the code of a close frame changes. -/
theorem SocketFrame.toSocket_toFrame (w : SocketFrame) :
    w.toFrame.toSocket = .ok w.normalized := by
  have hclose : ∀ reason, Frame.toSocket ⟨.close, Utf8.encode reason⟩ =
      .ok (.close (some (1000, reason))) := fun reason => by
    rw [Frame.toSocket_close, Utf8.decodeLossy_encode]
  cases w with
  | text s => exact Frame.toSocket_ofText s
  | close reason =>
    cases reason with
    | none => exact hclose ""
    | some reason => exact hclose reason.2
  | binary | ping | pong => rfl

/-! ## What writers hand over -/

/-- Whether a writer took a frame that a web socket refuses. -/
def Entry.isRefused : Entry → Bool
  | .taken _ f => !f.toSocket.isOk
  | _ => false

/-- The frames that a web socket refuses are those that a writer drops. `b` is what was entered in
the run that led to the hub. -/
structure Hub.Screens {τ : Type} [Transport τ] (b : List Entry) (h : Hub τ) : Prop where
  /-- What is taken off an outbox is handed over, in the same order, unless it would be refused. -/
  handed : ∀ id, Switchboard.handed id h.history =
    (takings id b).filter fun f => f.toSocket.isOk
  /-- Each frame that would be refused is counted as dropped. -/
  dropped : h.metrics.dropped = (b.filterMap Entry.loss?).length ∧
    losses .unsendable b = b.countP Entry.isRefused
  /-- No frame that is handed over is refused, whatever the cause of it is. -/
  accepted : ∀ id f cause, Happening.handed id f cause ∈ h.history →
    (∃ w, f.toSocket = .ok w) ∧ ∀ (s : SocketLink) now fault,
      (Transport.send now f s).1 ≠ .failed (.validation (.notText fault))
  /-- The writer that drops a frame goes on as if it had never been there. -/
  drops : ∀ id c f granted outbox roomFirst, h.find? id = some c → c.alive = true →
    c.writer = .idle → c.outbox.take = some (f, granted, outbox) →
    (∃ fault, f.toSocket = .error fault) →
      (h.step (.turn (.writer id) roomFirst)).find? id = some { c with outbox } ∧
      .writer id ∈ (h.step (.turn (.writer id) roomFirst)).ready ∧
      (h.step (.turn (.writer id) roomFirst)).history = h.history ∧
      (h.step (.turn (.writer id) roomFirst)).metrics.dropped = h.metrics.dropped + 1

section Screening

variable {τ : Type} [Transport τ] {h : Hub τ} {f : Frame} {id : String} {c : Connection τ}

theorem Frame.isSendable_eq_isOk (f : Frame) : f.isSendable = f.toSocket.isOk := by
  cases hsend : f.isSendable with
  | true =>
    obtain ⟨w, hw⟩ := exists_toSocket_of_isSendable hsend
    rw [hw]
    rfl
  | false =>
    obtain ⟨fault, hfault⟩ := isSendable_eq_false_iff.mp hsend
    rw [hfault]
    rfl

theorem losses_unsendable (b : List Entry) :
    losses .unsendable b = b.countP Entry.isRefused := by
  induction b with
  | nil => rfl
  | cons x rest ih =>
    have hx : ((x.loss?).toList.count .unsendable) = if x.isRefused then 1 else 0 := by
      cases x with
      | taken id f =>
        rw [Entry.loss?, Entry.isRefused, ← f.isSendable_eq_isOk]
        cases f.isSendable <;> rfl
      | tried id f o | sent id f t o | ended id f t o => cases o <;> rfl
      | unknown | received => rfl
    rw [losses, List.filterMap_cons, List.countP_cons, ← ih, losses, ← hx]
    cases x.loss? with
    | none => rfl
    | some l => rw [List.count_cons, Option.toList_some, List.count_singleton]

/-- Nothing is handed over but what can be put on the wire. -/
def Ledger.Clean (l : Ledger) : Prop :=
  ∀ id f cause, Happening.handed id f cause ∈ l.history → f.isSendable = true

theorem Ledger.Clean.step {l l' : Ledger} (step : Ledger.Step l l') (clean : l.Clean) :
    l'.Clean := by
  cases step with
  | pass found alive taken sendable =>
    intro id f cause hmem
    rcases List.mem_cons.mp hmem with heq | hmem
    · cases heq
      exact sendable
    · exact clean id f cause hmem
  | beat | part =>
    intro id f cause hmem
    rcases List.mem_cons.mp hmem with heq | hmem
    · cases heq
      decide
    · exact clean id f cause hmem
  | close | decline | put | redeem =>
    intro id f cause hmem
    exact clean id f cause ((List.mem_cons.mp hmem).resolve_left fun heq => by cases heq)
  | remove =>
    intro id f cause hmem
    have hmem := (List.mem_cons.mp hmem).resolve_left fun heq => by cases heq
    exact clean id f cause ((List.mem_cons.mp hmem).resolve_left fun heq => by cases heq)
  | refuse | join | withdraw | shed | ask | proceed => exact clean

/-- Handing over never fails for the reason that a frame is refused, if it is not. -/
theorem SocketLink.send_ne_notText {w : SocketFrame} (hw : f.toSocket = .ok w) (s : SocketLink)
    (now : Nat) (fault : Utf8.Fault) :
    (Transport.send now f s).1 ≠ .failed (.validation (.notText fault)) := by
  have hprogress : ∀ r : Written × SocketLink,
      (progress r).1 ≠ .failed (.validation (.notText fault)) := by
    rintro ⟨written, s⟩
    cases written <;> simp [progress, SocketFault.toError]
  change (SocketLink.send now f s).1 ≠ _
  rw [SocketLink.send, hw]
  dsimp only
  split
  · simp [SocketFault.toError]
  · exact hprogress _
  · simp [SocketFault.toError]

/-- A writer that finds a frame that would be refused takes it off the outbox, and that is all. -/
theorem Connection.writerTurn_of_refused {now : Nat} {config : SocketConfig}
    {granted : Option Ticket} {outbox : Outbox} (halive : c.alive = true)
    (hidle : c.writer = .idle) (htake : c.outbox.take = some (f, granted, outbox))
    (hrefused : f.isSendable = false) :
    c.writerTurn now config = { conn := { c with outbox }, again := true } := by
  have hturn : c.writerTurn now config = c.idleTurn now config := by rw [writerTurn, hidle]
  rw [hturn, idleTurn, if_neg (by simp [halive]), htake]
  dsimp only
  rw [sendFrame, if_neg (by simp [hrefused])]

theorem Hub.entries_writerTurn {granted : Option Ticket} {outbox : Outbox}
    (hc : h.find? id = some c) (halive : c.alive = true) (hidle : c.writer = .idle)
    (htake : c.outbox.take = some (f, granted, outbox)) (roomFirst : Nat → Bool) :
    h.entries (.turn (.writer id) roomFirst) = [.taken id f] := by
  have hqueued := Outbox.queued_of_take htake
  change Hub.writerEntries { h with ready := h.ready.erase (.writer id) } id = _
  rw [writerEntries]
  change ((((h.find? id).bind Connection.takes?).map (Entry.taken id)).toList) = _
  rw [hc, Option.bind_some, Connection.takes?, halive, hidle, hqueued]
  rfl

end Screening

section Runs

variable {τ : Type} [Transport τ] {h : Hub τ} {es : List (Event τ)} {config : SocketConfig}
  {origins : OriginPolicy} {handlers : List Handler} {now wallClock : Nat}

theorem Run.screens (run : Run (Hub.initial config origins handlers now wallClock) es h) :
    h.Screens (book (Hub.initial config origins handlers now wallClock) es) where
  handed id := by
    rw [run.balances.handed]
    exact List.filter_congr fun f _ => f.isSendable_eq_isOk
  dropped := ⟨run.balances.dropped.trans (Nat.zero_add _), losses_unsendable _⟩
  accepted id f cause hmem := by
    have clean : h.ledger.Clean :=
      run.keeps (fun step clean => clean.step step) (fun _ _ clean => clean) fun _ _ _ hmem =>
        absurd hmem List.not_mem_nil
    obtain ⟨w, hw⟩ := Frame.exists_toSocket_of_isSendable (clean id f cause hmem)
    exact ⟨⟨w, hw⟩, fun s now fault => SocketLink.send_ne_notText hw s now fault⟩
  drops id c f granted outbox roomFirst hc halive hidle htake hrefused := by
    have hrefused := Frame.isSendable_eq_false_iff.mpr hrefused
    obtain ⟨moves, hready⟩ := Hub.moves_writer hc roomFirst
    rw [Connection.writerTurn_of_refused halive hidle htake hrefused] at moves hready
    refine ⟨moves.find?_self, hready rfl, moves.history_eq, ?_⟩
    rw [(Hub.balances_step h (.turn (.writer id) roomFirst)).dropped,
      Hub.entries_writerTurn hc halive hidle htake]
    simp [Entry.loss?, hrefused]

/-- **Frames and their translations.** A frame is refused by a web socket if and only if it should
hold text and does not. Otherwise it comes back from there as it was, except that a close frame
comes back with its reason repaired; that happens only once. A web socket's frame comes back as it
was, except for the code of a close frame. The frames that would be refused are those that writers
drop: each is counted and none is handed over to a link, so that no connection ends because of
one. -/
theorem translation_round_trips
    (run : Run (Hub.initial config origins handlers now wallClock) es h) :
    (∀ f : Frame, f.Translates) ∧
    (∀ w : SocketFrame, w.toFrame.toSocket = .ok w.normalized) ∧
    h.Screens (book (Hub.initial config origins handlers now wallClock) es) :=
  ⟨Frame.translates, SocketFrame.toSocket_toFrame, run.screens⟩

end Runs

/-- Two sends to a connection, the first of a text frame that does not hold text. -/
def sendsNoText : List (Event MemoryLink) :=
  [.upgrade "a" (.ok {}) {}, .turn (.writer "a") Hub.teardownFirst,
    .ask (.toHandle "a" ⟨.text, [0xED, 0xA0, 0x80]⟩), .turn (.call 0) Hub.teardownFirst,
    .ask (.toHandle "a" (.ofText "é")), .turn (.call 1) Hub.teardownFirst,
    .turn (.writer "a") Hub.teardownFirst, .turn (.writer "a") Hub.teardownFirst]

theorem translation_round_trips_of_sendsNoText :
    ∃ h, Run (Hub.initial {} .listed [] 0 0) sendsNoText h ∧
      handed "a" h.history = [.ofText "é"] ∧ h.metrics.dropped = 1 ∧
      ∃ fault, Frame.toSocket ⟨.text, [0xED, 0xA0, 0x80]⟩ = .error fault := by
  have run : Run (Hub.initial {} .listed [] 0 0) sendsNoText _ :=
    .cons rfl (.of_always_allowed (by simp [Event.Allowed]) _)
  obtain ⟨translates, -, screens⟩ := translation_round_trips run
  refine ⟨_, run, (screens.handed "a").trans (by decide +kernel),
    screens.dropped.1.trans (by decide +kernel), (translates _).refused_iff.mpr ⟨rfl, ?_⟩⟩
  rw [← Utf8.isValid_iff]
  decide +kernel

end Switchboard
