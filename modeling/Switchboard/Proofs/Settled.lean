import Switchboard.Proofs.CloseReason
import Switchboard.Proofs.Heedful

/-!
# Nobody is stuck

When no task of a hub is ready, nothing happens before time passes. `nobody_stuck` says what the hub
looks like then, in every state of every run. Who still waits to send does so for a living
connection whose outbox is full and whose writer is inside a write that has not yet timed out, and
so is the writer of every living connection that has a frame in its outbox. The readers of dead
connections have stopped. No call is under way but those that have such a send.

At any time a call waits exactly as long as one of its sends does, and who waits for a connection
that is dead is ready and gives up in the next turn.

## Shape of the proof

Nearly everything is read off from three things that hold throughout a run. Who has something to do
is ready (`Run.heedful`), so that nothing is due when nobody is ready; who waits stands in line
(`Run.inOrder`); no slot is free while somebody stands in line (`Run.tight`).
-/

namespace Switchboard

/-- The writer of a connection is inside a write: the frame that was handed over last is pending,
and the write timeout since then has not passed. `handed` tells when frames were handed over. -/
def Connection.InWrite {τ : Type} (config : SocketConfig) (now : Nat) (handed : List Nat)
    (c : Connection τ) : Prop :=
  ∃ kind limit, c.writer = .sending kind limit ∧ now < limit ∧
    ∃ t ∈ handed.getLast?, limit = t + config.writeTimeout

namespace Hub

variable {τ : Type} {h h' : Hub τ} {id : String} {n : Nat} {f : Frame} {t : Ticket}
  {c : Connection τ}

theorem exists_inLine_iff : (∃ f, h.InLine id f t) ↔ (id, t.place) ∈ h.line t.call := by
  constructor
  · rintro ⟨f, places, reply, hc, hmem⟩
    rw [line_of_getElem? hc]
    exact hmem
  · intro hmem
    rw [line] at hmem
    cases hc : h.calls[t.call]? with
    | none =>
      rw [hc] at hmem
      cases hmem
    | some call =>
      rw [hc] at hmem
      cases call with
      | waiting f places reply => exact ⟨f, places, reply, hc, hmem⟩
      | requested r => cases hmem
      | finished reply => cases hmem
      | abandoned => cases hmem

theorem InOrder.inLine_iff (inOrder : h.InOrder) :
    (∃ f, h.InLine id f t) ↔ t ∈ h.pending id :=
  exists_inLine_iff.trans (inOrder.lined.mem_iff id t).symm

/-- The sends that wait, and the calls that wait for them. -/
structure Queues [Transport τ] (h : Hub τ) : Prop where
  /-- Who waits stands in line, and who stands in line waits. -/
  inLine_iff : ∀ id t, (∃ f, h.InLine id f t) ↔ t ∈ h.pending id
  /-- A call waits exactly as long as one of its sends does. -/
  waiting_iff : ∀ n, (∃ f places reply, h.calls[n]? = some (.waiting f places reply)) ↔
    ∃ id f t, t.call = n ∧ h.InLine id f t
  /-- Who waits for a dead connection is ready, and waits no more after his next turn. -/
  released : ∀ id f t c, h.InLine id f t → h.find? id = some c → c.alive = false →
    .call t.call ∈ h.ready ∧
      ∀ roomFirst f', ¬ (h.step (.turn (.call t.call) roomFirst)).InLine id f' t

/-- Nobody is stuck; `handed` tells of each connection when frames were handed over. -/
structure Unstuck (handed : String → List Nat) (h : Hub τ) : Prop where
  /-- Who waits to send waits for room in the outbox of a living connection that is full, and whose
  writer is inside a write. -/
  waits : ∀ id f t, h.InLine id f t → ∃ c, h.find? id = some c ∧ c.alive = true ∧
    t ∈ c.outbox.waiting ∧ c.outbox.queued.length = c.outbox.capacity ∧
      c.InWrite h.config h.now (handed id)
  /-- Where a frame is to be written, one is being written. -/
  queued : ∀ id c, h.find? id = some c → c.alive = true → c.outbox.queued ≠ [] →
    c.InWrite h.config h.now (handed id)
  readers : ∀ id c, h.find? id = some c → c.alive = false → c.reader = .stopped
  /-- A call that is not over has a send that waits. -/
  calls : ∀ n call, h.calls[n]? = some call →
    (call.frame? ≠ none ↔ ∃ id f t, t.call = n ∧ h.InLine id f t)

theorem InOrder.waiting_iff (inOrder : h.InOrder) :
    (∃ f places reply, h.calls[n]? = some (.waiting f places reply)) ↔
      ∃ id f t, t.call = n ∧ h.InLine id f t := by
  constructor
  · rintro ⟨f, places, reply, hc⟩
    obtain ⟨⟨id, p⟩, hmem⟩ := List.exists_mem_of_ne_nil places (inOrder.waits hc)
    exact ⟨id, f, ⟨n, p⟩, rfl, places, reply, hc, hmem⟩
  · rintro ⟨id, f, t, rfl, places, reply, hc, -⟩
    exact ⟨f, places, reply, hc⟩

/-! ## Who waits for a dead connection -/

/-- Who waits for a dead connection is not left waiting. -/
theorem notMem_resumeSends_of_dead (roomFirst : Nat → Bool) (n : Nat) (f : Frame)
    {places : List (String × Nat)} {h : Hub τ} {c : Connection τ} (hc : h.find? id = some c)
    (hdead : c.alive = false) (p : Nat) : (id, p) ∉ (resumeSends roomFirst n f places h).1 := by
  induction places generalizing h c with
  | nil => exact List.not_mem_nil
  | cons x rest ih =>
    obtain ⟨d, q⟩ := x
    obtain ⟨c', hc', steady, -⟩ := (spares_resumeSend h (roomFirst q) d f ⟨n, q⟩ id).conn c hc
    have hdead' : c'.alive = false := by
      by_contra halive
      rw [steady.alive_of (by simpa using halive)] at hdead
      cases hdead
    have hrest := ih hc' hdead'
    rw [resumeSends]
    dsimp only
    split
    · rename_i hwaits
      refine fun hmem => (List.mem_cons.mp hmem).elim (fun heq => ?_) hrest
      obtain ⟨rfl, rfl⟩ := Prod.mk.inj heq
      rw [resumeSend, hc] at hwaits
      dsimp only at hwaits
      rw [hdead] at hwaits
      split at hwaits
      · cases hwaits
      · rw [if_pos (by rfl)] at hwaits
        cases hwaits
    · exact hrest

theorem not_inLine_callTurn_of_dead (inLine : h.InLine id f t) (hc : h.find? id = some c)
    (hdead : c.alive = false) (roomFirst : Nat → Bool) (f' : Frame) :
    ¬ (h.callTurn roomFirst t.call).InLine id f' t := by
  obtain ⟨places, reply, hcall, -⟩ := inLine
  have hlt := (List.getElem?_eq_some_iff.mp hcall).1
  have hserves : h.Serves (resumeSends roomFirst t.call f places h).2 :=
    serves_resumeSends places (sends_of_open hcall rfl)
  intro hstill
  have hleft := exists_inLine_iff.mp ⟨f', hstill⟩
  rw [callTurn, hcall] at hleft
  dsimp only at hleft
  rw [line_settleCall (hserves.2 ▸ hlt), Function.update_self] at hleft
  exact notMem_resumeSends_of_dead roomFirst t.call f hc hdead t.place hleft

theorem queues_of_heedful [Transport τ] (inOrder : h.InOrder) (heedful : h.Heedful) :
    h.Queues where
  inLine_iff _ _ := inOrder.inLine_iff
  waiting_iff _ := inOrder.waiting_iff
  released id f t c inLine hc hdead := by
    have hpending : t ∈ c.outbox.pending := by
      rw [← pending_of_find? hc]
      exact inOrder.inLine_iff.mp ⟨f, inLine⟩
    constructor
    · refine heedful.issues id (.send t) ⟨c, hc, ?_⟩
      exact (List.mem_append.mp hpending).imp_right fun hmem => ⟨hdead, hmem⟩
    · exact fun roomFirst f' => not_inLine_callTurn_of_dead
        (h := { h with ready := h.ready.erase (.call t.call) }) inLine hc hdead roomFirst f'

/-! ## When nobody is ready -/

section Settled

variable {signs : String → List (Nat × Sign)} {handed : String → List Nat}

theorem Heedful.not_due (heedful : h.Heedful) (hsettled : h.ready = []) (hc : h.find? id = some c)
    (x : Chore) : ¬ c.Due h.now x := fun due => by
  have hready := heedful.issues id x ⟨c, hc, due⟩
  rw [hsettled] at hready
  cases hready

/-- A writer that has a frame to write and nothing to do is inside a write. -/
theorem inWrite_of_queued (heedful : h.Heedful) (hsettled : h.ready = [])
    (traced : h.Traced id (signs id) (handed id)) (hc : h.find? id = some c)
    (halive : c.alive = true) (hqueued : c.outbox.queued ≠ []) :
    c.InWrite h.config h.now (handed id) := by
  have hdone := heedful.not_due hsettled hc .write
  have hwriting := (traced c hc).writing halive
  rw [Connection.Due] at hdone
  rw [Connection.Writing] at hwriting
  cases hwriter : c.writer with
  | starting =>
    rw [hwriter] at hdone
    exact absurd trivial hdone
  | idle =>
    rw [hwriter] at hdone
    exact absurd (.inr (.inl hqueued)) hdone
  | sending kind limit =>
    rw [hwriter] at hdone
    exact ⟨kind, limit, hwriter, Nat.lt_of_not_le hdone,
      (traced c hc).sending kind limit halive hwriter⟩
  | sendingClose limit =>
    rw [hwriter] at hwriting
    cases hwriting
  | closingSink limit =>
    rw [hwriter] at hwriting
    cases hwriting
  | stopped =>
    rw [hwriter] at hwriting
    cases hwriting

/-- The outbox that somebody waits for is full: no slot is free, and none is kept for anybody. -/
theorem full_of_waiting (heedful : h.Heedful) (hsettled : h.ready = []) (tight : h.ledger.Tight)
    (flows : h.ledger.Flows id) (hc : h.find? id = some c) (ht : t ∈ c.outbox.pending) :
    c.alive = true ∧ t ∈ c.outbox.waiting ∧ c.outbox.queued.length = c.outbox.capacity ∧
      c.outbox.queued ≠ [] := by
  have houtbox := Ledger.outbox?_of_find? (find?_ledger_of_some hc)
  have flow := flows.flow _ houtbox
  have hnobody : c.outbox.granted = [] := by
    by_contra hgranted
    obtain ⟨t', ht'⟩ := List.exists_mem_of_ne_nil _ hgranted
    exact heedful.not_due hsettled hc (.send t') (.inl ht')
  have hwaits : t ∈ c.outbox.waiting := by
    rwa [Outbox.pending, hnobody, List.nil_append] at ht
  have halive : c.alive = true := by
    by_contra hdead
    exact heedful.not_due hsettled hc (.send t) (.inr ⟨by simpa using hdead, hwaits⟩)
  have hused : c.outbox.used = c.outbox.queued.length := by
    rw [Outbox.used, hnobody, List.length_nil, Nat.add_zero]
  have hfull : c.outbox.capacity ≤ c.outbox.used :=
    tight id _ houtbox (List.ne_nil_of_mem hwaits)
  have hfits : c.outbox.used ≤ c.outbox.capacity := flow.used_le
  have hpos : 1 ≤ c.outbox.capacity := flow.capacity_pos
  refine ⟨halive, hwaits, by omega, fun hempty => ?_⟩
  rw [hempty, List.length_nil] at hused
  omega

theorem unstuck_of_settled (inOrder : h.InOrder) (heedful : h.Heedful) (hsettled : h.ready = [])
    (tight : h.ledger.Tight) (flows : ∀ id, h.ledger.Flows id)
    (traced : ∀ id, h.Traced id (signs id) (handed id)) : h.Unstuck handed where
  waits id f t inLine := by
    have hpending := inOrder.inLine_iff.mp ⟨f, inLine⟩
    obtain ⟨c, hc, ht⟩ := exists_find?_of_mem_pending hpending
    obtain ⟨halive, hwaits, hfull, hqueued⟩ :=
      full_of_waiting heedful hsettled tight (flows id) hc ht
    exact ⟨c, hc, halive, hwaits, hfull,
      inWrite_of_queued heedful hsettled (traced id) hc halive hqueued⟩
  queued id c hc halive hqueued :=
    inWrite_of_queued heedful hsettled (traced id) hc halive hqueued
  readers id c hc hdead := by
    have hdone := heedful.not_due hsettled hc .read
    rw [Connection.Due] at hdone
    cases hreader : c.reader with
    | starting =>
      rw [hreader] at hdone
      exact absurd trivial hdone
    | reading deadline =>
      rw [hreader] at hdone
      exact absurd (.inl hdead) hdone
    | stopped => rfl
  calls n call hcall := by
    rw [← inOrder.waiting_iff]
    constructor
    · intro hopen
      cases call with
      | requested r =>
        have hready := heedful.asked n r hcall
        rw [hsettled] at hready
        cases hready
      | waiting f places reply => exact ⟨f, places, reply, hcall⟩
      | finished reply => exact absurd rfl hopen
      | abandoned => exact absurd rfl hopen
    · rintro ⟨f, places, reply, hc⟩
      obtain rfl := Option.some.inj (hcall.symm.trans hc)
      exact Option.some_ne_none f

end Settled

end Hub

section Runs

variable {τ : Type} [Transport τ] {config : SocketConfig} {origins : OriginPolicy}
  {handlers : List Handler} {now wallClock : Nat} {h start : Hub τ} {es : List (Event τ)}

/-- **Nobody is stuck.** In every state of a run a call waits exactly as long as one of its sends
stands in line, and who stands in line for a connection that was torn down is ready and stands there
no more after his next turn. In a state in which no task is ready, everybody who waits does so for a
living connection with a full outbox and a writer inside a write that has not timed out; so is every
writer that has a frame to write; the readers of dead connections have stopped; and only calls with
a send in line are under way. -/
theorem nobody_stuck (hstart : start = Hub.initial config origins handlers now wallClock)
    (run : Run start es h) :
    h.Queues ∧ (h.ready = [] →
      h.Unstuck fun id => instants (Happening.isHanded id) (chronicle start es)) := by
  subst hstart
  have inOrder := run.inOrder (Hub.inOrder_initial config origins handlers now wallClock)
  have heedful := run.heedful (Hub.inOrder_initial config origins handlers now wallClock)
    (Hub.heedful_initial config origins handlers now wallClock)
  have tight : h.ledger.Tight := run.tight fun id o ho => by cases ho
  have traced : ∀ id, h.Traced id _ _ := fun id => run.traced fun c hc => by cases hc
  exact ⟨Hub.queues_of_heedful inOrder heedful, fun hsettled =>
    Hub.unstuck_of_settled inOrder heedful hsettled tight run.flows traced⟩

end Runs

/-- A peer that takes nothing, and an outbox for one frame: the first frame is being written, the
second is in the outbox, and the third waits for its slot. -/
def waitsForStalledPeer : List (Event ScriptedLink) :=
  [.upgrade "a" (.ok { script := .stalled 0 }) { capacity := some 1 },
    .turn (.writer "a") Hub.teardownFirst, .turn (.reader "a") Hub.teardownFirst,
    .turn (.reader "a") Hub.teardownFirst, .turn (.writer "a") Hub.teardownFirst,
    .ask (.toHandle "a" ⟨.binary, [1]⟩), .turn (.call 0) Hub.teardownFirst,
    .turn (.writer "a") Hub.teardownFirst, .ask (.toHandle "a" ⟨.binary, [2]⟩),
    .turn (.call 1) Hub.teardownFirst, .ask (.toAll ⟨.binary, [3]⟩),
    .turn (.call 2) Hub.teardownFirst]

theorem nobody_stuck_of_waitsForStalledPeer :
    ∃ h, Run (Hub.initial { writeTimeout := 10 } .listed [] 5 0) waitsForStalledPeer h ∧
      h.ready = [] ∧ h.InLine "a" ⟨.binary, [3]⟩ ⟨2, 0⟩ ∧
      ∃ c, h.find? "a" = some c ∧ c.outbox.queued.length = c.outbox.capacity ∧
        c.InWrite h.config 5 [5] := by
  have run : Run (Hub.initial { writeTimeout := 10 } .listed [] 5 0) waitsForStalledPeer _ :=
    .of_allowed (by decide +kernel)
  have inLine : (waitsForStalledPeer.foldl Hub.step
      (Hub.initial { writeTimeout := 10 } .listed [] 5 0)).InLine "a" ⟨.binary, [3]⟩ ⟨2, 0⟩ :=
    ⟨[("a", 0)], .targeted 1, by decide +kernel, by decide⟩
  obtain ⟨-, hunstuck⟩ := nobody_stuck rfl run
  have unstuck := hunstuck (by decide +kernel)
  obtain ⟨c, hc, -, -, hfull, hwrite⟩ := unstuck.waits "a" _ _ inLine
  exact ⟨_, run, by decide +kernel, inLine, c, hc, hfull, hwrite⟩

end Switchboard
