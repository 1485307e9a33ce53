import Mathlib.Logic.Function.Basic
import Switchboard.Proofs.Stories

/-!
# Who is in line

A send that has to wait is known in two places: the outbox of its connection holds its ticket, in
line or with a slot kept for it, and its call holds the connection and its place. `Hub.Lined` says
that the two agree, and `Run.inOrder` that they do so in every state of a run: nobody is forgotten
in a line, and nobody waits without standing in one.

## Shape of the proof

What is not a turn of a call and abandons none leaves the tickets where they are, if it moves some
from the line to the slots that are kept (`Hub.SameLines`). In a turn of a call the tickets change
one by one. `Hub.Lined` therefore takes the places of every call from a function, which says for the
call whose turn it is which of its sends are still to be seen to.
-/

namespace Switchboard

/-- The sends that a call waits for: the connection and the place of each. -/
def Call.places : Call → List (String × Nat)
  | .waiting _ places _ => places
  | .requested _ | .finished _ | .abandoned => []

namespace Outbox

variable {o o' : Outbox} {f : Frame} {t : Ticket}

/-- A slot is given to the first in line, or none is free or nobody in line. -/
theorem grant_cases (o : Outbox) :
    o.grant = (none, o) ∨ ∃ first rest, o.waiting = first :: rest ∧
      o.grant = (some first, { o with granted := o.granted ++ [first], waiting := rest }) := by
  rw [grant]
  split
  · exact .inl rfl
  · rename_i first rest hwaiting
    split
    · exact .inr ⟨first, rest, hwaiting, rfl⟩
    · exact .inl rfl

theorem pending_grant (o : Outbox) : o.grant.2.pending = o.pending := by
  rcases o.grant_cases with hnone | ⟨first, rest, hwaiting, hsome⟩
  · rw [hnone]
  · rw [hsome]
    simp only [pending, hwaiting, List.append_assoc, List.singleton_append]

/-- The first frame leaves, and its slot is given to the first in line. -/
theorem take_eq_grant {granted : Option Ticket} (h : o.take = some (f, granted, o')) :
    ∃ rest, o.queued = f :: rest ∧ ({ o with queued := rest } : Outbox).grant = (granted, o') := by
  rw [take] at h
  split at h
  · cases h
  · rename_i rest hqueued
    obtain ⟨rfl, hrest⟩ := Prod.mk.inj (Option.some.inj h)
    exact ⟨rest, hqueued, hrest⟩

theorem pending_of_take {granted : Option Ticket} (h : o.take = some (f, granted, o')) :
    o'.pending = o.pending := by
  obtain ⟨rest, -, rfl⟩ := take_eq_some h
  exact pending_grant _

theorem pending_join (o : Outbox) (t : Ticket) : (o.join t).pending = o.pending ++ [t] :=
  (List.append_assoc ..).symm

theorem pending_redeem (hgranted : o.isGranted t = true) (f : Frame) :
    (o.redeem t f).pending = o.pending.erase t := by
  have hmem : t ∈ o.granted := by simpa [isGranted] using hgranted
  rw [pending, pending, List.erase_append_left _ hmem]
  rfl

theorem pending_withdraw (hnodup : o.pending.Nodup) (t : Ticket) :
    (o.withdraw t).2.pending = o.pending.erase t := by
  have herase : (o.withdraw t).2.pending = o.granted.erase t ++ o.waiting.erase t :=
    pending_grant _
  rw [herase, pending]
  by_cases hmem : t ∈ o.granted
  · -- who has a slot is not in line
    have hnot : t ∉ o.waiting := fun hwaits =>
      (List.nodup_append.mp hnodup).2.2 t hmem t hwaits rfl
    rw [List.erase_append_left _ hmem, List.erase_of_not_mem hnot]
  · rw [List.erase_append_right _ hmem, List.erase_of_not_mem hmem]

/-! ## No slot is free while somebody is in line -/

/-- Nobody is in line while a slot is free. -/
def Tight (o : Outbox) : Prop := o.waiting ≠ [] → o.capacity ≤ o.used

/-- One free slot may be given away. -/
theorem tight_grant (hone : o.waiting ≠ [] → o.capacity ≤ o.used + 1) : o.grant.2.Tight := by
  rw [grant]
  split
  · rename_i hempty
    exact fun hwaits => absurd hempty hwaits
  · rename_i first rest hwaiting
    have hone := hone (by simp [hwaiting])
    split
    · intro _
      simp only [used, List.length_append, List.length_singleton] at hone ⊢
      omega
    · rename_i hfull
      exact fun _ => Nat.le_of_not_lt hfull

theorem tight_put (hroom : o.hasRoom = true) (f : Frame) : (o.put f).Tight := by
  obtain ⟨-, hempty⟩ := Bool.and_eq_true_iff.mp hroom
  exact fun hwaits => absurd (List.isEmpty_iff.mp hempty) hwaits

theorem Tight.redeem (tight : o.Tight) (hgranted : o.isGranted t = true) (f : Frame) :
    (o.redeem t f).Tight := by
  intro hwaits
  rw [used_redeem hgranted f]
  exact tight hwaits

theorem Tight.join (tight : o.Tight) (hfull : o.hasRoom = false) (t : Ticket) :
    (o.join t).Tight := by
  intro _
  change o.capacity ≤ o.used
  by_cases hempty : o.waiting = []
  · have hfull : ¬ o.used < o.capacity := by simpa [hasRoom, hempty] using hfull
    exact Nat.le_of_not_lt hfull
  · exact tight hempty

theorem Tight.withdraw (tight : o.Tight) (t : Ticket) : (o.withdraw t).2.Tight := by
  refine tight_grant fun hwaits => ?_
  have hwaits : o.waiting ≠ [] := fun hempty => hwaits (by simp [hempty])
  have hused := tight hwaits
  have herase : o.granted.length ≤ (o.granted.erase t).length + 1 := by
    rw [List.length_erase]
    split <;> omega
  simp only [used] at hused ⊢
  omega

theorem Tight.take (tight : o.Tight) {granted : Option Ticket}
    (htake : o.take = some (f, granted, o')) : o'.Tight := by
  obtain ⟨rest, hqueued, rfl⟩ := take_eq_some htake
  refine tight_grant fun hwaits => ?_
  have hused := tight hwaits
  simp only [used, hqueued, List.length_cons] at hused ⊢
  omega

end Outbox

namespace Ledger

variable {l l' : Ledger} {id : String}

/-- No slot of any connection is free while somebody is in line for it. -/
def Tight (l : Ledger) : Prop := ∀ id o, l.outbox? id = some o → o.Tight

theorem Tight.mapOutbox (tight : l.Tight) {a : Account} (found : l.find? id = some a)
    {f : Outbox → Outbox} (hf : a.outbox.Tight → (f a.outbox).Tight) :
    (l.mapOutbox id f).Tight := by
  intro d o ho
  rw [outbox?_mapOutbox_at] at ho
  split at ho
  · rename_i hd
    subst hd
    have hoa := outbox?_of_find? found
    rw [hoa, Option.map_some, Option.some.injEq] at ho
    exact ho ▸ hf (tight d _ hoa)
  · exact tight d o ho

theorem Tight.enter (tight : l.Tight) {a : Account} (found : l.find? id = some a) (f : Frame)
    (s : Sender) {put : Outbox → Outbox} (hput : a.outbox.Tight → (put a.outbox).Tight) :
    (l.enter id f s put).Tight := tight.mapOutbox found hput

theorem Tight.take (tight : l.Tight) {a : Account} (found : l.find? id = some a) {f : Frame}
    {t : Option Ticket} {o : Outbox} (taken : a.outbox.take = some (f, t, o)) :
    (l.mapOutbox id fun _ => o).Tight := tight.mapOutbox found fun tight => tight.take taken

theorem Tight.close (tight : l.Tight) (id : String) (reason : CloseReason) (lifetime : Binary64) :
    (l.close id reason lifetime).Tight := by
  intro d o ho
  rw [outbox?_close] at ho
  exact tight d o ho

theorem Step.tight (step : Step l l') (tight : l.Tight) : l'.Tight := by
  cases step with
  | refuse | decline | beat | part | ask | proceed => exact tight
  | @close id a reason lifetime => exact tight.close id reason lifetime
  | @remove id a lifetime => exact tight.close id .removed lifetime
  | @put id a f s found alive room =>
    exact tight.enter found f s fun _ => Outbox.tight_put room f
  | @redeem id a f t found granted =>
    exact tight.enter found f (.call t) fun tight => tight.redeem granted f
  | @join id a t found alive full => exact tight.mapOutbox found fun tight => tight.join full t
  | @withdraw id a t found => exact tight.mapOutbox found fun tight => tight.withdraw t
  | @pass id a f t o found alive taken => exact tight.take found taken
  | @shed id a f t o found alive taken => exact tight.take found taken

theorem tight_enroll {m : Member} (hnew : l.find? m.id = none) (capacity : Nat) (tight : l.Tight) :
    (l.enroll m capacity).Tight := by
  intro d o ho
  rw [outbox?_enroll hnew] at ho
  split at ho
  · obtain rfl := Option.some.inj ho
    exact fun hwaits => absurd rfl hwaits
  · exact tight d o ho

end Ledger

namespace Connection

variable {τ : Type} [Transport τ] {now limit : Nat} {config : SocketConfig} {c : Connection τ}

/-! ## The outbox in a turn of the writer -/

theorem outbox_failWriter (now : Nat) (c : Connection τ) (reason : CloseReason) :
    (c.failWriter now reason).conn.outbox = c.outbox := by
  rw [failWriter, conn_torn]
  rfl

theorem outbox_afterSend (now : Nat) (c : Connection τ) (kind : FrameKind) (limit : Nat)
    (p : Progress) : (c.afterSend now kind limit p).conn.outbox = c.outbox := by
  rcases afterSend_cases now c kind limit p with heq | ⟨-, heq⟩ | ⟨reason, -, heq⟩
  · rw [heq]
  · rw [heq]
  · rw [heq, outbox_failWriter]

theorem outbox_sendFrame (now : Nat) (config : SocketConfig) (c : Connection τ) (f : Frame)
    (cause : Cause) : (c.sendFrame now config f cause).conn.outbox = c.outbox := by
  rw [sendFrame]
  split
  · exact outbox_afterSend now { c with link := (Transport.send now f c.link).2 } f.kind _ _
  · rfl

theorem outbox_finishClose (now : Nat) (c : Connection τ) (limit : Nat) (wait : WriterPhase)
    (p : Progress) : (c.finishClose now limit wait p).conn.outbox = c.outbox := by
  cases p with
  | done => rfl
  | failed e => rfl
  | panicked p => exact outbox_failWriter now c .taskFailed
  | pending =>
    rw [finishClose]
    split <;> rfl

theorem outbox_afterCloseFrame (now : Nat) (c : Connection τ) (limit : Nat) (p : Progress) :
    (c.afterCloseFrame now limit p).conn.outbox = c.outbox := by
  cases p with
  | done =>
    exact outbox_finishClose now { c with link := (Transport.close now c.link).2 } limit _ _
  | failed e => exact outbox_finishClose now c limit (.sendingClose limit) (.failed e)
  | panicked p => exact outbox_finishClose now c limit (.sendingClose limit) (.panicked p)
  | pending => exact outbox_finishClose now c limit (.sendingClose limit) .pending

theorem pending_idleTurn (now : Nat) (config : SocketConfig) (c : Connection τ) :
    (c.idleTurn now config).conn.outbox.pending = c.outbox.pending := by
  rw [idleTurn]
  split
  · exact congrArg Outbox.pending (outbox_afterCloseFrame now
      { c with link := (Transport.send now .close c.link).2 } _ _)
  · split
    · rename_i f granted o htake
      rw [outbox_sendFrame now config { c with outbox := o } f .queued]
      exact Outbox.pending_of_take htake
    · split
      · exact congrArg Outbox.pending (outbox_sendFrame now config
          { c with heartbeat := Hub.nextHeartbeat now c.heartbeat config.heartbeat } .ping
            .heartbeat)
      · rfl

/-- The writer takes nobody out of line. -/
theorem pending_writerTurn (now : Nat) (config : SocketConfig) (c : Connection τ) :
    (c.writerTurn now config).conn.outbox.pending = c.outbox.pending := by
  have hlink : ∀ link, ({ c with link } : Connection τ).outbox = c.outbox := fun _ => rfl
  rw [writerTurn]
  split
  · rfl
  · rfl
  · exact pending_idleTurn now config c
  · exact congrArg Outbox.pending ((outbox_afterSend now _ _ _ _).trans (hlink _))
  · exact congrArg Outbox.pending ((outbox_afterCloseFrame now _ _ _).trans (hlink _))
  · exact congrArg Outbox.pending ((outbox_afterCloseFrame now c _ .done).trans rfl)

end Connection

namespace Hub

variable {τ : Type} {h h' h'' : Hub τ} {id d : String} {c : Connection τ}

/-- The tickets of those who wait to send to a connection, if there is one. -/
def pending (h : Hub τ) (id : String) : List Ticket :=
  ((h.find? id).map fun c => c.outbox.pending).getD []

theorem pending_of_find? (hc : h.find? id = some c) : h.pending id = c.outbox.pending := by
  rw [pending, hc]
  rfl

theorem pending_of_find?_none (hnone : h.find? id = none) : h.pending id = [] := by
  rw [pending, hnone]
  rfl

theorem exists_find?_of_mem_pending {t : Ticket} (ht : t ∈ h.pending id) :
    ∃ c, h.find? id = some c ∧ t ∈ c.outbox.pending := by
  cases hc : h.find? id with
  | none =>
    rw [pending_of_find?_none hc] at ht
    cases ht
  | some c => exact ⟨c, rfl, pending_of_find? hc ▸ ht⟩

/-! ## What leaves the lines as they are -/

/-- Nobody went in line or out. -/
def SameLines (h h' : Hub τ) : Prop := ∀ id, h'.pending id = h.pending id

theorem SameLines.refl (h : Hub τ) : h.SameLines h := fun _ => rfl

theorem SameLines.trans (first : h.SameLines h') (second : h'.SameLines h'') : h.SameLines h'' :=
  fun id => (second id).trans (first id)

theorem sameLines_of_connections_eq (heq : h'.connections = h.connections) : h.SameLines h' :=
  fun id => by rw [pending, pending, find?_of_connections_eq heq]

theorem Rouses.sameLines (rouses : h.Rouses h') : h.SameLines h' := by
  obtain ⟨ready, rfl, -⟩ := rouses
  exact .refl h

theorem sameLines_update {g : Connection τ → Connection τ} (hg : ∀ c, (g c).member = c.member)
    (hpending : ∀ c, h.find? d = some c → (g c).outbox.pending = c.outbox.pending) :
    h.SameLines (h.update d g) := by
  intro id
  rw [pending, pending, find?_update hg]
  split
  · rename_i heq
    subst heq
    cases hc : h.find? id with
    | none => rfl
    | some c => exact hpending c hc
  · rfl

theorem sameLines_teardown (h : Hub τ) (id : String) (reason : CloseReason) :
    h.SameLines (h.teardown id reason).2 := by
  rcases teardown_cases h id reason with ⟨c, -, hc, halive, -⟩ | hnothing
  · have hdead : h.SameLines (h.update id fun c => { c with alive := false }) :=
      sameLines_update (fun _ => rfl) fun _ _ => rfl
    exact hdead.trans
      (sameLines_of_connections_eq (teardown_of_alive_torn hc halive reason).connections_eq)
  · rw [hnothing]
    exact .refl h

theorem sameLines_remove (h : Hub τ) (id : String) : h.SameLines (h.remove id).2 := by
  rw [remove]
  cases h.registry.lookup id with
  | none => exact .refl h
  | some m => exact sameLines_teardown h m.id .removed

theorem sameLines_putFrame (h : Hub τ) (id : String) (f : Frame) (s : Sender) :
    h.SameLines (h.putFrame id f s) := by
  have hput : h.SameLines (h.update id fun c => { c with outbox := c.outbox.put f }) :=
    sameLines_update (fun _ => rfl) fun _ _ => rfl
  exact hput.trans (rouses_wakeWriter _ id).sameLines

theorem Deeds.sameLines (deeds : Deeds id h h') : h.SameLines h' := by
  induction deeds with
  | refl => exact .refl h
  | tail _ deed ih =>
    refine ih.trans ?_
    cases deed with
    | aside | ask => exact .refl _
    | wake t => exact (rouses_wake _ t).sameLines
    | handle g => exact sameLines_update (fun _ => rfl) fun _ _ => rfl
    | offer f => exact sameLines_putFrame _ id f .offer
    | remove => exact sameLines_remove _ id

/-- What is done for one connection leaves the lines as they are if it does so with its own. -/
theorem Within.sameLines (within : Within d h h') (hown : h'.pending d = h.pending d) :
    h.SameLines h' := by
  intro id
  by_cases hid : id = d
  · exact hid ▸ hown
  · rw [pending, pending, within.find?_eq id hid]

theorem sameLines_accept (h : Hub τ) (d : String) (link : τ) (o : ConnectOptions) :
    h.SameLines (h.accept d link o).2 := by
  rw [accept]
  dsimp only
  split
  · exact .refl h
  · have hopened : ∀ (x : Connection τ) (registry : Registry), x.outbox.pending = [] →
        h.SameLines { h with connections := h.connections ++ [x], registry } := by
      intro x registry hempty id
      have hfind : ({ h with connections := h.connections ++ [x], registry } : Hub τ).find? id =
          (h.find? id).or ([x].find? fun c => c.id = id) := List.find?_append
      rw [pending, pending, hfind]
      cases h.find? id with
      | some c => rfl
      | none => by_cases hx : x.id = id <;> simp [hx, hempty]
    exact (hopened _ _ rfl).trans
      ((rouses_wake _ (.writer d)).trans (rouses_wake _ (.reader d))).sameLines

theorem sameLines_startCall (h : Hub τ) (r : SendOrder) : h.SameLines (h.startCall r).2 :=
  (rouses_wake (h.addCall r).2 _).sameLines

section Events

variable [Transport τ]

theorem sameLines_writerTurn (h : Hub τ) (id : String) : h.SameLines (h.writerTurn id).2 := by
  cases hc : h.find? id with
  | none =>
    rw [writerTurn, hc]
    exact .refl h
  | some c =>
    have makes := makes_writerTurn hc
    refine makes.gets.within.sameLines ?_
    rw [pending_of_find? makes.gets.find?_self, pending_of_find? hc]
    exact c.pending_writerTurn h.now h.config

theorem sameLines_readerTurn (h : Hub τ) (id : String) : h.SameLines (h.readerTurn id).2 := by
  cases hc : h.find? id with
  | none =>
    rw [readerTurn, hc]
    exact .refl h
  | some c =>
    obtain ⟨h', makes, hp⟩ := reads_readerTurn hc
    have hmade : h.SameLines h' := by
      refine makes.gets.within.sameLines ?_
      rw [pending_of_find? makes.gets.find?_self, pending_of_find? hc,
        (c.keepsWriter_readerTurn h.now h.config).outbox_eq]
    rw [hp]
    cases c.dispatched? h.now h.config with
    | none => exact hmade
    | some f => exact hmade.trans (deeds_dispatch h' _ f).sameLines

theorem sameLines_poll {t : Task} (ht : ∀ n, t ≠ .call n) (h : Hub τ) (roomFirst : Nat → Bool) :
    h.SameLines (h.poll roomFirst t) := by
  have hturn : h.SameLines (({ h with ready := h.ready.erase t } : Hub τ).turn roomFirst t).2 := by
    cases t with
    | writer d => exact sameLines_writerTurn { h with ready := h.ready.erase (.writer d) } d
    | reader d => exact sameLines_readerTurn { h with ready := h.ready.erase (.reader d) } d
    | call n => exact absurd rfl (ht n)
  rw [poll]
  dsimp only
  split <;> exact hturn

/-- What is neither a turn of a call nor abandons one moves nobody in line or out. -/
theorem sameLines_step {e : Event τ} (hturn : ∀ n roomFirst, e ≠ .turn (.call n) roomFirst)
    (habandon : ∀ n, e ≠ .abandon n) (h : Hub τ) : h.SameLines (h.step e) := by
  cases e with
  | upgrade id made o =>
    cases made with
    | error e => exact .refl h
    | ok link => exact sameLines_accept h id link o
  | upgradeFailed reason => exact .refl h
  | ask r => exact sameLines_startCall h r
  | abandon n => exact absurd rfl (habandon n)
  | remove id => exact sameLines_remove h id
  | request s r =>
    obtain ⟨errand, hasks⟩ := Http.exists_asks τ r
    obtain ⟨metrics, log, heq⟩ := hasks s h
    rw [heq]
    cases errand with
    | look => exact .refl h
    | remove id => exact sameLines_remove h id
    | send order => exact sameLines_startCall h order
  | act id script => exact (deeds_runScript id script h).sameLines
  | peer id act =>
    change h.SameLines (h.peerActs id _).2
    rw [peerActs]
    cases h.find? id with
    | none => exact .refl h
    | some c =>
      have hlink : h.SameLines (h.setLink id (act c.link)) := by
        have hupdate : h.SameLines (h.update id fun x => { x with link := act c.link }) :=
          sameLines_update (fun _ => rfl) fun _ _ => rfl
        rw [setLink]
        split
        · exact hupdate.trans (rouses_wakeReader _ id).sameLines
        · exact hupdate
      exact hlink.trans (rouses_wakeBlockedWriter _ id).sameLines
  | turn t roomFirst => exact sameLines_poll (fun n ht => hturn n roomFirst (ht ▸ rfl)) h roomFirst
  | pass now wallClock => exact (rouses_moveClock h now).sameLines

end Events

/-! ## The sends that a call waits for -/

/-- The sends of a call that wait: the connection and the place of each. -/
def line (h : Hub τ) (n : Nat) : List (String × Nat) := (h.calls[n]?).elim [] Call.places

theorem line_of_getElem? {n : Nat} {call : Call} (hc : h.calls[n]? = some call) :
    h.line n = call.places := by
  rw [line, hc]
  rfl

/-- Who is asked for does not wait yet. -/
theorem Asks.line_eq (asks : h.Asks h') : h'.line = h.line := by
  funext n
  cases hc : h.calls[n]? with
  | some call => rw [line, line, asks.getElem? hc, hc]
  | none =>
    cases hc' : h'.calls[n]? with
    | none => rw [line, line, hc, hc']
    | some call =>
      rcases asks.of_getElem? hc' with hold | ⟨r, rfl⟩
      · rw [hc] at hold
        cases hold
      · rw [line, line, hc, hc']
        rfl

theorem line_setCall {n : Nat} (hlt : n < h.calls.length) (call : Call) :
    (h.setCall n call).line = Function.update h.line n call.places := by
  funext m
  by_cases hm : m = n
  · subst hm
    rw [Function.update_self, line, setCall, List.getElem?_set_self hlt]
    rfl
  · rw [Function.update_of_ne hm, line, line, setCall, List.getElem?_set_ne (Ne.symm hm)]

theorem line_settleCall {n : Nat} (hlt : n < h.calls.length) (f : Frame)
    (left : List (String × Nat)) (reply : Reply) :
    (h.settleCall n f left reply).line = Function.update h.line n left := by
  rw [settleCall, line_setCall hlt]
  cases left <;> rfl

/-- Those who wait to send are those whose call waits for it: `line` tells of every call for which
of its sends that is. Each has one place, in its call and in the outbox. -/
structure Lined (line : Nat → List (String × Nat)) (h : Hub τ) : Prop where
  mem_iff : ∀ id t, t ∈ h.pending id ↔ (id, t.place) ∈ line t.call
  once : ∀ id, (h.pending id).Nodup
  places : ∀ n, ((line n).map Prod.snd).Nodup

variable {line : Nat → List (String × Nat)} {n p : Nat} {f : Frame}

theorem SameLines.lined (same : h.SameLines h') (lined : Lined line h) : Lined line h' where
  mem_iff id t := by rw [same id, lined.mem_iff]
  once id := by
    rw [same id]
    exact lined.once id
  places := lined.places

/-- A send went in line. -/
theorem Lined.join (lined : Lined line h) (hnew : p ∉ (line n).map Prod.snd)
    (hjoin : h'.pending = Function.update h.pending id (h.pending id ++ [⟨n, p⟩])) :
    Lined (Function.update line n (line n ++ [(id, p)])) h' where
  mem_iff d t := by
    obtain ⟨m, q⟩ := t
    rw [hjoin]
    by_cases hm : m = n
    · subst hm
      rw [Function.update_self, List.mem_append, List.mem_singleton, Prod.mk.injEq,
        ← lined.mem_iff d ⟨m, q⟩]
      by_cases hd : d = id
      · subst hd
        rw [Function.update_self, List.mem_append, List.mem_singleton, Ticket.mk.injEq]
        simp
      · rw [Function.update_of_ne hd]
        simp [hd]
    · rw [Function.update_of_ne hm, ← lined.mem_iff d ⟨m, q⟩]
      by_cases hd : d = id
      · subst hd
        rw [Function.update_self, List.mem_append, List.mem_singleton, Ticket.mk.injEq]
        simp [hm]
      · rw [Function.update_of_ne hd]
  once d := by
    rw [hjoin]
    by_cases hd : d = id
    · subst hd
      rw [Function.update_self, List.nodup_append]
      refine ⟨lined.once d, List.nodup_singleton _, fun t ht t' ht' heq => ?_⟩
      obtain rfl := List.mem_singleton.mp ht'
      rw [heq, lined.mem_iff] at ht
      exact hnew (List.mem_map.mpr ⟨_, ht, rfl⟩)
    · rw [Function.update_of_ne hd]
      exact lined.once d
  places m := by
    by_cases hm : m = n
    · subst hm
      rw [Function.update_self, List.map_append, List.nodup_append]
      refine ⟨lined.places m, List.nodup_singleton _, fun q hq q' hq' heq => ?_⟩
      obtain rfl := List.mem_singleton.mp hq'
      exact hnew (heq ▸ hq)
    · rw [Function.update_of_ne hm]
      exact lined.places m

/-- A send went out of line. -/
theorem Lined.leave (lined : Lined line h) {before rest : List (String × Nat)}
    (hline : line n = before ++ (id, p) :: rest)
    (hleave : h'.pending = Function.update h.pending id ((h.pending id).erase ⟨n, p⟩)) :
    Lined (Function.update line n (before ++ rest)) h' := by
  have hnodup : ((before ++ (id, p) :: rest).map Prod.snd).Nodup := hline ▸ lined.places n
  have hgone : ∀ d, (d, p) ∉ before ++ rest := fun d hmem => by
    have hperm : ((id, p) :: (before ++ rest)).Perm (before ++ (id, p) :: rest) :=
      List.perm_middle.symm
    exact notMem_of_nodup_cons ((hperm.map Prod.snd).nodup_iff.mpr hnodup) hmem
  have hstays : ∀ d q, q ≠ p → ((d, q) ∈ before ++ rest ↔ (d, q) ∈ line n) := fun d q hq => by
    rw [hline, List.mem_append, List.mem_append, mem_cons_of_ne (Ne.symm hq)]
  refine ⟨fun d t => ?_, fun d => ?_, fun m => ?_⟩
  · have ht : t = ⟨n, p⟩ ↔ t.call = n ∧ t.place = p := by
      obtain ⟨m, q⟩ := t
      simp
    have hmem : t ∈ h'.pending d ↔ t ∈ h.pending d ∧ ¬ (t = ⟨n, p⟩) := by
      rw [hleave]
      by_cases hd : d = id
      · subst hd
        rw [Function.update_self, (lined.once d).mem_erase_iff, and_comm]
      · rw [Function.update_of_ne hd]
        refine ⟨fun hmem => ⟨hmem, ?_⟩, fun hmem => hmem.1⟩
        -- the send that left was in line at the one connection only
        rintro rfl
        have hplace : (d, p) ∈ line n := (lined.mem_iff d _).mp hmem
        have hplace' : (id, p) ∈ line n := by rw [hline]; simp
        exact hd (congrArg Prod.fst (List.inj_on_of_nodup_map (lined.places n) hplace hplace' rfl))
    rw [hmem, lined.mem_iff, ht]
    by_cases hn : t.call = n
    · rw [hn, Function.update_self]
      by_cases hp : t.place = p
      · rw [hp]
        exact iff_of_false (fun hboth => hboth.2 ⟨rfl, rfl⟩) (hgone d)
      · rw [hstays d t.place hp]
        simp [hp]
    · rw [Function.update_of_ne hn]
      simp [hn]
  · rw [hleave]
    by_cases hd : d = id
    · subst hd
      rw [Function.update_self]
      exact (lined.once d).erase _
    · rw [Function.update_of_ne hd]
      exact lined.once d
  · by_cases hm : m = n
    · subst hm
      rw [Function.update_self]
      exact hnodup.sublist (((List.sublist_cons_self ..).append_left before).map _)
    · rw [Function.update_of_ne hm]
      exact lined.places m

/-! ## Sends -/

theorem pending_update (hc : h.find? id = some c) (g : Connection τ → Connection τ)
    (hg : ∀ c, (g c).member = c.member) :
    (h.update id g).pending = Function.update h.pending id (g c).outbox.pending := by
  funext d
  by_cases hd : d = id
  · subst hd
    rw [Function.update_self, pending_of_find? (find?_update_self hc hg)]
  · rw [Function.update_of_ne hd, pending, pending, find?_update hg, if_neg hd]

theorem lined_beginSend (lined : Lined line h) (hnew : p ∉ (line n).map Prod.snd) (id : String)
    (f : Frame) :
    Lined (Function.update line n
        (line n ++ if (h.beginSend id f ⟨n, p⟩).1 then [(id, p)] else []))
      (h.beginSend id f ⟨n, p⟩).2 := by
  have hsettles : ∀ {h' : Hub τ}, h.SameLines h' →
      Lined (Function.update line n (line n ++ [])) h' := fun same => by
    rw [List.append_nil, Function.update_eq_self]
    exact same.lined lined
  rw [beginSend]
  cases hc : h.find? id with
  | none => exact hsettles (.refl h)
  | some c =>
    dsimp only
    split
    · exact hsettles (.refl h)
    · split
      · exact hsettles (sameLines_putFrame h id f _)
      · refine lined.join hnew ?_
        have hjoin := pending_update hc
          (fun c => { c with outbox := c.outbox.join ⟨n, p⟩ }) fun _ => rfl
        rwa [Outbox.pending_join, ← pending_of_find? hc] at hjoin

theorem lined_beginSends (n : Nat) (f : Frame) {places : List (String × Nat)} {h : Hub τ}
    {line : Nat → List (String × Nat)} (lined : Lined line h)
    (hnodup : ((line n ++ places).map Prod.snd).Nodup) :
    Lined (Function.update line n (line n ++ (beginSends n f places h).1))
      (beginSends n f places h).2 := by
  induction places generalizing h line with
  | nil => rwa [beginSends, List.append_nil, Function.update_eq_self]
  | cons x rest ih =>
    obtain ⟨id, p⟩ := x
    rw [List.map_append, List.map_cons] at hnodup
    have hnew : p ∉ (line n).map Prod.snd := fun hmem =>
      (List.nodup_append.mp hnodup).2.2 p hmem p List.mem_cons_self rfl
    have hfirst := lined_beginSend lined hnew id f
    have htail := ih hfirst <| by
      rw [Function.update_self, List.append_assoc, List.map_append, List.map_append]
      refine hnodup.sublist (List.Sublist.append_left ?_ _)
      split
      · exact .refl _
      · exact List.sublist_cons_self _ _
    rw [Function.update_self, Function.update_idem, List.append_assoc] at htail
    rw [beginSends]
    dsimp only
    convert htail using 3
    split <;> rfl

theorem pending_withdrawSend (lined : Lined line h) (hc : h.find? id = some c) (t : Ticket) :
    (h.withdrawSend id t).pending = Function.update h.pending id ((h.pending id).erase t) := by
  have honce : c.outbox.pending.Nodup := pending_of_find? hc ▸ lined.once id
  have hleave := pending_update hc
    (fun c' => { c' with outbox := (c.outbox.withdraw t).2 }) fun _ => rfl
  rw [Outbox.pending_withdraw honce, ← pending_of_find? hc] at hleave
  have hwoken : (h.withdrawSend id t).pending =
      (h.update id fun c' => { c' with outbox := (c.outbox.withdraw t).2 }).pending := by
    rw [withdrawSend, hc]
    exact funext (rouses_wakeAll _ _).sameLines
  exact hwoken.trans hleave

theorem pending_redeemFrame (hc : h.find? id = some c) {t : Ticket}
    (hgranted : c.outbox.isGranted t = true) (f : Frame) :
    (h.redeemFrame id f t).pending = Function.update h.pending id ((h.pending id).erase t) := by
  have hleave := pending_update hc
    (fun c => { c with outbox := c.outbox.redeem t f }) fun _ => rfl
  rw [Outbox.pending_redeem hgranted, ← pending_of_find? hc] at hleave
  have hwoken : (h.redeemFrame id f t).pending =
      (h.update id fun c => { c with outbox := c.outbox.redeem t f }).pending :=
    funext (rouses_wakeWriter _ id).sameLines
  exact hwoken.trans hleave

theorem lined_resumeSend (lined : Lined line h) {before rest : List (String × Nat)}
    (hline : line n = before ++ (id, p) :: rest) (roomFirst : Bool) (f : Frame) :
    Lined (Function.update line n (before ++
        if (h.resumeSend roomFirst id f ⟨n, p⟩).1 then (id, p) :: rest else rest))
      (h.resumeSend roomFirst id f ⟨n, p⟩).2 := by
  have hmem : (⟨n, p⟩ : Ticket) ∈ h.pending id := by
    rw [lined.mem_iff, hline]
    exact List.mem_append_right _ List.mem_cons_self
  obtain ⟨c, hc, -⟩ := exists_find?_of_mem_pending hmem
  rw [resumeSend, hc]
  dsimp only
  split
  · rename_i hgranted
    have hgranted : c.outbox.isGranted ⟨n, p⟩ = true := (Bool.and_eq_true_iff.mp hgranted).1
    exact lined.leave hline (pending_redeemFrame hc hgranted f)
  · split
    · exact lined.leave hline (pending_withdrawSend lined hc _)
    · rwa [if_pos rfl, ← hline, Function.update_eq_self]

theorem lined_resumeSends (roomFirst : Nat → Bool) (n : Nat) (f : Frame)
    {places : List (String × Nat)} {h : Hub τ} {line : Nat → List (String × Nat)}
    (lined : Lined line h) (before : List (String × Nat)) (hline : line n = before ++ places) :
    Lined (Function.update line n (before ++ (resumeSends roomFirst n f places h).1))
      (resumeSends roomFirst n f places h).2 := by
  induction places generalizing h line before with
  | nil => rwa [resumeSends, ← hline, Function.update_eq_self]
  | cons x rest ih =>
    obtain ⟨id, p⟩ := x
    have hfirst := lined_resumeSend lined hline (roomFirst p) f
    rw [resumeSends]
    dsimp only
    -- what waits is behind us, and is to stay in line
    cases hwaits : (h.resumeSend (roomFirst p) id f ⟨n, p⟩).1 with
    | true =>
      rw [hwaits, if_pos rfl] at hfirst
      have htail := ih hfirst (before ++ [(id, p)]) (by simp)
      rw [Function.update_idem] at htail
      simpa using htail
    | false =>
      rw [hwaits, if_neg Bool.false_ne_true] at hfirst
      have htail := ih hfirst before (Function.update_self ..)
      rwa [Function.update_idem] at htail

theorem lined_withdrawSends (n : Nat) {places : List (String × Nat)} {h : Hub τ}
    {line : Nat → List (String × Nat)} (lined : Lined line h) (hline : line n = places) :
    Lined (Function.update line n []) (withdrawSends n places h) := by
  induction places generalizing h line with
  | nil => rwa [withdrawSends, ← hline, Function.update_eq_self]
  | cons x rest ih =>
    obtain ⟨id, p⟩ := x
    have hmem : (⟨n, p⟩ : Ticket) ∈ h.pending id := by
      rw [lined.mem_iff, hline]
      exact List.mem_cons_self
    obtain ⟨c, hc, -⟩ := exists_find?_of_mem_pending hmem
    have hline : line n = [] ++ (id, p) :: rest := hline
    have hfirst := lined.leave hline (pending_withdrawSend lined hc ⟨n, p⟩)
    have htail := ih hfirst (Function.update_self ..)
    rwa [Function.update_idem] at htail

/-! ## Calls -/

/-- Who waits is in line, and who is in line waits. A call that waits does so for some send. -/
structure InOrder (h : Hub τ) : Prop where
  lined : Lined h.line h
  waits : ∀ {n : Nat} {f : Frame} {places : List (String × Nat)} {reply : Reply},
    h.calls[n]? = some (.waiting f places reply) → places ≠ []

theorem SameLines.inOrder (same : h.SameLines h') (asks : h.Asks h') (inOrder : h.InOrder) :
    h'.InOrder where
  lined := by
    rw [asks.line_eq]
    exact same.lined inOrder.lined
  waits hc := by
    rcases asks.of_getElem? hc with hold | ⟨r, hr⟩
    · exact inOrder.waits hold
    · cases hr

/-- A call is set to wait for those of its sends that are left, if there are any. -/
theorem InOrder.setCall (inOrder : h.InOrder) {call : Call}
    (lined : Lined (Function.update h.line n call.places) h') (hcalls : h'.calls = h.calls)
    (hlt : n < h.calls.length) (hwaits : ∀ f reply, call ≠ .waiting f [] reply) :
    (h'.setCall n call).InOrder where
  lined := by
    have hline : h'.line = h.line := (Asks.of_calls_eq hcalls).line_eq
    have same : h'.SameLines (h'.setCall n call) := sameLines_of_connections_eq rfl
    rw [line_setCall (hcalls ▸ hlt), hline]
    exact same.lined lined
  waits {m f places reply} hc := by
    rw [Hub.setCall, hcalls] at hc
    by_cases hm : n = m
    · subst hm
      rw [List.getElem?_set_self hlt] at hc
      rintro rfl
      exact hwaits f reply (Option.some.inj hc)
    · rw [List.getElem?_set_ne hm] at hc
      exact inOrder.waits hc

theorem InOrder.settleCall (inOrder : h.InOrder) {left : List (String × Nat)}
    (lined : Lined (Function.update h.line n left) h') (hcalls : h'.calls = h.calls)
    (hlt : n < h.calls.length) (f : Frame) (reply : Reply) :
    (h'.settleCall n f left reply).InOrder := by
  cases left with
  | nil =>
    have hplaces : (Call.finished reply).places = [] := rfl
    exact inOrder.setCall (hplaces ▸ lined) hcalls hlt (by simp)
  | cons x rest =>
    have hplaces : (Call.waiting f (x :: rest) reply).places = x :: rest := rfl
    exact inOrder.setCall (hplaces ▸ lined) hcalls hlt (by simp)

section Requested

variable {r : SendOrder}

/-- A call that is over before it waits for anything. -/
theorem InOrder.endCall (inOrder : h.InOrder) (hc : h.calls[n]? = some (.requested r))
    {call : Call} (hover : call.frame? = none) : (h.setCall n call).InOrder := by
  have hnone : h.line n = [] := line_of_getElem? hc
  have hplaces : call.places = [] := by
    cases call with
    | waiting f places reply => cases hover
    | requested r => rfl
    | finished reply => rfl
    | abandoned => rfl
  refine inOrder.setCall ?_ rfl (List.getElem?_eq_some_iff.mp hc).1 fun f reply heq => ?_
  · rw [hplaces, ← hnone, Function.update_eq_self]
    exact inOrder.lined
  · rw [heq] at hover
    cases hover

theorem inOrder_sendToEach (inOrder : h.InOrder) (hc : h.calls[n]? = some (.requested r))
    (ids : List String) (reply : Reply) : (h.sendToEach n r.frame ids reply).InOrder := by
  have hnone : h.line n = [] := line_of_getElem? hc
  have hserves := serves_beginSends ids.zipIdx (sends_of_open hc rfl)
  have hnodup : ((h.line n ++ ids.zipIdx).map Prod.snd).Nodup := by
    rw [hnone]
    exact List.nodup_zipIdx_map_snd ids
  have lined := lined_beginSends n r.frame inOrder.lined hnodup
  rw [hnone, List.nil_append] at lined
  exact inOrder.settleCall lined hserves.2 (List.getElem?_eq_some_iff.mp hc).1 _ reply

theorem inOrder_fanOut (inOrder : h.InOrder) (hc : h.calls[n]? = some (.requested r))
    (target : String) (members : List Member) :
    (h.fanOut n target members r.frame).InOrder := by
  rw [fanOut]
  split
  · exact inOrder.endCall hc rfl
  · have hcount : (h.count fun m => m.countSent target).InOrder :=
      SameLines.inOrder (.refl h) (.refl h) inOrder
    exact inOrder_sendToEach hcount hc _ _

theorem inOrder_beginCall (inOrder : h.InOrder) (hc : h.calls[n]? = some (.requested r)) :
    (h.beginCall n r).InOrder := by
  cases r with
  | toHandle id f => exact inOrder_sendToEach inOrder hc [id] _
  | toConnection id f =>
    rw [beginCall]
    split
    · have hdrop : h.dropFrame.InOrder := SameLines.inOrder (.refl h) (.refl h) inOrder
      exact hdrop.endCall hc rfl
    · have hcount : (h.count fun m => m.countSent "connection").InOrder :=
        SameLines.inOrder (.refl h) (.refl h) inOrder
      exact inOrder_sendToEach hcount hc _ _
  | toUser user f => exact inOrder_fanOut inOrder hc "user" _
  | toAll f => exact inOrder_fanOut inOrder hc "broadcast" _

end Requested

theorem inOrder_callTurn (inOrder : h.InOrder) (roomFirst : Nat → Bool) (n : Nat) :
    (h.callTurn roomFirst n).InOrder := by
  rw [callTurn]
  split
  · rename_i r hc
    exact inOrder_beginCall inOrder hc
  · rename_i f places reply hc
    have hserves : h.Serves (resumeSends roomFirst n f places h).2 :=
      serves_resumeSends places (sends_of_open hc rfl)
    have lined := lined_resumeSends roomFirst n f inOrder.lined [] (line_of_getElem? hc)
    exact inOrder.settleCall lined hserves.2 (List.getElem?_eq_some_iff.mp hc).1 f reply
  · exact inOrder

theorem inOrder_abandon (inOrder : h.InOrder) (n : Nat) : (h.abandon n).InOrder := by
  rw [abandon]
  split
  · rename_i r hc
    exact inOrder.endCall hc rfl
  · rename_i f places reply hc
    have hserves := serves_withdrawSends n places h
    have lined := lined_withdrawSends n inOrder.lined (line_of_getElem? hc)
    exact inOrder.setCall lined hserves.2 (List.getElem?_eq_some_iff.mp hc).1 (by simp)
  · exact inOrder

variable [Transport τ]

theorem inOrder_step (inOrder : h.InOrder) (e : Event τ) : (h.step e).InOrder := by
  by_cases hturn : ∃ n roomFirst, e = .turn (.call n) roomFirst
  · obtain ⟨n, roomFirst, rfl⟩ := hturn
    have herase : ({ h with ready := h.ready.erase (.call n) } : Hub τ).InOrder :=
      SameLines.inOrder (.refl h) (.refl h) inOrder
    exact inOrder_callTurn herase roomFirst n
  by_cases habandon : ∃ n, e = .abandon n
  · obtain ⟨n, rfl⟩ := habandon
    exact inOrder_abandon inOrder n
  · have hturn : ∀ n roomFirst, e ≠ .turn (.call n) roomFirst := fun n roomFirst he =>
      hturn ⟨n, roomFirst, he⟩
    have habandon : ∀ n, e ≠ .abandon n := fun n he => habandon ⟨n, he⟩
    exact (sameLines_step hturn habandon h).inOrder (asks_step hturn habandon h) inOrder

omit [Transport τ] in
/-- In a hub without connections nobody waits. -/
theorem inOrder_initial (config : SocketConfig) (origins : OriginPolicy) (handlers : List Handler)
    (now wallClock : Nat) : (initial config origins handlers now wallClock : Hub τ).InOrder where
  lined := ⟨fun _ _ => iff_of_false List.not_mem_nil List.not_mem_nil, fun _ => .nil, fun _ => .nil⟩
  waits hc := by cases hc

end Hub

/-- **Nobody is forgotten in line**, in any state of a run. -/
theorem Run.inOrder {τ : Type} [Transport τ] {h h' : Hub τ} {es : List (Event τ)}
    (run : Run h es h') (inOrder : h.InOrder) : h'.InOrder := by
  induction run with
  | nil => exact inOrder
  | cons _ _ ih => exact ih (Hub.inOrder_step inOrder _)

theorem Run.tight {τ : Type} [Transport τ] {h h' : Hub τ} {es : List (Event τ)} (run : Run h es h')
    (tight : h.ledger.Tight) : h'.ledger.Tight :=
  run.keeps (P := Ledger.Tight) (fun step tight => step.tight tight)
    (fun hnew _ tight => Ledger.tight_enroll hnew _ tight) tight

end Switchboard
