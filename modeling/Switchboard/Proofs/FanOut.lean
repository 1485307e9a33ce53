import Switchboard.Proofs.Answers
import Switchboard.Proofs.Lines

/-!
# The first turn of a fan-out

A fan-out sends a frame to all connections of a user, or to all. Whom it is for is fixed at its
first turn, when it asks the registry; in which order the connections are then seen to is up to the
registry. `fansOut_fannedOut` says that the order does not matter: whoever has room gets a copy at
the end of the outbox, everybody else has one send put in line, nobody else is touched, and the
delivery is counted once, if it is for anybody.

## Shape of the proof

The sends of a call are seen to one after another (`Hub.sends`), when they begin and again in every
later turn. A call has one send for a connection at most, so that what becomes of it is decided by
how things stand with this connection before the turn (`Hub.Standing`): the sends before and after
it are for others (`standing_sends`).
-/

namespace Switchboard

/-- The name under which the delivery of a fan-out is counted, if an order asks for one. -/
def SendOrder.target? : SendOrder → Option String
  | .toHandle _ _ | .toConnection _ _ => none
  | .toUser _ _ => some "user"
  | .toAll _ => some "broadcast"

/-- Whom an order is for. -/
def SendOrder.isFor : SendOrder → Member → Bool
  | .toHandle id _, m | .toConnection id _, m => m.id = id
  | .toUser user _, m => m.user = some user
  | .toAll _, _ => true

/-- The frames among those put into an outbox that a call put there. -/
def copiesOf (n : Nat) (l : List (Frame × Sender)) : List Frame :=
  (l.filter fun x => x.2.call? = some n).map Prod.fst

theorem copiesOf_append (n : Nat) (l l' : List (Frame × Sender)) :
    copiesOf n (l ++ l') = copiesOf n l ++ copiesOf n l' := by
  rw [copiesOf, List.filter_append, List.map_append]
  rfl

/-- The story of a call has begun with its first copy. -/
theorem copiesOf_intake_of_untold {n : Nat} {b : List Entry}
    (huntold : ∀ p, storyOf ⟨n, p⟩ b = []) (id : String) : copiesOf n (intake id b) = [] := by
  rw [copiesOf, List.map_eq_nil_iff, List.filter_eq_nil_iff]
  rintro ⟨f, s⟩ hx hs
  obtain ⟨y, hy, hintake⟩ := List.mem_filterMap.mp hx
  cases s with
  | offer => simp [Sender.call?] at hs
  | call t =>
    obtain rfl : t.call = n := by simpa [Sender.call?] using hs
    have hticket : y.ticket? = some t := by
      cases y with
      | tried d g o => cases o <;> simp [Entry.intake?] at hintake
      | sent d g t' o => cases o <;> simp_all [Entry.intake?, Entry.ticket?]
      | ended d g t' o => cases o <;> simp_all [Entry.intake?, Entry.ticket?]
      | unknown | taken | received => simp [Entry.intake?] at hintake
    have hmem : y ∈ storyOf t b := List.mem_filter.mpr ⟨hy, by simpa using hticket⟩
    rw [huntold t.place] at hmem
    cases hmem

/-! ## Places -/

/-- The places at which a list of sends names a connection. -/
def placesOf (id : String) (places : List (String × Nat)) : List Nat :=
  (places.filter fun x => x.1 = id).map Prod.snd

section Places

variable {id d : String} {p : Nat} {rest : List (String × Nat)}

theorem placesOf_cons_self : placesOf id ((id, p) :: rest) = p :: placesOf id rest := by
  simp [placesOf]

theorem placesOf_cons_of_ne (hne : d ≠ id) : placesOf id ((d, p) :: rest) = placesOf id rest := by
  simp [placesOf, hne]

/-- Who is on a list of ids once has one place. -/
theorem placesOf_zipIdx {ids : List String} (hnodup : ids.Nodup) (id : String) (k : Nat) :
    placesOf id (ids.zipIdx k) = if id ∈ ids then [k + ids.idxOf id] else [] := by
  induction ids generalizing k with
  | nil => rfl
  | cons d rest ih =>
    obtain ⟨hd, hrest⟩ := List.nodup_cons.mp hnodup
    rw [List.zipIdx_cons]
    by_cases heq : d = id
    · subst heq
      rw [placesOf_cons_self, ih hrest, if_neg hd, if_pos List.mem_cons_self,
        List.idxOf_cons_self, Nat.add_zero]
    · rw [placesOf_cons_of_ne heq, ih hrest]
      simp only [List.mem_cons, Ne.symm heq, false_or, List.idxOf_cons_ne _ heq]
      split
      · rw [Nat.succ_eq_add_one, Nat.add_assoc, Nat.add_comm 1]
      · rfl

end Places

/-! ## How things stand with a connection -/

/-- A connection, if there is one, and the copies of a call that entered its outbox. -/
structure Standing (τ : Type) where
  conn : Option (Connection τ)
  copies : List Frame

namespace Standing

variable {τ : Type}

/-- A send to the connection begins: whether it has to wait, and how things stand then. -/
def begin (s : Standing τ) (f : Frame) (t : Ticket) : Bool × Standing τ :=
  match s.conn with
  | none => (false, s)
  | some c =>
    if !c.alive then (false, s)
    else if c.outbox.hasRoom then
      (false, ⟨some { c with outbox := c.outbox.put f }, s.copies ++ [f]⟩)
    else (true, ⟨some { c with outbox := c.outbox.join t }, s.copies⟩)

/-- A waiting send to the connection goes on: whether it still has to wait, and how things stand
then. -/
def resume (s : Standing τ) (roomFirst : Bool) (f : Frame) (t : Ticket) : Bool × Standing τ :=
  match s.conn with
  | none => (false, s)
  | some c =>
    if c.outbox.isGranted t && (c.alive || roomFirst && c.writer ≠ .stopped) then
      (false, ⟨some { c with outbox := c.outbox.redeem t f }, s.copies ++ [f]⟩)
    else if !c.alive then
      (false, ⟨some { c with outbox := (c.outbox.withdraw t).2 }, s.copies⟩)
    else (true, s)

variable {c : Connection τ}

theorem begin_of_room (halive : c.alive = true) (hroom : c.outbox.hasRoom = true)
    (copies : List Frame) (f : Frame) (t : Ticket) : (⟨some c, copies⟩ : Standing τ).begin f t =
      (false, ⟨some { c with outbox := c.outbox.put f }, copies ++ [f]⟩) := by
  simp [begin, halive, hroom]

theorem begin_of_full (halive : c.alive = true) (hfull : c.outbox.hasRoom = false)
    (copies : List Frame) (f : Frame) (t : Ticket) : (⟨some c, copies⟩ : Standing τ).begin f t =
      (true, ⟨some { c with outbox := c.outbox.join t }, copies⟩) := by
  simp [begin, halive, hfull]

/-- The copy of a waiting send enters, or the connection is dead, or the send waits still. -/
theorem resume_cases (copies : List Frame) (roomFirst : Bool) (f : Frame) (t : Ticket) :
    (∃ conn, (⟨some c, copies⟩ : Standing τ).resume roomFirst f t =
      (false, ⟨conn, copies ++ [f]⟩)) ∨
    (∃ c', c'.alive = false ∧ (⟨some c, copies⟩ : Standing τ).resume roomFirst f t =
      (false, ⟨some c', copies⟩)) ∨
    c.alive = true ∧ t ∉ c.outbox.granted ∧ (⟨some c, copies⟩ : Standing τ).resume roomFirst f t =
      (true, ⟨some c, copies⟩) := by
  dsimp only [resume]
  split
  · exact .inl ⟨_, rfl⟩
  · rename_i hno
    split
    · rename_i hdead
      exact .inr (.inl ⟨_, by simpa using hdead, rfl⟩)
    · rename_i halive
      have halive : c.alive = true := by simpa using halive
      refine .inr (.inr ⟨halive, fun hgranted => hno ?_, rfl⟩)
      simp [Outbox.isGranted, hgranted, halive]

end Standing

namespace Hub

variable {τ : Type} {h h' : Hub τ} {id d : String} {n : Nat} {f : Frame} {c : Connection τ}

/-- The copies of a call that entered the outbox of a connection, the first first. -/
def copies (h : Hub τ) (n : Nat) (id : String) : List Frame := copiesOf n (entered id h.history)

/-- The places of the sends of a call that wait for a connection. -/
def placesFor (h : Hub τ) (n : Nat) (id : String) : List Nat := placesOf id (h.line n)

/-- How things stand with a connection for a call. -/
def standing (h : Hub τ) (n : Nat) (id : String) : Standing τ := ⟨h.find? id, h.copies n id⟩

theorem Balances.copies_eq {io : String → Prop} {b : List Entry} (balances : Balances io b h h')
    (n : Nat) (id : String) : h'.copies n id = h.copies n id ++ copiesOf n (intake id b) := by
  rw [copies, balances.entered, copiesOf_append]
  rfl

theorem standing_of_find? {conn : Option (Connection τ)} (hc : h.find? id = conn) (n : Nat) :
    h.standing n id = ⟨conn, h.copies n id⟩ := congrArg (Standing.mk · _) hc

/-- What is done for one connection leaves things as they are with the others. -/
theorem Within.standing_eq (within : Within d h h') (hne : id ≠ d) (n : Nat) :
    h'.standing n id = h.standing n id := by
  obtain ⟨news, heq, hnews⟩ := within.history
  have hnone : ∀ x ∈ news, x.intake? id = none := fun x hx => by
    cases x with
    | entered target f s =>
      have htarget : target = d := hnews _ hx
      simp [Happening.intake?, htarget, Ne.symm hne]
    | handed | closed | removal => rfl
  rw [standing, standing, within.find?_eq id hne, copies, copies, heq, entered, entered,
    List.filterMap_append, List.filterMap_eq_nil_iff.mpr hnone, List.nil_append]

theorem standing_update (hc : h.find? id = some c) {g : Connection τ → Connection τ}
    (hg : ∀ c, (g c).member = c.member) (n : Nat) :
    (h.update id g).standing n id = ⟨some (g c), h.copies n id⟩ :=
  congrArg (Standing.mk · _) (find?_update_self hc hg)

theorem Rouses.standing_eq (rouses : h.Rouses h') (n : Nat) (id : String) :
    h'.standing n id = h.standing n id := by
  obtain ⟨ready, rfl, -⟩ := rouses
  rfl

/-- A call puts a copy of its frame into an outbox. -/
theorem standing_enter (hc : h.find? id = some c) (f : Frame) (t : Ticket)
    (put : Outbox → Outbox) :
    (h.enter id f (.call t) put).standing t.call id =
      ⟨some { c with outbox := put c.outbox }, h.copies t.call id ++ [f]⟩ := by
  have hfind := find?_update_self hc (f := fun c => { c with outbox := put c.outbox }) fun _ => rfl
  have hcopies : copiesOf t.call (entered id (.entered id f (.call t) :: h.history)) =
      h.copies t.call id ++ [f] := by
    rw [entered_cons, copiesOf_append]
    simp [Happening.intake?, copiesOf, copies, Sender.call?]
  exact ((rouses_wakeWriter _ id).standing_eq t.call id).trans
    (congrArg₂ Standing.mk hfind hcopies)

theorem standing_withdrawSend (hc : h.find? id = some c) (t : Ticket) (n : Nat) :
    (h.withdrawSend id t).standing n id =
      ⟨some { c with outbox := (c.outbox.withdraw t).2 }, h.copies n id⟩ := by
  have hupdate := standing_update hc
    (g := fun c' => { c' with outbox := (c.outbox.withdraw t).2 }) (fun _ => rfl) n
  rw [withdrawSend, hc]
  exact ((rouses_wakeAll _ _).standing_eq n id).trans hupdate

theorem standing_beginSend (h : Hub τ) (id : String) (f : Frame) (t : Ticket) :
    ((h.beginSend id f t).1, (h.beginSend id f t).2.standing t.call id) =
      (h.standing t.call id).begin f t := by
  rw [beginSend]
  cases hc : h.find? id with
  | none =>
    rw [standing_of_find? hc]
    exact congrArg (Prod.mk false) (standing_of_find? hc t.call)
  | some c =>
    rw [standing_of_find? hc]
    dsimp only [Standing.begin]
    split
    · exact congrArg (Prod.mk false) (standing_of_find? hc t.call)
    · split
      · exact congrArg (Prod.mk false) (standing_enter hc f t fun o => o.put f)
      · have hjoin := standing_update hc
          (g := fun c => { c with outbox := c.outbox.join t }) (fun _ => rfl) t.call
        exact congrArg (Prod.mk true) hjoin

theorem standing_resumeSend (h : Hub τ) (roomFirst : Bool) (id : String) (f : Frame) (t : Ticket) :
    ((h.resumeSend roomFirst id f t).1, (h.resumeSend roomFirst id f t).2.standing t.call id) =
      (h.standing t.call id).resume roomFirst f t := by
  rw [resumeSend]
  cases hc : h.find? id with
  | none =>
    rw [standing_of_find? hc]
    rfl
  | some c =>
    rw [standing_of_find? hc]
    dsimp only [Standing.resume]
    split
    · exact congrArg (Prod.mk false) (standing_enter hc f t fun o => o.redeem t f)
    · split
      · exact congrArg (Prod.mk false) (standing_withdrawSend hc t t.call)
      · exact congrArg (Prod.mk true) (standing_of_find? hc t.call)

/-! ## One send after another -/

/-- See to sends one after another: those that have to wait, and the hub after. -/
def sends (see : String → Nat → Hub τ → Bool × Hub τ) :
    List (String × Nat) → Hub τ → List (String × Nat) × Hub τ
  | [], h => ([], h)
  | (id, p) :: rest, h =>
    let (waits, h) := see id p h
    let (left, h) := sends see rest h
    (if waits then (id, p) :: left else left, h)

theorem beginSends_eq_sends (n : Nat) (f : Frame) (places : List (String × Nat)) (h : Hub τ) :
    beginSends n f places h = sends (fun id p h => h.beginSend id f ⟨n, p⟩) places h := by
  induction places generalizing h with
  | nil => rfl
  | cons x rest ih => simp only [beginSends, sends, ih]

theorem resumeSends_eq_sends (roomFirst : Nat → Bool) (n : Nat) (f : Frame)
    (places : List (String × Nat)) (h : Hub τ) : resumeSends roomFirst n f places h =
      sends (fun id p h => h.resumeSend (roomFirst p) id f ⟨n, p⟩) places h := by
  induction places generalizing h with
  | nil => rfl
  | cons x rest ih => simp only [resumeSends, sends, ih]

section Sends

variable {see : String → Nat → Hub τ → Bool × Hub τ} {places : List (String × Nat)} {p : Nat}

/-- Sends to others leave things as they are. -/
theorem standing_sends_of_none (within : ∀ id p h, Within id h (see id p h).2)
    (hid : placesOf id places = []) (n : Nat) (h : Hub τ) :
    placesOf id (sends see places h).1 = [] ∧
      (sends see places h).2.standing n id = h.standing n id := by
  induction places generalizing h with
  | nil => exact ⟨rfl, rfl⟩
  | cons x rest ih =>
    obtain ⟨d, q⟩ := x
    have hne : d ≠ id := by
      rintro rfl
      rw [placesOf_cons_self] at hid
      cases hid
    rw [placesOf_cons_of_ne hne] at hid
    obtain ⟨hleft, hstanding⟩ := ih hid (see d q h).2
    rw [sends]
    refine ⟨?_, hstanding.trans ((within d q h).standing_eq (Ne.symm hne) n)⟩
    dsimp only
    split
    · rwa [placesOf_cons_of_ne hne]
    · exact hleft

/-- What becomes of the one send to a connection is decided by how things stand with it before. -/
theorem standing_sends (within : ∀ id p h, Within id h (see id p h).2)
    {g : Nat → Standing τ → Bool × Standing τ}
    (hsee : ∀ id p h, ((see id p h).1, (see id p h).2.standing n id) = g p (h.standing n id))
    (hid : placesOf id places = [p]) (h : Hub τ) :
    placesOf id (sends see places h).1 = (if (g p (h.standing n id)).1 then [p] else []) ∧
      (sends see places h).2.standing n id = (g p (h.standing n id)).2 := by
  induction places generalizing h with
  | nil => cases hid
  | cons x rest ih =>
    obtain ⟨d, q⟩ := x
    rw [sends]
    dsimp only
    by_cases hd : d = id
    · subst hd
      rw [placesOf_cons_self, List.cons.injEq] at hid
      obtain ⟨rfl, hrest⟩ := hid
      obtain ⟨hleft, hstanding⟩ := standing_sends_of_none within hrest n (see d q h).2
      rw [hstanding, ← hsee d q h]
      refine ⟨?_, rfl⟩
      cases (see d q h).1 with
      | true => rw [if_pos rfl, if_pos rfl, placesOf_cons_self, hleft]
      | false => rwa [if_neg Bool.false_ne_true, if_neg Bool.false_ne_true]
    · rw [placesOf_cons_of_ne hd] at hid
      obtain ⟨hleft, hstanding⟩ := ih hid (see d q h).2
      rw [(within d q h).standing_eq (Ne.symm hd) n] at hleft hstanding
      refine ⟨?_, hstanding⟩
      rw [← hleft]
      split
      · exact placesOf_cons_of_ne hd
      · rfl

end Sends

/-! ## Beginning to send -/

theorem isAlive_eq_standing (h : Hub τ) (n : Nat) (id : String) :
    h.isAlive id = (h.standing n id).conn.any Connection.alive := rfl

theorem isAlive_beginSend (h : Hub τ) (id : String) (f : Frame) (t : Ticket) (d : String) :
    (h.beginSend id f t).2.isAlive d = h.isAlive d := by
  by_cases hd : d = id
  · subst hd
    have hbegin := congrArg Prod.snd (standing_beginSend h d f t)
    dsimp only at hbegin
    rw [isAlive_eq_standing _ t.call, hbegin, Standing.begin, standing, isAlive]
    cases h.find? d with
    | none => rfl
    | some c =>
      dsimp only
      split
      · rfl
      · split <;> rfl
  · rw [isAlive, isAlive, (within_beginSend h id f t).find?_eq d hd]

theorem metrics_enter (h : Hub τ) (id : String) (f : Frame) (s : Sender) (put : Outbox → Outbox) :
    (h.enter id f s put).metrics = h.metrics := by
  obtain ⟨ready, heq, -⟩ := rouses_wakeWriter
    ((h.update id fun c => { c with outbox := put c.outbox }).record (.entered id f s)) id
  rw [enter, heq]
  rfl

/-- No copy for a living connection is dropped. -/
theorem metrics_beginSend (halive : h.isAlive id = true) (f : Frame) (t : Ticket) :
    (h.beginSend id f t).2.metrics = h.metrics := by
  obtain ⟨c, hc, halive⟩ := isAlive_iff.mp halive
  rw [beginSend, hc]
  dsimp only
  rw [halive, if_neg (by simp)]
  split
  · exact metrics_enter h id f (.call t) fun o => o.put f
  · rfl

theorem metrics_beginSends (n : Nat) (f : Frame) {places : List (String × Nat)} {h : Hub τ}
    (halive : ∀ x ∈ places, h.isAlive x.1 = true) :
    (beginSends n f places h).2.metrics = h.metrics := by
  induction places generalizing h with
  | nil => rfl
  | cons x rest ih =>
    obtain ⟨id, p⟩ := x
    have hrest := ih (h := (h.beginSend id f ⟨n, p⟩).2) fun y hy => by
      rw [isAlive_beginSend]
      exact halive y (List.mem_cons_of_mem _ hy)
    exact hrest.trans (metrics_beginSend (halive (id, p) List.mem_cons_self) f ⟨n, p⟩)

/-- A fan-out is counted once, if it is for anybody, and then sends to each. -/
theorem fanOut_eq_sendToEach (h : Hub τ) (n : Nat) (target : String) (members : List Member)
    (f : Frame) : h.fanOut n target members f =
      (if members.isEmpty then h else h.count fun m => m.countSent target).sendToEach n f
        (members.map Member.id) (.targeted members.length) := by
  rw [fanOut]
  cases members with
  | nil => rfl
  | cons m rest => rfl

/-! ## The first turn -/

/-- The first turn of a call that sends a frame to the connections `S` leads from one hub to
another. `place` tells of each connection the place of the send to it, if it has to wait. -/
structure FansOut (n : Nat) (target : String) (f : Frame) (S : List (Connection τ))
    (place : String → Nat) (h h' : Hub τ) : Prop where
  /-- Where a slot is free and nobody in line, the frame is put at the end of the outbox. -/
  roomy : ∀ c ∈ S, c.outbox.hasRoom = true →
    h'.find? c.id = some { c with outbox := c.outbox.put f } ∧
      h'.copies n c.id = [f] ∧ h'.placesFor n c.id = []
  /-- Elsewhere one send is put in line. -/
  full : ∀ c ∈ S, c.outbox.hasRoom = false →
    h'.find? c.id = some { c with outbox := c.outbox.join ⟨n, place c.id⟩ } ∧
      h'.copies n c.id = [] ∧ h'.placesFor n c.id = [place c.id]
  others : ∀ id, (∀ c ∈ S, c.id ≠ id) →
    h'.find? id = h.find? id ∧ h'.copies n id = [] ∧ h'.placesFor n id = []
  /-- The delivery is counted once under its target, however many connections it is for, unless it
  is for none. -/
  counted : ∀ label, h'.metrics.sent.get label =
    h.metrics.sent.get label + if label = target ∧ S ≠ [] then 1 else 0
  /-- Nothing else is counted. -/
  metrics_eq : h'.metrics = { h.metrics with sent := h'.metrics.sent }

/-- What counting a delivery once, if it is for anybody, does to the counters. -/
theorem counts_of_countSent {m m' : Metrics} {target : String} {S : List (Connection τ)}
    (hm : m' = if S.isEmpty then m else m.countSent target) :
    (∀ label, m'.sent.get label =
      m.sent.get label + if label = target ∧ S ≠ [] then 1 else 0) ∧
      m' = { m with sent := m'.sent } := by
  subst hm
  cases S with
  | nil => exact ⟨fun label => by simp, rfl⟩
  | cons c rest => exact ⟨fun label => by simp [Metrics.countSent, Tally.get_bump], rfl⟩

/-- The place that a fan-out gives to the send to a connection: that of its member among those that
were found. -/
def fanPlace (members : List Member) (id : String) : Nat := (members.map Member.id).idxOf id

/-- The hub after the first turn of a call that sends a frame to the members that were found. -/
def fannedOut (h : Hub τ) (n : Nat) (target : String) (members : List Member) (f : Frame) : Hub τ :=
  ({ h with ready := h.ready.erase (.call n) } : Hub τ).fanOut n target members f

/-- How things stand after the first turn. -/
theorem standing_sendToEach {ids : List String} (hnodup : ids.Nodup) {r : SendOrder}
    (hc : h.calls[n]? = some (.requested r)) (reply : Reply) (id : String) :
    (id ∈ ids → (h.sendToEach n r.frame ids reply).standing n id =
        ((h.standing n id).begin r.frame ⟨n, ids.idxOf id⟩).2 ∧
      (h.sendToEach n r.frame ids reply).placesFor n id =
        if ((h.standing n id).begin r.frame ⟨n, ids.idxOf id⟩).1 then [ids.idxOf id] else []) ∧
    (id ∉ ids → (h.sendToEach n r.frame ids reply).standing n id = h.standing n id ∧
      (h.sendToEach n r.frame ids reply).placesFor n id = []) := by
  have hserves := serves_beginSends ids.zipIdx (sends_of_open hc rfl)
  have hlt := (List.getElem?_eq_some_iff.mp hc).1
  have hplaces : (h.sendToEach n r.frame ids reply).placesFor n id =
      placesOf id (beginSends n r.frame ids.zipIdx h).1 := by
    rw [placesFor, sendToEach, line_settleCall (hserves.2 ▸ hlt), Function.update_self]
  have hstanding : (h.sendToEach n r.frame ids reply).standing n id =
      (beginSends n r.frame ids.zipIdx h).2.standing n id := rfl
  have hplace := placesOf_zipIdx hnodup id 0
  rw [hplaces, hstanding, beginSends_eq_sends]
  constructor
  · intro hid
    rw [if_pos hid, Nat.zero_add] at hplace
    exact (standing_sends (fun id p h => within_beginSend h id r.frame ⟨n, p⟩)
      (g := fun p s => s.begin r.frame ⟨n, p⟩)
      (fun id p h => standing_beginSend h id r.frame ⟨n, p⟩) hplace h).symm
  · intro hid
    rw [if_neg hid] at hplace
    exact (standing_sends_of_none (fun id p h => within_beginSend h id r.frame ⟨n, p⟩) hplace n
      h).symm

/-- **The first turn of a fan-out** does the same in whatever order the members were found. -/
theorem fansOut_fannedOut {S : List (Connection τ)}
    (hS : ∀ c ∈ S, h.find? c.id = some c ∧ c.alive = true) (hnodup : (S.map Connection.id).Nodup)
    {members : List Member} (hperm : members.Perm (S.map Connection.member)) {r : SendOrder}
    (hc : h.calls[n]? = some (.requested r)) (hnone : ∀ id, h.copies n id = [])
    (target : String) :
    FansOut n target r.frame S (fanPlace members) h (h.fannedOut n target members r.frame) := by
  have hids : (members.map Member.id).Perm (S.map Connection.id) := by
    have hmap := hperm.map Member.id
    rwa [List.map_map] at hmap
  have hmem : ∀ id, id ∈ members.map Member.id ↔ ∃ c ∈ S, c.id = id := fun id => by
    rw [hids.mem_iff, List.mem_map]
  rw [fannedOut, fanOut_eq_sendToEach]
  generalize hcounted : (if members.isEmpty
    then ({ h with ready := h.ready.erase (.call n) } : Hub τ)
    else count { h with ready := h.ready.erase (.call n) } fun m => m.countSent target) = counted
  have hsame : counted.find? = h.find? ∧ counted.copies = h.copies ∧ counted.calls = h.calls ∧
      counted.metrics = if S.isEmpty then h.metrics else h.metrics.countSent target := by
    have hempty : members.isEmpty = S.isEmpty := by
      rw [hperm.isEmpty_eq, List.isEmpty_map]
    rw [← hcounted, hempty]
    cases S.isEmpty <;> exact ⟨rfl, rfl, rfl, rfl⟩
  obtain ⟨hfind, hcopies, hcalls, hmetrics⟩ := hsame
  have hsends := standing_sendToEach (h := counted) (hids.nodup_iff.mpr hnodup) (hcalls ▸ hc)
    (.targeted members.length)
  have hbefore : ∀ id, counted.standing n id = ⟨h.find? id, []⟩ := fun id => by
    rw [standing, hfind, hcopies, hnone]
  -- everybody is there, and so no frame is dropped
  have hmetrics' : (counted.sendToEach n r.frame (members.map Member.id)
      (.targeted members.length)).metrics = counted.metrics :=
    metrics_beginSends n r.frame fun x hx => isAlive_iff.mpr <| by
      have hx : x.1 ∈ members.map Member.id := List.fst_mem_of_mem_zipIdx hx
      obtain ⟨c, hcS, hcid⟩ := (hmem x.1).mp hx
      obtain ⟨hfound, halive⟩ := hS c hcS
      exact ⟨c, by rw [hfind, ← hcid, hfound], halive⟩
  obtain ⟨hsent, hothers⟩ := counts_of_countSent (hmetrics'.trans hmetrics)
  refine ⟨fun c hcS hroom => ?_, fun c hcS hfull => ?_, fun id hid => ?_, hsent, hothers⟩
  · obtain ⟨hfound, halive⟩ := hS c hcS
    obtain ⟨hstanding, hplaces⟩ := (hsends c.id).1 ((hmem c.id).mpr ⟨c, hcS, rfl⟩)
    rw [hbefore, hfound, Standing.begin_of_room halive hroom] at hstanding hplaces
    exact ⟨congrArg Standing.conn hstanding, congrArg Standing.copies hstanding, hplaces⟩
  · obtain ⟨hfound, halive⟩ := hS c hcS
    obtain ⟨hstanding, hplaces⟩ := (hsends c.id).1 ((hmem c.id).mpr ⟨c, hcS, rfl⟩)
    rw [hbefore, hfound, Standing.begin_of_full halive hfull] at hstanding hplaces
    exact ⟨congrArg Standing.conn hstanding, congrArg Standing.copies hstanding, hplaces⟩
  · obtain ⟨hstanding, hplaces⟩ := (hsends id).2 fun hmember => by
      obtain ⟨c, hcS, hcid⟩ := (hmem id).mp hmember
      exact hid c hcS hcid
    rw [hbefore] at hstanding
    exact ⟨congrArg Standing.conn hstanding, congrArg Standing.copies hstanding, hplaces⟩

theorem nodup_registered (sound : h.ledger.lives.Sound) (p : Member → Bool) :
    ((h.registered p).map Connection.id).Nodup :=
  (nodup_connections sound).sublist (List.filter_sublist.map _)

theorem living_of_mem_registered (sound : h.ledger.lives.Sound) {p : Member → Bool}
    (hc : c ∈ h.registered p) : h.find? c.id = some c ∧ c.alive = true := by
  obtain ⟨hmem, hboth⟩ := List.mem_filter.mp hc
  have hfound := find?_of_mem sound hmem
  have halive := (Bool.and_eq_true_iff.mp hboth).1
  rw [isSome_lookup sound, isAlive, hfound] at halive
  exact ⟨hfound, halive⟩

/-- The first turn of a fan-out asks the registry for whom it is. -/
theorem beginCall_eq_fanOut (sound : h.ledger.lives.Sound) {r : SendOrder} {target : String}
    (htarget : r.target? = some target) (n : Nat) : h.beginCall n r =
      h.fanOut n target ((h.registered r.isFor).map Connection.member) r.frame := by
  cases r with
  | toHandle id f => cases htarget
  | toConnection id f => cases htarget
  | toUser user f =>
    cases htarget
    rw [beginCall, lookupUser_eq_registered sound, Registry.getD_listed]
    rfl
  | toAll f =>
    cases htarget
    rw [beginCall, all_eq_registered sound]
    rfl

end Hub

end Switchboard
