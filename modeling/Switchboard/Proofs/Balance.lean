import Switchboard.Proofs.Book
import Switchboard.Proofs.Outbound

/-!
# The book balances

`Hub.Balances io b h h'` says that the entries `b` account for what led from `h` to `h'`: the
counter of dropped frames rose by the losses among them, the frames given to handlers were counted
under their kinds, each outbox holds what it held and what entered without what was taken, and the
hub's own record of the past has grown by just this. `io` tells the connections whose links may have
been touched.

Every operation of a hub has a lemma that says so of the entries for it, in the order in which the
operations are built from each other, and `balances_step` says so of events.
-/

namespace Switchboard

theorem intake_append (id : String) (b b' : List Entry) :
    intake id (b ++ b') = intake id b ++ intake id b' := List.filterMap_append ..

theorem takings_append (id : String) (b b' : List Entry) :
    takings id (b ++ b') = takings id b ++ takings id b' := List.filterMap_append ..

theorem receipts_append (b b' : List Entry) : receipts (b ++ b') = receipts b ++ receipts b' :=
  List.filterMap_append ..

/-- Count frames under their kinds. -/
def Tally.receive (t : Tally) (fs : List Frame) : Tally :=
  fs.foldl (fun t f => t.bump f.kind.name) t

/-- An entry that can be made about a dead connection: nothing leaves its outbox, and only a send
that waited can put a frame in. -/
def Entry.Late (id : String) (x : Entry) : Prop :=
  x.taken? id = none ∧ ∀ i, x.intake? id = some i → ∃ f t, x = .ended id f t .entered

theorem Tally.receive_append (t : Tally) (fs fs' : List Frame) :
    t.receive (fs ++ fs') = (t.receive fs).receive fs' := List.foldl_append

namespace Hub

variable {τ : Type} {io : String → Prop} {h h' h'' : Hub τ} {id d : String} {c : Connection τ}
  {b b' : List Entry} {f : Frame}

/-- The frames in the outbox of a connection, if there is one. -/
def queued (h : Hub τ) (id : String) : List Frame :=
  ((h.find? id).map fun c => c.outbox.queued).getD []

theorem queued_of_connections_eq (heq : h'.connections = h.connections) (id : String) :
    h'.queued id = h.queued id := by
  rw [queued, queued, find?_of_connections_eq heq]

/-- A change of a connection that does not show in its queue. -/
theorem queued_update {g : Connection τ → Connection τ} (hg : ∀ c, (g c).member = c.member)
    (hqueued : ∀ c, h.find? d = some c → (g c).outbox.queued = c.outbox.queued) (id : String) :
    (h.update d g).queued id = h.queued id := by
  rw [queued, queued, find?_update hg]
  split
  · rename_i heq
    subst heq
    cases hc : h.find? id with
    | none => rfl
    | some c => exact hqueued c hc
  · rfl

/-- The entries account for what led from one hub to another. -/
structure Balances (io : String → Prop) (b : List Entry) (h h' : Hub τ) : Prop where
  dropped : h'.metrics.dropped = h.metrics.dropped + (b.filterMap Entry.loss?).length
  received : h'.metrics.received = h.metrics.received.receive (receipts b)
  queued : ∀ id, h.queued id ++ (intake id b).map Prod.fst = takings id b ++ h'.queued id
  entered : ∀ id, entered id h'.history = entered id h.history ++ intake id b
  handed : ∀ id,
    handed id h'.history = handed id h.history ++ (takings id b).filter Frame.isSendable
  late : ∀ id c, h.find? id = some c → c.alive = false → ∀ x ∈ b, x.Late id
  conn : ∀ id c, h.find? id = some c → ∃ c', h'.find? id = some c' ∧
    (c.alive = false → c'.alive = false) ∧ (¬ io id → c'.link = c.link)

namespace Balances

theorem trans (first : Balances io b h h') (second : Balances io b' h' h'') :
    Balances io (b ++ b') h h'' where
  dropped := by
    rw [second.dropped, first.dropped, List.filterMap_append, List.length_append, Nat.add_assoc]
  received := by rw [second.received, first.received, receipts_append, Tally.receive_append]
  queued id := by
    rw [intake_append, takings_append, List.map_append, ← List.append_assoc, first.queued,
      List.append_assoc, second.queued, List.append_assoc]
  entered id := by rw [second.entered, first.entered, intake_append, List.append_assoc]
  handed id := by
    rw [second.handed, first.handed, takings_append, List.filter_append, List.append_assoc]
  late id c hc hdead x hx := by
    rcases List.mem_append.mp hx with hx | hx
    · exact first.late id c hc hdead x hx
    · obtain ⟨c', hc', hdies, -⟩ := first.conn id c hc
      exact second.late id c' hc' (hdies hdead) x hx
  conn id c hc := by
    obtain ⟨c', hc', hdies, hlink⟩ := first.conn id c hc
    obtain ⟨c'', hc'', hdies', hlink'⟩ := second.conn id c' hc'
    exact ⟨c'', hc'', fun hdead => hdies' (hdies hdead), fun hio => (hlink' hio).trans (hlink hio)⟩

theorem mono {io' : String → Prop} (balances : Balances io b h h') (hio : ∀ id, io id → io' id) :
    Balances io' b h h' where
  dropped := balances.dropped
  received := balances.received
  queued := balances.queued
  entered := balances.entered
  handed := balances.handed
  late := balances.late
  conn id c hc := by
    obtain ⟨c', hc', hdies, hlink⟩ := balances.conn id c hc
    exact ⟨c', hc', hdies, fun hno => hlink fun h => hno (hio id h)⟩

/-- What happens before without any entry. -/
theorem after (second : Balances io b h' h'') (first : Balances io [] h h') :
    Balances io b h h'' := first.trans second

/-- What happens afterwards without any entry. -/
theorem before (first : Balances io b h h') (second : Balances io [] h' h'') :
    Balances io b h h'' := by
  have hboth := first.trans second
  rwa [List.append_nil] at hboth

end Balances

/-- What shows neither in connections nor in the history needs no entry. -/
theorem balances_of_same (hconnections : h'.connections = h.connections)
    (hhistory : h'.history = h.history) (hdropped : h'.metrics.dropped = h.metrics.dropped)
    (hreceived : h'.metrics.received = h.metrics.received) : Balances io [] h h' where
  dropped := hdropped
  received := hreceived
  queued id := by
    rw [queued_of_connections_eq hconnections]
    exact List.append_nil _
  entered id := by
    rw [hhistory]
    exact (List.append_nil _).symm
  handed id := by
    rw [hhistory]
    exact (List.append_nil _).symm
  late _ _ _ _ x hx := absurd hx List.not_mem_nil
  conn id c hc := ⟨c, (find?_of_connections_eq hconnections id).trans hc, fun h => h, fun _ => rfl⟩

theorem Balances.refl (io : String → Prop) (h : Hub τ) : Balances io [] h h :=
  balances_of_same rfl rfl rfl rfl

theorem Rouses.balances (rouses : h.Rouses h') : Balances io [] h h' := by
  obtain ⟨ready, rfl, -⟩ := rouses
  exact balances_of_same rfl rfl rfl rfl

/-- A change of a connection that does not bring it to life and shows neither in its queue nor, if
that may not be touched, in its link. -/
theorem balances_update {g : Connection τ → Connection τ} (hg : ∀ c, (g c).member = c.member)
    (hqueued : ∀ c, h.find? d = some c → (g c).outbox.queued = c.outbox.queued)
    (hdies : ∀ c, c.alive = false → (g c).alive = false)
    (hlink : ¬ io d → ∀ c, (g c).link = c.link) : Balances io [] h (h.update d g) where
  dropped := rfl
  received := rfl
  queued id := by
    rw [queued_update hg hqueued]
    exact List.append_nil _
  entered id := (List.append_nil _).symm
  handed id := (List.append_nil _).symm
  late _ _ _ _ x hx := absurd hx List.not_mem_nil
  conn id c hc := by
    rw [find?_update hg, hc]
    split
    · rename_i heq
      subst heq
      exact ⟨g c, rfl, hdies c, fun hio => hlink hio c⟩
    · exact ⟨c, rfl, fun h => h, fun _ => rfl⟩

/-- What happens besides entering an outbox and being handed over from it needs no entry. -/
theorem balances_record {x : Happening} (hintake : ∀ id, x.intake? id = none)
    (hhandover : ∀ id, x.handover? id = none) : Balances io [] h (h.record x) :=
  { Balances.refl io h with
    entered := fun id => (entered_of_intake?_none (hintake id) _).trans (List.append_nil _).symm
    handed := fun id => (handed_of_handover?_none (hhandover id) _).trans (List.append_nil _).symm }

/-! ## Teardown and removal -/

theorem balances_teardown (h : Hub τ) (id : String) (reason : CloseReason) :
    Balances io [] h (h.teardown id reason).2 := by
  rcases teardown_cases h id reason with ⟨c, -, hc, halive, -⟩ | hnothing
  · have torn := teardown_of_alive_torn hc halive reason
    obtain ⟨lifetime, hmetrics⟩ := torn.metrics_eq
    have hupdate : Balances io [] h (h.update id fun c => { c with alive := false }) :=
      balances_update (fun _ => rfl) (fun _ _ => rfl) (fun _ _ => rfl) fun _ _ => rfl
    have hclosed : Balances io [] (h.update id fun c => { c with alive := false })
        ((h.update id fun c => { c with alive := false }).record (.closed id reason)) :=
      balances_record (fun _ => rfl) fun _ => rfl
    refine hclosed.after hupdate |>.before
      (balances_of_same torn.connections_eq torn.history_eq ?_ ?_)
    · rw [hmetrics]
      rfl
    · rw [hmetrics]
      rfl
  · rw [hnothing]
    exact .refl io h

theorem balances_remove (h : Hub τ) (id : String) : Balances io [] h (h.remove id).2 := by
  have hteardown : ∀ {h : Hub τ} {won : Bool}, Balances io [] h (h.record (.removal id won)) :=
    balances_record (fun _ => rfl) fun _ => rfl
  rw [remove]
  cases h.registry.lookup id with
  | none => exact hteardown
  | some m => exact (balances_teardown h m.id .removed).before hteardown

/-! ## Offers and sends -/

/-- A frame enters the outbox of a connection that is there. `x` is the entry for it. -/
theorem balances_enter (hc : h.find? id = some c) {s : Sender} {put : Outbox → Outbox}
    (hput : (put c.outbox).queued = c.outbox.queued ++ [f]) {x : Entry}
    (hlate : c.alive = true ∨ ∃ f t, x = .ended id f t .entered) (hloss : x.loss? = none)
    (hreceived : x.received? = none) (htaken : ∀ d, x.taken? d = none)
    (hintake : ∀ d, x.intake? d = if id = d then some (f, s) else none) :
    Balances io [x] h (h.enter id f s put) := by
  have hfind : ∀ d, (h.update id fun c => { c with outbox := put c.outbox }).find? d =
      if d = id then (h.find? d).map fun c => { c with outbox := put c.outbox } else h.find? d :=
    fun d => find?_update (f := fun c => { c with outbox := put c.outbox }) (fun _ => rfl) h id d
  have hnotaken : ∀ d, takings d [x] = [] := fun d => by simp [takings, htaken d]
  refine Balances.before ⟨?_, ?_, fun d => ?_, fun d => ?_, fun d => ?_,
    fun d c' hc' hdead y hy => ?_, fun d c' hc' => ?_⟩
    (rouses_wakeWriter ((h.update id fun c => { c with outbox := put c.outbox }).record
      (.entered id f s)) id).balances
  -- nothing is counted
  · change h.metrics.dropped = _
    simp [hloss]
  · change h.metrics.received = _
    simp [receipts, hreceived, Tally.receive]
  -- the frame is at the end of one queue, and entered there
  · change _ = _ ++ (h.update id fun c => { c with outbox := put c.outbox }).queued d
    rw [hnotaken, queued, queued, hfind, intake]
    by_cases hd : id = d
    · subst hd
      simp [hintake, hc, hput]
    · have hne : ¬ d = id := fun h => hd h.symm
      simp [hintake, hd, hne]
  · change entered d (.entered id f s :: h.history) = _
    rw [entered_cons, intake]
    simp only [Happening.intake?, List.filterMap_cons, hintake, List.filterMap_nil]
    split <;> rfl
  · change handed d (.entered id f s :: h.history) = _
    rw [hnotaken, handed_of_handover?_none rfl]
    exact (List.append_nil _).symm
  -- the dead are given nothing but what a send had a slot for
  · obtain rfl := List.mem_singleton.mp hy
    refine ⟨htaken d, fun i hi => ?_⟩
    rw [hintake] at hi
    split at hi
    · rename_i hd
      subst hd
      obtain rfl := Option.some.inj (hc.symm.trans hc')
      exact hlate.resolve_left (by simp [hdead])
    · cases hi
  · change ∃ c'', (h.update id fun c => { c with outbox := put c.outbox }).find? d = some c'' ∧ _
    rw [hfind, hc']
    split
    · exact ⟨_, rfl, fun h => h, fun _ => rfl⟩
    · exact ⟨c', rfl, fun h => h, fun _ => rfl⟩

theorem balances_putFrame (hc : h.find? id = some c) (halive : c.alive = true) (f : Frame)
    {s : Sender} {x : Entry} (hloss : x.loss? = none) (hreceived : x.received? = none)
    (htaken : ∀ d, x.taken? d = none)
    (hintake : ∀ d, x.intake? d = if id = d then some (f, s) else none) :
    Balances io [x] h (h.putFrame id f s) :=
  balances_enter hc rfl (.inl halive) hloss hreceived htaken hintake

theorem balances_redeemFrame (hc : h.find? id = some c) (f : Frame) (t : Ticket) :
    Balances io [.ended id f t .entered] h (h.redeemFrame id f t) := by
  have hput : (c.outbox.redeem t f).queued = c.outbox.queued ++ [f] := rfl
  rw [redeemFrame]
  exact balances_enter hc hput (.inr ⟨f, t, rfl⟩) rfl rfl (fun _ => rfl) fun _ => rfl

/-- A frame is dropped. `x` is the entry for it. -/
theorem balances_dropFrame {x : Entry} {l : Loss} (hloss : x.loss? = some l)
    (hreceived : x.received? = none) (htaken : ∀ d, x.taken? d = none)
    (hintake : ∀ d, x.intake? d = none) : Balances io [x] h h.dropFrame where
  dropped := by simp [dropFrame, count, Metrics.countDropped, hloss]
  received := by simp [receipts, hreceived, Tally.receive, dropFrame, count, Metrics.countDropped]
  queued d := by
    simp only [intake, List.filterMap_cons, hintake, List.filterMap_nil, List.map_nil,
      List.append_nil, takings, htaken, List.nil_append]
    rfl
  entered d := by
    simp only [intake, List.filterMap_cons, hintake, List.filterMap_nil, List.append_nil]
    rfl
  handed d := by
    simp only [takings, List.filterMap_cons, htaken, List.filterMap_nil, List.filter_nil,
      List.append_nil]
    rfl
  late d _ _ _ y hy := by
    obtain rfl := List.mem_singleton.mp hy
    exact ⟨htaken d, fun i hi => by simp [hintake] at hi⟩
  conn d c hc := ⟨c, hc, fun h => h, fun _ => rfl⟩

theorem balances_withdrawSend (h : Hub τ) (id : String) (t : Ticket) :
    Balances io [] h (h.withdrawSend id t) := by
  rw [withdrawSend]
  cases hc : h.find? id with
  | none => exact .refl io h
  | some c =>
    have hupdate : Balances io [] h
        (h.update id fun c' => { c' with outbox := (c.outbox.withdraw t).2 }) := by
      refine balances_update (fun _ => rfl) (fun c' hc' => ?_) (fun _ h => h) fun _ _ => rfl
      obtain rfl := Option.some.inj (hc.symm.trans hc')
      exact Outbox.queued_withdraw c.outbox t
    exact hupdate.before (rouses_wakeAll
      ((c.outbox.withdraw t).1.toList.map fun t => .call t.call) _).balances

theorem balances_trySend (h : Hub τ) (id : String) (f : Frame) :
    Balances io [h.tryEntry id f] h (h.trySend id f).2 := by
  rw [tryEntry, trySend]
  cases hc : h.find? id with
  | none => exact balances_dropFrame rfl rfl (fun _ => rfl) fun _ => rfl
  | some c =>
    dsimp only
    cases halive : c.alive with
    | false => exact balances_dropFrame rfl rfl (fun _ => rfl) fun _ => rfl
    | true =>
      cases hroom : c.outbox.hasRoom with
      | true => exact balances_putFrame hc halive f rfl rfl (fun _ => rfl) fun _ => rfl
      | false => exact balances_dropFrame rfl rfl (fun _ => rfl) fun _ => rfl

/-- Being in line shows nowhere. -/
theorem balances_join {x : Entry} (hloss : x.loss? = none) (hreceived : x.received? = none)
    (htaken : ∀ d, x.taken? d = none) (hintake : ∀ d, x.intake? d = none) (id : String)
    (t : Ticket) :
    Balances io [x] h (h.update id fun c => { c with outbox := c.outbox.join t }) := by
  have hupdate : Balances io [] h (h.update id fun c => { c with outbox := c.outbox.join t }) :=
    balances_update (fun _ => rfl) (fun _ _ => rfl) (fun _ h => h) fun _ _ => rfl
  have hx : Balances io [x] h h := by
    refine ⟨?_, ?_, fun d => ?_, fun d => ?_, fun d => ?_, fun d _ _ _ y hy => ?_,
      fun d c hc => ⟨c, hc, fun h => h, fun _ => rfl⟩⟩
    · simp [hloss]
    · simp [receipts, hreceived, Tally.receive]
    · simp [intake, hintake, takings, htaken]
    · simp [intake, hintake]
    · simp [takings, htaken]
    · obtain rfl := List.mem_singleton.mp hy
      exact ⟨htaken d, fun i hi => by simp [hintake] at hi⟩
  exact hx.before hupdate

theorem balances_beginSend (h : Hub τ) (id : String) (f : Frame) (t : Ticket) :
    Balances io [h.sendEntry id f t] h (h.beginSend id f t).2 := by
  rw [sendEntry, beginSend]
  cases hc : h.find? id with
  | none => exact balances_dropFrame rfl rfl (fun _ => rfl) fun _ => rfl
  | some c =>
    dsimp only
    cases halive : c.alive with
    | false => exact balances_dropFrame rfl rfl (fun _ => rfl) fun _ => rfl
    | true =>
      cases hroom : c.outbox.hasRoom with
      | true => exact balances_putFrame hc halive f rfl rfl (fun _ => rfl) fun _ => rfl
      | false => exact balances_join rfl rfl (fun _ => rfl) (fun _ => rfl) id t

theorem balances_resumeSend (h : Hub τ) (roomFirst : Bool) (id : String) (f : Frame) (t : Ticket) :
    Balances io (h.resumed? roomFirst id f t).toList h (h.resumeSend roomFirst id f t).2 := by
  rw [resumed?, resumeSend]
  cases hc : h.find? id with
  | none => exact .refl io h
  | some c =>
    dsimp only
    split
    · exact balances_redeemFrame hc f t
    · split
      · exact (balances_dropFrame rfl rfl (fun _ => rfl) fun _ => rfl).after
          (balances_withdrawSend h id t)
      · exact .refl io h

theorem balances_beginSends (number : Nat) (f : Frame) (places : List (String × Nat)) (h : Hub τ) :
    Balances io (sendEntries number f places h) h (beginSends number f places h).2 := by
  induction places generalizing h with
  | nil => exact .refl io h
  | cons target rest ih => exact (balances_beginSend h target.1 f ⟨number, target.2⟩).trans (ih _)

theorem balances_resumeSends (roomFirst : Nat → Bool) (number : Nat) (f : Frame)
    (places : List (String × Nat)) (h : Hub τ) :
    Balances io (resumeEntries roomFirst number f places h) h
      (resumeSends roomFirst number f places h).2 := by
  induction places generalizing h with
  | nil => exact .refl io h
  | cons target rest ih =>
    exact (balances_resumeSend h (roomFirst target.2) target.1 f ⟨number, target.2⟩).trans (ih _)

theorem balances_withdrawSends (number : Nat) (places : List (String × Nat)) (h : Hub τ) :
    Balances io [] h (withdrawSends number places h) := by
  induction places generalizing h with
  | nil => exact .refl io h
  | cons target rest ih => exact (ih _).after (balances_withdrawSend h target.1 _)

/-! ## Calls -/

theorem balances_setCall (h : Hub τ) (number : Nat) (call : Call) :
    Balances io [] h (h.setCall number call) := balances_of_same rfl rfl rfl rfl

theorem balances_startCall (h : Hub τ) (r : SendOrder) : Balances io [] h (h.startCall r).2 := by
  have hadd : Balances io [] h (h.addCall r).2 := balances_of_same rfl rfl rfl rfl
  exact hadd.before (rouses_wake _ _).balances

theorem balances_sendToEach (h : Hub τ) (number : Nat) (f : Frame) (ids : List String) (r : Reply) :
    Balances io (sendEntries number f ids.zipIdx h) h (h.sendToEach number f ids r) :=
  (balances_beginSends number f ids.zipIdx h).before (balances_setCall _ number _)

theorem balances_countSent (h : Hub τ) (target : String) :
    Balances io [] h (h.count fun m => m.countSent target) := balances_of_same rfl rfl rfl rfl

theorem balances_fanOut (h : Hub τ) (number : Nat) (target : String) (members : List Member)
    (f : Frame) :
    Balances io (h.fanEntries number target members f) h (h.fanOut number target members f) := by
  rw [fanEntries, fanOut]
  cases members with
  | nil => exact balances_setCall h number _
  | cons m rest =>
    exact (balances_sendToEach _ number f _ _).after (balances_countSent h target)

theorem balances_beginCall (h : Hub τ) (number : Nat) (r : SendOrder) :
    Balances io (h.firstEntries number r) h (h.beginCall number r) := by
  cases r with
  | toHandle id f => exact balances_sendToEach h number f [id] .sent
  | toConnection id f =>
    rw [firstEntries, beginCall]
    cases h.registry.lookup id with
    | none =>
      have hdrop : Balances io [.unknown id f] h h.dropFrame :=
        balances_dropFrame rfl rfl (fun _ => rfl) fun _ => rfl
      exact hdrop.before (balances_setCall _ number _)
    | some m =>
      exact (balances_sendToEach _ number f [m.id] _).after (balances_countSent h "connection")
  | toUser user f => exact balances_fanOut h number "user" _ f
  | toAll f => exact balances_fanOut h number "broadcast" _ f

theorem balances_callTurn (h : Hub τ) (roomFirst : Nat → Bool) (number : Nat) :
    Balances io (h.callEntries roomFirst number) h (h.callTurn roomFirst number) := by
  rw [callEntries, callTurn]
  cases h.calls[number]? with
  | none => exact .refl io h
  | some call =>
    cases call with
    | requested r => exact balances_beginCall h number r
    | waiting f places r =>
      exact (balances_resumeSends roomFirst number f places h).before (balances_setCall _ number _)
    | finished r => exact .refl io h
    | abandoned => exact .refl io h

/-- An abandoned send is counted nowhere. -/
theorem balances_abandoned (number : Nat) (f : Frame) (places : List (String × Nat)) (h : Hub τ) :
    Balances io (places.map fun x => .ended x.1 f ⟨number, x.2⟩ .abandoned) h h := by
  induction places with
  | nil => exact .refl io h
  | cons x rest ih =>
    refine { ih with late := fun id c hc hdead y hy => ?_ }
    rcases List.mem_cons.mp hy with rfl | hy
    · exact ⟨rfl, fun _ hi => nomatch hi⟩
    · exact ih.late id c hc hdead y hy

theorem balances_abandon (h : Hub τ) (number : Nat) :
    Balances io (h.abandonEntries number) h (h.abandon number) := by
  rw [abandonEntries, abandon]
  cases h.calls[number]? with
  | none => exact .refl io h
  | some call =>
    cases call with
    | requested r => exact balances_setCall h number _
    | waiting f places r =>
      exact (balances_abandoned number f places h).before
        ((balances_setCall _ number _).after (balances_withdrawSends number places h))
    | finished r => exact .refl io h
    | abandoned => exact .refl io h

/-! ## Scripts and dispatch -/

theorem balances_addHandlers (h : Hub τ) (id : String) (handlers : List Handler) :
    Balances io [] h (h.addHandlers id handlers) :=
  balances_update (fun _ => rfl) (fun _ _ => rfl) (fun _ h => h) fun _ _ => rfl

theorem balances_setHandlers (h : Hub τ) (id : String) (handlers : List Handler) :
    Balances io [] h (h.setHandlers id handlers) :=
  balances_update (fun _ => rfl) (fun _ _ => rfl) (fun _ h => h) fun _ _ => rfl

theorem balances_runScript (id : String) (script : Script) (h : Hub τ) :
    Balances io (scriptEntries id script h) h (runScript id script h).2 := by
  -- the cases are those of a script: its end, a panic, and what it does before it goes on
  fun_induction scriptEntries id script h with
  | case1 h => exact .refl io h
  | case2 p h => exact .refl io h
  | case3 f next h ih => exact (balances_trySend h id f).trans ih
  | case4 f next h ih => exact ih.after (balances_startCall h _)
  | case5 handlers next h ih => exact ih.after (balances_addHandlers h id handlers)
  | case6 handlers next h ih => exact ih.after (balances_setHandlers h id handlers)
  | case7 next h ih => exact ih.after (balances_remove h id)
  | case8 n next h ih => exact ih.after (balances_of_same rfl rfl rfl rfl)
  | case9 e next h ih => exact ih.after (balances_of_same rfl rfl rfl rfl)

theorem balances_runHandlers (member : Member) (f : Frame) (index : Nat) (handlers : List Handler)
    (h : Hub τ) :
    Balances io (handlerEntries member f index handlers h) h
      (runHandlers member f index handlers h) := by
  induction handlers generalizing index h with
  | nil => exact .refl io h
  | cons handler rest ih =>
    have hone : Balances io (scriptEntries member.id (handler member f) h) h
        (runHandlers member f index [handler] h) := by
      have hscript : Balances io _ h _ := balances_runScript member.id (handler member f) h
      rw [runHandlers]
      generalize runScript member.id (handler member f) h = ran at hscript ⊢
      obtain ⟨panic, h'⟩ := ran
      cases panic with
      | none => exact hscript
      | some p => exact hscript.before (balances_of_same rfl rfl rfl rfl)
    exact hone.trans (ih _ _)

theorem balances_dispatch (h : Hub τ) (c : Connection τ) (f : Frame) :
    Balances io (h.dispatchEntries c f) h (h.dispatch c f) :=
  balances_runHandlers c.member f 0 c.handlers h

/-! ## The writer -/

theorem balances_logAbout (h : Hub τ) (id : String) (level : Level) (message : String)
    (fields : List (String × LogValue)) : Balances io [] h (h.logAbout id level message fields) :=
  balances_of_same rfl rfl rfl rfl

theorem balances_setWriter (h : Hub τ) (id : String) (phase : WriterPhase) :
    Balances io [] h (h.update id fun c => { c with writer := phase }) :=
  balances_update (fun _ => rfl) (fun _ _ => rfl) (fun _ h => h) fun _ _ => rfl

/-- What the outboxes hold once a frame was taken off one of them. -/
theorem queued_take (hc : h.find? id = some c) {o : Outbox}
    (hqueued : c.outbox.queued = f :: o.queued) (d : String) :
    h.queued d = takings d [.taken id f] ++
      (h.update id fun c => { c with outbox := o }).queued d := by
  have hfind :=
    find?_update (f := fun c : Connection τ => { c with outbox := o }) (fun _ => rfl) h id d
  rw [queued, queued, hfind, takings]
  by_cases hd : id = d
  · subst hd
    simp [Entry.taken?, hc, hqueued]
  · have hne : ¬ d = id := fun he => hd he.symm
    simp [Entry.taken?, hd, hne]

theorem find?_take (id : String) (o : Outbox) (hc : h.find? d = some c) :
    ∃ c', (h.update id fun c => { c with outbox := o }).find? d = some c' ∧ c'.alive = c.alive ∧
      c'.link = c.link := by
  rw [find?_update (f := fun c : Connection τ => { c with outbox := o }) (fun _ => rfl), hc]
  split
  · exact ⟨_, rfl, rfl, rfl⟩
  · exact ⟨c, rfl, rfl, rfl⟩

/-- What is taken off an outbox is taken while its connection lives. -/
theorem late_taken (hc : h.find? id = some c) (halive : c.alive = true) (f : Frame) (d : String)
    (c' : Connection τ) (hc' : h.find? d = some c') (hdead : c'.alive = false) :
    ∀ x ∈ [Entry.taken id f], x.Late d := by
  intro x hx
  obtain rfl := List.mem_singleton.mp hx
  refine ⟨if_neg fun hd => ?_, fun _ hi => nomatch hi⟩
  subst hd
  obtain rfl := Option.some.inj (hc.symm.trans hc')
  rw [halive] at hdead
  cases hdead

/-- A frame was taken off an outbox, and is handed over to the link. -/
theorem balances_pass (hc : h.find? id = some c) (halive : c.alive = true) {o : Outbox}
    (hqueued : c.outbox.queued = f :: o.queued) (hsend : f.isSendable = true)
    (rest : Balances io [] (h.update id fun c => { c with outbox := o }) h') :
    Balances io [.taken id f] h (h'.record (.handed id f .queued)) where
  dropped := by
    simp only [List.filterMap_cons, Entry.loss?, hsend, if_true]
    exact rest.dropped
  received := rest.received
  queued d := by
    have hsame : _ ++ [] = h'.queued d := rest.queued d
    rw [queued_take hc hqueued d, ← List.append_nil (queued _ d), hsame]
    exact List.append_nil _
  entered d := (entered_of_intake?_none rfl _).trans (rest.entered d)
  handed d := by
    have hsame : handed d h'.history = handed d h.history ++ [] := rest.handed d
    change handed d (.handed id f .queued :: h'.history) = _
    rw [handed_cons, hsame, List.append_nil, takings]
    simp only [Happening.handover?, List.filterMap_cons, Entry.taken?, List.filterMap_nil]
    split <;> simp [hsend]
  late := late_taken hc halive f
  conn d c' hc' := by
    obtain ⟨c'', hc'', halive, hlink⟩ := find?_take id o hc'
    obtain ⟨x, hx, hdies, hlink'⟩ := rest.conn d c'' hc''
    exact ⟨x, hx, fun hdead => hdies (halive.trans hdead), fun hno => (hlink' hno).trans hlink⟩

/-- A frame was taken off an outbox, and is dropped. -/
theorem balances_shed (hc : h.find? id = some c) (halive : c.alive = true) {o : Outbox}
    (hqueued : c.outbox.queued = f :: o.queued) (hsend : f.isSendable = false)
    (rest : Balances io [] (h.update id fun c => { c with outbox := o }) h') :
    Balances io [.taken id f] h h'.dropFrame where
  dropped := by
    have hdropped : h'.metrics.dropped = h.metrics.dropped := rest.dropped
    simp [Entry.loss?, hsend, dropFrame, count, Metrics.countDropped, hdropped]
  received := rest.received
  queued d := by
    have hsame : _ ++ [] = h'.queued d := rest.queued d
    rw [queued_take hc hqueued d, ← List.append_nil (queued _ d), hsame]
    exact List.append_nil _
  entered d := rest.entered d
  handed d := by
    have hsame : handed d h'.history = handed d h.history ++ [] := rest.handed d
    change handed d h'.history = _
    rw [hsame, takings]
    by_cases hd : id = d <;> simp [Entry.taken?, hd, hsend]
  late := late_taken hc halive f
  conn d c' hc' := by
    obtain ⟨c'', hc'', halive, hlink⟩ := find?_take id o hc'
    obtain ⟨x, hx, hdies, hlink'⟩ := rest.conn d c'' hc''
    exact ⟨x, hx, fun hdead => hdies (halive.trans hdead), fun hno => (hlink' hno).trans hlink⟩

variable [Transport τ]

theorem balances_setLink (hio : io id) (h : Hub τ) (link : τ) :
    Balances io [] h (h.setLink id link) := by
  have hupdate : Balances io [] h (h.update id fun c => { c with link := link }) :=
    balances_update (fun _ => rfl) (fun _ _ => rfl) (fun _ h => h) fun hno => absurd hio hno
  rw [setLink]
  split
  · exact hupdate.before (rouses_wakeReader _ id).balances
  · exact hupdate

theorem balances_stopWriter (hio : io id) (h : Hub τ) : Balances io [] h (h.stopWriter id) :=
  balances_update (fun _ => rfl) (fun _ _ => rfl) (fun _ h => h) fun hno => absurd hio hno

theorem balances_failWriter (hio : io id) (h : Hub τ) (reason : CloseReason) :
    Balances io [] h (h.failWriter id reason) :=
  (balances_teardown _ id reason).after (balances_stopWriter hio h)

theorem balances_panicWriter (hio : io id) (h : Hub τ) (p : Panic) :
    Balances io [] h (h.panicWriter id p) :=
  (balances_teardown _ id .taskFailed).after
    ((balances_logAbout _ id _ _ _).after (balances_stopWriter hio h))

theorem balances_afterSend (hio : io id) (h : Hub τ) (kind : FrameKind) (limit : Nat)
    (p : Progress) : Balances io [] h (h.afterSend id kind limit p).2 := by
  cases p with
  | done => exact balances_setWriter h id .idle
  | failed e => exact (balances_failWriter hio _ .writeError).after (balances_logAbout h id _ _ _)
  | panicked p => exact balances_panicWriter hio h p
  | pending =>
    rw [afterSend]
    split
    · exact (balances_failWriter hio _ .writeTimeout).after (balances_logAbout h id _ _ _)
    · exact balances_setWriter h id (.sending kind limit)

theorem balances_finishClose (hio : io id) (h : Hub τ) (limit : Nat) (p : Progress)
    (wait : WriterPhase) : Balances io [] h (h.finishClose id limit p wait).2 := by
  cases p with
  | done => exact balances_stopWriter hio h
  | failed e => exact (balances_stopWriter hio _).after (balances_logAbout h id _ _ _)
  | panicked p => exact balances_panicWriter hio h p
  | pending =>
    rw [finishClose]
    split
    · exact (balances_stopWriter hio _).after (balances_logAbout h id _ _ _)
    · exact balances_setWriter h id wait

theorem balances_closeSink (hio : io id) (h : Hub τ) (limit : Nat) :
    Balances io [] h (h.closeSink id limit).2 := by
  rw [closeSink]
  cases h.find? id with
  | none => exact .refl io h
  | some c => exact (balances_finishClose hio _ limit _ _).after (balances_setLink hio h _)

theorem balances_afterCloseFrame (hio : io id) (h : Hub τ) (limit : Nat) (p : Progress) :
    Balances io [] h (h.afterCloseFrame id limit p).2 := by
  cases p with
  | done => exact balances_closeSink hio h limit
  | failed e => exact balances_finishClose hio h limit _ _
  | panicked p => exact balances_finishClose hio h limit _ _
  | pending => exact balances_finishClose hio h limit _ _

/-- A frame of the writer's own does not come from the outbox. -/
theorem balances_hand (hio : io id) (h : Hub τ) (f : Frame) {cause : Cause}
    (hown : cause ≠ .queued) (link : τ) : Balances io [] h (h.hand id f cause link).2 := by
  have hrecord : ∀ h : Hub τ, Balances io [] h (h.record (.handed id f cause)) := fun h =>
    balances_record (fun _ => rfl) fun d => by
      cases cause with
      | queued => exact absurd rfl hown
      | heartbeat => rfl
      | farewell => rfl
  exact (hrecord _).after (balances_setLink hio h _)

theorem balances_sendPing (h : Hub τ) (c : Connection τ) (hio : io c.id) :
    Balances io [] h (h.sendFrame c .ping .heartbeat).2 := by
  have hhand := balances_hand hio h .ping (by decide : Cause.heartbeat ≠ .queued) c.link
  exact (balances_afterSend hio _ _ _ _).after hhand

/-- The next frame of the outbox is handed over or dropped. `h'` is the hub after it was taken. -/
theorem balances_sendQueued (hc : h.find? c.id = some c) (halive : c.alive = true) (hio : io c.id)
    {o : Outbox}
    (hqueued : c.outbox.queued = f :: o.queued)
    (rest : Balances io [] (h.update c.id fun c => { c with outbox := o }) h') :
    Balances io [.taken c.id f] h (h'.sendFrame c f .queued).2 := by
  rw [sendFrame]
  split
  · rename_i hsend
    have hlink := rest.before (balances_setLink hio h' (Transport.send h'.now f c.link).2)
    exact (balances_pass hc halive hqueued hsend hlink).before (balances_afterSend hio _ _ _ _)
  · rename_i hsend
    exact (balances_shed hc halive hqueued (by simpa using hsend) rest).before
      (balances_logAbout _ c.id _ _ _)

theorem balances_idleWriterTurn (hc : h.find? c.id = some c) (hio : io c.id)
    (hidle : c.writer = .idle) :
    Balances io (c.takes?.map (Entry.taken c.id)).toList h (h.idleWriterTurn c).2 := by
  rw [idleWriterTurn]
  split
  · rename_i hdead
    have htakes : c.takes? = none := by simp_all [Connection.takes?]
    rw [htakes]
    exact (balances_afterCloseFrame hio _ _ _).after
      (balances_hand hio h .close (by decide : Cause.farewell ≠ .queued) c.link)
  · rename_i halive
    have htakes : c.takes? = c.outbox.queued.head? := by simp_all [Connection.takes?]
    rw [htakes]
    cases htake : c.outbox.take with
    | some taken =>
      obtain ⟨f, granted, o⟩ := taken
      have hqueued := Outbox.queued_of_take htake
      rw [hqueued]
      exact balances_sendQueued hc (by simpa using halive) hio hqueued (rouses_wakeAll _ _).balances
    | none =>
      rw [Connection.queued_eq_nil_of_take htake]
      dsimp only
      split
      · have hnext : Balances io [] h (h.update c.id fun c' =>
            { c' with heartbeat := nextHeartbeat h.now c.heartbeat h.config.heartbeat }) :=
          balances_update (fun _ => rfl) (fun _ _ => rfl) (fun _ h => h) fun _ _ => rfl
        exact (balances_sendPing _ c hio).after hnext
      · exact .refl io h

theorem balances_writerTurn (hio : io id) (h : Hub τ) :
    Balances io (h.writerEntries id) h (h.writerTurn id).2 := by
  rw [writerEntries, writerTurn]
  cases hc : h.find? id with
  | none => exact .refl io h
  | some c =>
    obtain rfl := id_of_find? hc
    have hbusy : c.writer ≠ .idle → c.takes? = none := fun hne => by
      simp [Connection.takes?, hne]
    rw [Option.bind_some]
    dsimp only
    split
    · rename_i hphase
      rw [hbusy (by simp [hphase])]
      exact .refl io h
    · rename_i hphase
      rw [hbusy (by simp [hphase])]
      exact balances_update (fun _ => rfl) (fun _ _ => rfl) (fun _ h => h) fun _ _ => rfl
    · rename_i hphase
      exact balances_idleWriterTurn hc hio hphase
    · rename_i hphase
      rw [hbusy (by simp [hphase])]
      exact (balances_afterSend hio _ _ _ _).after (balances_setLink hio h _)
    · rename_i hphase
      rw [hbusy (by simp [hphase])]
      exact (balances_afterCloseFrame hio _ _ _).after (balances_setLink hio h _)
    · rename_i hphase
      rw [hbusy (by simp [hphase])]
      exact balances_closeSink hio h _

/-! ## The reader -/

theorem balances_stopReader (hio : io id) (h : Hub τ) : Balances io [] h (h.stopReader id) :=
  balances_update (fun _ => rfl) (fun _ _ => rfl) (fun _ h => h) fun hno => absurd hio hno

theorem balances_failReader (hio : io id) (h : Hub τ) (reason : CloseReason) :
    Balances io [] h (h.failReader id reason) :=
  (balances_teardown _ id reason).after (balances_stopReader hio h)

/-- A frame that is not for the handlers needs no entry. -/
theorem balances_takeFrame (hio : io c.id) (f : Frame)
    (hnone : Connection.forHandlers? h.config (.frame f) = none) :
    Balances io [] h (h.takeFrame c f).2 := by
  rw [Connection.forHandlers?] at hnone
  have hlong : f.kind.isData = true → f.payload.length > h.config.maxMessageSize := fun hdata => by
    simpa [hdata] using hnone
  cases hkind : f.kind with
  | pong =>
    simp only [takeFrame, hkind]
    exact balances_update (fun _ => rfl) (fun _ _ => rfl) (fun _ h => h) fun _ _ => rfl
  | ping =>
    simp only [takeFrame, hkind]
    exact .refl io h
  | close =>
    simp only [takeFrame, hkind]
    exact (balances_failReader hio _ .peerClosed).after (balances_logAbout h c.id _ _ _)
  | text =>
    simp only [takeFrame, hkind, if_pos (hlong (by rw [hkind]; rfl))]
    exact (balances_failReader hio _ .frameTooLarge).after (balances_logAbout h c.id _ _ _)
  | binary =>
    simp only [takeFrame, hkind, if_pos (hlong (by rw [hkind]; rfl))]
    exact (balances_failReader hio _ .frameTooLarge).after (balances_logAbout h c.id _ _ _)

/-- What arrives and is not for the handlers needs no entry. -/
theorem balances_takeArrival (hio : io c.id) (deadline : Nat) (a : Arrival)
    (hnone : Connection.forHandlers? h.config a = none) :
    Balances io [] h (h.takeArrival c deadline a).2 := by
  cases a with
  | frame f => exact balances_takeFrame hio f hnone
  | ended => exact balances_failReader hio h .peerClosed
  | failed e =>
    exact (balances_failReader hio _ .readError).after (balances_logAbout h c.id _ _ _)
  | panicked p =>
    exact (balances_teardown _ c.id .taskFailed).after
      ((balances_logAbout _ c.id _ _ _).after (balances_stopReader hio h))
  | pending =>
    rw [takeArrival]
    split
    · exact (balances_failReader hio _ .readTimeout).after (balances_logAbout h c.id _ _ _)
    · exact .refl io h

/-- A frame for the handlers was counted. -/
theorem balances_received (hio : io c.id) (h : Hub τ) (f : Frame) :
    Balances io [.received c.id f] h (h.received c f) := by
  have hlink : Balances io [] h
      (h.update c.id fun c' => { c' with link := (Transport.receive h.now c.link).2 }) :=
    balances_update (fun _ => rfl) (fun _ _ => rfl) (fun _ h => h) fun hno => absurd hio hno
  refine { hlink with received := rfl, late := fun d _ _ _ x hx => ?_ }
  obtain rfl := List.mem_singleton.mp hx
  exact ⟨rfl, fun _ hi => nomatch hi⟩

theorem balances_readerTurn (hio : io id) (h : Hub τ) :
    Balances io (h.readerEntries id) h (h.readerTurn id).2 := by
  rw [readerEntries]
  cases hc : h.find? id with
  | none =>
    rw [readerTurn, hc]
    exact .refl io h
  | some c =>
    obtain rfl := id_of_find? hc
    cases hf : c.dispatched? h.now h.config with
    | some f =>
      dsimp only
      rw [hf, readerTurn_of_dispatched hc hf]
      exact (balances_received hio h f).trans (balances_dispatch _ _ f)
    | none =>
      dsimp only
      rw [hf, readerTurn, hc]
      obtain ⟨member, createdAt, alive, handlers, outbox, writer, heartbeat, reader, link⟩ := c
      cases reader with
      | stopped => exact .refl io h
      | starting =>
        exact balances_update (fun _ => rfl) (fun _ _ => rfl) (fun _ h => h) fun _ _ => rfl
      | reading deadline =>
        cases alive with
        | false => exact balances_stopReader hio h
        | true =>
          have hlink : Balances io [] h (h.update member.id fun c =>
              { c with link := (Transport.receive h.now link).2 }) :=
            balances_update (fun _ => rfl) (fun _ _ => rfl) (fun _ h => h) fun hno => absurd hio hno
          exact (balances_takeArrival (h := h.update member.id _) hio deadline _ hf).after hlink

/-! ## Events -/

theorem balances_peerActs (hio : io id) (h : Hub τ) (act : τ → α × τ) :
    Balances io [] h (h.peerActs id act).2 := by
  rw [peerActs]
  cases h.find? id with
  | none => exact .refl io h
  | some c =>
    exact (balances_setLink hio h (act c.link).2).before (rouses_wakeBlockedWriter _ id).balances

theorem balances_turn {t : Task} (hio : ∀ d, t = .writer d ∨ t = .reader d → io d) (h : Hub τ)
    (roomFirst : Nat → Bool) :
    Balances io (h.turnEntries roomFirst t) h (h.turn roomFirst t).2 := by
  cases t with
  | writer d => exact balances_writerTurn (hio d (.inl rfl)) h
  | reader d => exact balances_readerTurn (hio d (.inr rfl)) h
  | call number => exact balances_callTurn h roomFirst number

theorem balances_poll {t : Task} (hio : ∀ d, t = .writer d ∨ t = .reader d → io d) (h : Hub τ)
    (roomFirst : Nat → Bool) :
    Balances io (({ h with ready := h.ready.erase t } : Hub τ).turnEntries roomFirst t) h
      (h.poll roomFirst t) := by
  have herase : Balances io [] h { h with ready := h.ready.erase t } :=
    balances_of_same rfl rfl rfl rfl
  have hturn := (balances_turn hio { h with ready := h.ready.erase t } roomFirst).after herase
  rw [poll]
  dsimp only
  split
  · exact hturn.before (balances_of_same rfl rfl rfl rfl)
  · exact hturn

omit [Transport τ] in
/-- A connection is opened: its outbox is empty, and the links of the others are what they were. -/
theorem balances_open (h : Hub τ) (x : Connection τ) (registry : Registry)
    (hempty : x.outbox.queued = []) :
    Balances io [] h { h with connections := h.connections ++ [x], registry } := by
  have hfind : ∀ d, ({ h with connections := h.connections ++ [x], registry } : Hub τ).find? d =
      (h.find? d).or ([x].find? fun c => c.id = d) := fun d => List.find?_append
  refine { Balances.refl io h with queued := fun d => ?_, conn := fun d c hc => ?_ }
  · have hsame : ({ h with connections := h.connections ++ [x], registry } : Hub τ).queued d =
        h.queued d := by
      rw [queued, queued, hfind]
      cases h.find? d with
      | some c => rfl
      | none =>
        by_cases hx : x.id = d <;> simp [hx, hempty]
    rw [hsame]
    exact List.append_nil _
  · exact ⟨c, by rw [hfind, hc, Option.some_or], fun h => h, fun _ => rfl⟩

omit [Transport τ] in
theorem balances_accept (io : String → Prop) (h : Hub τ) (d : String) (link : τ)
    (o : ConnectOptions) : Balances io [] h (h.accept d link o).2 := by
  rw [accept]
  dsimp only
  split
  · exact .refl io h
  · have hopened : Balances io [] h { h with
        connections := h.connections ++ [{ member := Member.ofTexts d o.user o.tag, link
                                           createdAt := h.wallClock, handlers := o.handlers
                                           outbox := { capacity := h.capacityFor o } }]
        registry := h.registry.insert (Member.ofTexts d o.user o.tag) } :=
      balances_open h _ _ rfl
    have hwoken := hopened.before ((rouses_wake _ (.writer d)).trans
      (rouses_wake _ (.reader d))).balances
    exact hwoken.before (balances_of_same rfl rfl rfl rfl)

end Hub

/-- The event may touch the link of a connection: it is a turn of one of its tasks, or its peer
acts. -/
def Event.Touches {τ : Type} (e : Event τ) (id : String) : Prop :=
  e.IsTurnOf id ∨ ∃ act, e = .peer id act

namespace Hub

variable {τ : Type} [Transport τ]

/-- **The book balances** in every event. -/
theorem balances_step (h : Hub τ) (e : Event τ) :
    Balances e.Touches (h.entries e) h (h.step e) := by
  cases e with
  | upgrade id made o =>
    cases made with
    | error e => exact balances_of_same rfl rfl rfl rfl
    | ok link => exact balances_accept _ h id link o
  | upgradeFailed reason => exact balances_of_same rfl rfl rfl rfl
  | ask r => exact balances_startCall h r
  | abandon number => exact balances_abandon h number
  | remove id => exact balances_remove h id
  | request s r =>
    obtain ⟨errand, hasks⟩ := Http.exists_asks_gauged τ r
    obtain ⟨metrics, log, heq, active, users, rfl⟩ := hasks s h
    rw [heq]
    have herrand : Balances (Event.request s r : Event τ).Touches [] h (errand.run h) := by
      cases errand with
      | look => exact .refl _ h
      | remove id => exact balances_remove h id
      | send order => exact balances_startCall h order
    exact herrand.before (balances_of_same rfl rfl rfl rfl)
  | act id script => exact balances_runScript id script h
  | peer id act => exact balances_peerActs (.inr ⟨act, rfl⟩) h _
  | turn t roomFirst =>
    refine balances_poll (fun d ht => .inl ?_) h roomFirst
    rcases ht with rfl | rfl <;> rfl
  | pass now wallClock =>
    obtain ⟨ready, heq, -⟩ := rouses_moveClock h now
    rw [step, heq]
    exact balances_of_same rfl rfl rfl rfl

end Hub

/-- What a run comes to is in its book. -/
theorem Run.balances {τ : Type} [Transport τ] {h h' : Hub τ} {es : List (Event τ)}
    (run : Run h es h') : Hub.Balances (fun _ => True) (book h es) h h' := by
  induction run with
  | nil h => exact .refl _ h
  | cons _ _ ih => exact ((Hub.balances_step _ _).mono fun _ _ => trivial).trans ih

end Switchboard
