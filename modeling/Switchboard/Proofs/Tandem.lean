import Switchboard.Proofs.Twins

/-!
# The same done in two hubs

`Hub.Does c ρ h h' p p'` says that the same was done in two hubs that are alike besides `c`: they
are alike after it, the answers are the same, and the same sends were asked for. So it is with all
that can be done for a connection besides `c`: scripts and turns of its tasks, what its peer does,
its removal, and the sends to it.

A send to several connections is done in both hubs as long as its places are braided: at its places
at `c` one hub goes ahead of the other, at the others both go together.
-/

namespace Switchboard.Hub

variable {τ : Type} {c d : String} {ρ ρ' : Ticket → Ticket → Prop} {h h' h₁ h₁' h₂ h₂' : Hub τ}

/-- The same was done in two hubs: they are alike after it if they were before, the answers are the
same, and the same sends were asked for. -/
structure Does {α : Type} (c : String) (ρ : Ticket → Ticket → Prop) (h h' : Hub τ)
    (p p' : α × Hub τ) : Prop where
  answer_eq : p'.1 = p.1
  alike : p.2.Alike c ρ p'.2
  asked : ∃ rs : List SendOrder, (∀ r ∈ rs, ¬ r.IsFor c) ∧
    p.2.calls = h.calls ++ rs.map .requested ∧ p'.2.calls = h'.calls ++ rs.map .requested

theorem Does.refl {α : Type} (alike : h.Alike c ρ h') (a : α) : Does c ρ h h' (a, h) (a, h') :=
  ⟨rfl, alike, [], by simp⟩

theorem Does.trans {α β : Type} {p p' : α × Hub τ} {q q' : β × Hub τ} (first : Does c ρ h h' p p')
    (second : Does c ρ p.2 p'.2 q q') : Does c ρ h h' q q' := by
  obtain ⟨rs, hrs, hcalls, hcalls'⟩ := first.asked
  obtain ⟨rs', hrs', hsecond, hsecond'⟩ := second.asked
  refine ⟨second.answer_eq, second.alike, rs ++ rs', ?_, ?_, ?_⟩
  · intro r hr
    rcases List.mem_append.mp hr with hr | hr
    · exact hrs r hr
    · exact hrs' r hr
  · rw [hsecond, hcalls, List.map_append, List.append_assoc]
  · rw [hsecond', hcalls', List.map_append, List.append_assoc]

/-- What is done next may depend on the answer, since both hubs got the same. -/
theorem Does.andThen {α β : Type} {p p' : α × Hub τ} (k : α → Hub τ → β × Hub τ)
    (first : Does c ρ h h' p p') (second : Does c ρ p.2 p'.2 (k p.1 p.2) (k p.1 p'.2)) :
    Does c ρ h h' (k p.1 p.2) (k p'.1 p'.2) := by
  rw [first.answer_eq]
  exact first.trans second

/-- What asks for no send. -/
theorem Does.of_calls_eq {α : Type} {a a' : α} (ha : a' = a) (alike : h₁.Alike c ρ h₁')
    (hcalls : h₁.calls = h.calls) (hcalls' : h₁'.calls = h'.calls) :
    Does c ρ h h' (a, h₁) (a', h₁') :=
  ⟨ha, alike, [], by simp [hcalls, hcalls']⟩

theorem calls_enter (h : Hub τ) (id : String) (f : Frame) (s : Sender) (put : Outbox → Outbox) :
    (h.enter id f s put).calls = h.calls := congrArg Ledger.calls (ledger_enter h id f s put)

theorem does_trySend (alike : h.Alike c ρ h') (hd : d ≠ c) (f : Frame) :
    Does c ρ h h' (h.trySend d f) (h'.trySend d f) := by
  unfold trySend
  rcases alike.conn_cases hd with ⟨hx, hx'⟩ | ⟨x, x', hx, hx', hxx⟩
  · rw [hx, hx']
    exact .of_calls_eq rfl alike.dropFrame rfl rfl
  · have hsame : (x'.alive && x'.outbox.hasRoom) = (x.alive && x.outbox.hasRoom) := by
      rw [hxx.outbox.hasRoom_eq, hxx.alive_eq]
    rw [hx, hx']
    dsimp only
    rw [hsame]
    split
    · exact .of_calls_eq rfl (alike.enter hd hx hx' hxx (hxx.outbox.put f) rfl f)
        (calls_enter _ _ _ _ _) (calls_enter _ _ _ _ _)
    · exact .of_calls_eq rfl alike.dropFrame rfl rfl

theorem does_startCall (alike : h.Alike c ρ h') {r : SendOrder} (hr : ¬ r.IsFor c) :
    Does c ρ h h' ((), (h.startCall r).2) ((), (h'.startCall r).2) := by
  have haside : ∀ h : Hub τ, Aside c h (h.startCall r).2 := fun h =>
    (within_addCall c h r).aside.trans ((rouses_wake _ _).aside c)
  have hcalls : ∀ h : Hub τ, (h.startCall r).2.calls = h.calls ++ [.requested r] := fun h =>
    congrArg Ledger.calls (ledger_wake (h.addCall r).2 (.call h.calls.length))
  refine ⟨rfl, (alike.aside (haside h)).aside_right (haside h'), [r], ?_, hcalls h, hcalls h'⟩
  intro r' hr'
  rwa [List.mem_singleton.mp hr']

theorem does_update (alike : h.Alike c ρ h') (hd : d ≠ c) {f : Connection τ → Connection τ}
    (hf : ∀ x, (f x).member = x.member) (hff : ∀ x x', x.Alike ρ x' → (f x).Alike ρ (f x')) :
    Does c ρ h h' ((), h.update d f) ((), h'.update d f) := by
  refine .of_calls_eq rfl ?_ rfl rfl
  rcases alike.conn_cases hd with ⟨hx, hx'⟩ | ⟨x, x', hx, hx', hxx⟩
  · -- nobody is changed
    have haside : ∀ h : Hub τ, h.find? d = none → Aside c h (h.update d f) := by
      intro h hnone
      refine ⟨rfl, congrArg _ (members_update hf h d), fun e _ => ?_, rfl⟩
      rw [find?_update hf]
      split
      · rename_i he
        rw [he, hnone]
        rfl
      · rfl
    exact (alike.aside (haside h hx)).aside_right (haside h' hx')
  · exact alike.gets hd (gets_update hx f hf) (gets_update hx' f hf) (hff x x' hxx) rfl

theorem LeadsTo.sound (leads : h.LeadsTo h₁) (sound : h.ledger.lives.Sound) :
    h₁.ledger.lives.Sound :=
  Ledger.Steps.keeps (P := fun l => l.lives.Sound) (fun step => step.sound) leads sound

theorem does_remove (alike : h.Alike c ρ h') (sound : h.ledger.lives.Sound)
    (sound' : h'.ledger.lives.Sound) (hd : d ≠ c) :
    Does c ρ h h' (h.remove d) (h'.remove d) := by
  unfold remove
  rw [alike.lookup_eq sound sound' hd]
  cases hm : h.registry.lookup d with
  | none => exact .of_calls_eq rfl (alike.record _) rfl rfl
  | some m =>
    -- whoever is found is alive in both hubs
    obtain ⟨x, hx, halive, rfl⟩ := (lookup_eq_some_iff sound).mp hm
    obtain rfl : x.id = d := id_of_find? hx
    obtain ⟨hnone, -⟩ | ⟨y, x', hy, hx', hxx⟩ := alike.conn_cases hd
    · rw [hnone] at hx
      cases hx
    · obtain rfl := Option.some.inj (hx.symm.trans hy)
      have hid : x'.id = x.id := id_of_find? hx'
      have halive' : x'.alive = true := hxx.alive_eq.trans halive
      have hwon := (teardown_of_alive hx halive .removed).1
      have hwon' := (teardown_of_alive hx' halive' .removed).1
      have hgets := gets_teardown hx .removed
      have hgets' := gets_teardown (c := x') (by rw [hid]; exact hx') .removed
      rw [hid] at hgets'
      rw [Connection.torn_of_alive halive] at hgets
      rw [Connection.torn_of_alive halive', hid] at hgets'
      have htorn := alike.gets hd hgets hgets' (hxx.with_alive false) rfl
      change Does c ρ h h' ((h.teardown x.id .removed).1, (h.teardown x.id .removed).2.record
        (.removal x.id (h.teardown x.id .removed).1)) ((h'.teardown x.id .removed).1,
        (h'.teardown x.id .removed).2.record (.removal x.id (h'.teardown x.id .removed).1))
      rw [hwon, hwon']
      exact .of_calls_eq rfl (htorn.record _) hgets.calls_eq hgets'.calls_eq

theorem does_aside {α : Type} (alike : h.Alike c ρ h') (a : α) (metrics metrics' : Metrics)
    (log log' : List LogEvent) (notes notes' : List Note) :
    Does c ρ h h' (a, { h with metrics, log, notes })
      (a, { h' with metrics := metrics', log := log', notes := notes' }) :=
  .of_calls_eq rfl ((alike.aside (within_aside c h metrics log notes).aside).aside_right
    (within_aside c h' metrics' log' notes').aside) rfl rfl

/-- Something is counted and logged about a connection. -/
theorem does_report (alike : h.Alike c ρ h') (count : Metrics → Metrics) (id : String)
    (level : Level) (message : String) (fields : List (String × LogValue)) :
    Does c ρ h h' ((), (h.count count).logAbout id level message fields)
      ((), (h'.count count).logAbout id level message fields) :=
  does_aside alike () _ _ _ _ h.notes h'.notes

/-! ## Scripts and dispatch -/

theorem does_runScript (hd : d ≠ c) (script : Script) (alike : h.Alike c ρ h')
    (sound : h.ledger.lives.Sound) (sound' : h'.ledger.lives.Sound) :
    Does c ρ h h' (runScript d script h) (runScript d script h') := by
  have hsend : ∀ f, ¬ (SendOrder.toHandle d f).IsFor c := fun _ => hd
  -- the cases are those of a script: its end, a panic, and what it does before it goes on
  fun_induction runScript d script h generalizing h' with
  | case1 h => exact .refl alike none
  | case2 p h => exact .refl alike (some p)
  | case3 f next h sent h₁ heq ih =>
    have hfirst := does_trySend alike hd f
    have hleads := leadsTo_trySend h d f
    rw [heq] at hfirst hleads
    rw [runScript]
    exact hfirst.andThen (fun sent => runScript d (next sent)) (ih hfirst.alike
      (hleads.sound sound) ((leadsTo_trySend h' d f).sound sound'))
  | case4 f next h ih =>
    have hfirst := does_startCall alike (hsend f)
    exact hfirst.trans (ih hfirst.alike ((leadsTo_startCall h _).sound sound)
      ((leadsTo_startCall h' _).sound sound'))
  | case5 handlers next h ih =>
    have hfirst := does_update alike hd
      (f := fun x => { x with handlers := x.handlers ++ handlers })
      (fun _ => rfl) fun x x' hxx => hxx.with_handlers (· ++ handlers)
    have hleads := LeadsTo.of_eq (ledger_addHandlers h d handlers)
    have hleads' := LeadsTo.of_eq (ledger_addHandlers h' d handlers)
    exact hfirst.trans (ih hfirst.alike (hleads.sound sound) (hleads'.sound sound'))
  | case6 handlers next h ih =>
    have hfirst := does_update alike hd (f := fun x => { x with handlers := handlers })
      (fun _ => rfl) fun x x' hxx => hxx.with_handlers fun _ => handlers
    have hleads := LeadsTo.of_eq (ledger_setHandlers h d handlers)
    have hleads' := LeadsTo.of_eq (ledger_setHandlers h' d handlers)
    exact hfirst.trans (ih hfirst.alike (hleads.sound sound) (hleads'.sound sound'))
  | case7 next h won h₁ heq ih =>
    have hfirst := does_remove alike sound sound' hd
    have hleads := leadsTo_remove h d
    rw [heq] at hfirst hleads
    rw [runScript]
    exact hfirst.andThen (fun won => runScript d (next won)) (ih hfirst.alike
      (hleads.sound sound) ((leadsTo_remove h' d).sound sound'))
  | case8 n next h ih =>
    have hfirst := does_aside alike () h.metrics h'.metrics h.log h'.log (n :: h.notes)
      (n :: h'.notes)
    exact hfirst.trans (ih hfirst.alike sound sound')
  | case9 e next h ih =>
    have hfirst := does_aside alike () h.metrics h'.metrics (e :: h.log) (e :: h'.log) h.notes
      h'.notes
    exact hfirst.trans (ih hfirst.alike sound sound')

theorem does_runHandlers (member : Member) (hd : member.id ≠ c) (f : Frame) (index : Nat)
    (handlers : List Handler) (alike : h.Alike c ρ h') (sound : h.ledger.lives.Sound)
    (sound' : h'.ledger.lives.Sound) :
    Does c ρ h h' ((), runHandlers member f index handlers h)
      ((), runHandlers member f index handlers h') := by
  induction handlers generalizing index h h' with
  | nil => exact .refl alike ()
  | cons handler rest ih =>
    have hscript := does_runScript hd (handler member f) alike sound sound'
    have hsound := (leadsTo_runScript member.id (handler member f) h).sound sound
    have hsound' := (leadsTo_runScript member.id (handler member f) h').sound sound'
    rw [runHandlers, runHandlers]
    generalize runScript member.id (handler member f) h = p at hscript hsound ⊢
    generalize runScript member.id (handler member f) h' = p' at hscript hsound' ⊢
    obtain ⟨panic, h₁⟩ := p
    obtain ⟨panic', h₁'⟩ := p'
    obtain rfl : panic' = panic := hscript.answer_eq
    cases panic' with
    | none => exact hscript.trans (ih _ hscript.alike hsound hsound')
    | some p =>
      have hlog := does_report hscript.alike Metrics.countHandlerPanic member.id .error
        "Message handler panicked" [("handler_index", .number index), ("panic", .text p.detail)]
      exact hscript.trans (hlog.trans (ih _ hlog.alike hsound hsound'))

/-! ## Sends -/

theorem does_beginSend (alike : h.Alike c ρ h') (hd : d ≠ c) {t t' : Ticket} (ht : ρ t t')
    (f : Frame) : Does c ρ h h' (h.beginSend d f t) (h'.beginSend d f t') := by
  have hplain : (Sender.call t').plain = (Sender.call t).plain := rfl
  unfold beginSend
  rcases alike.conn_cases hd with ⟨hx, hx'⟩ | ⟨x, x', hx, hx', hxx⟩
  · rw [hx, hx']
    exact .of_calls_eq rfl alike.dropFrame rfl rfl
  · rw [hx, hx']
    dsimp only
    rw [hxx.alive_eq, hxx.outbox.hasRoom_eq]
    split
    · exact .of_calls_eq rfl alike.dropFrame rfl rfl
    · split
      · exact .of_calls_eq rfl (alike.enter hd hx hx' hxx (hxx.outbox.put f) hplain f)
          (calls_enter _ _ _ _ _) (calls_enter _ _ _ _ _)
      · refine .of_calls_eq rfl ?_ rfl rfl
        exact alike.gets hd (gets_update hx (fun x => { x with outbox := x.outbox.join t })
          fun _ => rfl) (gets_update hx' (fun x => { x with outbox := x.outbox.join t' })
          fun _ => rfl) (hxx.with_outbox (hxx.outbox.join ht)) rfl

theorem gets_withdrawSend {x : Connection τ} (hx : h.find? d = some x) (t : Ticket) :
    Gets d { x with outbox := (x.outbox.withdraw t).2 } [] h (h.withdrawSend d t) := by
  unfold withdrawSend
  rw [hx]
  exact (gets_update hx (fun y => { y with outbox := (x.outbox.withdraw t).2 }) fun _ => rfl).rouse
    (rouses_wakeAll _ _)

theorem does_withdrawSend (hρ : Relator.BiUnique ρ) (alike : h.Alike c ρ h') (hd : d ≠ c)
    {t t' : Ticket} (ht : ρ t t') :
    Does c ρ h h' ((), h.withdrawSend d t) ((), h'.withdrawSend d t') := by
  rcases alike.conn_cases hd with ⟨hx, hx'⟩ | ⟨x, x', hx, hx', hxx⟩
  · unfold withdrawSend
    rw [hx, hx']
    exact .refl alike ()
  · have first := gets_withdrawSend hx t
    have second := gets_withdrawSend hx' t'
    exact .of_calls_eq rfl (alike.gets hd first second
      (hxx.with_outbox (hxx.outbox.withdraw hρ ht)) rfl) first.calls_eq second.calls_eq

theorem does_resumeSend (hρ : Relator.BiUnique ρ) (alike : h.Alike c ρ h') (hd : d ≠ c)
    {t t' : Ticket} (ht : ρ t t') (roomFirst : Bool) (f : Frame) :
    Does c ρ h h' (h.resumeSend roomFirst d f t) (h'.resumeSend roomFirst d f t') := by
  have hplain : (Sender.call t').plain = (Sender.call t).plain := rfl
  have hwithdraw := does_withdrawSend hρ alike hd ht
  unfold resumeSend
  rcases alike.conn_cases hd with ⟨hx, hx'⟩ | ⟨x, x', hx, hx', hxx⟩
  · rw [hx, hx']
    exact .refl alike false
  · rw [hx, hx']
    dsimp only
    rw [hxx.alive_eq, hxx.writer_eq, hxx.outbox.isGranted_eq hρ ht]
    split
    · exact .of_calls_eq rfl (alike.enter hd hx hx' hxx (hxx.outbox.redeem hρ ht f) hplain f)
        (calls_enter _ _ _ _ _) (calls_enter _ _ _ _ _)
    · split
      · exact hwithdraw.trans (.of_calls_eq rfl hwithdraw.alike.dropFrame rfl rfl)
      · exact .refl alike true

section Places

variable {n n' : Nat} {xs ys : List (String × Nat)} {r : Nat → Nat → Prop}

/-- Sends begin at the places besides `c` in both hubs alike, and the same of them have to wait. -/
theorem beginSends_alike (f : Frame) (braid : Braid c (fun p p' => ρ ⟨n, p⟩ ⟨n', p'⟩) xs ys)
    (alike : h.Alike c ρ h') :
    (beginSends n f xs h).2.Alike c ρ (beginSends n' f ys h').2 ∧
      Braid c (fun p p' => ρ ⟨n, p⟩ ⟨n', p'⟩) (beginSends n f xs h).1
        (beginSends n' f ys h').1 := by
  induction braid generalizing h h' with
  | nil => exact ⟨alike, .nil⟩
  | left p _ ih =>
    have hrest := ih (alike.aside (within_beginSend h c f ⟨n, p⟩).aside)
    exact ⟨hrest.1, hrest.2.left_if _ p⟩
  | right p _ ih =>
    have hrest := ih (alike.aside_right (within_beginSend h' c f ⟨n', p⟩).aside)
    exact ⟨hrest.1, hrest.2.right_if _ p⟩
  | @both d p p' xs ys ne paired _ ih =>
    have hfirst := does_beginSend alike ne paired f
    have hrest := ih hfirst.alike
    refine ⟨hrest.1, ?_⟩
    change Braid c _ (if (h.beginSend d f ⟨n, p⟩).1 then _ else _)
      (if (h'.beginSend d f ⟨n', p'⟩).1 then _ else _)
    rw [hfirst.answer_eq]
    exact hrest.2.both_if _ ne paired

/-- Waiting sends go on at the places besides `c` in both hubs alike, if they notice the same first.
-/
theorem resumeSends_alike {roomFirst roomFirst' : Nat → Bool} (hρ : Relator.BiUnique ρ) (f : Frame)
    (braid : Braid c (fun p p' => ρ ⟨n, p⟩ ⟨n', p'⟩ ∧ roomFirst p = roomFirst' p') xs ys)
    (alike : h.Alike c ρ h') :
    (resumeSends roomFirst n f xs h).2.Alike c ρ (resumeSends roomFirst' n' f ys h').2 ∧
      Braid c (fun p p' => ρ ⟨n, p⟩ ⟨n', p'⟩) (resumeSends roomFirst n f xs h).1
        (resumeSends roomFirst' n' f ys h').1 := by
  induction braid generalizing h h' with
  | nil => exact ⟨alike, .nil⟩
  | left p _ ih =>
    have hrest := ih (alike.aside (within_resumeSend h (roomFirst p) c f ⟨n, p⟩).aside)
    exact ⟨hrest.1, hrest.2.left_if _ p⟩
  | right p _ ih =>
    have hrest := ih (alike.aside_right (within_resumeSend h' (roomFirst' p) c f ⟨n', p⟩).aside)
    exact ⟨hrest.1, hrest.2.right_if _ p⟩
  | @both d p p' xs ys ne paired _ ih =>
    have hfirst := does_resumeSend hρ alike ne paired.1 (roomFirst p) f
    have hrest := ih hfirst.alike
    unfold resumeSends
    dsimp only
    rw [← paired.2, hfirst.answer_eq]
    exact ⟨hrest.1, hrest.2.both_if _ ne paired.1⟩

/-- Waiting sends are withdrawn at the places besides `c` in both hubs alike. -/
theorem withdrawSends_alike (hρ : Relator.BiUnique ρ)
    (braid : Braid c (fun p p' => ρ ⟨n, p⟩ ⟨n', p'⟩) xs ys) (alike : h.Alike c ρ h') :
    (withdrawSends n xs h).Alike c ρ (withdrawSends n' ys h') := by
  induction braid generalizing h h' with
  | nil => exact alike
  | left p _ ih => exact ih (alike.aside (within_withdrawSend h c ⟨n, p⟩).aside)
  | right p _ ih => exact ih (alike.aside_right (within_withdrawSend h' c ⟨n', p⟩).aside)
  | both ne paired _ ih => exact ih (does_withdrawSend hρ alike ne paired).alike

/-- A waiting send can do nothing: its connection is alive and no slot is kept for it. -/
def Stuck (h : Hub τ) (n : Nat) (x : String × Nat) : Prop :=
  ∃ conn, h.find? x.1 = some conn ∧ conn.alive = true ∧ conn.outbox.isGranted ⟨n, x.2⟩ = false

theorem resumeSend_of_stuck {x : String × Nat} (stuck : h.Stuck n x) (roomFirst : Bool)
    (f : Frame) : h.resumeSend roomFirst x.1 f ⟨n, x.2⟩ = (true, h) := by
  obtain ⟨conn, hconn, halive, hgranted⟩ := stuck
  unfold resumeSend
  rw [hconn]
  simp [halive, hgranted]

/-- Nothing comes of a turn of a send to the connections besides `c` while it is stuck at all of
them. -/
theorem resumeSends_of_stuck (roomFirst : Nat → Bool) (f : Frame) (braid : Braid c r xs ys)
    (stuck : ∀ x ∈ xs, x.1 ≠ c → h.Stuck n x) :
    Aside c h (resumeSends roomFirst n f xs h).2 ∧
      Braid c r (resumeSends roomFirst n f xs h).1 ys := by
  induction braid generalizing h with
  | nil => exact ⟨.refl c h, .nil⟩
  | @left p xs ys _ ih =>
    have hfirst := (within_resumeSend h (roomFirst p) c f ⟨n, p⟩).aside
    have hstuck : ∀ x ∈ xs, x.1 ≠ c → (h.resumeSend (roomFirst p) c f ⟨n, p⟩).2.Stuck n x := by
      intro x hx hne
      unfold Stuck
      rw [hfirst.find?_eq x.1 hne]
      exact stuck x (List.mem_cons_of_mem _ hx) hne
    have hrest := ih hstuck
    exact ⟨hfirst.trans hrest.1, hrest.2.left_if _ p⟩
  | right p _ ih =>
    have hrest := ih stuck
    exact ⟨hrest.1, .right p hrest.2⟩
  | @both d p p' xs ys ne paired _ ih =>
    have hfirst := resumeSend_of_stuck (stuck (d, p) List.mem_cons_self ne) (roomFirst p) f
    have hrest := ih fun x hx => stuck x (List.mem_cons_of_mem _ hx)
    unfold resumeSends
    rw [hfirst]
    exact ⟨hrest.1, .both ne paired hrest.2⟩

end Places

/-! ## Who is sent to -/

/-- The connections to which a send goes, in order. -/
def targets (h : Hub τ) : SendOrder → List String
  | .toHandle id _ => [id]
  | .toConnection id _ => ((h.registry.lookup id).map Member.id).toList
  | .toUser user _ => ((h.registry.lookupUser user).getD []).map Member.id
  | .toAll _ => h.registry.all.map Member.id

/-- A send begins at all its targets; besides, only counters change. -/
theorem beginCall_eq (h : Hub τ) (n : Nat) (r : SendOrder) :
    ∃ metrics reply, h.beginCall n r =
      ({ h with metrics } : Hub τ).sendToEach n r.frame (h.targets r) reply := by
  have hfan : ∀ target members f, ∃ metrics reply, h.fanOut n target members f =
      ({ h with metrics } : Hub τ).sendToEach n f (members.map Member.id) reply := by
    intro target members f
    unfold fanOut
    cases members with
    | nil => exact ⟨h.metrics, .targeted 0, rfl⟩
    | cons m ms => exact ⟨_, _, rfl⟩
  cases r with
  | toHandle id f => exact ⟨h.metrics, .sent, rfl⟩
  | toConnection id f =>
    rw [beginCall, targets]
    cases h.registry.lookup id with
    | none => exact ⟨_, .found false, rfl⟩
    | some m => exact ⟨_, .found true, rfl⟩
  | toUser user f => exact hfan "user" _ f
  | toAll f => exact hfan "broadcast" _ f

/-- Those of the connections besides `c` that are alive and chosen, in the order of opening. -/
theorem chosen_besides (h : Hub τ) (c : String) (p : Member → Bool) :
    (((h.ledger.members.filter fun m => h.isAlive m.id && p m).map Member.id).filter
        fun d => d ≠ c) =
      (((h.connections.map Connection.member).filter fun m => m.id ≠ c).filter
        fun m => h.isAlive m.id && p m).map Member.id := by
  have hmembers : h.ledger.members = h.connections.map Connection.member := by
    change (h.connections.map Connection.account).map Account.member = _
    rw [List.map_map]
    rfl
  rw [hmembers, List.filter_map, List.filter_filter, List.filter_filter]
  refine congrArg (List.map Member.id) (List.filter_congr fun m _ => ?_)
  exact Bool.and_comm _ _

theorem Alike.chosen_eq (alike : h.Alike c ρ h') (p : Member → Bool) :
    (((h'.ledger.members.filter fun m => h'.isAlive m.id && p m).map Member.id).filter
        fun d => d ≠ c) =
      ((h.ledger.members.filter fun m => h.isAlive m.id && p m).map Member.id).filter
        fun d => d ≠ c := by
  rw [chosen_besides, chosen_besides, alike.members_eq]
  refine congrArg (List.map Member.id) (List.filter_congr fun m hm => ?_)
  rw [alike.isAlive_eq (by simpa using (List.mem_filter.mp hm).2)]

/-- In sound hubs that are alike, a send goes to the same connections besides `c`. -/
theorem Alike.targets_eq (alike : h.Alike c ρ h') (sound : h.ledger.lives.Sound)
    (sound' : h'.ledger.lives.Sound) (r : SendOrder) :
    ((h'.targets r).filter fun d => d ≠ c) = (h.targets r).filter fun d => d ≠ c := by
  have hall : ∀ {h : Hub τ}, h.ledger.lives.Sound → h.registry.all =
      h.ledger.members.filter fun m => h.isAlive m.id && true := by
    intro h sound
    simp only [Bool.and_true]
    exact sound.registered.byId_eq.trans (living_eq sound)
  cases r with
  | toHandle id f => rfl
  | toConnection id f =>
    by_cases hid : id = c
    · subst hid
      have hown : ∀ h : Hub τ, ((h.targets (.toConnection id f)).filter fun d => d ≠ id) = [] := by
        intro h
        rw [targets]
        cases hm : h.registry.lookup id with
        | none => rfl
        | some m =>
          have hid : m.id = id := by simpa using List.find?_some hm
          simp [hid]
      rw [hown, hown]
    · rw [targets, targets, alike.lookup_eq sound sound' hid]
  | toUser user f =>
    rw [targets, targets, lookupUser_eq sound, lookupUser_eq sound', Registry.getD_listed,
      Registry.getD_listed]
    exact alike.chosen_eq fun m => m.user = some user
  | toAll f =>
    rw [targets, targets, hall sound, hall sound']
    exact alike.chosen_eq fun _ => true

/-! ## Turns and peers -/

section Turns

variable [Transport τ]

omit [Transport τ] in
/-- Alike things made of a connection in a turn. -/
theorem does_of_makes {r r' : Turned τ} {p p' : Bool × Hub τ} (alike : h.Alike c ρ h') (hd : d ≠ c)
    (first : Makes d r h p) (second : Makes d r' h' p') (hr : r.Alike ρ r') :
    Does c ρ h h' p p' where
  answer_eq := second.again_eq.trans (hr.again_eq.trans first.again_eq.symm)
  alike := alike.gets hd first.gets second.gets hr.conn (congrArg _ hr.news_eq)
  asked := ⟨[], by simp [first.gets.calls_eq, second.gets.calls_eq]⟩

theorem does_writerTurn (alike : h.Alike c ρ h') (hnow : h'.now = h.now) (hd : d ≠ c) :
    Does c ρ h h' (h.writerTurn d) (h'.writerTurn d) := by
  rcases alike.conn_cases hd with ⟨hx, hx'⟩ | ⟨x, x', hx, hx', hxx⟩
  · unfold writerTurn
    rw [hx, hx']
    exact .refl alike false
  · have second := makes_writerTurn hx'
    rw [hnow, alike.config_eq] at second
    exact does_of_makes alike hd (makes_writerTurn hx) second (hxx.writerTurn h.now h.config)

theorem does_readerTurn (alike : h.Alike c ρ h') (sound : h.ledger.lives.Sound)
    (sound' : h'.ledger.lives.Sound) (hnow : h'.now = h.now) (hd : d ≠ c) :
    Does c ρ h h' (h.readerTurn d) (h'.readerTurn d) := by
  rcases alike.conn_cases hd with ⟨hx, hx'⟩ | ⟨x, x', hx, hx', hxx⟩
  · unfold readerTurn
    rw [hx, hx']
    exact .refl alike false
  · have hframe := hxx.dispatched?_eq h.now h.config
    cases hf : x.dispatched? h.now h.config with
    | none =>
      -- without a frame for the handlers, the turn is what the connection makes of it
      obtain ⟨h₁, first, hp⟩ := reads_readerTurn hx
      obtain ⟨h₁', second, hp'⟩ := reads_readerTurn hx'
      rw [hnow, alike.config_eq] at second hp'
      rw [hf] at hp
      rw [hframe, hf] at hp'
      have hdoes := does_of_makes alike hd first second (hxx.readerTurn h.now h.config)
      rw [← show (h.readerTurn d).2 = h₁ from hp,
        ← show (h'.readerTurn d).2 = h₁' from hp'] at hdoes
      exact hdoes
    | some f =>
      have hf' : x'.dispatched? h'.now h'.config = some f := by
        rw [hnow, alike.config_eq, hframe, hf]
      have hid : x.member.id = d := id_of_find? hx
      obtain ⟨o, rfl, -⟩ := hxx
      have hlink := does_update alike hd
        (f := fun y => { y with link := (Transport.receive h.now x.link).2 }) (fun _ => rfl)
        fun y y' hyy => hyy.with_link fun _ => (Transport.receive h.now x.link).2
      have hcount := does_aside hlink.alike () (h.metrics.countReceived f.kind)
        (h'.metrics.countReceived f.kind) h.log h'.log h.notes h'.notes
      -- the ledger shows neither what arrived nor the counters
      have hsound : ∀ h₀ : Hub τ, h₀.ledger.lives.Sound → ((h₀.update d fun y =>
          { y with link := (Transport.receive h.now x.link).2 }).count
            fun m => m.countReceived f.kind).ledger.lives.Sound := by
        intro h₀
        apply LeadsTo.sound
        apply LeadsTo.of_eq
        rw [ledger_countReceived]
        exact ledger_update_aside fun _ => rfl
      have hrun := does_runHandlers x.member (by rwa [hid]) f 0 x.handlers hcount.alike
        (hsound h sound) (hsound h' sound')
      have hdoes := hlink.trans (hcount.trans hrun)
      rw [readerTurn_of_dispatched hx hf, readerTurn_of_dispatched hx' hf', hnow]
      exact ⟨rfl, hdoes.alike, hdoes.asked⟩

theorem does_peerActs (alike : h.Alike c ρ h') (hd : d ≠ c) (act : τ → τ) :
    Does c ρ h h' ((), (h.peerActs d fun link => ((), act link)).2)
      ((), (h'.peerActs d fun link => ((), act link)).2) := by
  unfold peerActs
  rcases alike.conn_cases hd with ⟨hx, hx'⟩ | ⟨x, x', hx, hx', hxx⟩
  · rw [hx, hx']
    exact .refl alike ()
  · have first := (gets_setLink hx (act x.link)).rouse (rouses_wakeBlockedWriter _ d)
    have second := (gets_setLink hx' (act x'.link)).rouse (rouses_wakeBlockedWriter _ d)
    rw [hx, hx']
    exact .of_calls_eq rfl (alike.gets hd first second (hxx.with_link act) rfl) first.calls_eq
      second.calls_eq

/-- What a turn does is done when its task is polled. -/
theorem does_poll {t t' : Task} {roomFirst roomFirst' : Nat → Bool}
    (turn : Does c ρ { h with ready := h.ready.erase t } { h' with ready := h'.ready.erase t' }
      (({ h with ready := h.ready.erase t } : Hub τ).turn roomFirst t)
      (({ h' with ready := h'.ready.erase t' } : Hub τ).turn roomFirst' t')) :
    Does c ρ h h' ((), h.poll roomFirst t) ((), h'.poll roomFirst' t') := by
  rw [poll_eq h roomFirst t rfl, poll_eq h' roomFirst' t' rfl, turn.answer_eq]
  obtain ⟨-, alike, asked⟩ := turn
  split
  · exact ⟨rfl, { alike with }, asked⟩
  · exact ⟨rfl, alike, asked⟩

end Turns

end Switchboard.Hub
