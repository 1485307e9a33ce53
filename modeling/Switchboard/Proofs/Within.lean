import Switchboard.Proofs.Turns

/-!
# What is done for one connection leaves the others alone

`Hub.Within id h h'` says that `h'` came out of `h` by things done for the connection `id` only: who
there is, every other connection, who is found under other ids and the sends asked for before are
the same; nobody has ceased to be ready; and the history has grown by happenings about `id`.

Most of what is done for a connection, by handlers or from outside, comes in a few pieces
(`Hub.Deed`): scripts are sequences of them. The turns of the two tasks of a connection are not made
of deeds; they are taken up where it is said what a turn makes of its connection.

## Teardown

A teardown touches most of a hub. `Hub.Torn` lists what it does, and `teardown_of_alive_torn` is the
only place where it is opened.
-/

namespace Switchboard

/-- The connection that a happening is about. -/
def Happening.id : Happening → String
  | .entered id _ _ | .handed id _ _ | .closed id _ | .removal id _ => id

theorem Registry.lookup_remove (r : Registry) (id d : String) :
    (r.remove id).2.lookup d = if d = id then none else r.lookup d := by
  rw [remove]
  cases hid : r.lookup id with
  | none =>
    by_cases hd : d = id
    · rw [if_pos hd, hd, hid]
    · rw [if_neg hd]
  | some m =>
    dsimp only
    rw [lookup, lookup, List.find?_filter]
    by_cases hd : d = id
    · subst hd
      rw [if_pos rfl, List.find?_eq_none]
      intro x _
      simp
    · rw [if_neg hd]
      congr 1
      funext x
      by_cases hx : x.id = d
      · simp [hx, hd]
      · simp [hx]

namespace Hub

variable {τ : Type}

theorem isAlive_iff {h : Hub τ} {id : String} :
    h.isAlive id = true ↔ ∃ c, h.find? id = some c ∧ c.alive = true := by
  rw [isAlive]
  cases h.find? id with
  | none => simp
  | some c => simp

/-! ## Readiness -/

/-- Nothing differs but that more tasks may be ready. -/
def Rouses (h h' : Hub τ) : Prop := ∃ ready, h' = { h with ready } ∧ h.ready ⊆ ready

theorem Rouses.refl (h : Hub τ) : h.Rouses h := ⟨h.ready, rfl, fun _ ht => ht⟩

theorem Rouses.trans {h₁ h₂ h₃ : Hub τ} (first : h₁.Rouses h₂) (second : h₂.Rouses h₃) :
    h₁.Rouses h₃ := by
  obtain ⟨ready, rfl, hsub⟩ := first
  obtain ⟨ready', rfl, hsub'⟩ := second
  exact ⟨ready', rfl, fun _ ht => hsub' (hsub ht)⟩

theorem rouses_wake (h : Hub τ) (t : Task) : h.Rouses (h.wake t) := by
  rw [wake]
  split
  · exact .refl h
  · exact ⟨_, rfl, fun _ ht => List.mem_append_left _ ht⟩

theorem rouses_wakeAll (ts : List Task) (h : Hub τ) : h.Rouses (h.wakeAll ts) := by
  induction ts generalizing h with
  | nil => exact .refl h
  | cons t rest ih => exact (rouses_wake h t).trans (ih (h.wake t))

theorem rouses_wakeWriter (h : Hub τ) (id : String) : h.Rouses (h.wakeWriter id) := by
  rw [wakeWriter]
  split
  · split
    · exact rouses_wake h _
    · exact .refl h
  · exact .refl h

theorem rouses_wakeReader (h : Hub τ) (id : String) : h.Rouses (h.wakeReader id) := by
  rw [wakeReader]
  split
  · split
    · exact .refl h
    · exact rouses_wake h _
  · exact .refl h

theorem rouses_wakeBlockedWriter (h : Hub τ) (id : String) : h.Rouses (h.wakeBlockedWriter id) := by
  rw [wakeBlockedWriter]
  split
  · exact .refl h
  · split
    all_goals first | exact rouses_wake h _ | exact .refl h

theorem mem_ready_wake (h : Hub τ) (t : Task) : t ∈ (h.wake t).ready := by
  rw [wake]
  split
  · rename_i hready
    simpa using hready
  · exact List.mem_append_right _ (List.mem_singleton.mpr rfl)

theorem mem_ready_wakeAll {ts : List Task} {t : Task} (ht : t ∈ ts) (h : Hub τ) :
    t ∈ (h.wakeAll ts).ready := by
  induction ts generalizing h with
  | nil => cases ht
  | cons first rest ih =>
    rcases List.mem_cons.mp ht with rfl | hrest
    · obtain ⟨ready, heq, hsub⟩ := rouses_wakeAll rest (h.wake t)
      change t ∈ ((h.wake t).wakeAll rest).ready
      rw [heq]
      exact hsub (mem_ready_wake h t)
    · exact ih hrest (h.wake first)

theorem mem_ready_wakeWriter {h : Hub τ} {id : String} {c : Connection τ}
    (hc : h.find? id = some c) (hidle : c.writer = .idle) :
    .writer id ∈ (h.wakeWriter id).ready := by
  rw [wakeWriter, hc]
  dsimp only
  rw [if_pos hidle]
  exact mem_ready_wake h _

theorem mem_ready_wakeReader {h : Hub τ} {id : String} {c : Connection τ}
    (hc : h.find? id = some c) (hreads : c.reader ≠ .stopped) :
    .reader id ∈ (h.wakeReader id).ready := by
  rw [wakeReader, hc]
  dsimp only
  rw [if_neg hreads]
  exact mem_ready_wake h _

/-! ## Finding connections -/

theorem find?_update {f : Connection τ → Connection τ} (hf : ∀ c, (f c).member = c.member)
    (h : Hub τ) (id d : String) :
    (h.update id f).find? d = if d = id then (h.find? d).map f else h.find? d := by
  have hid : ∀ c : Connection τ, (if c.id = id then f c else c).id = c.id := fun c => by
    split
    · exact congrArg Member.id (hf c)
    · rfl
  have hpred :
      ((fun c : Connection τ => decide (c.id = d)) ∘ fun c => if c.id = id then f c else c) =
        fun c => decide (c.id = d) := funext fun c => by rw [Function.comp_apply, hid c]
  rw [find?, update, List.find?_map, hpred]
  change Option.map _ (h.find? d) = if d = id then (h.find? d).map f else h.find? d
  cases hc : h.find? d with
  | none => rw [Option.map_none, Option.map_none, ite_self]
  | some c =>
    obtain rfl := id_of_find? hc
    by_cases hd : c.id = id
    · rw [if_pos hd, Option.map_some, Option.map_some, if_pos hd]
    · rw [if_neg hd, Option.map_some, if_neg hd]

theorem find?_update_self {h : Hub τ} {id : String} {c : Connection τ} (hc : h.find? id = some c)
    {f : Connection τ → Connection τ} (hf : ∀ c, (f c).member = c.member) :
    (h.update id f).find? id = some (f c) := by
  rw [find?_update hf, if_pos rfl, hc, Option.map_some]

theorem members_update {f : Connection τ → Connection τ} (hf : ∀ c, (f c).member = c.member)
    (h : Hub τ) (id : String) :
    (h.update id f).connections.map Connection.member = h.connections.map Connection.member := by
  rw [update, List.map_map]
  refine List.map_congr_left fun c _ => ?_
  change (if c.id = id then f c else c).member = c.member
  split
  · exact hf c
  · rfl

/-! ## Asking for sends -/

/-- Sends may have been asked for, and none of those asked for before got on. -/
def Asks (h h' : Hub τ) : Prop := ∃ rs : List SendOrder, h'.calls = h.calls ++ rs.map .requested

theorem Asks.of_calls_eq {h h' : Hub τ} (heq : h'.calls = h.calls) : h.Asks h' :=
  ⟨[], heq.trans (List.append_nil _).symm⟩

theorem Asks.refl (h : Hub τ) : h.Asks h := .of_calls_eq rfl

theorem Asks.trans {h₁ h₂ h₃ : Hub τ} (first : h₁.Asks h₂) (second : h₂.Asks h₃) : h₁.Asks h₃ := by
  obtain ⟨rs, heq⟩ := first
  obtain ⟨rs', heq'⟩ := second
  exact ⟨rs ++ rs', by rw [heq', heq, List.map_append, List.append_assoc]⟩

theorem Asks.getElem? {h h' : Hub τ} (asks : h.Asks h') {number : Nat} {c : Call}
    (hc : h.calls[number]? = some c) : h'.calls[number]? = some c := by
  obtain ⟨rs, heq⟩ := asks
  rw [heq, List.getElem?_append_left (List.getElem?_eq_some_iff.mp hc).1, hc]

/-- Who was not asked for before is at most asked for. -/
theorem Asks.of_getElem? {h h' : Hub τ} (asks : h.Asks h') {number : Nat} {c : Call}
    (hc : h'.calls[number]? = some c) : h.calls[number]? = some c ∨ ∃ r, c = .requested r := by
  obtain ⟨rs, heq⟩ := asks
  rw [heq] at hc
  by_cases hlt : number < h.calls.length
  · exact .inl (by rwa [List.getElem?_append_left hlt] at hc)
  · rw [List.getElem?_append_right (Nat.le_of_not_lt hlt), List.getElem?_map] at hc
    obtain ⟨r, -, rfl⟩ := Option.map_eq_some_iff.mp hc
    exact .inr ⟨r, rfl⟩

/-! ## Within a connection -/

/-- What was done was done for the connection `id` only. -/
structure Within (id : String) (h h' : Hub τ) : Prop where
  now_eq : h'.now = h.now
  config_eq : h'.config = h.config
  members_eq : h'.connections.map Connection.member = h.connections.map Connection.member
  find?_eq : ∀ d, d ≠ id → h'.find? d = h.find? d
  lookup_eq : ∀ d, d ≠ id → h'.registry.lookup d = h.registry.lookup d
  asks : h.Asks h'
  ready_subset : h.ready ⊆ h'.ready
  history : ∃ news, h'.history = news ++ h.history ∧ ∀ x ∈ news, x.id = id

theorem Within.refl (id : String) (h : Hub τ) : Within id h h where
  now_eq := rfl
  config_eq := rfl
  members_eq := rfl
  find?_eq _ _ := rfl
  lookup_eq _ _ := rfl
  asks := .refl _
  ready_subset _ ht := ht
  history := ⟨[], rfl, fun _ hx => absurd hx List.not_mem_nil⟩

theorem Within.trans {id : String} {h₁ h₂ h₃ : Hub τ} (first : Within id h₁ h₂)
    (second : Within id h₂ h₃) : Within id h₁ h₃ where
  now_eq := second.now_eq.trans first.now_eq
  config_eq := second.config_eq.trans first.config_eq
  members_eq := second.members_eq.trans first.members_eq
  find?_eq d hd := (second.find?_eq d hd).trans (first.find?_eq d hd)
  lookup_eq d hd := (second.lookup_eq d hd).trans (first.lookup_eq d hd)
  asks := first.asks.trans second.asks
  ready_subset _ ht := second.ready_subset (first.ready_subset ht)
  history := by
    obtain ⟨news, heq, hnews⟩ := first.history
    obtain ⟨news', heq', hnews'⟩ := second.history
    refine ⟨news' ++ news, by rw [heq', heq, List.append_assoc], fun x hx => ?_⟩
    rcases List.mem_append.mp hx with hx | hx
    · exact hnews' x hx
    · exact hnews x hx

theorem Rouses.within {h h' : Hub τ} (rouses : h.Rouses h') (id : String) : Within id h h' := by
  obtain ⟨ready, rfl, hsub⟩ := rouses
  exact { Within.refl id h with ready_subset := hsub }

theorem within_update {h : Hub τ} {id : String} {f : Connection τ → Connection τ}
    (hf : ∀ c, (f c).member = c.member) : Within id h (h.update id f) where
  now_eq := rfl
  config_eq := rfl
  members_eq := members_update hf h id
  find?_eq d hd := by rw [find?_update hf, if_neg hd]
  lookup_eq _ _ := rfl
  asks := .refl _
  ready_subset _ ht := ht
  history := ⟨[], rfl, fun _ hx => absurd hx List.not_mem_nil⟩

/-- Counters, log and notes belong to no connection. -/
theorem within_aside (id : String) (h : Hub τ) (metrics : Metrics) (log : List LogEvent)
    (notes : List Note) : Within id h { h with metrics, log, notes } :=
  { Within.refl id h with }

theorem within_record (h : Hub τ) (x : Happening) : Within x.id h (h.record x) :=
  { Within.refl x.id h with
    history := ⟨[x], rfl, fun _ hy => congrArg Happening.id (List.mem_singleton.mp hy)⟩ }

theorem within_addCall (id : String) (h : Hub τ) (r : SendOrder) : Within id h (h.addCall r).2 :=
  { Within.refl id h with asks := ⟨[r], rfl⟩ }

theorem within_enter (h : Hub τ) (id : String) (f : Frame) (s : Sender) (put : Outbox → Outbox) :
    Within id h (h.enter id f s put) := by
  have hput : Within id h (h.update id fun c => { c with outbox := put c.outbox }) :=
    within_update fun _ => rfl
  have hrecord := within_record (h.update id fun c => { c with outbox := put c.outbox })
    (.entered id f s)
  exact (hput.trans hrecord).trans ((rouses_wakeWriter _ id).within id)

theorem within_dropFrame (id : String) (h : Hub τ) : Within id h h.dropFrame :=
  within_aside id h _ _ _

theorem within_withdrawSend (h : Hub τ) (id : String) (t : Ticket) :
    Within id h (h.withdrawSend id t) := by
  rw [withdrawSend]
  cases h.find? id with
  | none => exact .refl id h
  | some c =>
    have hupdate : Within id h
        (h.update id fun c' => { c' with outbox := (c.outbox.withdraw t).2 }) :=
      within_update fun _ => rfl
    exact hupdate.trans ((rouses_wakeAll
      ((c.outbox.withdraw t).1.toList.map fun t => .call t.call) _).within id)

theorem within_beginSend (h : Hub τ) (id : String) (f : Frame) (t : Ticket) :
    Within id h (h.beginSend id f t).2 := by
  rw [beginSend]
  split
  · exact within_dropFrame id h
  · split
    · exact within_dropFrame id h
    · split
      · exact within_enter h id f (.call t) fun o => o.put f
      · exact within_update fun _ => rfl

theorem within_resumeSend (h : Hub τ) (roomFirst : Bool) (id : String) (f : Frame) (t : Ticket) :
    Within id h (h.resumeSend roomFirst id f t).2 := by
  rw [resumeSend]
  split
  · exact .refl id h
  · split
    · exact within_enter h id f (.call t) fun o => o.redeem t f
    · split
      · exact (within_withdrawSend h id t).trans (within_dropFrame id _)
      · exact .refl id h

/-! ## Teardown -/

/-- What the teardown of the living connection `c` does. -/
structure Torn (id : String) (c : Connection τ) (reason : CloseReason) (h h' : Hub τ) : Prop where
  now_eq : h'.now = h.now
  config_eq : h'.config = h.config
  connections_eq : h'.connections = (h.update id fun c => { c with alive := false }).connections
  registry_eq : h'.registry = (h.registry.remove id).2
  calls_eq : h'.calls = h.calls
  history_eq : h'.history = .closed id reason :: h.history
  metrics_eq : ∃ lifetime, h'.metrics = h.metrics.countClosed reason lifetime
  ready_subset : h.ready ⊆ h'.ready
  writer_ready : c.writer = .idle → .writer id ∈ h'.ready
  reader_ready : c.reader ≠ .stopped → .reader id ∈ h'.ready

theorem teardown_of_alive_torn {h : Hub τ} {id : String} {c : Connection τ}
    (hc : h.find? id = some c) (halive : c.alive = true) (reason : CloseReason) :
    Torn id c reason h (h.teardown id reason).2 := by
  have hdead : (h.update id fun c => { c with alive := false }).find? id =
      some { c with alive := false } := find?_update_self hc fun _ => rfl
  rw [teardown, hc]
  simp only [halive, Bool.not_true, Bool.false_eq_true, if_false]
  -- the three wake-ups come one after another, and each leaves the others' work done
  generalize hh₁ : (h.update id fun c => { c with alive := false }) = h₁ at hdead
  have hwriter : c.writer = .idle → .writer id ∈ (h₁.wakeWriter id).ready :=
    fun hidle => mem_ready_wakeWriter hdead hidle
  obtain ⟨ready₂, heq₂, hsub₂⟩ := rouses_wakeWriter h₁ id
  rw [heq₂] at hwriter ⊢
  have hreader : c.reader ≠ .stopped →
      .reader id ∈ (({ h₁ with ready := ready₂ }).wakeReader id).ready :=
    fun hreads => mem_ready_wakeReader (h := { h₁ with ready := ready₂ }) hdead hreads
  obtain ⟨ready₃, heq₃, hsub₃⟩ := rouses_wakeReader { h₁ with ready := ready₂ } id
  rw [heq₃] at hreader ⊢
  obtain ⟨ready₄, heq₄, hsub₄⟩ :=
    rouses_wakeAll (c.outbox.pending.map fun t => .call t.call) { h₁ with ready := ready₃ }
  rw [heq₄]
  subst hh₁
  exact ⟨rfl, rfl, rfl, rfl, rfl, rfl, ⟨_, rfl⟩, fun t ht => hsub₄ (hsub₃ (hsub₂ ht)),
    fun hidle => hsub₄ (hsub₃ (hwriter hidle)), fun hreads => hsub₄ (hreader hreads)⟩

theorem find?_of_connections_eq {h h' : Hub τ} (he : h'.connections = h.connections) (id : String) :
    h'.find? id = h.find? id := by
  rw [find?, find?, he]

theorem Torn.find?_self {id : String} {c : Connection τ} {reason : CloseReason} {h h' : Hub τ}
    (torn : Torn id c reason h h') (hc : h.find? id = some c) :
    h'.find? id = some { c with alive := false } :=
  (find?_of_connections_eq torn.connections_eq id).trans (find?_update_self hc fun _ => rfl)

theorem Torn.within {id : String} {c : Connection τ} {reason : CloseReason} {h h' : Hub τ}
    (torn : Torn id c reason h h') : Within id h h' := by
  have hupdate : Within id h (h.update id fun c => { c with alive := false }) :=
    within_update fun _ => rfl
  refine ⟨torn.now_eq, torn.config_eq, ?_, fun d hd => ?_, fun d hd => ?_,
    .of_calls_eq torn.calls_eq, torn.ready_subset, [.closed id reason], torn.history_eq,
    fun x hx => ?_⟩
  · rw [torn.connections_eq]
    exact hupdate.members_eq
  · rw [find?_of_connections_eq torn.connections_eq d]
    exact hupdate.find?_eq d hd
  · rw [torn.registry_eq, Registry.lookup_remove, if_neg hd]
  · obtain rfl := List.mem_singleton.mp hx
    rfl

theorem within_teardown (h : Hub τ) (id : String) (reason : CloseReason) :
    Within id h (h.teardown id reason).2 := by
  rcases teardown_cases h id reason with ⟨c, -, hc, halive, -⟩ | hnothing
  · exact (teardown_of_alive_torn hc halive reason).within
  · rw [hnothing]
    exact .refl id h

theorem within_remove (h : Hub τ) (id : String) : Within id h (h.remove id).2 := by
  rw [remove]
  cases hm : h.registry.lookup id with
  | none => exact within_record h (.removal id false)
  | some m =>
    obtain rfl : m.id = id := by simpa using List.find?_some hm
    exact (within_teardown h m.id .removed).trans (within_record _ (.removal m.id _))

/-! ## Deeds -/

/-- What a handler, or whoever has a connection at hand, can do with it at a time. -/
inductive Deed (id : String) : Hub τ → Hub τ → Prop
  | aside (h : Hub τ) (metrics : Metrics) (log : List LogEvent) (notes : List Note) :
      Deed id h { h with metrics, log, notes }
  /-- A task is woken. -/
  | wake (h : Hub τ) (t : Task) : Deed id h (h.wake t)
  /-- A send is asked for. -/
  | ask (h : Hub τ) (f : Frame) : Deed id h (h.addCall (.toHandle id f)).2
  /-- The handlers are changed. -/
  | handle (h : Hub τ) (g : List Handler → List Handler) :
      Deed id h (h.update id fun c => { c with handlers := g c.handlers })
  /-- A frame is offered and taken. -/
  | offer (h : Hub τ) (f : Frame) : Deed id h (h.putFrame id f .offer)
  /-- A removal is asked for. -/
  | remove (h : Hub τ) : Deed id h (h.remove id).2

/-- Deeds, one after another. -/
abbrev Deeds (id : String) : Hub τ → Hub τ → Prop := Relation.ReflTransGen (Deed id)

theorem Deed.within {id : String} {h h' : Hub τ} (deed : Deed id h h') : Within id h h' := by
  cases deed with
  | aside metrics log notes => exact within_aside id h metrics log notes
  | wake t => exact (rouses_wake h t).within id
  | ask f => exact within_addCall id h _
  | handle g => exact within_update fun _ => rfl
  | offer f => exact within_enter h id f .offer _
  | remove => exact within_remove h id

theorem Deeds.within {id : String} {h h' : Hub τ} (deeds : Deeds id h h') : Within id h h' := by
  induction deeds with
  | refl => exact .refl id h
  | tail _ deed ih => exact ih.trans deed.within

theorem deeds_trySend (h : Hub τ) (id : String) (f : Frame) : Deeds id h (h.trySend id f).2 := by
  rw [trySend]
  split
  · split
    · exact .single (.offer h f)
    · exact .single (.aside h _ _ _)
  · exact .single (.aside h _ _ _)

theorem deeds_startCall (h : Hub τ) (id : String) (f : Frame) :
    Deeds id h (h.startCall (.toHandle id f)).2 :=
  (Relation.ReflTransGen.single (.ask h f)).tail (.wake _ _)

theorem deeds_runScript (id : String) (script : Script) (h : Hub τ) :
    Deeds id h (runScript id script h).2 := by
  -- the cases are those of a script: its end, a panic, and what it does before it goes on
  fun_induction runScript id script h with
  | case1 h => exact .refl
  | case2 p h => exact .refl
  | case3 f next h sent h' hsend ih =>
    have hfirst := deeds_trySend h id f
    rw [hsend] at hfirst
    exact hfirst.trans ih
  | case4 f next h ih => exact (deeds_startCall h id f).trans ih
  | case5 handlers next h ih => exact .head (.handle h fun hs => hs ++ handlers) ih
  | case6 handlers next h ih => exact .head (.handle h fun _ => handlers) ih
  | case7 next h won h' hremove ih =>
    have hfirst : Deed id h (h.remove id).2 := .remove h
    rw [hremove] at hfirst
    exact .head hfirst ih
  | case8 n next h ih => exact .head (.aside h _ _ _) ih
  | case9 e next h ih => exact .head (.aside h _ _ _) ih

theorem deeds_runHandlers (member : Member) (f : Frame) (index : Nat) (handlers : List Handler)
    (h : Hub τ) : Deeds member.id h (runHandlers member f index handlers h) := by
  induction handlers generalizing index h with
  | nil => exact .refl
  | cons handler rest ih =>
    have hscript := deeds_runScript member.id (handler member f) h
    rw [runHandlers]
    generalize runScript member.id (handler member f) h = ran at hscript ⊢
    obtain ⟨panic, h'⟩ := ran
    cases panic with
    | none => exact hscript.trans (ih _ h')
    | some p => exact hscript.trans (.head (.aside h' _ _ _) (ih _ _))

theorem deeds_dispatch (h : Hub τ) (c : Connection τ) (f : Frame) :
    Deeds c.id h (h.dispatch c f) := deeds_runHandlers c.member f 0 c.handlers h

end Hub

end Switchboard
