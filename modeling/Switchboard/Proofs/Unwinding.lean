import Switchboard.Proofs.Apart

/-!
# What keeps two hubs twins

`Hub.Twin c shared shared' h h'` relates hubs that differ in `c` only. The others have something to
do in both hubs or in neither (`Twin.restsBesides`).

Two laws say of every event what it is to twins. An event of the one hub that is `c`'s own keeps
them twins while the other hub stands still (`Twin.own`). Events of both hubs that are the same
concern of the others, at the same instant, keep them twins (`Twin.concern`).
-/

namespace Switchboard.Hub

variable {τ : Type} {c d : String} {h h₁ : Hub τ}

/-- Two hubs differ in `c` only, and the `k`-th of `shared` is the number that the `k`-th of
`shared'` is in the other hub. -/
def Twin (c : String) (shared shared' : List Nat) (h h' : Hub τ) : Prop :=
  ∃ ρ, Relator.BiUnique ρ ∧ h.Alike c ρ h' ∧ Calls c ρ shared shared' h.calls h'.calls

namespace Twin

variable {shared shared' : List Nat} {h' h₁' : Hub τ} {n : Nat}

theorem symm (twin : Twin c shared shared' h h') : Twin c shared' shared h' h := by
  obtain ⟨ρ, hρ, alike, calls⟩ := twin
  exact ⟨flip ρ, ⟨fun _ _ _ ht ht' => hρ.2 ht ht', fun _ _ _ ht ht' => hρ.1 ht ht'⟩, alike.symm,
    calls.symm⟩

theorem apart (twin : Twin c shared shared' h h') (apart : Apart c h h₁) :
    Twin c shared shared' h₁ h' := by
  obtain ⟨ρ, hρ, alike, calls⟩ := twin
  obtain ⟨rs, hrs, hcalls⟩ := apart.asked
  refine ⟨ρ, hρ, alike.aside apart.aside, ?_⟩
  rw [hcalls]
  exact calls.asksOwn hrs

/-! ## Rest -/

section Rest

variable {ρ : Ticket → Ticket → Prop} {n' : Nat}

theorem stuck_of_alike (hρ : Relator.BiUnique ρ) (alike : h.Alike c ρ h') {p p' : Nat} (hd : d ≠ c)
    (ht : ρ ⟨n, p⟩ ⟨n', p'⟩) (stuck : h.Stuck n (d, p)) : h'.Stuck n' (d, p') := by
  obtain ⟨x, hx, halive, hgranted⟩ := stuck
  rcases alike.conn_cases hd with ⟨hnone, -⟩ | ⟨y, x', hy, hx', hxx⟩
  · rw [hnone] at hx
    cases hx
  · obtain rfl := Option.some.inj (hx.symm.trans hy)
    exact ⟨x', hx', hxx.alive_eq.trans halive, (hxx.outbox.isGranted_eq hρ ht).trans hgranted⟩

theorem stuck_of_braid (hρ : Relator.BiUnique ρ) (alike : h.Alike c ρ h')
    {xs ys : List (String × Nat)} (braid : Braid c (fun p p' => ρ ⟨n, p⟩ ⟨n', p'⟩) xs ys)
    (stuck : ∀ x ∈ xs, x.1 ≠ c → h.Stuck n x) : ∀ y ∈ ys, y.1 ≠ c → h'.Stuck n' y := by
  induction braid with
  | nil => exact fun y hy => absurd hy List.not_mem_nil
  | left p _ ih => exact ih fun x hx => stuck x (List.mem_cons_of_mem _ hx)
  | right p _ ih =>
    intro y hy hne
    rcases List.mem_cons.mp hy with rfl | hy
    · exact absurd rfl hne
    · exact ih stuck y hy hne
  | both ne paired _ ih =>
    intro y hy hne
    rcases List.mem_cons.mp hy with rfl | hy
    · exact stuck_of_alike hρ alike ne paired (stuck _ List.mem_cons_self ne)
    · exact ih (fun x hx => stuck x (List.mem_cons_of_mem _ hx)) y hy hne

theorem callRests_of_alike {x x' : Call} (hρ : Relator.BiUnique ρ) (alike : h.Alike c ρ h')
    (hx : h.calls[n]? = some x) (hx' : h'.calls[n']? = some x') (hxx : Call.Alike c ρ n n' x x')
    (rests : h.CallRests c n) : h'.CallRests c n' := by
  cases hxx with
  | requested => simp [CallRests, hx] at rests
  | begun begun begun' braid =>
    exact callRests_of_stuck hx' begun' (stuck_of_braid hρ alike braid (rests.stuck hx begun))

/-- A send that is not for `c` alone is in the other hub too, and rests there only if it rests here.
-/
theorem exists_call {k : Nat} (twin : Twin c shared shared' h h') (hk : shared[k]? = some n) :
    ∃ n', shared'[k]? = some n' ∧ (h'.CallRests c n' → h.CallRests c n) := by
  obtain ⟨ρ, hρ, alike, calls⟩ := twin.symm
  obtain ⟨n', x, x', hk', hx, hx', hxx⟩ := calls.symm.exists_paired hk
  exact ⟨n', hk', callRests_of_alike hρ alike hx' hx hxx.symm⟩

/-- A connection besides `c` is in the other hub too, and its tasks rest there only if they rest
here. -/
theorem exists_conn [Transport τ] {x : Connection τ} (twin : Twin c shared shared' h h')
    (hd : d ≠ c) (hx : h.find? d = some x) :
    ∃ x', h'.find? d = some x' ∧ ∀ t, (x'.WriterRests t h'.config → x.WriterRests t h.config) ∧
      (x'.ReaderRests t h'.config → x.ReaderRests t h.config) := by
  obtain ⟨ρ, hρ, alike, -⟩ := twin.symm
  rcases alike.conn_cases hd with ⟨-, hnone⟩ | ⟨x', y, hx', hy, hxx⟩
  · rw [hnone] at hx
    cases hx
  · obtain rfl := Option.some.inj (hy.symm.trans hx)
    rw [alike.config_eq]
    exact ⟨x', hx', fun t => ⟨hxx.writerRests hρ, hxx.readerRests hρ⟩⟩

/-- The others have something to do in both hubs or in neither. -/
theorem restsBesides [Transport τ] {t : Nat} (twin : Twin c shared shared' h h')
    (rests : h.RestsBesides c shared t) : h'.RestsBesides c shared' t := by
  refine ⟨fun d x' hd hx' => ?_, fun d x' hd hx' => ?_, fun n' hn' => ?_⟩
  · obtain ⟨x, hx, hkeeps⟩ := twin.symm.exists_conn hd hx'
    exact (hkeeps t).1 (rests.writer d x hd hx)
  · obtain ⟨x, hx, hkeeps⟩ := twin.symm.exists_conn hd hx'
    exact (hkeeps t).2 (rests.reader d x hd hx)
  · obtain ⟨k, hk'⟩ := List.mem_iff_getElem?.mp hn'
    obtain ⟨n, hk, hkeeps⟩ := twin.symm.exists_call hk'
    exact hkeeps (rests.call n (List.mem_of_getElem? hk))

end Rest

/-! ## What is `c`'s own -/

/-- A send that is for `c` alone, or is stuck elsewhere, gets on. -/
theorem callTurn_own (twin : Twin c shared shared' h h') (rests : n ∉ shared ∨ h.CallRests c n)
    (roomFirst : Nat → Bool) : Twin c shared shared' (h.callTurn roomFirst n) h' := by
  obtain ⟨ρ, hρ, alike, calls⟩ := twin
  cases hx : h.calls[n]? with
  | none =>
    rw [callTurn, hx]
    exact ⟨ρ, hρ, alike, calls⟩
  | some x =>
    rcases x.cases_begun with ⟨r, rfl⟩ | ⟨f, places, hbegun⟩
    · -- a send that is still to begin does not rest, so it is for `c` alone
      have hn : n ∉ shared := by
        refine rests.resolve_right fun hrests => ?_
        rwa [CallRests, hx] at hrests
      have hown := targets_own ((calls.own n _ hx hn).isFor) h
      obtain ⟨metrics, y, hy, aside, hcalls⟩ := callTurn_of_requested hx roomFirst c
      obtain ⟨within, hleft⟩ := beginSends_own (n := n) r.frame
        (fun x hx => hown x.1 (List.fst_mem_of_mem_zipIdx hx)) { h with metrics }
      have hbegin := ((within_aside c h metrics h.log h.notes).trans within).aside
      refine ⟨ρ, hρ, alike.aside (hbegin.trans aside), ?_⟩
      rw [hcalls]
      exact calls.setOwn hn hy hleft
    · obtain ⟨f, r, ys, begun, braid, hset⟩ := calls.proceed hx hbegun
      have stuck : ∀ y ∈ places, y.1 ≠ c → h.Stuck n y := by
        rcases rests with hn | rests
        · -- a send for `c` alone waits nowhere else
          intro y hy hne
          exact absurd ((calls.own n x hx hn).places begun y hy) hne
        · exact rests.stuck hx begun
      obtain ⟨y, hy, aside, hcalls⟩ := callTurn_of_begun hx begun roomFirst c
      obtain ⟨hresume, hleft⟩ := resumeSends_of_stuck roomFirst f braid stuck
      refine ⟨ρ, hρ, alike.aside (hresume.trans aside), ?_⟩
      rw [hcalls]
      exact hset y _ hy hleft

/-- A send that is for `c` alone, or waits for nobody else, is given up. -/
theorem abandon_own (twin : Twin c shared shared' h h') (own : n ∉ shared ∨ h.CallOver c n) :
    Twin c shared shared' (h.abandon n) h' := by
  obtain ⟨ρ, hρ, alike, calls⟩ := twin
  cases hx : h.calls[n]? with
  | none =>
    rw [abandon, hx]
    exact ⟨ρ, hρ, alike, calls⟩
  | some x =>
    rcases x.cases_begun with ⟨r, rfl⟩ | ⟨f, places, hbegun⟩
    · have hn : n ∉ shared := by
        refine own.resolve_right fun hover => ?_
        rwa [CallOver, hx] at hover
      rw [abandon, hx]
      exact ⟨ρ, hρ, alike.aside (aside_setCall c h n _),
        calls.setOwn hn (.abandoned (f := r.frame)) fun y hy => absurd hy List.not_mem_nil⟩
    · obtain ⟨f, r, ys, begun, braid, hset⟩ := calls.proceed hx hbegun
      have hplaces : ∀ y ∈ places, y.1 = c := by
        rcases own with hn | hover
        · exact (calls.own n x hx hn).places begun
        · exact hover.own hx begun
      obtain ⟨y, hy, aside, hcalls⟩ := abandon_of_begun hx begun c
      have hwithdraw := (withdrawSends_own (n := n) hplaces h).aside
      refine ⟨ρ, hρ, alike.aside (hwithdraw.trans aside), ?_⟩
      rw [hcalls]
      exact hset y [] hy (braid.drop_left hplaces)

/-- **What is `c`'s own** in one hub leaves it a twin of the other. -/
theorem own [Transport τ] {e : Event τ} (twin : Twin c shared shared' h h')
    (own : e.IsOwn c shared h) : Twin c shared shared' (h.step e) h' := by
  cases own with
  | upgrade made o => exact twin.apart (apart_upgrade h c made o)
  | upgradeFailed reason => exact twin.apart ((within_aside c h _ _ _).aside.apart rfl)
  | ask own => exact twin.apart (apart_startCall h own)
  | abandon own => exact twin.abandon_own own
  | remove => exact twin.apart (apart_remove h c)
  | @look s r asks =>
    obtain ⟨metrics, log, heq⟩ := asks s h
    rw [heq]
    exact twin.apart ((within_aside c h metrics log h.notes).aside.apart rfl)
  | act script => exact twin.apart (deeds_runScript c script h).apart
  | peer act => exact twin.apart (apart_peerActs h c act)
  | @writer d roomFirst rests =>
    suffices hturn : Apart c { h with ready := h.ready.erase (.writer d) }
        (({ h with ready := h.ready.erase (.writer d) } : Hub τ).writerTurn d).2 from
      twin.apart (apart_poll roomFirst hturn)
    rcases rests with rfl | rests
    · exact apart_writerTurn _ d
    · exact apart_of_resting_writer c rests
  | @reader d roomFirst rests =>
    suffices hturn : Apart c { h with ready := h.ready.erase (.reader d) }
        (({ h with ready := h.ready.erase (.reader d) } : Hub τ).readerTurn d).2 from
      twin.apart (apart_poll roomFirst hturn)
    rcases rests with rfl | rests
    · exact apart_readerTurn _ d
    · exact apart_of_resting_reader c rests
  | @call n roomFirst rests =>
    have hready : Twin c shared shared' { h with ready := h.ready.erase (.call n) } h' :=
      twin.apart (Aside.apart { Aside.refl c h with } rfl)
    exact callTurn_own hready rests roomFirst
  | @pass now wallClock rests => exact twin.apart (apart_moveClock h now wallClock c)

/-! ## The same concern -/

theorem newCalls_of_append {rs : List SendOrder}
    (hcalls : h₁.calls = h.calls ++ rs.map .requested) :
    h.newCalls h₁ = List.range' h.calls.length rs.length := by
  unfold newCalls
  rw [hcalls, List.length_append, List.length_map, Nat.add_sub_cancel_left]

theorem newCalls_eq_nil {x : Call} (hcalls : h₁.calls = h.calls.set n x) : h.newCalls h₁ = [] := by
  unfold newCalls
  rw [hcalls, List.length_set, Nat.sub_self]
  rfl

theorem of_does {α : Type} {a a' : α} {ρ : Ticket → Ticket → Prop} (hρ : Relator.BiUnique ρ)
    (calls : Calls c ρ shared shared' h.calls h'.calls) (does : Does c ρ h h' (a, h₁) (a', h₁')) :
    Twin c (shared ++ h.newCalls h₁) (shared' ++ h'.newCalls h₁') h₁ h₁' := by
  obtain ⟨rs, hrs, hcalls, hcalls'⟩ := does.asked
  refine ⟨ρ, hρ, does.alike, ?_⟩
  rw [newCalls_of_append hcalls, newCalls_of_append hcalls', hcalls, hcalls']
  exact calls.asks hrs

/-- The same connection is opened in both hubs. -/
theorem does_upgrade {ρ : Ticket → Ticket → Prop} (alike : h.Alike c ρ h')
    (hwall : h'.wallClock = h.wallClock) (id : String) (made : Except Error τ)
    (o : ConnectOptions) :
    Does c ρ h h' ((), (h.upgrade id made o).2) ((), (h'.upgrade id made o).2) := by
  cases made with
  | error e => exact does_aside alike () _ _ _ _ h.notes h'.notes
  | ok link =>
    have hcapacity : h'.capacityFor o = h.capacityFor o := by
      unfold capacityFor
      rw [alike.config_eq]
    have hnewcomer : h'.newcomer id link o = h.newcomer id link o := by
      unfold newcomer
      rw [hcapacity, hwall]
    have hself : (h.newcomer id link o).Alike ρ (h.newcomer id link o) :=
      ⟨_, rfl, rfl, rfl, .nil, .nil⟩
    change Does c ρ h h' ((), (h.accept id link o).2) ((), (h'.accept id link o).2)
    -- the capacity asked for is too large in both hubs or in neither
    rcases accept_cases h id link o with ⟨hlarge, heq⟩ | ⟨hfit, hconfig, hhistory, hcalls, hconns⟩
    · rcases accept_cases h' id link o with ⟨-, heq'⟩ | ⟨hfit', -⟩
      · rw [heq, heq']
        exact .refl alike ()
      · rw [hcapacity] at hfit'
        exact absurd hlarge hfit'
    · rcases accept_cases h' id link o with
        ⟨hlarge', -⟩ | ⟨-, hconfig', hhistory', hcalls', hconns'⟩
      · rw [hcapacity] at hlarge'
        exact absurd hlarge' hfit
      · rw [hnewcomer] at hconns'
        refine .of_calls_eq rfl ⟨?_, ?_, fun d hd => ?_, ?_⟩ hcalls hcalls'
        · rw [hconfig, hconfig', alike.config_eq]
        · rw [hconns, hconns', List.map_append, List.map_append, List.filter_append,
            List.filter_append, alike.members_eq]
        · rw [find?_of_connections_append hconns, find?_of_connections_append hconns']
          rcases alike.conn_cases hd with ⟨hx, hx'⟩ | ⟨x, x', hx, hx', hxx⟩
          · rw [hx, hx', Option.none_or]
            split
            · exact .some hself
            · exact .none
          · rw [hx, hx', Option.some_or, Option.some_or]
            exact .some hxx
        · rw [hhistory, hhistory', alike.history_eq]

/-- The same send, which is not for `c` alone, gets on in both hubs. -/
theorem callTurn (twin : Twin c shared shared' h h') (sound : h.ledger.lives.Sound)
    (sound' : h'.ledger.lives.Sound) {k n n' : Nat} (hk : shared[k]? = some n)
    (hk' : shared'[k]? = some n') {roomFirst roomFirst' : Nat → Bool}
    (hrooms : h'.rooms c n' roomFirst' = h.rooms c n roomFirst) :
    Twin c (shared ++ h.newCalls (h.callTurn roomFirst n))
      (shared' ++ h'.newCalls (h'.callTurn roomFirst' n')) (h.callTurn roomFirst n)
      (h'.callTurn roomFirst' n') := by
  obtain ⟨ρ, hρ, alike, calls⟩ := twin
  obtain ⟨x, x', hx, hx', hxx⟩ := calls.paired k n n' hk hk'
  cases hxx with
  | @requested r other =>
    obtain ⟨metrics, y, hy, aside, hcalls⟩ := callTurn_of_requested hx roomFirst c
    obtain ⟨metrics', y', hy', aside', hcalls'⟩ := callTurn_of_requested hx' roomFirst' c
    -- the tickets of the places that both hubs find are new
    obtain ⟨r', hr', -, braid⟩ :=
      Braid.exists_of_targets (alike.targets_eq sound sound' r).symm 0 0
    have hwith := biUnique_withCall hρ hr' (calls.call_ne hx hx')
    have hmetrics := (does_aside alike () metrics metrics' h.log h'.log h.notes h'.notes).alike
    have hnew : Braid c (fun p p' => withCall ρ n n' r' ⟨n, p⟩ ⟨n', p'⟩) (h.targets r).zipIdx
        (h'.targets r).zipIdx := braid.mono fun _ _ hp => .inr ⟨rfl, rfl, hp⟩
    obtain ⟨hbegin, hleft⟩ := beginSends_alike r.frame hnew (hmetrics.mono fun _ _ => .inl)
    rw [newCalls_eq_nil hcalls, newCalls_eq_nil hcalls', List.append_nil, List.append_nil]
    refine ⟨_, hwith, (hbegin.aside aside).aside_right aside', ?_⟩
    rw [hcalls, hcalls']
    exact calls.set hk hk' (fun _ _ => .inl) (fun t t' ht => ht.imp_right fun h => ⟨h.1, h.2.1⟩)
      hy hy' hleft
  | begun begun begun' braid =>
    obtain ⟨y, hy, aside, hcalls⟩ := callTurn_of_begun hx begun roomFirst c
    obtain ⟨y', hy', aside', hcalls'⟩ := callTurn_of_begun hx' begun' roomFirst' c
    -- `hrooms` is about the places in order, the braid says which of them go together
    rw [rooms_of_begun hx begun, rooms_of_begun hx' begun'] at hrooms
    obtain ⟨hresume, hleft⟩ := resumeSends_alike hρ _ (braid.with_rooms hrooms.symm) alike
    rw [newCalls_eq_nil hcalls, newCalls_eq_nil hcalls', List.append_nil, List.append_nil]
    refine ⟨ρ, hρ, (hresume.aside aside).aside_right aside', ?_⟩
    rw [hcalls, hcalls']
    exact calls.set hk hk' (fun _ _ => id) (fun _ _ => .inl) hy hy' hleft

/-- The same send, which is not for `c` alone, is given up in both hubs. -/
theorem abandon (twin : Twin c shared shared' h h') {k n n' : Nat} (hk : shared[k]? = some n)
    (hk' : shared'[k]? = some n') :
    Twin c (shared ++ h.newCalls (h.abandon n)) (shared' ++ h'.newCalls (h'.abandon n'))
      (h.abandon n) (h'.abandon n') := by
  obtain ⟨ρ, hρ, alike, calls⟩ := twin
  obtain ⟨x, x', hx, hx', hxx⟩ := calls.paired k n n' hk hk'
  cases hxx with
  | @requested r other =>
    have heq : h.abandon n = h.setCall n .abandoned := by rw [Hub.abandon, hx]
    have heq' : h'.abandon n' = h'.setCall n' .abandoned := by rw [Hub.abandon, hx']
    have habandoned : Call.abandoned.Begun r.frame [] := .abandoned
    rw [heq, heq', newCalls_eq_nil rfl, newCalls_eq_nil rfl, List.append_nil, List.append_nil]
    exact ⟨ρ, hρ, (alike.aside (aside_setCall c h n _)).aside_right (aside_setCall c h' n' _),
      calls.set hk hk' (fun _ _ => id) (fun _ _ => .inl) habandoned habandoned .nil⟩
  | begun begun begun' braid =>
    obtain ⟨y, hy, aside, hcalls⟩ := abandon_of_begun hx begun c
    obtain ⟨y', hy', aside', hcalls'⟩ := abandon_of_begun hx' begun' c
    have hwithdraw := withdrawSends_alike hρ braid alike
    rw [newCalls_eq_nil hcalls, newCalls_eq_nil hcalls', List.append_nil, List.append_nil]
    refine ⟨ρ, hρ, (hwithdraw.aside aside).aside_right aside', ?_⟩
    rw [hcalls, hcalls']
    exact calls.set hk hk' (fun _ _ => id) (fun _ _ => .inl) hy hy' .nil

/-- The same is done from outside in both hubs. -/
theorem outside [Transport τ] {e : Event τ} (twin : Twin c shared shared' h h')
    (sound : h.ledger.lives.Sound) (sound' : h'.ledger.lives.Sound) (outside : e.IsOutside c) :
    Twin c (shared ++ h.newCalls (h.step e)) (shared' ++ h'.newCalls (h'.step e)) (h.step e)
      (h'.step e) := by
  obtain ⟨ρ, hρ, alike, calls⟩ := twin
  cases outside with
  | ask other => exact .of_does hρ calls (does_startCall alike other)
  | remove hd => exact .of_does hρ calls (does_remove alike sound sound' hd)
  | act hd script => exact .of_does hρ calls (does_runScript hd script alike sound sound')
  | peer hd act => exact .of_does hρ calls (does_peerActs alike hd act)

/-- **The same concern**, at the same instant, leaves the hubs twins. -/
theorem concern [Transport τ] {e e' : Event τ} {x : Concern τ} (twin : Twin c shared shared' h h')
    (sound : h.ledger.lives.Sound) (sound' : h'.ledger.lives.Sound) (hnow : h'.now = h.now)
    (concerns : e.Concerns c shared h x) (concerns' : e'.Concerns c shared' h' x) :
    Twin c (shared ++ h.newCalls (h.step e)) (shared' ++ h'.newCalls (h'.step e')) (h.step e)
      (h'.step e') := by
  -- which tasks are ready is no part of what hubs have in common
  have hready : ∀ {ρ} (ready ready' : List Task), h.Alike c ρ h' →
      ({ h with ready } : Hub τ).Alike c ρ { h' with ready := ready' } :=
    fun _ _ alike => { alike with }
  cases concerns with
  | opened ne hinstant hwall made o =>
    cases concerns' with
    | opened _ _ hwall' =>
      obtain ⟨ρ, hρ, alike, calls⟩ := twin
      exact .of_does hρ calls (does_upgrade alike (hwall'.trans hwall.symm) _ made o)
  | outside _ outside =>
    cases concerns' with
    | outside => exact twin.outside sound sound' outside
  | abandoned _ hk =>
    cases concerns' with
    | abandoned _ hk' => exact twin.abandon hk hk'
  | writer roomFirst ne =>
    cases concerns' with
    | writer roomFirst' =>
      obtain ⟨ρ, hρ, alike, calls⟩ := twin
      rw [step, step]
      refine .of_does hρ calls (does_poll ?_)
      exact does_writerTurn (hready _ _ alike) hnow ne
  | reader roomFirst ne =>
    cases concerns' with
    | reader roomFirst' =>
      obtain ⟨ρ, hρ, alike, calls⟩ := twin
      rw [step, step]
      refine .of_does hρ calls (does_poll ?_)
      exact does_readerTurn (hready _ _ alike) sound sound' hnow ne
  | @call n k rooms roomFirst hk _ hrooms =>
    cases concerns' with
    | @call n' _ _ roomFirst' hk' _ hrooms' =>
      obtain ⟨ρ, hρ, alike, calls⟩ := twin
      have hturn : Twin c shared shared' { h with ready := h.ready.erase (.call n) }
          { h' with ready := h'.ready.erase (.call n') } := ⟨ρ, hρ, hready _ _ alike, calls⟩
      exact hturn.callTurn sound sound' hk hk' (hrooms'.trans hrooms.symm)

end Twin

end Switchboard.Hub
