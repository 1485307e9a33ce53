import Switchboard.Proofs.Heartbeat
import Switchboard.Proofs.Reader

/-!
# Responsive peers

A peer that answers each heartbeat soon enough is never found dead (`responsive_never_timed_out`).
Soon enough is less than what the read timeout leaves beside the period of heartbeats, and an answer
counts from the instant at which it arrives: that its reader is woken, and reads it at that instant,
is part of what is proved.

The rules of reading say of a reader that times out that every pong came at least the read timeout
before, or comes later. Heartbeats are handed over at the multiples of the period, and so one of
them falls within a period after the last pong; its answer would have come in between.
-/

namespace Switchboard

open Transport (Queued)

/-- After every instant there is a multiple, not later than a period. -/
theorem exists_multiple {start period : Nat} (hperiod : 0 < period) (t : Nat) (ht : start ≤ t) :
    ∃ k, t < start + (k + 1) * period ∧ start + (k + 1) * period ≤ t + period := by
  refine ⟨(t - start) / period, ?_, ?_⟩
  · have hlt := Nat.lt_mul_div_succ (t - start) hperiod
    rw [Nat.mul_comm] at hlt
    omega
  · have hle := Nat.div_mul_le_self (t - start) period
    rw [Nat.succ_mul]
    omega

/-- If every heartbeat is answered soon enough, then there is an answer less than the timeout before
any instant that is not sooner than the timeout after the start. -/
theorem exists_later_answer {period timeout start t : Nat} {beats : List Nat}
    {answered : Nat → Prop} (hperiod : 0 < period) (hless : period < timeout)
    (hstart : start + timeout ≤ t)
    (hbeats : ∀ k, start + (k + 1) * period < t → start + (k + 1) * period ∈ beats)
    (hanswered : ∀ b ∈ beats, b + (timeout - period) ≤ t →
      ∃ p, answered p ∧ b ≤ p ∧ p < b + (timeout - period)) :
    ∃ p, answered p ∧ t < p + timeout ∧ p < t := by
  obtain ⟨k, hafter, hbefore⟩ := exists_multiple hperiod (t - timeout) (Nat.le_sub_of_add_le hstart)
  obtain ⟨p, hp, hfrom, huntil⟩ := hanswered _ (hbeats k (by omega)) (by omega)
  exact ⟨p, hp, by omega, by omega⟩

section Follows

variable {τ : Type} [Transport τ] [Queued τ] {h : Hub τ} {id : String} {c : Connection τ}
  {config : SocketConfig} {start deadline : Nat} {items : List (Nat × Arrival)}
  {acts : List (Nat × ReaderAct)}

/-- If the deadline of a living connection has come, whose reader follows the rules, then every pong
has just arrived, or arrived at least the read timeout before. -/
theorem Hub.Follows.le_of_late (follows : h.Follows config id start items acts)
    (hc : h.find? id = some c) (halive : c.alive = true) (hreading : c.reader = .reading deadline)
    (hnow : deadline = h.now) (hsorted : items.Pairwise (·.1 ≤ ·.1))
    (hstart : ∀ x ∈ items, start ≤ x.1 + config.readTimeout) (hpast : ∀ x ∈ items, x.1 ≤ h.now) :
    start ≤ h.now ∧ ∀ x ∈ items, ∀ f, x.2 = .frame f → f.kind = .pong →
      h.now ≤ x.1 ∨ x.1 + config.readTimeout ≤ h.now := by
  cases follows with
  | @reads d seen unread acts found alive reached unread_eq fresh =>
    obtain rfl := Option.some.inj (hc.symm.trans found)
    rw [Connection.deadline_of_reading hreading, hnow] at reached
    -- if nothing more came, then the reader would exit now
    have hexits := reached.reading_eq h.now []
    rw [List.append_nil, reading, if_pos (Nat.le_refl _)] at hexits
    obtain ⟨hfirst, hthen⟩ := le_exit_of_timedOut (hsorted.sublist (List.sublist_append_left ..))
      (fun x hx => hstart x (List.mem_append_left _ hx))
      (by rw [hexits, List.getLast?_concat])
    refine ⟨hfirst, fun x hx f hf hpong => ?_⟩
    rcases List.mem_append.mp hx with hseen | hunread
    · exact (hthen x hseen f hf hpong).imp_left Nat.le_of_lt
    · exact .inl (Nat.le_of_eq (fresh x hunread).symm)
  | dead found dead =>
    obtain rfl := Option.some.inj (hc.symm.trans found)
    exact absurd (halive.symm.trans dead) (by simp)

end Follows

section Runs

variable {τ : Type} [Transport τ] {h₀ h : Hub τ} {id : String} {es : List (Event τ)} {link : τ}
  {o : ConnectOptions} {config : SocketConfig} {origins : OriginPolicy} {handlers : List Handler}
  {now wallClock : Nat} {earlier : List (Event τ)}

/-- A connection that was opened in a run and torn down for want of a sign of life was alive, and
its deadline had come, at some instant after its opening. -/
theorem Run.exists_late (run : Run h₀ es h) (sound : h₀.ledger.lives.Sound)
    (hopens : es.head? = some (.upgrade id (.ok link) o))
    (hclosed : .closed id .readTimeout ∈ h.history) :
    ∃ before after h₁ c deadline, es = before ++ after ∧
      before.head? = some (.upgrade id (.ok link) o) ∧ Run h₀ before h₁ ∧ Run h₁ after h ∧
      h₁.find? id = some c ∧ c.alive = true ∧ c.reader = .reading deadline ∧ deadline ≤ h₁.now := by
  obtain ⟨rest, rfl⟩ := List.head?_eq_some_iff.mp hopens
  have hfresh : h₀.find? id = none := by
    cases run with
    | cons allowed => exact allowed
  have hopen : ∀ other, .closed id other ∉ h₀.history := fun other hclosed => by
    obtain ⟨c, hc⟩ := Hub.found_of_closed sound hclosed
    exact absurd (hfresh.symm.trans hc) (by simp)
  have traced : h₀.Traced id [] [] := fun c hc => absurd (hfresh.symm.trans hc) (by simp)
  obtain ⟨before, h₁, e, cause⟩ := (run.closed_iff sound traced hopen).mp hclosed
  obtain ⟨c, deadline, hc, halive, hreading, hlate⟩ := reading_of_readTimeout cause.ends
  obtain ⟨after, hamong⟩ := cause.among
  rw [List.append_assoc] at hamong
  obtain ⟨h₁', run₁, later⟩ := (hamong ▸ run).split
  obtain rfl : h₁ = h₁' := cause.run.eq_foldl.trans run₁.eq_foldl.symm
  refine ⟨before, [e] ++ after, h₁, c, deadline, hamong.symm, ?_, run₁, later, hc, halive, hreading,
    hlate⟩
  cases before with
  | nil =>
    obtain rfl : h₁ = h₀ := run₁.eq_foldl
    exact absurd (hfresh.symm.trans hc) (by simp)
  | cons first rest =>
    rw [List.cons_append] at hamong
    rw [(List.cons.inj hamong).1]
    rfl

/-- **A responsive peer is never found dead.** Let writes take no time. While a connection is alive,
its heartbeats were handed over at the multiples of the period, counted from its opening; none that
is past was left out. If a pong arrives for each heartbeat, not before it and less than the read
timeout without the period after it, then the connection is not torn down for want of a sign of
life. -/
theorem responsive_never_timed_out
    (first : Run (Hub.initial config origins handlers now wallClock) earlier h₀)
    (run : Run h₀ es h) (hopens : es.head? = some (.upgrade id (.ok link) o))
    (hfits : h₀.capacityFor o ≤ Outbox.maxCapacity) (hvalid : config.validate = .ok ())
    (hpunctual : Along (Hub.Punctual id) h₀ es) (hswift : Along (Hub.Swift id 0) h₀ es) :
    (h.isAlive id = true → ∃ m,
      instants (Happening.isBeat id) (chronicle h₀ es) = multiples h₀.now config.heartbeat m ∧
      h₀.now + m * config.heartbeat ≤ h.now ∧ h.now ≤ h₀.now + (m + 1) * config.heartbeat) ∧
    ∀ [Queued τ], Along (Hub.Appends id) h₀ es → (∀ x ∈ arrivals id h₀ es, x.2 ≠ .pending) →
      (∀ b ∈ instants (Happening.isBeat id) (chronicle h₀ es),
        b + (config.readTimeout - config.heartbeat) ≤ h.now →
        ∃ p f, (p, .frame f) ∈ arrivals id h₀ es ∧ f.kind = .pong ∧ b ≤ p ∧
          p < b + (config.readTimeout - config.heartbeat)) →
      .closed id .readTimeout ∉ h.history := by
  have hconfig : h₀.config = config := first.config_eq
  constructor
  · intro halive
    obtain ⟨-, c, -, -, paced⟩ := run.paced_opened hopens hfits hpunctual hswift halive
    rw [hconfig] at paced
    exact paced.exists_beats
  · intro _ happends hitems hanswered hclosed
    obtain ⟨hperiod, hless⟩ := SocketConfig.heartbeat_lt_of_validate hvalid
    -- the deadline came in `h₁`, after the events `before`
    obtain ⟨before, after, h₁, c, deadline, rfl, hbefore, run₁, later, hc, halive, hreading,
        hlate⟩ := run.exists_late first.sound hopens hclosed
    have hpunctual₁ := (along_append.mp hpunctual).1
    rw [arrivals_append, ← run₁.eq_foldl] at hitems hanswered
    obtain ⟨awake, c', hc', -, paced⟩ := run₁.paced_opened hbefore hfits hpunctual₁
      (along_append.mp hswift).1 (Hub.isAlive_iff.mpr ⟨c, hc, halive⟩)
    obtain ⟨follows, -, -⟩ := run₁.follows_opened hbefore hfits hpunctual₁
      (along_append.mp happends).1 fun x hx => hitems x (List.mem_append_left _ hx)
    rw [hconfig] at paced follows
    obtain ⟨hstart, hpongs⟩ := follows.le_of_late hc halive hreading
      (Nat.le_antisymm hlate (awake.le_deadline hc halive hreading)) (run₁.arrivals_pairwise id)
      (fun x hx => Nat.add_le_add_right (run₁.le_arrivals id x hx) _) (run₁.arrivals_le id)
    have hinTime : ∀ b ∈ instants (Happening.isBeat id) (chronicle h₀ before),
        b + (config.readTimeout - config.heartbeat) ≤ h₁.now →
        ∃ p, (∃ f, (p, .frame f) ∈ arrivals id h₀ before ++ arrivals id h₁ after ∧ f.kind = .pong) ∧
          b ≤ p ∧ p < b + (config.readTimeout - config.heartbeat) := fun b hb hpast => by
      have hbeat : b ∈ instants (Happening.isBeat id) (chronicle h₀ (before ++ after)) := by
        rw [chronicle_append, instants_append]
        exact List.mem_append_left _ hb
      obtain ⟨p, f, hp, hpong, hin⟩ := hanswered b hbeat (Nat.le_trans hpast later.now_le)
      exact ⟨p, ⟨f, hp, hpong⟩, hin⟩
    -- a heartbeat within a period after the last pong was answered before `h₁`
    obtain ⟨p, ⟨f, hp, hpong⟩, hfrom, huntil⟩ := exists_later_answer hperiod hless hstart
      (fun k => paced.mem_beats) hinTime
    rcases List.mem_append.mp hp with hp | hp
    · rcases hpongs _ hp f rfl hpong with hge | hle
      · exact absurd huntil (Nat.not_lt.mpr hge)
      · exact absurd hfrom (Nat.not_lt.mpr hle)
    · exact absurd huntil (Nat.not_lt.mpr (later.le_arrivals id _ hp))

end Runs

/-- A peer that answers heartbeats, and a read timeout that is as short as can be. -/
def answering : List (Event MemoryLink) :=
  [.upgrade "a" (.ok { answersPings := true }) {}, .turn (.writer "a") Hub.teardownFirst,
    .turn (.writer "a") Hub.teardownFirst, .turn (.reader "a") Hub.teardownFirst,
    .turn (.reader "a") Hub.teardownFirst,
    .pass 100 0, .turn (.writer "a") Hub.teardownFirst, .turn (.writer "a") Hub.teardownFirst,
    .turn (.reader "a") Hub.teardownFirst, .turn (.reader "a") Hub.teardownFirst,
    .pass 200 0, .turn (.writer "a") Hub.teardownFirst, .turn (.writer "a") Hub.teardownFirst,
    .turn (.reader "a") Hub.teardownFirst, .turn (.reader "a") Hub.teardownFirst, .pass 250 0]

/-- A hub that waits one millisecond longer for a sign of life than for a heartbeat. -/
def barelyPatient : Hub MemoryLink :=
  Hub.initial { heartbeat := 100, readTimeout := 101 } .listed [] 0 0

theorem responsive_never_timed_out_of_answering :
    (∃ m, instants (Happening.isBeat "a") (chronicle barelyPatient answering) = multiples 0 100 m ∧
      0 + m * 100 ≤ 250 ∧ 250 ≤ 0 + (m + 1) * 100) ∧
      .closed "a" .readTimeout ∉ (answering.foldl Hub.step barelyPatient).history := by
  have run : Run barelyPatient answering (answering.foldl Hub.step barelyPatient) :=
    .of_allowed (by decide +kernel)
  have first : Run (Hub.initial { heartbeat := 100, readTimeout := 101 } .listed [] 0 0) []
      barelyPatient := .nil _
  obtain ⟨hbeats, hnever⟩ := responsive_never_timed_out (o := {}) first run rfl (by decide) rfl
    (by decide +kernel) (by decide +kernel)
  have hall : instants (Happening.isBeat "a") (chronicle barelyPatient answering) = [100, 200] := by
    decide +kernel
  have harrivals : arrivals "a" barelyPatient answering =
      [(100, .frame ⟨.pong, []⟩), (200, .frame ⟨.pong, []⟩)] := by decide +kernel
  refine ⟨hbeats (by decide +kernel), hnever (by decide +kernel) (by decide +kernel) ?_⟩
  rw [hall, harrivals]
  intro b hb _
  simp only [List.mem_cons, List.not_mem_nil, or_false] at hb
  rcases hb with rfl | rfl
  · exact ⟨100, _, List.mem_cons_self, rfl, by decide, by decide⟩
  · exact ⟨200, _, List.mem_cons_of_mem _ List.mem_cons_self, rfl, by decide, by decide⟩

end Switchboard
