import Switchboard.Proofs.Unwinding
import Switchboard.Transport.Scripted

/-!
# Connections are isolated from each other

Two runs that are the same to the connections besides `c` are the same in all that any of those can
tell: its state, what happened to it and when, and what its handlers were given (`isolated`). What
`c` does in the one run and in the other, and whether it is there at all, may differ freely.

Both runs go through their concerns together. Between two of them each run has its own affairs, and
their clocks may be apart; but the others have nothing to do at any instant between the clocks
(`Hub.Abreast`). The next concern therefore finds both clocks at the same instant: it has its
instant, or is a turn in which something is done.
-/

namespace Switchboard

variable {τ : Type}

/-! ## What a connection can tell -/

/-- An outbox, whatever the tickets of the sends that are in line; how many there are is to
be seen. -/
def Outbox.blank (o : Outbox) : Outbox :=
  { o with
    granted := o.granted.map fun _ => ⟨0, 0⟩
    waiting := o.waiting.map fun _ => ⟨0, 0⟩ }

/-- All that is to be seen of a connection. -/
def Connection.seen (x : Connection τ) : Connection τ := x.rebox x.outbox.blank

/-- What happened to the connection `d`, whatever the tickets of the senders. -/
def about (d : String) (chronicle : List (Nat × Happening)) : List (Nat × Happening) :=
  (chronicle.map fun x => (x.1, x.2.plain)).filter fun x => x.2.id = d

section Dispatches

variable [Transport τ]

/-- The frame that the handlers of a connection are given in a turn of its reader, and which they
are. -/
def Hub.given? (h : Hub τ) (d : String) : Option (Frame × List Handler) :=
  (h.find? d).bind fun x => (x.dispatched? h.now h.config).map (·, x.handlers)

/-- What the handlers of the connection `d` are given in an event. -/
def Event.dispatch? (d : String) (h : Hub τ) : Event τ → Option (Frame × List Handler)
  | .turn (.reader e) _ => if e = d then h.given? d else none
  | _ => none

/-- What the handlers of the connection `d` are given in a run, and when; the first first. -/
def dispatches (d : String) : Hub τ → List (Event τ) → List (Nat × Frame × List Handler)
  | _, [] => []
  | h, e :: es => (e.dispatch? d h).toList.map (h.now, ·) ++ dispatches d (h.step e) es

end Dispatches

theorem Outbox.Alike.blank_eq {ρ : Ticket → Ticket → Prop} {o o' : Outbox}
    (alike : o.Alike ρ o') : o'.blank = o.blank := by
  unfold blank
  rw [alike.capacity_eq, alike.queued_eq, List.map_const', List.map_const', List.map_const',
    List.map_const', alike.granted.length_eq, alike.waiting.length_eq]

theorem Connection.Alike.seen_eq {ρ : Ticket → Ticket → Prop} {x x' : Connection τ}
    (alike : x.Alike ρ x') : x'.seen = x.seen := by
  obtain ⟨o, rfl, ho⟩ := alike
  exact congrArg x.rebox ho.blank_eq

theorem about_append (d : String) (first second : List (Nat × Happening)) :
    about d (first ++ second) = about d first ++ about d second := by
  unfold about
  rw [List.map_append, List.filter_append]

/-- What is new about a connection besides `c` is among what is new about all of these. -/
theorem about_news {c d : String} (hd : d ≠ c) (now : Nat) (news : List Happening) :
    about d (news.reverse.map (now, ·)) =
      (((others c news).filter fun x => x.id = d).map (now, ·)).reverse := by
  unfold about others
  rw [List.map_reverse, List.map_reverse, List.filter_reverse, List.map_map, List.filter_filter]
  congr 1
  change ((news.map ((now, ·) ∘ Happening.plain)).filter _) = _
  rw [← List.map_map, List.filter_map]
  refine congrArg (List.map _) (List.filter_congr fun x _ => ?_)
  by_cases hx : x.id = d
  · simp [hx, hd]
  · simp [hx]

/-! ## Abreast -/

variable [Transport τ] {c d : String} {shared shared' : List Nat} {h h' : Hub τ} {e e' : Event τ}

/-- The instant of a concern, if it has one. -/
def Concern.instant? : Concern τ → Option Nat
  | .opened now _ _ _ _ | .outside now _ | .abandoned now _ => some now
  | .writer _ | .reader _ | .call _ _ => none

/-- A concern has its instant, or one of the others has something to do. -/
theorem Event.Concerns.instant?_cases {x : Concern τ} (concerns : e.Concerns c shared h x) :
    x.instant? = some h.now ∨ x.instant? = none ∧ ¬ h.RestsBesides c shared h.now := by
  cases concerns with
  | opened _ hnow => exact .inl (congrArg some hnow.symm)
  | outside hnow => exact .inl (congrArg some hnow.symm)
  | abandoned hnow => exact .inl (congrArg some hnow.symm)
  | writer _ ne found busy => exact .inr ⟨rfl, fun rests => busy (rests.writer _ _ ne found)⟩
  | reader _ ne found busy => exact .inr ⟨rfl, fun rests => busy (rests.reader _ _ ne found)⟩
  | call _ hk busy =>
    exact .inr ⟨rfl, fun rests => busy (rests.call _ (List.mem_of_getElem? hk))⟩

theorem Event.Concerns.not_isPass {x : Concern τ} (comes : e.ComesTo e')
    (concerns : e'.Concerns c shared h x) : ¬ e.IsPass := by
  intro hpass
  cases comes with
  | self =>
    cases concerns with
    | outside _ outside => cases outside <;> cases hpass
    | _ => cases hpass
  | _ => cases hpass

namespace Hub

/-- Two sound hubs are twins, and the connections besides `c` have nothing to do at any instant
between their clocks. -/
structure Abreast (c : String) (shared shared' : List Nat) (h h' : Hub τ) : Prop where
  twin : Twin c shared shared' h h'
  sound : h.ledger.lives.Sound
  sound' : h'.ledger.lives.Sound
  gap : ∀ t, min h.now h'.now ≤ t → t < max h.now h'.now → h.RestsBesides c shared t

namespace Abreast

theorem symm (abreast : Abreast c shared shared' h h') : Abreast c shared' shared h' h where
  twin := abreast.twin.symm
  sound := abreast.sound'
  sound' := abreast.sound
  gap t hle hlt := by
    rw [Nat.min_comm] at hle
    rw [Nat.max_comm] at hlt
    exact abreast.twin.restsBesides (abreast.gap t hle hlt)

/-- What is `c`'s own in one run leaves the hubs abreast. -/
theorem own (abreast : Abreast c shared shared' h h') (allowed : e.Allowed h)
    (comes : e.ComesTo e') (own : e'.IsOwn c shared h) :
    Abreast c shared shared' (h.step e) h' := by
  have twin : Twin c shared shared' (h.step e) h' := by
    obtain ⟨metrics, log, heq⟩ := comes.step_eq h
    rw [heq]
    exact (abreast.twin.own own).apart ((within_aside c (h.step e') metrics log _).aside.apart rfl)
  have sound := (Run.cons allowed (.nil _)).sound_of_sound abreast.sound
  -- whoever rests before the event rests after it
  have hkeeps : ∀ t, h.RestsBesides c shared t → (h.step e).RestsBesides c shared t := by
    intro t rests
    exact twin.symm.restsBesides (abreast.twin.restsBesides rests)
  refine ⟨twin, sound, abreast.sound', fun t hle hlt => hkeeps t ?_⟩
  -- only time that passes changes the gap between the clocks
  by_cases hpass : e.IsPass
  · cases e with
    | pass now wallClock =>
      cases comes
      cases own with
      | pass _ rests =>
        have hnow : h.now ≤ now := allowed
        rw [now_step_pass] at hle hlt
        by_cases ht : h.now ≤ t ∧ t < now
        · exact rests t ht.1 ht.2
        · exact abreast.gap t (by omega) (by omega)
    | _ => cases hpass
  · rw [now_step hpass] at hle hlt
    exact abreast.gap t hle hlt

/-- The same concern finds both clocks at the same instant. -/
theorem now_eq {x : Concern τ} (abreast : Abreast c shared shared' h h')
    (concerns : e.Concerns c shared h x) (concerns' : e'.Concerns c shared' h' x) :
    h'.now = h.now := by
  rcases concerns.instant?_cases with hdated | ⟨hnone, hbusy⟩
  · rcases concerns'.instant?_cases with hdated' | ⟨hnone', -⟩
    · exact Option.some.inj (hdated'.symm.trans hdated)
    · rw [hdated] at hnone'
      cases hnone'
  · rcases concerns'.instant?_cases with hdated' | ⟨-, hbusy'⟩
    · rw [hnone] at hdated'
      cases hdated'
    · -- in the gap between two clocks nobody but `c` has anything to do
      rcases Nat.lt_trichotomy h'.now h.now with hlt | heq | hlt
      · exact absurd (abreast.symm.gap h'.now (by omega) (by omega)) hbusy'
      · exact heq
      · exact absurd (abreast.gap h.now (by omega) (by omega)) hbusy

/-- The same concern leaves the hubs abreast. -/
theorem concern {e₁ e₁' : Event τ} {x : Concern τ} (abreast : Abreast c shared shared' h h')
    (allowed : e.Allowed h) (allowed' : e'.Allowed h') (comes : e.ComesTo e₁)
    (comes' : e'.ComesTo e₁') (concerns : e₁.Concerns c shared h x)
    (concerns' : e₁'.Concerns c shared' h' x) :
    Abreast c (shared ++ h.newCalls (h.step e)) (shared' ++ h'.newCalls (h'.step e')) (h.step e)
      (h'.step e') := by
  have hnow := abreast.now_eq concerns concerns'
  have twin := abreast.twin.concern abreast.sound abreast.sound' hnow concerns concerns'
  have hstep := now_step (concerns.not_isPass comes) h
  have hstep' := now_step (concerns'.not_isPass comes') h'
  refine ⟨?_, (Run.cons allowed (.nil _)).sound_of_sound abreast.sound,
    (Run.cons allowed' (.nil _)).sound_of_sound abreast.sound', fun t hle hlt => ?_⟩
  · obtain ⟨metrics, log, heq⟩ := comes.step_eq h
    obtain ⟨metrics', log', heq'⟩ := comes'.step_eq h'
    rw [heq, heq']
    have haside := (within_aside c (h.step e₁) metrics log (h.step e₁).notes).aside
    have haside' := (within_aside c (h'.step e₁') metrics' log' (h'.step e₁').notes).aside
    exact ((twin.apart (haside.apart rfl)).symm.apart (haside'.apart rfl)).symm
  · omega

end Abreast

/-! ## What is told of an event -/

theorem given?_eq (twin : Twin c shared shared' h h') (hnow : h'.now = h.now) (hd : d ≠ c) :
    h'.given? d = h.given? d := by
  obtain ⟨ρ, -, alike, -⟩ := twin
  unfold given?
  rcases alike.conn_cases hd with ⟨hx, hx'⟩ | ⟨x, x', hx, hx', o, rfl, -⟩
  · rw [hx, hx']
    rfl
  · rw [hx, hx', hnow, alike.config_eq]
    rfl

omit [Transport τ] in
theorem history_eq_of_twin (twin : Twin c shared shared' h h') :
    others c h'.history = others c h.history := by
  obtain ⟨ρ, -, alike, -⟩ := twin
  exact alike.history_eq

/-- What is `c`'s own is not about anybody else. -/
theorem about_own (twin : Twin c shared shared' h h')
    (twin₁ : Twin c shared shared' (h.step e) h') (hd : d ≠ c) :
    about d ((h.newsSince (h.step e)).map (h.now, ·)) = [] := by
  obtain ⟨news, heq⟩ := exists_news h e
  -- the other hub stood still, and the histories are still the same to the others
  have hnews : others c news = [] := by
    have hsame := (history_eq_of_twin twin₁).symm.trans (history_eq_of_twin twin)
    rw [heq, others_append] at hsame
    exact List.append_left_eq_self.mp hsame
  rw [newsSince_eq heq, about_news hd, hnews]
  rfl

/-- The same concern is the same about everybody else. -/
theorem about_concern {more more' : List Nat} (twin : Twin c shared shared' h h')
    (twin₁ : Twin c more more' (h.step e) (h'.step e')) (hnow : h'.now = h.now) (hd : d ≠ c) :
    about d ((h'.newsSince (h'.step e')).map (h'.now, ·)) =
      about d ((h.newsSince (h.step e)).map (h.now, ·)) := by
  obtain ⟨news, heq⟩ := exists_news h e
  obtain ⟨news', heq'⟩ := exists_news h' e'
  have hnews : others c news' = others c news := by
    have hsame := history_eq_of_twin twin₁
    rw [heq, heq', others_append, others_append, history_eq_of_twin twin] at hsame
    exact List.append_cancel_right hsame
  rw [newsSince_eq heq, newsSince_eq heq', about_news hd, about_news hd, hnews, hnow]

end Hub

theorem Event.ComesTo.dispatch?_eq (comes : e.ComesTo e') (d : String) (h : Hub τ) :
    e.dispatch? d h = e'.dispatch? d h := by
  cases comes <;> rfl

theorem Event.IsOwn.dispatch?_eq (own : e.IsOwn c shared h) (hd : d ≠ c) :
    e.dispatch? d h = none := by
  cases own with
  | @reader id roomFirst rests =>
    by_cases hid : id = d
    · subst hid
      have hrests := rests.resolve_left hd
      refine (if_pos rfl).trans ?_
      unfold Hub.given?
      cases hx : h.find? id with
      | none => rfl
      | some x => rw [Option.bind_some, (hrests x hx).2, Option.map_none]
    · exact if_neg hid
  | _ => rfl

/-- Only a concern of its reader gives the handlers of a connection something. -/
theorem Event.Concerns.dispatch?_cases {x : Concern τ} (concerns : e.Concerns c shared h x)
    (d : String) :
    x = .reader d ∧ e.dispatch? d h = h.given? d ∨ x ≠ .reader d ∧ e.dispatch? d h = none := by
  cases concerns with
  | @reader id _ roomFirst =>
    by_cases hid : id = d
    · subst hid
      exact .inl ⟨rfl, if_pos rfl⟩
    · refine .inr ⟨fun heq => hid (Concern.reader.inj heq), if_neg hid⟩
  | outside _ outside => exact .inr ⟨by simp, by cases outside <;> rfl⟩
  | opened => exact .inr ⟨by simp, rfl⟩
  | abandoned => exact .inr ⟨by simp, rfl⟩
  | writer => exact .inr ⟨by simp, rfl⟩
  | call => exact .inr ⟨by simp, rfl⟩

/-! ## Runs -/

/-- The connection `d` can tell no difference between two runs. -/
structure Agree (d : String) (h : Hub τ) (es : List (Event τ)) (h' : Hub τ)
    (es' : List (Event τ)) : Prop where
  seen_eq : ((es'.foldl Hub.step h').find? d).map Connection.seen =
    ((es.foldl Hub.step h).find? d).map Connection.seen
  about_eq : about d (chronicle h' es') = about d (chronicle h es)
  dispatches_eq : dispatches d h' es' = dispatches d h es

namespace Agree

variable {es es' : List (Event τ)}

theorem symm (agree : Agree d h es h' es') : Agree d h' es' h es :=
  ⟨agree.seen_eq.symm, agree.about_eq.symm, agree.dispatches_eq.symm⟩

theorem nil (twin : Hub.Twin c shared shared' h h') (hd : d ≠ c) : Agree d h [] h' [] := by
  obtain ⟨ρ, -, alike, -⟩ := twin
  refine ⟨?_, rfl, rfl⟩
  change (h'.find? d).map Connection.seen = (h.find? d).map Connection.seen
  rcases alike.conn_cases hd with ⟨hx, hx'⟩ | ⟨x, x', hx, hx', hxx⟩
  · rw [hx, hx']
  · rw [hx, hx', Option.map_some, Option.map_some, hxx.seen_eq]

theorem own (abreast : Hub.Abreast c shared shared' h h') (allowed : e.Allowed h)
    (comes : e.ComesTo e') (own : e'.IsOwn c shared h) (hd : d ≠ c)
    (rest : Agree d (h.step e) es h' es') : Agree d h (e :: es) h' es' := by
  have habout := Hub.about_own abreast.twin (abreast.own allowed comes own).twin hd
  refine ⟨rest.seen_eq, ?_, ?_⟩
  · rw [chronicle, about_append, habout]
    exact rest.about_eq
  · rw [dispatches, comes.dispatch?_eq, own.dispatch?_eq hd]
    exact rest.dispatches_eq

theorem concern {e₁ e₁' : Event τ} {x : Concern τ} (abreast : Hub.Abreast c shared shared' h h')
    (allowed : e.Allowed h) (allowed' : e'.Allowed h') (comes : e.ComesTo e₁)
    (comes' : e'.ComesTo e₁') (concerns : e₁.Concerns c shared h x)
    (concerns' : e₁'.Concerns c shared' h' x) (hd : d ≠ c)
    (rest : Agree d (h.step e) es (h'.step e') es') : Agree d h (e :: es) h' (e' :: es') := by
  have hnow := abreast.now_eq concerns concerns'
  have after := abreast.concern allowed allowed' comes comes' concerns concerns'
  have habout := Hub.about_concern abreast.twin after.twin hnow hd
  have hdispatch : e'.dispatch? d h' = e.dispatch? d h := by
    rw [comes.dispatch?_eq, comes'.dispatch?_eq]
    rcases concerns.dispatch?_cases d with ⟨hx, heq⟩ | ⟨hx, heq⟩
    · rcases concerns'.dispatch?_cases d with ⟨-, heq'⟩ | ⟨hx', -⟩
      · rw [heq, heq', Hub.given?_eq abreast.twin hnow hd]
      · exact absurd hx hx'
    · rcases concerns'.dispatch?_cases d with ⟨hx', -⟩ | ⟨-, heq'⟩
      · exact absurd hx' hx
      · rw [heq, heq']
  refine ⟨rest.seen_eq, ?_, ?_⟩
  · rw [chronicle, chronicle, about_append, about_append, habout, rest.about_eq]
  · rw [dispatches, dispatches, hdispatch, hnow, rest.dispatches_eq]

end Agree

/-- Runs that are the same to the connections besides `c` go through their concerns together. -/
theorem Besides.agree {es es' : List (Event τ)} {xs : List (Concern τ)} {hₙ hₙ' : Hub τ}
    (hd : d ≠ c) (abreast : Hub.Abreast c shared shared' h h') (run : Run h es hₙ)
    (run' : Run h' es' hₙ') (besides : Besides c shared h es xs)
    (besides' : Besides c shared' h' es' xs) : Agree d h es h' es' := by
  induction besides generalizing shared' h' es' with
  | nil shared h =>
    -- nothing is left but the other run's own affairs
    generalize hxs : [] = xs at besides'
    induction besides' with
    | nil => exact .nil abreast.twin hd
    | own comes own _ ih =>
      cases run' with
      | cons allowed rest =>
        have ahead := abreast.symm.own allowed comes own
        exact (Agree.own abreast.symm allowed comes own hd (ih ahead.symm rest hxs).symm).symm
    | concern => cases hxs
  | own comes own _ ih =>
    cases run with
    | cons allowed rest =>
      exact .own abreast allowed comes own hd
        (ih (abreast.own allowed comes own) rest run' besides')
  | @concern shared h e e₁ es x xs comes concerns _ ih =>
    -- the other run's own affairs come before the same concern
    generalize hxs : x :: xs = ys at besides'
    induction besides' with
    | nil => cases hxs
    | own comes' own' _ ih' =>
      cases run' with
      | cons allowed' rest' =>
        have ahead := abreast.symm.own allowed' comes' own'
        exact (Agree.own abreast.symm allowed' comes' own' hd (ih' ahead.symm rest' hxs).symm).symm
    | concern comes' concerns' besides' =>
      obtain ⟨rfl, rfl⟩ := List.cons.inj hxs
      cases run with
      | cons allowed rest =>
        cases run' with
        | cons allowed' rest' =>
          have after := abreast.concern allowed allowed' comes comes' concerns concerns'
          exact .concern abreast allowed allowed' comes comes' concerns concerns' hd
            (ih after rest rest' besides')

/-- A hub without connections is abreast of itself. -/
theorem Hub.abreast_initial (c : String) (config : SocketConfig) (origins : OriginPolicy)
    (serverHandlers : List Handler) (now wallClock : Nat) :
    Hub.Abreast (τ := τ) c [] [] (.initial config origins serverHandlers now wallClock)
      (.initial config origins serverHandlers now wallClock) := by
  refine ⟨⟨fun _ _ => False, ?_, ?_, .nil c⟩, Lives.sound_empty, Lives.sound_empty, ?_⟩
  · exact ⟨fun _ _ _ hf => hf.elim, fun _ _ _ hf => hf.elim⟩
  · exact ⟨rfl, rfl, fun _ _ => .none, rfl⟩
  · intro t hle hlt
    omega

/-! ## Without `c` -/

/-- What sends notice first can be told place by place. -/
theorem Braid.exists_rooms {r : Nat → Nat → Prop} (hr : Relator.LeftUnique r)
    {xs ys : List (String × Nat)} (braid : Braid c r xs ys) (roomFirst : Nat → Bool) :
    ∃ roomFirst', roomsBesides c roomFirst' ys = roomsBesides c roomFirst xs := by
  classical
  refine ⟨fun p' => decide (∃ p, r p p' ∧ roomFirst p = true), ?_⟩
  unfold roomsBesides
  induction braid with
  | nil => rfl
  | left p _ ih => simpa using ih
  | right p _ ih => simpa using ih
  | @both d p p' xs ys ne paired _ ih =>
    have hsame : decide (∃ q, r q p' ∧ roomFirst q = true) = roomFirst p := by
      rw [Bool.eq_iff_iff, decide_eq_true_iff]
      constructor
      · rintro ⟨q, hq, hroom⟩
        rwa [hr paired hq]
      · exact fun hroom => ⟨p, paired, hroom⟩
    simp only [ne_eq, ne, not_false_eq_true, decide_true, List.filter_cons_of_pos, List.map_cons,
      hsame]
    exact congrArg _ ih

theorem Event.Concerns.opening_ne {x : Concern τ} (concerns : e.Concerns c shared h x)
    (config : SocketConfig) : ∀ m, e.opening? config = some m → m.id ≠ c := by
  intro m hm
  cases concerns with
  | @opened _ _ id ne _ _ made o =>
    cases made with
    | error e => cases hm
    | ok link =>
      rw [Event.opening?] at hm
      split at hm
      · cases hm
      · obtain rfl := Option.some.inj hm
        exact ne
  | outside _ outside => cases outside <;> cases hm
  | _ => cases hm

namespace Hub.Twin

variable {n n' k : Nat}

omit [Transport τ] in
theorem exists_rooms (twin : Twin c shared shared' h h') (hk : shared[k]? = some n)
    (hk' : shared'[k]? = some n') (roomFirst : Nat → Bool) :
    ∃ roomFirst', h'.rooms c n' roomFirst' = h.rooms c n roomFirst := by
  obtain ⟨ρ, hρ, alike, calls⟩ := twin
  obtain ⟨x, x', hx, hx', hxx⟩ := calls.paired k n n' hk hk'
  cases hxx with
  | requested =>
    refine ⟨roomFirst, ?_⟩
    unfold rooms
    rw [hx, hx']
  | begun begun begun' braid =>
    rw [rooms_of_begun hx begun]
    have hunique : Relator.LeftUnique fun p p' => ρ ⟨n, p⟩ ⟨n', p'⟩ :=
      fun p p' q hp hq => congrArg Ticket.place (hρ.1 hp hq)
    obtain ⟨roomFirst', hrooms⟩ := braid.exists_rooms hunique roomFirst
    exact ⟨roomFirst', (rooms_of_begun hx' begun' roomFirst').trans hrooms⟩

/-- A twin can have the same concern at the same instant. -/
theorem exists_concerns {x : Concern τ} (twin : Twin c shared shared' h h')
    (hnow : h'.now = h.now) (hwall : h'.wallClock = h.wallClock) (allowed : e.Allowed h)
    (concerns : e.Concerns c shared h x) :
    ∃ e' : Event τ, e'.Allowed h' ∧ e'.Concerns c shared' h' x := by
  cases concerns with
  | @opened instant wallClock id ne hinstant hwallClock made o =>
    have hnone : h'.find? id = none := by
      cases hx : h'.find? id with
      | none => rfl
      | some x' =>
        obtain ⟨x, hx, -⟩ := twin.symm.exists_conn ne hx
        rw [show h.find? id = none from allowed] at hx
        cases hx
    exact ⟨.upgrade id made o, hnone,
      .opened ne (hnow.trans hinstant) (hwall.trans hwallClock) made o⟩
  | outside hinstant outside =>
    exact ⟨e, by cases outside <;> trivial, .outside (hnow.trans hinstant) outside⟩
  | abandoned hinstant hk =>
    obtain ⟨n', hk', -⟩ := twin.exists_call hk
    exact ⟨.abandon n', trivial, .abandoned (hnow.trans hinstant) hk'⟩
  | @writer id y roomFirst ne found busy =>
    obtain ⟨y', found', hkeeps⟩ := twin.exists_conn ne found
    refine ⟨.turn (.writer id) roomFirst, trivial, .writer roomFirst ne found' fun rests => ?_⟩
    rw [hnow] at rests
    exact busy ((hkeeps h.now).1 rests)
  | @reader id y roomFirst ne found busy =>
    obtain ⟨y', found', hkeeps⟩ := twin.exists_conn ne found
    refine ⟨.turn (.reader id) roomFirst, trivial, .reader roomFirst ne found' fun rests => ?_⟩
    rw [hnow] at rests
    exact busy ((hkeeps h.now).2 rests)
  | @call n k rooms roomFirst hk busy hrooms =>
    obtain ⟨n', hk', hkeeps⟩ := twin.exists_call hk
    obtain ⟨roomFirst', hrooms'⟩ := twin.exists_rooms hk hk' roomFirst
    exact ⟨.turn (.call n') roomFirst', trivial,
      .call roomFirst' hk' (fun rests => busy (hkeeps rests)) (hrooms'.trans hrooms)⟩

end Hub.Twin

theorem Event.ComesTo.allowed (comes : e.ComesTo e') (allowed : e.Allowed h) :
    e'.Allowed h := by
  cases comes with
  | self => exact allowed
  | send => trivial
  | remove => trivial

/-- From a hub that is abreast and without `c`, a run goes on that is the same to the others, and in
which `c` is never there. -/
theorem Besides.exists_without {es : List (Event τ)} {xs : List (Concern τ)} {hₙ : Hub τ}
    (besides : Besides c shared h es xs) (run : Run h es hₙ)
    (abreast : Hub.Abreast c shared shared' h h') (hle : h'.now ≤ h.now)
    (hnone : h'.find? c = none) :
    ∃ es' hₙ', Run h' es' hₙ' ∧ Besides c shared' h' es' xs ∧ hₙ'.find? c = none := by
  induction besides generalizing shared' h' with
  | nil => exact ⟨[], h', .nil h', .nil shared' h', hnone⟩
  | own comes own _ ih =>
    cases run with
    | cons allowed rest =>
      have hlater := Hub.now_le_step allowed
      exact ih rest (abreast.own allowed comes own) (Nat.le_trans hle hlater) hnone
  | @concern shared h e e₁ es x xs comes concerns _ ih =>
    cases run with
    | cons allowed rest =>
      -- the clocks are set to the instant of the concern
      have hpass : (Event.pass h.now h.wallClock : Event τ).IsOwn c shared' h' := by
        refine .pass h.wallClock fun t ht hlt => ?_
        exact abreast.symm.gap t (by omega) (by omega)
      have ahead := (abreast.symm.own (e := .pass h.now h.wallClock) hle (.self _) hpass).symm
      have hnow : (h'.step (.pass h.now h.wallClock)).now = h.now := Hub.now_step_pass h' _ _
      have hnone₁ : (h'.step (.pass h.now h.wallClock)).find? c = none :=
        Hub.find?_step_of_none hnone hle fun m hm => by cases hm
      obtain ⟨e', allowed', concerns'⟩ :=
        ahead.twin.exists_concerns hnow rfl (comes.allowed allowed) concerns
      have after := ahead.concern allowed allowed' comes (.self e') concerns concerns'
      have hstep := Hub.now_step (concerns.not_isPass comes) h
      have hstep' := Hub.now_step (concerns'.not_isPass (.self e'))
        (h'.step (.pass h.now h.wallClock))
      have hnone' := Hub.find?_step_of_none hnone₁ allowed' (concerns'.opening_ne _)
      obtain ⟨es', hₙ', run', besides', hgone⟩ := ih rest after (by omega) hnone'
      exact ⟨.pass h.now h.wallClock :: e' :: es', hₙ', .cons hle (.cons allowed' run'),
        .own (.self _) hpass (.concern (.self e') concerns' besides'), hgone⟩

/-! ## Isolation -/

section Laws

variable {config : SocketConfig} {origins : OriginPolicy} {serverHandlers : List Handler}
  {now wallClock : Nat} {es es' : List (Event τ)} {xs : List (Concern τ)}

/-- **Isolation.** Two runs that are the same to the connections besides `c` end with each of those
connections in the same state, alive or not, with the same frames in its outbox and the same link to
its peer. The same happened to it at the same instants: frames entered its outbox and were handed
over to its link, it was torn down for the same reason, its removals had the same answers. Its
handlers were given the same frames at the same instants. -/
theorem isolated (hd : d ≠ c)
    (run : Run (.initial config origins serverHandlers now wallClock) es h)
    (run' : Run (.initial config origins serverHandlers now wallClock) es' h')
    (besides : Besides c [] (.initial config origins serverHandlers now wallClock) es xs)
    (besides' : Besides c [] (.initial config origins serverHandlers now wallClock) es' xs) :
    (h'.find? d).map Connection.seen = (h.find? d).map Connection.seen ∧
      about d (chronicle (.initial config origins serverHandlers now wallClock) es') =
        about d (chronicle (.initial config origins serverHandlers now wallClock) es) ∧
      dispatches d (.initial config origins serverHandlers now wallClock) es' =
        dispatches d (.initial config origins serverHandlers now wallClock) es := by
  have abreast := Hub.abreast_initial (τ := τ) c config origins serverHandlers now wallClock
  have agree := Besides.agree hd abreast run run' besides besides'
  refine ⟨?_, agree.about_eq, agree.dispatches_eq⟩
  rw [run.eq_foldl, run'.eq_foldl]
  exact agree.seen_eq

/-- To the others, every run is as one in which `c` is never there. -/
theorem exists_run_without (run : Run (.initial config origins serverHandlers now wallClock) es h)
    (besides : Besides c [] (.initial config origins serverHandlers now wallClock) es xs) :
    ∃ es' h', Run (.initial config origins serverHandlers now wallClock) es' h' ∧
      Besides c [] (.initial config origins serverHandlers now wallClock) es' xs ∧
      h'.find? c = none ∧
      ∀ d, d ≠ c → Agree d (.initial config origins serverHandlers now wallClock) es
        (.initial config origins serverHandlers now wallClock) es' := by
  have abreast := Hub.abreast_initial (τ := τ) c config origins serverHandlers now wallClock
  obtain ⟨es', h', run', besides', hgone⟩ :=
    besides.exists_without run abreast (Nat.le_refl _) rfl
  exact ⟨es', h', run', besides', hgone, fun d hd => besides.agree hd abreast run run' besides'⟩

end Laws

/-- The connection `d` is opened, and then two frames are sent to all. -/
def twoBroadcasts : List (Concern ScriptedLink) :=
  [.opened 0 0 "d" (.ok { script := .slow 0 }) {}, .writer "d", .reader "d",
    .outside 0 (.ask (.toAll ⟨.binary, [1]⟩)), .call 0 [],
    .outside 0 (.ask (.toAll ⟨.binary, [2]⟩)), .call 1 [], .writer "d", .writer "d"]

/-- The outbox of `c` is full after one frame, and its writer never gets a turn. The second frame
waits for room until `c` is removed. -/
def stalledThenRemoved : List (Event ScriptedLink) :=
  [.upgrade "c" (.ok { script := .stalled 0 }) { capacity := some 1 },
    .upgrade "d" (.ok { script := .slow 0 }) {}, .turn (.writer "d") Hub.teardownFirst,
    .turn (.reader "d") Hub.teardownFirst, .ask (.toAll ⟨.binary, [1]⟩),
    .turn (.call 0) Hub.teardownFirst, .ask (.toAll ⟨.binary, [2]⟩),
    .turn (.call 1) Hub.teardownFirst, .turn (.writer "d") Hub.teardownFirst,
    .turn (.writer "d") Hub.teardownFirst, .pass 5 0, .remove "c",
    .turn (.call 1) Hub.teardownFirst]

/-- The link of `c` takes three milliseconds for each frame, and the clock stops when it is done. -/
def slowlyTaken : List (Event ScriptedLink) :=
  [.upgrade "d" (.ok { script := .slow 0 }) {}, .upgrade "c" (.ok { script := .slow 3 }) {},
    .turn (.writer "c") Hub.teardownFirst, .turn (.writer "d") Hub.teardownFirst,
    .turn (.reader "d") Hub.teardownFirst, .ask (.toAll ⟨.binary, [1]⟩),
    .turn (.call 0) Hub.teardownFirst, .turn (.writer "c") Hub.teardownFirst,
    .ask (.toAll ⟨.binary, [2]⟩), .turn (.call 1) Hub.teardownFirst,
    .turn (.writer "d") Hub.teardownFirst, .turn (.writer "d") Hub.teardownFirst, .pass 3 0,
    .turn (.writer "c") Hub.teardownFirst]

theorem besides_stalledThenRemoved :
    Besides "c" [] (Hub.initial {} .listed [] 0 0) stalledThenRemoved twoBroadcasts := by
  have hfinished : ∀ {h : Hub ScriptedLink} {n : Nat},
      h.calls[n]? = some (.finished (.targeted 2)) → h.CallRests "c" n :=
    fun hx => Hub.callRests_of_finished hx "c"
  have hwaiting : ∀ {h : Hub ScriptedLink},
      h.calls[1]? = some (.waiting ⟨.binary, [2]⟩ [("c", 0)] (.targeted 2)) → h.CallRests "c" 1 :=
    fun hx => Hub.callRests_of_waiting hx (by simp)
  have hwaits : ∀ t < 5, ∀ x ∈ ((stalledThenRemoved.take 10).foldl Hub.step
      (Hub.initial {} .listed [] 0 0)).connections, x.id ≠ "c" → x.Waits t := by decide +kernel
  refine .own (.self _) (.upgrade _ _) ?_
  refine .concern (.self _) (.opened (by decide) (by decide +kernel) (by decide +kernel) _ _) ?_
  refine .concern (.self _) (.writer_of_again (by decide) (by decide +kernel) _) ?_
  refine .concern (.self _) (.reader_of_again (by decide) (by decide +kernel) _) ?_
  refine .concern (.self _) (.outside (by decide +kernel) (.ask id)) ?_
  refine .concern (.self _) (.call_of_requested (r := .toAll ⟨.binary, [1]⟩)
    (by decide +kernel) (by decide +kernel) _) ?_
  refine .concern (.self _) (.outside (by decide +kernel) (.ask id)) ?_
  refine .concern (.self _) (.call_of_requested (r := .toAll ⟨.binary, [2]⟩)
    (by decide +kernel) (by decide +kernel) _) ?_
  refine .concern (.self _) (.writer_of_again (by decide) (by decide +kernel) _) ?_
  refine .concern (.self _) (.writer_of_again (by decide) (by decide +kernel) _) ?_
  -- while time passes `d` waits, and the second send waits for `c` only
  refine .own (.self _) (.pass 0 fun t _ ht => Hub.restsBesides_of_waits (hwaits t ht) ?_) ?_
  · intro n hn
    have hcases : n = 0 ∨ n = 1 := (by decide +kernel : ∀ n ∈ _, n = 0 ∨ n = 1) n hn
    rcases hcases with rfl | rfl
    · exact hfinished (by decide +kernel)
    · exact hwaiting (by decide +kernel)
  refine .own (.self _) .remove ?_
  exact .own (.self _) (.call _ (.inr (hwaiting (by decide +kernel)))) (.nil _ _)

theorem besides_slowlyTaken :
    Besides "c" [] (Hub.initial {} .listed [] 0 0) slowlyTaken twoBroadcasts := by
  have hfinished : ∀ {h : Hub ScriptedLink} {n : Nat},
      h.calls[n]? = some (.finished (.targeted 2)) → h.CallRests "c" n :=
    fun hx => Hub.callRests_of_finished hx "c"
  have hwaits : ∀ t < 3, ∀ x ∈ ((slowlyTaken.take 12).foldl Hub.step
      (Hub.initial {} .listed [] 0 0)).connections, x.id ≠ "c" → x.Waits t := by decide +kernel
  refine .concern (.self _) (.opened (by decide) (by decide +kernel) (by decide +kernel) _ _) ?_
  refine .own (.self _) (.upgrade _ _) ?_
  refine .own (.self _) (.writer _ (.inl rfl)) ?_
  refine .concern (.self _) (.writer_of_again (by decide) (by decide +kernel) _) ?_
  refine .concern (.self _) (.reader_of_again (by decide) (by decide +kernel) _) ?_
  refine .concern (.self _) (.outside (by decide +kernel) (.ask id)) ?_
  refine .concern (.self _) (.call_of_requested (r := .toAll ⟨.binary, [1]⟩)
    (by decide +kernel) (by decide +kernel) _) ?_
  refine .own (.self _) (.writer _ (.inl rfl)) ?_
  refine .concern (.self _) (.outside (by decide +kernel) (.ask id)) ?_
  refine .concern (.self _) (.call_of_requested (r := .toAll ⟨.binary, [2]⟩)
    (by decide +kernel) (by decide +kernel) _) ?_
  refine .concern (.self _) (.writer_of_again (by decide) (by decide +kernel) _) ?_
  refine .concern (.self _) (.writer_of_again (by decide) (by decide +kernel) _) ?_
  -- while time passes `d` waits, and both sends are over
  refine .own (.self _) (.pass 0 fun t _ ht => Hub.restsBesides_of_waits (hwaits t ht) ?_) ?_
  · intro n hn
    have hcases : n = 0 ∨ n = 1 := (by decide +kernel : ∀ n ∈ _, n = 0 ∨ n = 1) n hn
    rcases hcases with rfl | rfl
    · exact hfinished (by decide +kernel)
    · exact hfinished (by decide +kernel)
  exact .own (.self _) (.writer _ (.inl rfl)) (.nil _ _)

theorem isolated_of_stalledThenRemoved :
    ∃ h h', Run (Hub.initial {} .listed [] 0 0) stalledThenRemoved h ∧
      Run (Hub.initial {} .listed [] 0 0) slowlyTaken h' ∧
      Besides "c" [] (Hub.initial {} .listed [] 0 0) stalledThenRemoved twoBroadcasts ∧
      Besides "c" [] (Hub.initial {} .listed [] 0 0) slowlyTaken twoBroadcasts ∧
      h.isAlive "c" = false ∧ h'.isAlive "c" = true ∧
      (h'.find? "d").map Connection.seen = (h.find? "d").map Connection.seen ∧
      about "d" (chronicle (Hub.initial {} .listed [] 0 0) slowlyTaken) =
        about "d" (chronicle (Hub.initial {} .listed [] 0 0) stalledThenRemoved) ∧
      dispatches "d" (Hub.initial {} .listed [] 0 0) slowlyTaken =
        dispatches "d" (Hub.initial {} .listed [] 0 0) stalledThenRemoved := by
  have run : Run (Hub.initial {} .listed [] 0 0) stalledThenRemoved _ :=
    .of_allowed (by decide +kernel)
  have run' : Run (Hub.initial {} .listed [] 0 0) slowlyTaken _ := .of_allowed (by decide +kernel)
  have same := isolated (d := "d") (by decide) run run' besides_stalledThenRemoved
    besides_slowlyTaken
  exact ⟨_, _, run, run', besides_stalledThenRemoved, besides_slowlyTaken, by decide +kernel,
    by decide +kernel, same⟩

end Switchboard
