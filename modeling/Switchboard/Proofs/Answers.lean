import Mathlib
import Switchboard.Proofs.Accounting
import Switchboard.Proofs.Calls
import Switchboard.Proofs.JsonObject
import Switchboard.Proofs.ReadBack

/-!
# Answers agree with the hub, and errors change nothing

What is registered is what the interface tells of: connections are found, removed and listed as the
registry has them. A request to send is answered only when its call has reported, and by then the
hub may have changed; what the answer says is what the registry held at the first turn of the call.

## The moves of a request

Between a request and its answer other things happen. The moves of the request itself are the
decision about it, the turns of its call, and the answer (`Http.Api.Answered`). A request that is
answered with an error leaves everything as it is in each of them (`Untouched`), but that one frame
is counted as dropped if it was to be sent to a connection that is not registered.

## Shape of the proof

What becomes of a call is `Hub.Advance`. What a body tells is said of the value that is read from it
(`Lists`, `Targets`), and follows from `Json.ReadsBack`. The rest is about single decisions: one
lemma for each says what its status is, and one (`Harmless`) that an error leaves the hub untouched.
-/

namespace Switchboard

namespace Hub

variable {τ : Type} {h h' h'' : Hub τ}

/-! ## Registered connections -/

/-- The registered connections whose members have a property, in the order of their
opening. -/
def registered (h : Hub τ) (p : Member → Bool) : List (Connection τ) :=
  h.connections.filter fun c => (h.registry.lookup c.id).isSome && p c.member

theorem isSome_lookup (sound : h.ledger.lives.Sound) (id : String) :
    (h.registry.lookup id).isSome = h.isAlive id := by
  rw [Bool.eq_iff_iff, isAlive_iff, Option.isSome_iff_exists]
  constructor
  · rintro ⟨m, hm⟩
    obtain ⟨c, hc, halive, -⟩ := (lookup_eq_some_iff sound).mp hm
    exact ⟨c, hc, halive⟩
  · rintro ⟨c, hc, halive⟩
    exact ⟨c.member, (lookup_eq_some_iff sound).mpr ⟨c, hc, halive, rfl⟩⟩

theorem members_registered (sound : h.ledger.lives.Sound) (p : Member → Bool) :
    (h.registered p).map Connection.member =
      h.ledger.members.filter fun m => h.isAlive m.id && p m := by
  have hmembers : h.ledger.members = h.connections.map Connection.member := by
    rw [Ledger.members, ledger, List.map_map]
    rfl
  rw [hmembers, List.filter_map, registered]
  refine congrArg (List.map Connection.member) (List.filter_congr fun c _ => ?_)
  rw [isSome_lookup sound]
  rfl

theorem lookupUser_eq_registered (sound : h.ledger.lives.Sound) (user : String) :
    h.registry.lookupUser user = Registry.listed
      ((h.registered fun m => m.user = some user).map Connection.member) := by
  rw [lookupUser_eq sound, members_registered sound]

theorem all_eq_registered (sound : h.ledger.lives.Sound) :
    h.registry.all = (h.registered fun _ => true).map Connection.member := by
  have hliving := sound.registered.byId_eq
  rw [living_eq sound] at hliving
  rw [members_registered sound]
  simp only [Bool.and_true]
  exact hliving

/-- Registered members are those of the registered connections. -/
theorem filterMap_find?_registered (sound : h.ledger.lives.Sound) (p : Member → Bool) :
    (((h.registered p).map Connection.member).filterMap fun m => h.find? m.id) =
      h.registered p := by
  rw [List.filterMap_map]
  have hsame : ∀ c ∈ h.registered p,
      ((fun m => h.find? m.id) ∘ Connection.member) c = some c :=
    fun c hc => find?_of_mem sound (List.mem_of_mem_filter hc)
  rw [List.filterMap_congr hsame, List.filterMap_some]

/-! ## Removals -/

/-- A removal that does not tear anything down only leaves a mark of itself. -/
theorem remove_of_lost {id : String} (hlost : (h.remove id).1 = false) :
    (h.remove id).2 = h.record (.removal id false) := by
  rw [remove] at hlost ⊢
  cases hm : h.registry.lookup id with
  | none => rfl
  | some m =>
    rw [hm] at hlost
    rcases teardown_cases h m.id .removed with ⟨c, lifetime, -, -, hwon, -⟩ | hnothing
    · exact absurd (hlost.symm.trans hwon) Bool.false_ne_true
    · simp only [hnothing]

/-! ## Untouched -/

/-- From one hub to another, no connection, index or counter is changed, but that a number of frames
are counted as dropped. -/
structure Untouched (dropped : Nat) (h h' : Hub τ) : Prop where
  connections_eq : h'.connections = h.connections
  registry_eq : h'.registry = h.registry
  metrics_eq : h'.metrics = { h.metrics with dropped := h.metrics.dropped + dropped }

theorem Untouched.refl (h : Hub τ) : Untouched 0 h h := ⟨rfl, rfl, rfl⟩

theorem untouched_startCall (h : Hub τ) (order : SendOrder) :
    Untouched 0 h (h.startCall order).2 := by
  obtain ⟨ready, heq, -⟩ := rouses_wake (h.addCall order).2 (.call h.calls.length)
  change Untouched 0 h ((h.addCall order).2.wake (.call h.calls.length))
  rw [heq]
  exact ⟨rfl, rfl, rfl⟩

/-- Moves one after another leave everything untouched, but that a number of frames are counted as
dropped in all. -/
def Quiet : Nat → List (Hub τ × Hub τ) → Prop
  | n, [] => n = 0
  | n, (h, h') :: moves => ∃ first rest, n = first + rest ∧ Untouched first h h' ∧ Quiet rest moves

theorem Quiet.append {m n : Nat} {first second : List (Hub τ × Hub τ)} (hfirst : Quiet m first)
    (hsecond : Quiet n second) : Quiet (m + n) (first ++ second) := by
  induction first generalizing m with
  | nil =>
    obtain rfl : m = 0 := hfirst
    rwa [Nat.zero_add]
  | cons move moves ih =>
    obtain ⟨k, rest, rfl, hmove, hrest⟩ := hfirst
    exact ⟨k, rest + n, Nat.add_assoc k rest n, hmove, ih hrest⟩

theorem Untouched.quiet {n : Nat} (untouched : Untouched n h h') : Quiet n [(h, h')] :=
  ⟨n, 0, rfl, untouched, rfl⟩

end Hub

/-! ## The turns of a call -/

section Turns

variable {τ : Type} [Transport τ] {h h' : Hub τ} {number : Nat}

/-- The call that gets a turn in an event. -/
def Event.callTurn? : Event τ → Option Nat
  | .turn (.call number) _ => some number
  | _ => none

omit [Transport τ] in
theorem Event.callTurn?_eq_some_iff {e : Event τ} :
    e.callTurn? = some number ↔ ∃ roomFirst, e = .turn (.call number) roomFirst := by
  constructor
  · intro he
    cases e with
    | turn t roomFirst =>
      cases t with
      | call n =>
        obtain rfl : n = number := Option.some.inj he
        exact ⟨roomFirst, rfl⟩
      | writer | reader => cases he
    | _ => cases he
  · rintro ⟨roomFirst, rfl⟩
    rfl

/-- The turns of a call in a run: the hub before and after each. -/
def callTurns (number : Nat) : Hub τ → List (Event τ) → List (Hub τ × Hub τ)
  | _, [] => []
  | h, e :: es => (if e.callTurn? = some number then [(h, h.step e)] else []) ++
      callTurns number (h.step e) es

theorem callTurns_append (number : Nat) (h : Hub τ) (es es' : List (Event τ)) :
    callTurns number h (es ++ es') =
      callTurns number h es ++ callTurns number (es.foldl Hub.step h) es' := by
  induction es generalizing h with
  | nil => rfl
  | cons e rest ih => simp [callTurns, ih]

theorem callTurns_eq_nil {es : List (Event τ)} (hnone : ∀ rf, .turn (.call number) rf ∉ es)
    (h : Hub τ) : callTurns number h es = [] := by
  induction es generalizing h with
  | nil => rfl
  | cons e rest ih =>
    have hother : e.callTurn? ≠ some number := by
      intro he
      obtain ⟨roomFirst, rfl⟩ := Event.callTurn?_eq_some_iff.mp he
      exact hnone roomFirst List.mem_cons_self
    rw [callTurns, if_neg hother, List.nil_append]
    exact ih (fun rf hmem => hnone rf (List.mem_cons_of_mem _ hmem)) _

/-- The turns of a call that is over do nothing. -/
theorem quiet_callTurns_of_over {c : Call} (hc : h.calls[number]? = some c)
    (hover : c.frame? = none) (es : List (Event τ)) : Hub.Quiet 0 (callTurns number h es) := by
  induction es generalizing h with
  | nil => rfl
  | cons e rest ih =>
    have hrest := ih (Hub.step_of_over hc hover e)
    rw [callTurns]
    split
    · rename_i he
      obtain ⟨roomFirst, rfl⟩ := Event.callTurn?_eq_some_iff.mp he
      have hsame : h.step (.turn (.call number) roomFirst) =
          { h with ready := h.ready.erase (.call number) } :=
        Hub.callTurn_of_over (h := { h with ready := h.ready.erase (.call number) }) hc hover
          roomFirst
      refine Hub.Quiet.append (m := 0) ?_ hrest
      rw [hsame]
      exact Hub.Untouched.quiet ⟨rfl, rfl, rfl⟩
    · exact hrest

/-- A call for a connection that is not registered is over with its first turn, and drops its frame.
-/
theorem first_turn_of_unregistered {id : String} {f : Frame}
    (hc : h.calls[number]? = some (.requested (.toConnection id f)))
    (hgone : h.registry.lookup id = none) (roomFirst : Nat → Bool) :
    (h.step (.turn (.call number) roomFirst)).calls[number]? = some (.finished (.found false)) ∧
      Hub.Untouched 1 h (h.step (.turn (.call number) roomFirst)) := by
  have hlt : number < h.calls.length := (List.getElem?_eq_some_iff.mp hc).1
  have hturn : h.step (.turn (.call number) roomFirst) =
      ({ h with ready := h.ready.erase (.call number) } : Hub τ).dropFrame.setCall number
        (.finished (.found false)) := by
    change ({ h with ready := h.ready.erase (.call number) } : Hub τ).callTurn roomFirst number = _
    rw [Hub.callTurn]
    simp only [hc, Hub.beginCall, hgone]
  rw [hturn]
  exact ⟨List.getElem?_set_self hlt, rfl, rfl, rfl⟩

/-- A property of the hub at the first turn of a call. -/
def AtFirstTurn (number : Nat) (h : Hub τ) (es : List (Event τ)) (P : Hub τ → Prop) : Prop :=
  ∃ before roomFirst since, es = before ++ .turn (.call number) roomFirst :: since ∧
    (∀ rf, .turn (.call number) rf ∉ before) ∧ P (before.foldl Hub.step h)

end Turns

namespace Http.Api

variable {τ : Type} {h h' : Hub τ} {s : Server} {r : Request}

/-! ## Where requests arrive -/

/-- A request arrives at a route: it has one of its methods, and does not announce too long a body.
-/
structure Arrives (r : Request) (route : Route) : Prop where
  method : route.methods.contains r.method = true
  target : Route.ofTarget? (Target.parse r.target) = some route
  short : announcesTooMuch r = false

theorem Arrives.method_ne_options {route : Route} (arrives : Arrives r route) :
    r.method ≠ "OPTIONS" := by
  intro he
  have hmethod := arrives.method
  rw [he] at hmethod
  cases route <;> simp [Route.methods] at hmethod

theorem Arrives.method_ne_head {route : Route} (arrives : Arrives r route)
    (hhead : route.methods.contains "HEAD" = false) : r.method ≠ "HEAD" := by
  intro he
  have hmethod := arrives.method
  rw [he, hhead] at hmethod
  cases hmethod

theorem handle_of_arrives {route : Route} (arrives : Arrives r route) (s : Server) (h : Hub τ) :
    handle s h r = ((atRoute s h (.parse r.target) r route).1.mapResponse (finish r),
      (atRoute s h (.parse r.target) r route).2) := by
  rw [handle]
  dsimp only
  rw [if_neg arrives.method_ne_options, if_neg (by simp [arrives.short]), arrives.target,
    Option.any_some]
  simp only [arrives.method, if_true]

/-! ## What bodies tell -/

/-- The value tells of a connection. -/
structure Describes (v : Json) (c : Connection τ) : Prop where
  id : v.get? "id" = some (.string c.id)
  user : v.get? "user_id" = some (c.member.user.elim .null .string)
  tag : v.get? "app_tag" = some (c.member.tag.elim .null .string)
  createdAt : v.get? "created_at" = some (.string (Timestamp.text c.createdAt))
  alive : v.get? "alive" = some (.bool c.alive)

/-- The response lists connections of a user. Who reads its body finds the user, and each of the
connections in their order. -/
structure Lists (response : Response) (user : String) (connections : List (Connection τ)) :
    Prop where
  headers_eq : response.headers = ("content-type", "application/json") :: originHeaders
  body : ∃ v items, Json.parse response.body = .ok v ∧ v.get? "user_id" = some (.string user) ∧
    v.get? "connections" = some (.array items) ∧ List.Forall₂ Describes items connections

/-- The response tells how many connections a send was for. Who reads its body finds the number,
which is one of 64 bits. -/
structure Targets (response : Response) (n : Nat) : Prop where
  status_eq : response.status = 200
  headers_eq : response.headers = ("content-type", "application/json") :: originHeaders
  text : response.body = Utf8.encode ("\x7b\"targeted\":" ++ toString n ++ "\x7d")
  body : n < Nat.pow 2 64 → ∃ v, Json.parse response.body = .ok v ∧
    v.get? "targeted" = some (.integer n)

/-- The answer that lists connections of a user. -/
def listing (user : String) (connections : List (Connection τ)) : Response :=
  .json 200 (.object
    [("user_id", .string user), ("connections", .array (connections.map infoJson))])

/-- The answer that tells how many a send was for. -/
def targetedAnswer (n : Nat) : Response := .json 200 (.object [("targeted", countJson n)])

section Bodies

open Json

theorem readsBack_optionJson (s : Option String) :
    ReadsBack 0 (optionJson s) (s.elim .null .string) := by
  cases s with
  | none => exact readsBack_null
  | some s => exact readsBack_string s

/-- What is read of what is told about a connection. -/
theorem exists_describes (c : Connection τ) : ∃ v, ReadsBack 1 (infoJson c) v ∧ Describes v c := by
  refine ⟨_, readsBack_object_of_same ?_, ?_⟩
  · simp only [List.forall_mem_cons]
    exact ⟨readsBack_string _, readsBack_optionJson _, readsBack_optionJson _, readsBack_string _,
      readsBack_bool _, fun _ hm => by cases hm⟩
  · constructor <;> rw [get?_ofMembers] <;> rfl

theorem exists_forall₂_describes (connections : List (Connection τ)) : ∃ items,
    List.Forall₂ (ReadsBack 1) (connections.map infoJson) items ∧
      List.Forall₂ Describes items connections := by
  induction connections with
  | nil => exact ⟨[], .nil, .nil⟩
  | cons c rest ih =>
    obtain ⟨v, hv, describes⟩ := exists_describes c
    obtain ⟨items, hitems, hrest⟩ := ih
    exact ⟨v :: items, .cons hv hitems, .cons describes hrest⟩

section NotHead

variable (hhead : r.method ≠ "HEAD")

include hhead

theorem finish_json (status : Nat) (v : Json) : finish r (.json status v) =
    ⟨status, ("content-type", "application/json") :: originHeaders, Utf8.encode v.print⟩ :=
  if_neg hhead

theorem parse_finish_json {levels : Nat} {v w : Json} (readsBack : ReadsBack levels v w)
    (hlevels : levels < Reader.depthLimit) (status : Nat) :
    parse (finish r (.json status v)).body = .ok w := by
  rw [finish_json hhead, encode_print]
  exact readsBack.parse_eq hlevels

theorem lists_listing (user : String) (connections : List (Connection τ)) :
    Lists (finish r (listing user connections)) user connections := by
  obtain ⟨items, hitems, describes⟩ := exists_forall₂_describes connections
  have hbody : ReadsBack 3
      (.object [("user_id", .string user), ("connections", .array (connections.map infoJson))])
      (.ofMembers [("user_id", .string user), ("connections", .array items)]) :=
    readsBack_object (.cons ⟨rfl, (readsBack_string user).mono (Nat.zero_le 2)⟩
      (.cons ⟨rfl, readsBack_array hitems⟩ .nil))
  refine ⟨?_, _, items, parse_finish_json hhead hbody (by decide) 200, ?_, ?_, describes⟩
  · rw [listing, finish_json hhead]
  · exact get?_ofMembers "user_id" _
  · exact get?_ofMembers "connections" _

theorem targets_targetedAnswer (n : Nat) : Targets (finish r (targetedAnswer n)) n := by
  have hprint : (Json.object [("targeted", countJson n)]).print =
      "\x7b\"targeted\":" ++ toString n ++ "\x7d" := by
    refine String.toList_inj.mp ?_
    rw [print, String.toList_ofList, String.toList_append, String.toList_append]
    rfl
  refine ⟨status_finish r _, ?_, ?_, fun hn => ⟨_, parse_finish_json hhead
    (readsBack_object (.cons ⟨rfl, readsBack_natural hn⟩ .nil)) (by decide) 200,
    get?_ofMembers "targeted" _⟩⟩
  · rw [targetedAnswer, finish_json hhead]
  · rw [targetedAnswer, finish_json hhead, hprint]

end NotHead

end Bodies

/-! ## What single decisions come to -/

theorem status_getConnection (sound : h.ledger.lives.Sound) (s : Server) (id : String) :
    (getConnection s h id).1.status = if (h.registry.lookup id).isSome then 200 else 404 := by
  rw [getConnection]
  cases hm : h.registry.lookup id with
  | none => rfl
  | some m =>
    obtain ⟨c, hc, -, rfl⟩ := (Hub.lookup_eq_some_iff sound).mp hm
    have hid : c.member.id = id := Hub.id_of_find? hc
    simp only [Option.bind_some, hid, hc]
    rfl

theorem status_deleteConnection (s : Server) (h : Hub τ) (id : String) :
    (deleteConnection s h id).1.status = (if (h.remove id).1 then 204 else 404) ∧
      (deleteConnection s h id).2.history = (h.remove id).2.history := by
  rw [deleteConnection]
  generalize h.remove id = removed
  obtain ⟨won, h'⟩ := removed
  cases won with
  | true => exact ⟨rfl, rfl⟩
  | false => exact ⟨rfl, rfl⟩

theorem getUser_eq (sound : h.ledger.lives.Sound) (s : Server) (user : String) :
    (h.registered fun m => m.user = some user) ≠ [] ∧
      getUser s h user = (listing user (h.registered fun m => m.user = some user), h) ∨
    (h.registered fun m => m.user = some user) = [] ∧ (getUser s h user).1.status = 404 := by
  rw [getUser, Hub.lookupUser_eq_registered sound]
  by_cases hnone : (h.registered fun m => m.user = some user) = []
  · rw [hnone]
    exact .inr ⟨rfl, rfl⟩
  · rw [Registry.listed_of_ne_nil (by simpa using hnone)]
    dsimp only
    rw [Hub.filterMap_find?_registered sound]
    exact .inl ⟨hnone, rfl⟩

/-! ## Errors are harmless -/

/-- A decision about a request that answers with an error leaves the hub untouched. -/
def Harmless (h : Hub τ) (decided : Outcome × Hub τ) : Prop :=
  ∀ status, decided.1.status? = some status → 400 ≤ status → Hub.Untouched 0 h decided.2

theorem harmless_of_untouched {outcome : Outcome} (untouched : Hub.Untouched 0 h h') :
    Harmless h (outcome, h') := fun _ _ _ => untouched

theorem harmless_answer {response : Response} (status : Nat) (hstatus : response.status = status)
    (hlow : status < 400) : Harmless h (.answer response, h') := by
  intro status' hstatus' hhigh
  obtain rfl : response.status = status' := Option.some.inj hstatus'
  omega

theorem harmless_deleteConnection (s : Server) (h : Hub τ) (id : String) :
    Harmless h (.answer (deleteConnection s h id).1, (deleteConnection s h id).2) := by
  rw [deleteConnection]
  cases hwon : (h.remove id).1 with
  | true =>
    dsimp only
    rw [if_pos hwon]
    exact harmless_answer 204 rfl (by decide)
  | false =>
    have hsame := Hub.remove_of_lost hwon
    dsimp only
    rw [if_neg (by simp [hwon]), hsame]
    exact harmless_of_untouched ⟨rfl, rfl, rfl⟩

theorem harmless_getConnection (s : Server) (h : Hub τ) (id : String) :
    Harmless h (.answer (getConnection s h id).1, (getConnection s h id).2) := by
  rw [getConnection]
  split <;> exact harmless_of_untouched ⟨rfl, rfl, rfl⟩

theorem harmless_getUser (s : Server) (h : Hub τ) (user : String) :
    Harmless h (.answer (getUser s h user).1, (getUser s h user).2) := by
  rw [getUser]
  split <;> exact harmless_of_untouched ⟨rfl, rfl, rfl⟩

theorem harmless_socket (h : Hub τ) (t : Target) (r : Request) : Harmless h (socket h t r) := by
  rw [socket]
  split
  · exact harmless_of_untouched (.refl h)
  · dsimp only
    split
    · exact harmless_of_untouched ⟨rfl, rfl, rfl⟩
    · split <;> exact harmless_of_untouched ⟨rfl, rfl, rfl⟩

theorem harmless_withPart {part : List Char} {next : String → Outcome × Hub τ}
    (hnext : ∀ text, Harmless h (next text)) : Harmless h (withPart h part next) := by
  rw [withPart]
  split
  · exact hnext _
  · exact harmless_of_untouched (.refl h)

theorem harmless_sendOutcome (h : Hub τ) (r : Request) (order : Frame → SendOrder)
    (missing : String) : Harmless h (sendOutcome h r order missing) := by
  rw [sendOutcome]
  split <;> exact harmless_of_untouched (.refl h)

theorem harmless_atRoute (s : Server) (h : Hub τ) (t : Target) (r : Request) (route : Route) :
    Harmless h (atRoute s h t r route) := by
  cases route with
  | socket => exact harmless_socket h t r
  | health => exact harmless_of_untouched (.refl h)
  | stats => exact harmless_of_untouched (.refl h)
  | metrics => exact harmless_answer 200 rfl (by decide)
  | connection part =>
    refine harmless_withPart fun id => ?_
    split
    · exact harmless_deleteConnection s h id
    · exact harmless_getConnection s h id
  | connectionMessages part => exact harmless_withPart fun id => harmless_sendOutcome h r _ id
  | userConnections part => exact harmless_withPart fun user => harmless_getUser s h user
  | userMessages part => exact harmless_withPart fun user => harmless_sendOutcome h r _ user
  | broadcast => exact harmless_sendOutcome h r _ ""

theorem harmless_handle (s : Server) (h : Hub τ) (r : Request) : Harmless h (handle s h r) := by
  rw [handle]
  dsimp only
  split
  · exact harmless_of_untouched (.refl h)
  · split
    · exact harmless_of_untouched (.refl h)
    · split
      · exact harmless_of_untouched (.refl h)
      · split
        · intro status hstatus
          rw [status?_mapResponse (status_finish r)] at hstatus
          exact harmless_atRoute s h _ r _ status hstatus
        · exact harmless_of_untouched (.refl h)

/-- A request to send does nothing but ask for it. -/
theorem handle_of_send {order : SendOrder} {missing : String}
    (hsend : (handle s h r).1 = .send order missing) : handle s h r = (.send order missing, h) := by
  obtain ⟨e, he⟩ := exists_serves_handle τ r
  have hserves := he s h
  generalize handle s h r = handled at hserves hsend ⊢
  obtain ⟨outcome, h'⟩ := handled
  obtain rfl : outcome = .send order missing := hsend
  cases e with
  | look => cases hserves.1
  | remove id => cases hserves.1
  | send order' => rw [hserves.2]

/-! ## Answers -/

theorem status_afterSend_found (s : Server) (h : Hub τ) (r : Request) (missing : String)
    (found : Bool) :
    (afterSend s h r missing (some (.found found))).1.status = if found then 200 else 404 := by
  cases found <;> exact status_finish r _

/-- Only a send to nobody known is answered with an error. -/
theorem found_false_of_error {missing : String} {reply : Option Reply}
    (herror : 400 ≤ (afterSend s h r missing reply).1.status) : reply = some (.found false) := by
  have hlow : ∀ n, ¬ 400 ≤ (finish r (targetedAnswer n)).status := fun n => by
    rw [status_finish]
    exact (by decide : ¬ 400 ≤ 200)
  rcases reply with - | reply
  · exact absurd herror (hlow 1)
  · cases reply with
    | sent => exact absurd herror (hlow 1)
    | targeted n => exact absurd herror (hlow n)
    | found registered =>
      rw [status_afterSend_found] at herror
      cases registered with
      | true => exact absurd herror (by decide)
      | false => rfl

theorem untouched_afterSend (s : Server) (h : Hub τ) (r : Request) (missing : String)
    (reply : Option Reply) : Hub.Untouched 0 h (afterSend s h r missing reply).2 := by
  rcases reply with - | reply
  · exact ⟨rfl, rfl, rfl⟩
  · cases reply with
    | sent => exact ⟨rfl, rfl, rfl⟩
    | targeted n => exact ⟨rfl, rfl, rfl⟩
    | found registered => cases registered <;> exact ⟨rfl, rfl, rfl⟩

/-- A call that was found to be for nobody known is for a connection that is not registered. -/
theorem unregistered_of_replyTo {order : SendOrder} (hreply : h.replyTo order = .found false) :
    ∃ id f, order = .toConnection id f ∧ h.registry.lookup id = none := by
  cases order with
  | toConnection id f =>
    have hnone : (h.registry.lookup id).isSome = false := Reply.found.inj hreply
    exact ⟨id, f, rfl, by simpa using hnone⟩
  | toHandle id f => cases hreply
  | toUser user f => cases hreply
  | toAll f => cases hreply

variable [Transport τ] {es : List (Event τ)} {moves : List (Hub τ × Hub τ)} {response : Response}

/-- What happens from a request to its answer, the moves of its own among that, and the answer. -/
inductive Answered (s : Server) (r : Request) (h : Hub τ) :
    List (Event τ) → List (Hub τ × Hub τ) → Response → Prop
  | atOnce {response : Response} {h' : Hub τ} (decided : handle s h r = (.answer response, h')) :
      Answered s r h [] [(h, h')] response
  /-- A connection is to be opened after the answer. -/
  | opening {response : Response} {user tag : Option String} {h' : Hub τ}
      (decided : handle s h r = (.connect response user tag, h')) :
      Answered s r h [] [(h, h')] response
  /-- The call that the request asked for has reported. -/
  | reported {order : SendOrder} {missing : String} {es : List (Event τ)} {h' : Hub τ}
      {reply : Reply} (asked : (handle s h r).1 = .send order missing)
      (run : Run (h.step (.request s r)) es h')
      (report : h'.reply? h.calls.length = some reply) :
      Answered s r h es
        ([(h, h.step (.request s r))] ++ (callTurns h.calls.length (h.step (.request s r)) es ++
          [(h', (afterSend s h' r missing (some reply)).2)]))
        (afterSend s h' r missing (some reply)).1

theorem step_request_of_send {order : SendOrder} {missing : String}
    (hsend : (handle s h r).1 = .send order missing) :
    h.step (.request s r) = (h.startCall order).2 := by
  rw [Hub.step, handle_of_send hsend]

omit [Transport τ] in
theorem calls_startCall (h : Hub τ) (order : SendOrder) :
    (h.startCall order).2.calls[h.calls.length]? = some (.requested order) := by
  obtain ⟨ready, heq, -⟩ := Hub.rouses_wake (h.addCall order).2 (.call h.calls.length)
  change ((h.addCall order).2.wake (.call h.calls.length)).calls[h.calls.length]? = _
  rw [heq]
  exact List.getElem?_concat_length

/-- What a request to send is answered was decided at the first turn of its call. -/
theorem Answered.at_first_turn (answered : Answered s r h es moves response)
    (sound : h.ledger.lives.Sound) {order : SendOrder} {missing : String}
    (hsend : (handle s h r).1 = .send order missing) :
    AtFirstTurn h.calls.length (h.step (.request s r)) es fun h₁ =>
      h₁.ledger.lives.Sound ∧
        ∃ h' : Hub τ, response = (afterSend s h' r missing (some (h₁.replyTo order))).1 := by
  cases answered with
  | atOnce decided =>
    rw [decided] at hsend
    cases hsend
  | opening decided =>
    rw [decided] at hsend
    cases hsend
  | @reported order' missing' es h' reply asked run report =>
    rw [asked] at hsend
    cases hsend
    have hasked : (h.step (.request s r)).calls[h.calls.length]? = some (.requested order) := by
      rw [step_request_of_send asked]
      exact calls_startCall h order
    obtain ⟨before, roomFirst, since, h₁, rfl, first, -, hnone, rfl, -⟩ :=
      run.split_at_first_turn hasked report
    have hrun : Run h (.request s r :: before) h₁ := .cons trivial first
    refine ⟨before, roomFirst, since, rfl, hnone, ?_⟩
    rw [← first.eq_foldl]
    exact ⟨hrun.sound_of_sound sound, h', rfl⟩

/-- The moves of a request that is answered with an error leave everything untouched, but that the
frame for a connection that was not registered is dropped. -/
theorem Answered.quiet (answered : Answered s r h es moves response)
    (herror : 400 ≤ response.status) :
    (handle s h r).1.order? = none ∧ Hub.Quiet 0 moves ∨
    ∃ id f, (handle s h r).1.order? = some (.toConnection id f) ∧
      AtFirstTurn h.calls.length (h.step (.request s r)) es
        (fun h₁ => h₁.registry.lookup id = none) ∧ Hub.Quiet 1 moves := by
  have hharmless := harmless_handle s h r
  cases answered with
  | atOnce decided =>
    rw [decided] at hharmless ⊢
    exact .inl ⟨rfl, (hharmless _ rfl herror).quiet⟩
  | opening decided =>
    rw [decided] at hharmless ⊢
    exact .inl ⟨rfl, (hharmless _ rfl herror).quiet⟩
  | @reported order missing es h' reply asked run report =>
    obtain rfl : reply = .found false := Option.some.inj (found_false_of_error herror)
    have hasked : (h.step (.request s r)).calls[h.calls.length]? = some (.requested order) := by
      rw [step_request_of_send asked]
      exact calls_startCall h order
    obtain ⟨before, roomFirst, since, h₁, rfl, first, hrequested, hnone, hreply, later⟩ :=
      run.split_at_first_turn hasked report
    obtain ⟨id, f, rfl, hgone⟩ := unregistered_of_replyTo hreply.symm
    have hfoldl := first.eq_foldl
    refine .inr ⟨id, f, by rw [asked]; rfl, ⟨before, roomFirst, since, rfl, hnone, ?_⟩, ?_⟩
    · rw [← hfoldl]
      exact hgone
    -- the request is made, its call gets its first turn and perhaps more, and it is answered
    have hask : Hub.Untouched 0 h (h.step (.request s r)) := by
      rw [step_request_of_send asked]
      exact Hub.untouched_startCall h _
    obtain ⟨hover, hfirst⟩ := first_turn_of_unregistered hrequested hgone roomFirst
    have hturns : callTurns h.calls.length (h.step (.request s r))
        (before ++ .turn (.call h.calls.length) roomFirst :: since) =
          [(h₁, h₁.step (.turn (.call h.calls.length) roomFirst))] ++
            callTurns h.calls.length (h₁.step (.turn (.call h.calls.length) roomFirst)) since := by
      rw [callTurns_append, callTurns_eq_nil hnone, ← hfoldl]
      simp [callTurns, Event.callTurn?]
    rw [hturns]
    refine Hub.Quiet.append (m := 0) (n := 1) hask.quiet ?_
    refine Hub.Quiet.append (m := 1) (n := 0) ?_ (untouched_afterSend s h' r missing _).quiet
    exact Hub.Quiet.append (m := 1) (n := 0) hfirst.quiet
      (quiet_callTurns_of_over hover rfl since)

/-! ## Requests that are waited for -/

/-- Waiting for a call is a sequence of turns and of time that passes. -/
theorem exists_events_awaitFor (fuel : Nat) (h : Hub τ) (number : Nat) :
    ∃ es : List (Event τ), h.awaitFor fuel number = es.foldl Hub.step h := by
  induction fuel generalizing h with
  | zero => exact ⟨[], rfl⟩
  | succ fuel ih =>
    have hturn : ∀ t, ∃ es : List (Event τ),
        (h.run t).awaitFor fuel number = es.foldl Hub.step h := by
      intro t
      obtain ⟨es, heq⟩ := ih (h.run t)
      exact ⟨.turn t Hub.teardownFirst :: es, heq⟩
    rw [Hub.awaitFor]
    split
    · exact ⟨[], rfl⟩
    · split
      · exact hturn _
      · split
        · split
          · rename_i t _
            obtain ⟨es, heq⟩ := ih (h.moveClock t)
            have hpass : h.step (.pass t h.wallClock) = h.moveClock t := by
              obtain ⟨ready, hclock, -⟩ := Hub.rouses_moveClock h t
              rw [Hub.step, hclock]
            exact ⟨.pass t h.wallClock :: es, by rw [heq, List.foldl_cons, hpass]⟩
          · exact ⟨[], rfl⟩
        · exact hturn _

theorem awaitFor_of_reply {reply : Reply} {number : Nat} (hreply : h.reply? number = some reply)
    (fuel : Nat) : h.awaitFor fuel number = h := by
  cases fuel with
  | zero => rfl
  | succ fuel => rw [Hub.awaitFor, if_pos (by rw [hreply]; rfl)]

/-- A call that is waited for reports what its first turn decides. -/
theorem call_eq_found_false {order : SendOrder} (hreply : (h.call order).1 = some (.found false)) :
    ∃ id f, order = .toConnection id f ∧ h.registry.lookup id = none ∧
      Hub.Untouched 1 h (h.call order).2 := by
  have hcalls : (h.addCall order).2.calls[h.calls.length]? = some (.requested order) :=
    List.getElem?_concat_length
  have hturn : (h.addCall order).2.callTurn Hub.teardownFirst h.calls.length =
      (h.addCall order).2.beginCall h.calls.length order := by
    rw [Hub.callTurn, hcalls]
  obtain ⟨c, bound, hsets⟩ := Hub.exists_sets_beginCall hcalls
  have hc :
      ((h.addCall order).2.beginCall h.calls.length order).calls[h.calls.length]? = some c := by
    rw [hsets, List.getElem?_set_self (List.getElem?_eq_some_iff.mp hcalls).1]
  have hdecided : h.replyTo order = .found false := by
    obtain ⟨es, heq⟩ := exists_events_awaitFor Hub.turnBound
      ((h.addCall order).2.beginCall h.calls.length order) h.calls.length
    obtain ⟨c', hc', bound'⟩ := Hub.foldl_step_of_bound hc bound es
    change (Hub.awaitFor Hub.turnBound
      ((h.addCall order).2.callTurn Hub.teardownFirst h.calls.length) h.calls.length).reply?
        h.calls.length = _ at hreply
    rw [hturn, heq, Hub.reply?_eq_some_iff, hc'] at hreply
    obtain rfl := Option.some.inj hreply
    exact bound'.symm
  obtain ⟨id, f, rfl, hgone⟩ := unregistered_of_replyTo hdecided
  refine ⟨id, f, rfl, hgone, ?_⟩
  have hbegun : (h.addCall (.toConnection id f)).2.beginCall h.calls.length (.toConnection id f) =
      (h.addCall (.toConnection id f)).2.dropFrame.setCall h.calls.length
        (.finished (.found false)) := by
    have hlookup : (h.addCall (.toConnection id f)).2.registry.lookup id = none := hgone
    simp only [Hub.beginCall, hlookup]
  change Hub.Untouched 1 h (Hub.awaitFor Hub.turnBound
    ((h.addCall (.toConnection id f)).2.callTurn Hub.teardownFirst h.calls.length) h.calls.length)
  have hreported : ((h.addCall (.toConnection id f)).2.dropFrame.setCall h.calls.length
      (.finished (.found false))).reply? h.calls.length = some (.found false) := by
    rw [Hub.reply?_eq_some_iff]
    exact List.getElem?_set_self (by simp [Hub.addCall, Hub.dropFrame, Hub.count])
  rw [hturn, hbegun, awaitFor_of_reply hreported]
  exact ⟨rfl, rfl, rfl⟩

/-- A request that is waited for and answered with an error leaves everything untouched, but that
the frame for a connection that is not registered is dropped. -/
theorem untouched_serve (herror : 400 ≤ (serve s h r).1.1.status) :
    (handle s h r).1.order? = none ∧ Hub.Untouched 0 h (serve s h r).2 ∨
    ∃ id f, (handle s h r).1.order? = some (.toConnection id f) ∧ h.registry.lookup id = none ∧
      Hub.Untouched 1 h (serve s h r).2 := by
  have hharmless := harmless_handle s h r
  rw [serve] at herror ⊢
  cases houtcome : (handle s h r).1 with
  | answer response =>
    have heq : handle s h r = (.answer response, (handle s h r).2) := by rw [← houtcome]
    rw [heq] at hharmless herror ⊢
    exact .inl ⟨rfl, hharmless _ rfl herror⟩
  | connect response user tag =>
    have heq : handle s h r = (.connect response user tag, (handle s h r).2) := by rw [← houtcome]
    rw [heq] at hharmless herror ⊢
    exact .inl ⟨rfl, hharmless _ rfl herror⟩
  | send order missing =>
    rw [handle_of_send houtcome] at herror ⊢
    dsimp only at herror ⊢
    have hreply := found_false_of_error herror
    obtain ⟨id, f, rfl, hgone, htouched⟩ := call_eq_found_false hreply
    refine .inr ⟨id, f, rfl, hgone, ?_⟩
    have hanswer := untouched_afterSend s (h.call (.toConnection id f)).2 r missing
      (h.call (.toConnection id f)).1
    exact ⟨hanswer.connections_eq.trans htouched.connections_eq,
      hanswer.registry_eq.trans htouched.registry_eq,
      hanswer.metrics_eq.trans (by rw [htouched.metrics_eq])⟩

/-! ## The interface -/

omit [Transport τ] in
/-- A request to send that arrives with a frame asks for the send. -/
theorem handle_of_frame {route : Route} (arrives : Arrives r route) {f : Frame}
    (hbody : readBody r = .ok f) (s : Server) (h : Hub τ) (order : Frame → SendOrder)
    (missing : String)
    (hroute : atRoute s h (.parse r.target) r route = sendOutcome h r order missing) :
    (handle s h r).1 = .send (order f) missing := by
  rw [handle_of_arrives arrives, hroute, sendOutcome, hbody]
  rfl

variable {config : SocketConfig} {origins : OriginPolicy} {handlers : List Handler}
  {now wallClock : Nat}

/-- **The interface agrees with the hub.** A connection is answered with if it is registered. A
removal is answered with status 204 if it tore the connection down, and with 404 if it tore down
nothing. A user with registered connections is answered with all of them, and the body reads back to
them in the order in which they were opened. A frame for a connection is answered with status 200 if
the connection was registered at the first turn of the call, and a frame for a user or for all with
a body that reads back to the number of those registered then, which may be zero. No move of a
request that is answered with an error changes a connection, an index or a counter, but that the
frame for a connection that was not registered is counted as dropped, once. -/
theorem answers_agree (run : Run (Hub.initial config origins handlers now wallClock) es h)
    (s : Server) (r : Request) :
    h.connections.map Connection.member = openings config es ∧
    (∀ part id, Arrives r (.connection part) → Target.decodeSegment? part = some id →
      r.method ≠ "DELETE" →
      (handle s h r).1.status? = some (if (h.registry.lookup id).isSome then 200 else 404)) ∧
    (∀ part id, Arrives r (.connection part) → Target.decodeSegment? part = some id →
      r.method = "DELETE" →
      (handle s h r).1.status? = some 204 ∧
        closures (handle s h r).2.history = (id, .removed) :: closures h.history ∨
      (handle s h r).1.status? = some 404 ∧
        closures (handle s h r).2.history = closures h.history) ∧
    (∀ part user, Arrives r (.userConnections part) → Target.decodeSegment? part = some user →
      (h.registered fun m => m.user = some user) ≠ [] ∧
        (∃ response, handle s h r = (.answer response, h) ∧ response.status = 200 ∧
          (r.method = "HEAD" → response.body = []) ∧ (r.method ≠ "HEAD" →
            Lists response user (h.registered fun m => m.user = some user))) ∨
      (h.registered fun m => m.user = some user) = [] ∧ (handle s h r).1.status? = some 404) ∧
    (∀ es' moves response, Answered s r h es' moves response →
      (∀ part id f, Arrives r (.connectionMessages part) →
        Target.decodeSegment? part = some id → readBody r = .ok f →
        AtFirstTurn h.calls.length (h.step (.request s r)) es' fun h₁ =>
          response.status = if (h₁.registry.lookup id).isSome then 200 else 404) ∧
      (∀ part user f, Arrives r (.userMessages part) →
        Target.decodeSegment? part = some user → readBody r = .ok f →
        AtFirstTurn h.calls.length (h.step (.request s r)) es' fun h₁ =>
          Targets response (h₁.registered fun m => m.user = some user).length) ∧
      (∀ f, Arrives r .broadcast → readBody r = .ok f →
        AtFirstTurn h.calls.length (h.step (.request s r)) es' fun h₁ =>
          Targets response (h₁.registered fun _ => true).length) ∧
      (400 ≤ response.status →
        (handle s h r).1.order? = none ∧ Hub.Quiet 0 moves ∨
        ∃ id f, (handle s h r).1.order? = some (.toConnection id f) ∧
          AtFirstTurn h.calls.length (h.step (.request s r)) es'
            (fun h₁ => h₁.registry.lookup id = none) ∧ Hub.Quiet 1 moves)) ∧
    (400 ≤ (serve s h r).1.1.status →
      (handle s h r).1.order? = none ∧ Hub.Untouched 0 h (serve s h r).2 ∨
      ∃ id f, (handle s h r).1.order? = some (.toConnection id f) ∧ h.registry.lookup id = none ∧
        Hub.Untouched 1 h (serve s h r).2) := by
  have sound := run.sound
  refine ⟨(found_iff_alive run).1, fun part id arrives hpart hmethod => ?_,
    fun part id arrives hpart hmethod => ?_, fun part user arrives hpart => ?_,
    fun es' moves response answered => ⟨fun part id f arrives hpart hbody => ?_,
      fun part user f arrives hpart hbody => ?_, fun f arrives hbody => ?_, answered.quiet⟩,
    untouched_serve⟩
  -- a connection is looked up
  · rw [handle_of_arrives arrives, status?_mapResponse (status_finish r)]
    simp only [atRoute, withPart, hpart, if_neg hmethod]
    exact congrArg some (status_getConnection sound s id)
  -- a connection is removed
  · obtain ⟨hstatus, hhistory⟩ := status_deleteConnection s h id
    have hclosures := Hub.closures_remove h id
    rw [handle_of_arrives arrives, status?_mapResponse (status_finish r)]
    simp only [atRoute, withPart, hpart, if_pos hmethod, Outcome.status?, hstatus, hhistory]
    cases hwon : (h.remove id).1 with
    | true =>
      rw [hwon] at hclosures
      exact .inl ⟨rfl, hclosures⟩
    | false =>
      rw [hwon] at hclosures
      exact .inr ⟨rfl, hclosures⟩
  -- the connections of a user are listed
  · rw [handle_of_arrives arrives]
    simp only [atRoute, withPart, hpart]
    rcases getUser_eq sound s user with ⟨hsome, heq⟩ | ⟨hnone, hstatus⟩
    · rw [heq]
      exact .inl ⟨hsome, _, rfl, status_finish r _, fun hhead => by rw [finish, if_pos hhead],
        fun hhead => lists_listing hhead user _⟩
    · exact .inr ⟨hnone, congrArg some ((status_finish r _).trans hstatus)⟩
  -- a frame is sent: to a connection, to a user, to all
  · have hsend := handle_of_frame arrives hbody s h (.toConnection id) id
      (by simp only [atRoute, withPart, hpart])
    obtain ⟨before, roomFirst, since, hes, hnone, -, h', hresponse⟩ :=
      answered.at_first_turn sound hsend
    refine ⟨before, roomFirst, since, hes, hnone, ?_⟩
    rw [hresponse]
    exact status_afterSend_found s h' r id _
  · have hsend := handle_of_frame arrives hbody s h (.toUser user) user
      (by simp only [atRoute, withPart, hpart])
    obtain ⟨before, roomFirst, since, hes, hnone, sound', h', hresponse⟩ :=
      answered.at_first_turn sound hsend
    refine ⟨before, roomFirst, since, hes, hnone, ?_⟩
    rw [hresponse, Hub.replyTo, Hub.lookupUser_eq_registered sound', Registry.getD_listed,
      List.length_map]
    exact targets_targetedAnswer (arrives.method_ne_head rfl) _
  · have hsend := handle_of_frame arrives hbody s h .toAll ""
      (by simp only [atRoute])
    obtain ⟨before, roomFirst, since, hes, hnone, sound', h', hresponse⟩ :=
      answered.at_first_turn sound hsend
    refine ⟨before, roomFirst, since, hes, hnone, ?_⟩
    rw [hresponse, Hub.replyTo, Hub.all_eq_registered sound', List.length_map]
    exact targets_targetedAnswer (arrives.method_ne_head rfl) _

/-- A request for a connection. -/
def lookedUp : Request := { method := "GET", target := "/api/v1/connections/b" }

/-- A request to send a frame to a connection. -/
def sentToRemoved : Request where
  method := "POST"
  target := "/api/v1/connections/a/messages"
  headers := [("content-type", Utf8.encode "application/json")]
  body := Utf8.encode "\x7b\"payload\":1\x7d"

theorem answers_agree_of_removedTwice :
    ∃ h : Hub MemoryLink, Run (Hub.initial {} .listed [] 0 0) removedTwice h ∧
      (handle {} h lookedUp).1.status? = some 200 ∧
      ∃ moves response, Answered {} sentToRemoved h [.turn (.call 0) Hub.teardownFirst] moves
        response ∧ response.status = 404 ∧ Hub.Quiet 1 moves := by
  have run : Run (Hub.initial {} .listed [] 0 0) removedTwice _ := .of_allowed (by decide +kernel)
  generalize hh : removedTwice.foldl Hub.step (Hub.initial {} .listed [] 0 0) = h at run
  have hlookup : (h.registry.lookup "b").isSome = true ∧ h.registry.lookup "a" = none ∧
      h.calls = [] := by
    rw [← hh]
    decide +kernel
  obtain ⟨hfound, hgone, hcalls⟩ := hlookup
  obtain ⟨-, hget, -, -, -, -⟩ := answers_agree run {} lookedUp
  have hlooked := hget ['b'] "b" ⟨by decide, by cbv, by cbv⟩ (by cbv) (by decide)
  rw [hfound] at hlooked
  -- the frame for the connection that was removed
  have arrives : Arrives sentToRemoved (.connectionMessages ['a']) := ⟨by decide, by cbv, by cbv⟩
  have hpart : Target.decodeSegment? ['a'] = some "a" := by cbv
  have hbody : readBody sentToRemoved = .ok ⟨.text, [49]⟩ := by cbv
  have hsend := handle_of_frame arrives hbody {} h (.toConnection "a") "a"
    (by simp only [atRoute, withPart, hpart])
  have hrequested := calls_startCall h (.toConnection "a" ⟨.text, [49]⟩)
  rw [← step_request_of_send hsend, hcalls] at hrequested
  have hunregistered : (h.step (.request {} sentToRemoved)).registry.lookup "a" = none := by
    rw [step_request_of_send hsend, (Hub.untouched_startCall h _).registry_eq]
    exact hgone
  obtain ⟨hover, -⟩ := first_turn_of_unregistered hrequested hunregistered Hub.teardownFirst
  have hanswered : Answered {} sentToRemoved h [.turn (.call 0) Hub.teardownFirst] _ _ :=
    .reported hsend (.cons trivial (.nil _))
      (Hub.reply?_eq_some_iff.mpr (by rw [hcalls]; exact hover))
  have hstatus : (afterSend {}
      ((h.step (.request {} sentToRemoved)).step (.turn (.call 0) Hub.teardownFirst))
      sentToRemoved "a" (some (.found false))).1.status = 404 :=
    status_afterSend_found _ _ _ _ _
  obtain ⟨-, -, -, -, hanswers, -⟩ := answers_agree run {} sentToRemoved
  obtain ⟨-, -, -, hquiet⟩ := hanswers _ _ _ hanswered
  refine ⟨h, run, hlooked, _, _, hanswered, hstatus, ?_⟩
  rcases hquiet (by rw [hstatus]; decide) with ⟨hnone, -⟩ | ⟨id, f, -, -, hmoves⟩
  · rw [hsend] at hnone
    cases hnone
  · exact hmoves

end Http.Api

end Switchboard
