import Switchboard.Proofs.Lifecycle

/-!
# Every teardown is counted once

Several parties may want a connection gone at the same time: its reader, its writer, whoever removes
it. `closures` and `removals` tell from the history of a hub whose teardown came about and which
removals were answered to have brought it about. The counters are compared with these.

## Answers to removals

A removal through the interface is answered with status 204. No other answer has that status, so
that every one of them stands for one removal (`length_removals_handle`).
-/

namespace Switchboard

namespace Hub

variable {τ : Type}

theorem closures_teardown (h : Hub τ) (id : String) (reason : CloseReason) :
    closures (h.teardown id reason).2.history =
      if (h.teardown id reason).1 then (id, reason) :: closures h.history
      else closures h.history := by
  rcases teardown_cases h id reason with ⟨c, lifetime, -, -, hwon, hl⟩ | hnothing
  · rw [if_pos hwon]
    exact congrArg (closures ∘ Ledger.history) hl
  · rw [hnothing]
    rfl

theorem closures_remove (h : Hub τ) (id : String) :
    closures (h.remove id).2.history =
      if (h.remove id).1 then (id, .removed) :: closures h.history else closures h.history := by
  rcases remove_cases h id with ⟨hwon, c, lifetime, -, -, hl⟩ | ⟨hlost, hl⟩
  · rw [if_pos hwon]
    exact congrArg (closures ∘ Ledger.history) hl
  · rw [hlost]
    exact congrArg (closures ∘ Ledger.history) hl

theorem removals_remove (h : Hub τ) (id : String) :
    removals (h.remove id).2.history =
      if (h.remove id).1 then id :: removals h.history else removals h.history := by
  rcases remove_cases h id with ⟨hwon, c, lifetime, -, -, hl⟩ | ⟨hlost, hl⟩
  · rw [if_pos hwon]
    exact congrArg (removals ∘ Ledger.history) hl
  · rw [hlost]
    exact congrArg (removals ∘ Ledger.history) hl

end Hub

/-! ## Answers to removals -/

namespace Http.Api

variable {τ : Type}

/-- Between a hub and an outcome in it, one connection was removed if the status is 204, and none
otherwise. -/
def Tells (h : Hub τ) (outcome : Outcome × Hub τ) : Prop :=
  (removals outcome.2.history).length =
    (removals h.history).length + if outcome.1.status? = some 204 then 1 else 0

theorem tells_of_same {h : Hub τ} {outcome : Outcome × Hub τ}
    (hstatus : outcome.1.status? ≠ some 204) (hhistory : outcome.2.history = h.history) :
    Tells h outcome := by
  rw [Tells, if_neg hstatus, hhistory, Nat.add_zero]

/-- An answer of another status, from a hub with the same history. -/
theorem tells_answer {h h' : Hub τ} {response : Response} (status : Nat) (hother : status ≠ 204)
    (hstatus : response.status = status) (hhistory : h'.history = h.history) :
    Tells h (.answer response, h') :=
  tells_of_same (fun he => hother (hstatus.symm.trans (Option.some.inj he))) hhistory

theorem tells_deleteConnection (s : Server) (h : Hub τ) (id : String) :
    Tells h (.answer (deleteConnection s h id).1, (deleteConnection s h id).2) := by
  have hremovals := Hub.removals_remove h id
  rw [deleteConnection]
  generalize h.remove id = removed at hremovals ⊢
  obtain ⟨won, h'⟩ := removed
  cases won with
  | true => exact congrArg List.length hremovals
  | false => exact congrArg List.length hremovals

theorem tells_getConnection (s : Server) (h : Hub τ) (id : String) :
    Tells h (.answer (getConnection s h id).1, (getConnection s h id).2) := by
  rw [getConnection]
  split
  · exact tells_answer 200 (by decide) rfl rfl
  · exact tells_answer 404 (by decide) rfl rfl

theorem tells_getUser (s : Server) (h : Hub τ) (user : String) :
    Tells h (.answer (getUser s h user).1, (getUser s h user).2) := by
  rw [getUser]
  split
  · exact tells_answer 200 (by decide) rfl rfl
  · exact tells_answer 404 (by decide) rfl rfl

theorem tells_socket (h : Hub τ) (t : Target) (r : Request) : Tells h (socket h t r) := by
  rw [socket]
  split
  · exact tells_answer 400 (by decide) rfl rfl
  · dsimp only
    split
    · exact tells_answer 403 (by decide) rfl rfl
    · split
      · rename_i fault _
        exact tells_answer fault.status (by cases fault <;> decide) rfl rfl
      · exact tells_of_same (by decide : some 101 ≠ some 204) rfl

theorem tells_withPart {h : Hub τ} {part : List Char} {next : String → Outcome × Hub τ}
    (hnext : ∀ text, Tells h (next text)) : Tells h (withPart h part next) := by
  rw [withPart]
  split
  · exact hnext _
  · exact tells_answer 400 (by decide) rfl rfl

/-- A body is refused as a fault of the client. -/
theorem status_readBody {r : Request} {response : Response} (h : readBody r = .error response) :
    400 ≤ response.status := by
  rw [readBody] at h
  dsimp only at h
  split at h
  · cases h
    decide
  · split at h
    · cases h
      decide
    · split at h
      · cases h
      · split at h
        · cases h
          exact (by decide : 400 ≤ 422)
        · cases h
          exact Nat.le_refl 400

theorem tells_sendOutcome (h : Hub τ) (r : Request) (order : Frame → SendOrder)
    (missing : String) : Tells h (sendOutcome h r order missing) := by
  rw [sendOutcome]
  split
  · exact tells_of_same (by decide : none ≠ some 204) rfl
  · rename_i response hbody
    have hstatus := status_readBody hbody
    exact tells_answer response.status (by omega) rfl rfl

theorem tells_atRoute (s : Server) (h : Hub τ) (t : Target) (r : Request) (route : Route) :
    Tells h (atRoute s h t r route) := by
  cases route with
  | socket => exact tells_socket h t r
  | health => exact tells_answer 200 (by decide) rfl rfl
  | stats => exact tells_answer 200 (by decide) rfl rfl
  | metrics => exact tells_answer 200 (by decide) rfl rfl
  | connection part =>
    refine tells_withPart fun id => ?_
    split
    · exact tells_deleteConnection s h id
    · exact tells_getConnection s h id
  | connectionMessages part => exact tells_withPart fun id => tells_sendOutcome h r _ id
  | userConnections part => exact tells_withPart fun user => tells_getUser s h user
  | userMessages part => exact tells_withPart fun user => tells_sendOutcome h r _ user
  | broadcast => exact tells_sendOutcome h r _ ""

theorem tells_handle (s : Server) (h : Hub τ) (r : Request) : Tells h (handle s h r) := by
  rw [handle]
  dsimp only
  split
  · exact tells_answer 200 (by decide) rfl rfl
  · split
    · exact tells_answer 413 (by decide) (status_finish r _) rfl
    · split
      · exact tells_answer 404 (by decide) (status_finish r _) rfl
      · rename_i route _
        split
        · have hroute := tells_atRoute s h (.parse r.target) r route
          rw [Tells] at hroute ⊢
          rw [status?_mapResponse (status_finish r)]
          exact hroute
        · exact tells_answer 405 (by decide) (status_finish r _) rfl

end Http.Api

/-! ## The counters -/

section Runs

variable {τ : Type} [Transport τ] {config : SocketConfig} {origins : OriginPolicy}
  {handlers : List Handler} {now wallClock : Nat} {h : Hub τ} {es : List (Event τ)}

/-- **Torn down once, counted once.** In a run, those torn down are just those that are dead, each
torn down once and for one reason, which its teardown was answered to have brought about. Each is
counted under that reason and has its lifetime observed, so that the connections opened are those
closed and those registered. The removals answered to have torn a connection down, those answered
with status 204 among them, are as many as were counted as removed, one for a connection at most. A
failed upgrade is counted as such and logged, and changes nothing else. -/
theorem torn_down_once (run : Run (Hub.initial config origins handlers now wallClock) es h) :
    ((closures h.history).map Prod.fst).Nodup ∧
    (∀ id, id ∈ (closures h.history).map Prod.fst ↔
      ∃ c, h.find? id = some c ∧ c.alive = false) ∧
    (∀ id reason, closures (h.teardown id reason).2.history =
      if (h.teardown id reason).1 then (id, reason) :: closures h.history
      else closures h.history) ∧
    (∀ label, h.metrics.closed.get label =
      (closures h.history).countP fun c => c.2.name = label) ∧
    h.metrics.closed.total = (closures h.history).length ∧
    h.metrics.lifetimes.length = (closures h.history).length ∧
    h.metrics.opened = h.metrics.closed.total + h.registry.size ∧
    (removals h.history).Nodup ∧
    (removals h.history).length = h.metrics.closed.get CloseReason.removed.name ∧
    (∀ id, removals (h.remove id).2.history =
      if (h.remove id).1 then id :: removals h.history else removals h.history) ∧
    (∀ s r, (removals (Http.Api.handle s h r).2.history).length = (removals h.history).length +
      if (Http.Api.handle s h r).1.status? = some 204 then 1 else 0) ∧
    ∀ id e o, h.upgrade id (.error e) o = (.refused e,
      { h with
        metrics := { h.metrics with upgradeFailures := h.metrics.upgradeFailures + 1 }
        log := ⟨.warn, "WebSocket upgrade failed", [("error", .text e.message)]⟩ :: h.log }) := by
  have sound := run.sound
  have hdead : ((closures h.history).map Prod.fst).Perm (Lives.deadOn h.ledger.roll) :=
    sound.closures_perm
  have hremovals : removals h.history =
      ((closures h.history).filter fun c => c.2 = .removed).map Prod.fst := sound.removals_eq
  have hnodup : ((closures h.history).map Prod.fst).Nodup :=
    hdead.nodup_iff.mpr (sound.nodup_ids.sublist (List.filter_sublist.map _))
  refine ⟨hnodup, fun id => ?_, h.closures_teardown, sound.closed_get, sound.closed_total,
    sound.lifetimes_length, ?_, ?_, ?_, h.removals_remove,
    fun s r => Http.Api.tells_handle s h r, fun id e o => rfl⟩
  -- the closed are the dead of the roll
  · rw [hdead.mem_iff, Lives.mem_deadOn]
    constructor
    · rintro ⟨m, hm, rfl⟩
      obtain ⟨c, hc, -, halive⟩ := (Hub.mem_roll_iff sound).mp hm
      exact ⟨c, hc, halive⟩
    · rintro ⟨c, hc, halive⟩
      have hid : c.member.id = id := Hub.id_of_find? hc
      exact ⟨c.member, (Hub.mem_roll_iff sound).mpr ⟨c, by rw [hid]; exact hc, rfl, halive⟩, hid⟩
  -- the living and the dead together are those that were opened
  · have hsize : h.registry.size = (Lives.livingOn h.ledger.roll).length :=
      congrArg List.length sound.registered.byId_eq
    have htotal : h.metrics.closed.total = (closures h.history).length := sound.closed_total
    have hlength := hdead.length_eq
    rw [List.length_map] at hlength
    have hopened : h.metrics.opened = h.ledger.roll.length := sound.opened_eq
    have hroll := Lives.length_livingOn_add_deadOn h.ledger.roll
    omega
  -- removals are closures for one of the reasons
  · rw [hremovals]
    exact hnodup.sublist (List.filter_sublist.map _)
  · rw [hremovals, List.length_map, ← List.countP_eq_length_filter]
    refine Eq.trans ?_ (sound.closed_get _).symm
    refine List.countP_congr fun c _ => ?_
    simp only [decide_eq_true_eq]
    exact ⟨fun he => congrArg CloseReason.name he, CloseReason.name_inj⟩

theorem torn_down_once_of_removedTwice :
    ∃ h : Hub MemoryLink, Run (Hub.initial {} .listed [] 0 0) removedTwice h ∧
      (removals h.history).length = 1 ∧ h.metrics.opened = h.metrics.closed.total + 1 := by
  have run : Run (Hub.initial {} .listed [] 0 0) removedTwice _ :=
    .cons rfl (.cons rfl (.cons trivial (.cons trivial (.nil _))))
  obtain ⟨-, -, -, -, -, -, hopened, -, hremovals, -⟩ := torn_down_once run
  exact ⟨_, run, hremovals.trans rfl, hopened.trans rfl⟩

end Runs

end Switchboard
