import Switchboard.Proofs.Balance
import Switchboard.Proofs.Reading

/-!
# What readers do in a run

`readerActs` tells what the reader of a connection does in a run, and when. The frames that it gives
to the handlers are those that the book of the run tells of; since the book balances, these are the
frames that are counted. A reader whose connection is dead exits, and does nothing else.
-/

namespace Switchboard

/-- What the reader of the connection `id` does in an event. -/
def Event.readerAct? {τ : Type} [Transport τ] (id : String) (h : Hub τ) : Event τ → Option ReaderAct
  | .turn (.reader d) _ =>
    if d = id then (h.find? id).bind (Connection.readerAct? h.now h.config) else none
  | _ => none

theorem Hub.act_of_dead {τ : Type} [Transport τ] {h : Hub τ} {id : String} {c : Connection τ}
    {e : Event τ} (hc : h.find? id = some c) (hdead : c.alive = false) :
    ∀ act ∈ e.readerAct? id h, act = .exited none := by
  intro act hact
  cases e with
  | turn t roomFirst =>
    cases t with
    | reader d =>
      rw [Event.readerAct?] at hact
      split at hact
      · rw [hc, Option.bind_some] at hact
        rcases (Connection.readerTurn_of_dead h.now h.config hdead).2 with ⟨hnone, -⟩ | ⟨hexits, -⟩
        · rw [hnone] at hact
          cases hact
        · rw [hexits] at hact
          exact (Option.mem_some.mp hact).symm
      · cases hact
    | writer | call => cases hact
  | _ => cases hact

/-- What the reader of the connection `id` does in a run, and when; the first first. -/
def readerActs {τ : Type} [Transport τ] (id : String) :
    Hub τ → List (Event τ) → List (Nat × ReaderAct)
  | _, [] => []
  | h, e :: es => (e.readerAct? id h).toList.map (h.now, ·) ++ readerActs id (h.step e) es

/-! ## What is counted -/

/-- The frame that an entry gives to the handlers of the connection `id`. -/
def Entry.receipt? (id : String) : Entry → Option Frame
  | .received d f => if d = id then some f else none
  | _ => none

theorem Entry.receipt?_of_received? {x : Entry} (hx : x.received? = none) (id : String) :
    x.receipt? id = none := by
  cases x with
  | received => cases hx
  | unknown | tried | sent | ended | taken => rfl

namespace Hub

variable {τ : Type}

theorem received?_sendEntries (number : Nat) (f : Frame) (places : List (String × Nat))
    (h : Hub τ) : ∀ x ∈ sendEntries number f places h, x.received? = none := by
  induction places generalizing h with
  | nil => exact fun _ hx => absurd hx List.not_mem_nil
  | cons place rest ih =>
    intro x hx
    rcases List.mem_cons.mp hx with rfl | hx
    · rw [sendEntry]
      cases h.find? place.1 <;> rfl
    · exact ih _ x hx

theorem received?_resumeEntries (roomFirst : Nat → Bool) (number : Nat) (f : Frame)
    (places : List (String × Nat)) (h : Hub τ) :
    ∀ x ∈ resumeEntries roomFirst number f places h, x.received? = none := by
  induction places generalizing h with
  | nil => exact fun _ hx => absurd hx List.not_mem_nil
  | cons place rest ih =>
    intro x hx
    rcases List.mem_append.mp hx with hx | hx
    · rw [Option.mem_toList, resumed?] at hx
      cases hc : h.find? place.1 with
      | none =>
        rw [hc] at hx
        cases hx
      | some c =>
        rw [hc] at hx
        dsimp only at hx
        split at hx
        · cases hx
          rfl
        · split at hx
          · cases hx
            rfl
          · cases hx
    · exact ih _ x hx

theorem received?_firstEntries (h : Hub τ) (number : Nat) (r : SendOrder) :
    ∀ x ∈ h.firstEntries number r, x.received? = none := by
  cases r with
  | toHandle id f => exact received?_sendEntries number f [(id, 0)] h
  | toConnection id f =>
    rw [firstEntries]
    cases h.registry.lookup id with
    | none =>
      intro x hx
      obtain rfl := List.mem_singleton.mp hx
      rfl
    | some m => exact received?_sendEntries _ _ _ _
  | toUser user f => exact received?_sendEntries _ _ _ _
  | toAll f => exact received?_sendEntries _ _ _ _

theorem received?_callEntries (h : Hub τ) (roomFirst : Nat → Bool) (number : Nat) :
    ∀ x ∈ h.callEntries roomFirst number, x.received? = none := by
  rw [callEntries]
  split
  · exact received?_firstEntries h number _
  · exact received?_resumeEntries roomFirst number _ _ h
  · exact fun _ hx => absurd hx List.not_mem_nil

/-- Entries that give nothing to handlers. -/
theorem filterMap_receipt? {b : List Entry} (hb : ∀ x ∈ b, x.received? = none) (id : String) :
    b.filterMap (Entry.receipt? id) = [] :=
  List.filterMap_eq_nil_iff.mpr fun x hx => Entry.receipt?_of_received? (hb x hx) id

variable [Transport τ]

/-- What is entered in a turn of a reader: what it gives to the handlers, if anything, and what
gives nothing. -/
theorem receipt?_readerEntries (h : Hub τ) (d id : String) :
    (h.readerEntries d).filterMap (Entry.receipt? id) =
      if d = id then ((h.find? d).bind (Connection.dispatched? h.now h.config)).toList else [] := by
  rw [readerEntries]
  cases hc : h.find? d with
  | none => exact (ite_self _).symm
  | some c =>
    rw [Option.bind_some]
    dsimp only
    cases hf : c.dispatched? h.now h.config with
    | none => exact (ite_self _).symm
    | some f =>
      dsimp only
      have hrest : ((h.received c f).dispatchEntries
          { c with link := (Transport.receive h.now c.link).2 } f).filterMap (Entry.receipt? id) =
            [] := by
        refine filterMap_receipt? (fun x hx => ?_) id
        obtain ⟨g, o, rfl⟩ := eq_tried_of_mem_handlerEntries _ _ _ _ _ x hx
        rfl
      rw [List.filterMap_cons, hrest]
      by_cases hd : d = id
      · simp [Entry.receipt?, hd]
      · simp [Entry.receipt?, hd]

/-- The frames that the book has the handlers of a connection get are those that its reader gives
them. -/
theorem receipt?_entries (h : Hub τ) (e : Event τ) (id : String) :
    (h.entries e).filterMap (Entry.receipt? id) =
      (e.readerAct? id h).toList.filterMap ReaderAct.frame? := by
  cases e with
  | upgrade | upgradeFailed | ask | remove | request | peer | pass => rfl
  | abandon number =>
    refine filterMap_receipt? (fun x hx => ?_) id
    change x ∈ h.abandonEntries number at hx
    rw [abandonEntries] at hx
    split at hx
    · obtain ⟨place, -, rfl⟩ := List.mem_map.mp hx
      rfl
    · cases hx
  | act d script =>
    refine filterMap_receipt? (fun x hx => ?_) id
    obtain ⟨f, o, rfl⟩ := eq_tried_of_mem_scriptEntries d script h x hx
    rfl
  | turn t roomFirst =>
    cases t with
    | call number => exact filterMap_receipt? (received?_callEntries _ roomFirst number) id
    | writer d =>
      refine filterMap_receipt? (fun x hx => ?_) id
      obtain ⟨f, -, rfl⟩ := Option.map_eq_some_iff.mp (Option.mem_toList.mp hx)
      rfl
    | reader d =>
      have hturn := receipt?_readerEntries { h with ready := h.ready.erase (.reader d) } d id
      refine hturn.trans ?_
      rw [Event.readerAct?]
      by_cases hd : d = id
      · subst hd
        rw [if_pos rfl, if_pos rfl]
        change ((h.find? d).bind (Connection.dispatched? h.now h.config)).toList = _
        cases h.find? d with
        | none => rfl
        | some c =>
          rw [Option.bind_some, Option.bind_some, Connection.readerAct?]
          cases c.dispatched? h.now h.config with
          | some f => rfl
          | none =>
            dsimp only
            split <;> rfl
      · rw [if_neg hd, if_neg hd]
        rfl

end Hub

section Runs

variable {τ : Type} [Transport τ] {h h' : Hub τ} {id : String} {es : List (Event τ)}

/-- The frames that handlers were given according to the book are those that the reader gave them.
-/
theorem receipt?_book (id : String) (h : Hub τ) (es : List (Event τ)) :
    (book h es).filterMap (Entry.receipt? id) =
      (readerActs id h es).filterMap fun x => x.2.frame? := by
  induction es generalizing h with
  | nil => rfl
  | cons e rest ih =>
    rw [book, readerActs, List.filterMap_append, List.filterMap_append, ih, h.receipt?_entries,
      List.filterMap_map]
    rfl

/-- The reader of a dead connection exits without a reason of its own, and does nothing else. -/
theorem Run.acts_of_dead (run : Run h es h') {c : Connection τ} (hc : h.find? id = some c)
    (hdead : c.alive = false) : ∀ x ∈ readerActs id h es, x.2 = .exited none := by
  induction run generalizing c with
  | nil => exact fun _ hx => absurd hx List.not_mem_nil
  | @cons h h' e es allowed rest ih =>
    intro x hx
    rcases List.mem_append.mp hx with hx | hx
    · obtain ⟨act, hact, rfl⟩ := List.mem_map.mp hx
      exact Hub.act_of_dead hc hdead act (Option.mem_toList.mp hact)
    · obtain ⟨c', hc', hdies, -⟩ := (Hub.balances_step h e).conn id c hc
      exact ih hc' (hdies hdead) x hx

end Runs

end Switchboard
