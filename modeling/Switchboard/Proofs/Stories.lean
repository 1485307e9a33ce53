import Mathlib.Data.List.Sigma
import Switchboard.Proofs.Balance
import Switchboard.Proofs.Calls

/-!
# The story of a send

What a book tells of one send of a call is short: nothing as long as the call has had no turn, then
how it began, and if it had to wait, how it ended. `Hub.Story` lists what it can be, and
`Run.recorded` says that it is nothing else. So no send comes to two ends, and one that has come to
none is in line.

A turn of a call goes through its sends one after another; `Begins` and `Resumes` say what it makes
of their places and enters in the book, and follow the recursion of the code.
-/

namespace Switchboard

/-- The send that an entry is about. -/
def Entry.ticket? : Entry → Option Ticket
  | .sent _ _ t _ | .ended _ _ t _ => some t
  | .unknown _ _ | .tried _ _ _ | .taken _ _ | .received _ _ => none

/-- What a book tells of a send. -/
def storyOf (t : Ticket) (b : List Entry) : List Entry := b.filter fun x => x.ticket? = some t

theorem storyOf_append (t : Ticket) (b b' : List Entry) :
    storyOf t (b ++ b') = storyOf t b ++ storyOf t b' := List.filter_append ..

theorem storyOf_cons_self {t : Ticket} {x : Entry} (hx : x.ticket? = some t) (b : List Entry) :
    storyOf t (x :: b) = x :: storyOf t b := List.filter_cons_of_pos (by simpa using hx)

theorem storyOf_cons_of_ne {n p q : Nat} {x : Entry} (hx : x.ticket? = some ⟨n, q⟩) (hne : q ≠ p)
    (b : List Entry) : storyOf ⟨n, p⟩ (x :: b) = storyOf ⟨n, p⟩ b :=
  List.filter_cons_of_neg (by simp [hx, hne])

theorem storyOf_eq_nil {t : Ticket} {b : List Entry} (h : ∀ x ∈ b, x.ticket? ≠ some t) :
    storyOf t b = [] := List.filter_eq_nil_iff.mpr fun x hx => by simpa using h x hx

/-- A story that does not go on. -/
inductive Told (t : Ticket) : List Entry → Prop
  | nothing : Told t []
  | refused (id : String) (f : Frame) : Told t [.sent id f t .refused]
  | entered (id : String) (f : Frame) : Told t [.sent id f t .entered]
  | ended (id : String) (f : Frame) (o : Ending) : Told t [.sent id f t .waits, .ended id f t o]

/-- The story of a send fits how far its call has come. -/
def StoryFits (t : Ticket) (b : List Entry) : Option Call → Prop
  | none | some (.requested _) => b = []
  | some (.waiting f places _) =>
    (∀ id, (id, t.place) ∈ places → b = [.sent id f t .waits]) ∧
      ((∀ id, (id, t.place) ∉ places) → Told t b)
  | some (.finished _) | some .abandoned => Told t b

/-! ## The sends of a call in a turn -/

section Turns

variable {n p : Nat} {f : Frame} {places left : List (String × Nat)} {b l : List Entry}

/-- The sends of a call begin, one after another: those that are left wait. -/
inductive Begins (n : Nat) (f : Frame) :
    List (String × Nat) → List (String × Nat) → List Entry → Prop
  | nil : Begins n f [] [] []
  | settles {id : String} {p : Nat} {o : Start} {rest left : List (String × Nat)} {b : List Entry}
      (settled : o ≠ .waits) (tail : Begins n f rest left b) :
      Begins n f ((id, p) :: rest) left (.sent id f ⟨n, p⟩ o :: b)
  | waits {id : String} {p : Nat} {rest left : List (String × Nat)} {b : List Entry}
      (tail : Begins n f rest left b) :
      Begins n f ((id, p) :: rest) ((id, p) :: left) (.sent id f ⟨n, p⟩ .waits :: b)

/-- Waiting sends of a call go on, one after another: those that are left still wait. -/
inductive Resumes (n : Nat) (f : Frame) :
    List (String × Nat) → List (String × Nat) → List Entry → Prop
  | nil : Resumes n f [] [] []
  | ends {id : String} {p : Nat} {rest left : List (String × Nat)} {b : List Entry} (o : Ending)
      (tail : Resumes n f rest left b) :
      Resumes n f ((id, p) :: rest) left (.ended id f ⟨n, p⟩ o :: b)
  | waits {id : String} {p : Nat} {rest left : List (String × Nat)} {b : List Entry}
      (tail : Resumes n f rest left b) :
      Resumes n f ((id, p) :: rest) ((id, p) :: left) b

theorem Begins.sublist (begins : Begins n f places left b) : left.Sublist places := by
  induction begins with
  | nil => exact .slnil
  | settles _ _ ih => exact ih.cons _
  | waits _ ih => exact ih.cons_cons _

theorem Resumes.sublist (resumes : Resumes n f places left b) : left.Sublist places := by
  induction resumes with
  | nil => exact .slnil
  | ends _ _ ih => exact ih.cons _
  | waits _ ih => exact ih.cons_cons _

theorem Begins.call_eq (begins : Begins n f places left b) {t : Ticket} :
    ∀ x ∈ b, x.ticket? = some t → t.call = n := by
  induction begins with
  | nil => exact fun _ hx => absurd hx List.not_mem_nil
  | settles _ _ ih | waits _ ih =>
    intro x hx ht
    rcases List.mem_cons.mp hx with rfl | hx
    · exact congrArg Ticket.call (Option.some.inj ht).symm
    · exact ih x hx ht

theorem Resumes.call_eq (resumes : Resumes n f places left b) {t : Ticket} :
    ∀ x ∈ b, x.ticket? = some t → t.call = n := by
  induction resumes with
  | nil => exact fun _ hx => absurd hx List.not_mem_nil
  | waits _ ih => exact ih
  | ends _ _ ih =>
    intro x hx ht
    rcases List.mem_cons.mp hx with rfl | hx
    · exact congrArg Ticket.call (Option.some.inj ht).symm
    · exact ih x hx ht

/-- A place is that of one send. -/
theorem notMem_of_nodup_cons {id d : String} {q : Nat} {rest : List (String × Nat)}
    (hnodup : (((id, q) :: rest).map Prod.snd).Nodup) : (d, q) ∉ rest := fun hmem =>
  (List.nodup_cons.mp hnodup).1 (List.mem_map.mpr ⟨(d, q), hmem, rfl⟩)

/-- Other places are those of other sends. -/
theorem mem_cons_of_ne {id d : String} {q : Nat} {rest : List (String × Nat)} (hq : q ≠ p) :
    (d, p) ∈ (id, q) :: rest ↔ (d, p) ∈ rest := by
  rw [List.mem_cons, or_iff_right fun heq => hq (congrArg Prod.snd heq).symm]

/-- What the beginning of its sends tells of each. -/
theorem Begins.story (begins : Begins n f places left b) (hnodup : (places.map Prod.snd).Nodup)
    (p : Nat) :
    ((∀ id, (id, p) ∉ places) ∧ storyOf ⟨n, p⟩ b = []) ∨
      ∃ id o, (id, p) ∈ places ∧ storyOf ⟨n, p⟩ b = [.sent id f ⟨n, p⟩ o] ∧
        ((id, p) ∈ left ↔ o = .waits) := by
  induction begins with
  | nil => exact .inl ⟨fun _ => List.not_mem_nil, rfl⟩
  | @settles id q o rest left b settled tail ih =>
    have htail := ih (List.nodup_cons.mp hnodup).2
    by_cases hq : q = p
    · subst hq
      have hrest : ∀ d, (d, q) ∉ rest := fun d => notMem_of_nodup_cons hnodup
      refine .inr ⟨id, o, List.mem_cons_self, ?_,
        iff_of_false (fun hmem => hrest id (tail.sublist.subset hmem)) settled⟩
      rcases htail with ⟨-, hstory⟩ | ⟨d, -, hd, -⟩
      · rw [storyOf_cons_self rfl, hstory]
      · exact absurd hd (hrest d)
    · rw [storyOf_cons_of_ne rfl hq]
      simpa only [mem_cons_of_ne hq] using htail
  | @waits id q rest left b tail ih =>
    have htail := ih (List.nodup_cons.mp hnodup).2
    by_cases hq : q = p
    · subst hq
      refine .inr ⟨id, .waits, List.mem_cons_self, ?_, iff_of_true List.mem_cons_self rfl⟩
      rcases htail with ⟨-, hstory⟩ | ⟨d, -, hd, -⟩
      · rw [storyOf_cons_self rfl, hstory]
      · exact absurd hd (notMem_of_nodup_cons hnodup)
    · rw [storyOf_cons_of_ne rfl hq]
      simpa only [mem_cons_of_ne hq] using htail

/-- What a turn tells of each of the sends that waited. -/
theorem Resumes.story (resumes : Resumes n f places left b)
    (hnodup : (places.map Prod.snd).Nodup) (p : Nat) :
    ((∀ id, (id, p) ∈ places → (id, p) ∈ left) ∧ storyOf ⟨n, p⟩ b = []) ∨
      ∃ id o, (id, p) ∈ places ∧ (∀ d, (d, p) ∉ left) ∧
        storyOf ⟨n, p⟩ b = [.ended id f ⟨n, p⟩ o] := by
  induction resumes with
  | nil => exact .inl ⟨fun _ hid => hid, rfl⟩
  | @ends id q rest left b o tail ih =>
    have htail := ih (List.nodup_cons.mp hnodup).2
    by_cases hq : q = p
    · subst hq
      have hrest : ∀ d, (d, q) ∉ rest := fun d => notMem_of_nodup_cons hnodup
      refine .inr ⟨id, o, List.mem_cons_self, fun d hmem => hrest d (tail.sublist.subset hmem), ?_⟩
      rcases htail with ⟨-, hstory⟩ | ⟨d, -, hd, -⟩
      · rw [storyOf_cons_self rfl, hstory]
      · exact absurd hd (hrest d)
    · rw [storyOf_cons_of_ne rfl hq]
      simpa only [mem_cons_of_ne hq] using htail
  | @waits id q rest left b tail ih =>
    have htail := ih (List.nodup_cons.mp hnodup).2
    by_cases hq : q = p
    · subst hq
      have hrest : ∀ d, (d, q) ∉ rest := fun d => notMem_of_nodup_cons hnodup
      rcases htail with ⟨-, hstory⟩ | ⟨d, -, hd, -⟩
      · refine .inl ⟨fun d hd => ?_, hstory⟩
        rcases List.mem_cons.mp hd with heq | hd
        · exact heq ▸ List.mem_cons_self
        · exact absurd hd (hrest d)
      · exact absurd hd (hrest d)
    · simpa only [mem_cons_of_ne hq] using htail

/-- A call waits for those of its sends that are left. -/
theorem storyFits_settled {t : Ticket} (reply : Reply)
    (hwaits : ∀ id, (id, t.place) ∈ left → l = [.sent id f t .waits])
    (hover : (∀ id, (id, t.place) ∉ left) → Told t l) :
    StoryFits t l (some (if left.isEmpty then .finished reply else .waiting f left reply)) := by
  split
  · rename_i hempty
    exact hover fun id => by simp [List.isEmpty_iff.mp hempty]
  · exact ⟨hwaits, hover⟩

theorem Begins.fits (begins : Begins n f places left b) (hnodup : (places.map Prod.snd).Nodup)
    (reply : Reply) :
    StoryFits ⟨n, p⟩ (storyOf ⟨n, p⟩ b)
      (some (if left.isEmpty then .finished reply else .waiting f left reply)) := by
  rcases begins.story hnodup p with ⟨hnone, hstory⟩ | ⟨id, o, hid, hstory, hleft⟩
  · rw [hstory]
    exact storyFits_settled reply (fun d hd => absurd (begins.sublist.subset hd) (hnone d))
      fun _ => .nothing
  · rw [hstory]
    refine storyFits_settled reply (fun d hd => ?_) fun hno => ?_
    · obtain rfl : d = id := congrArg Prod.fst (List.inj_on_of_nodup_map hnodup
        (begins.sublist.subset hd) hid rfl)
      rw [hleft.mp hd]
    · cases o with
      | entered => exact .entered id f
      | refused => exact .refused id f
      | waits => exact absurd (hleft.mpr rfl) (hno id)

theorem Resumes.fits (resumes : Resumes n f places left b) (hnodup : (places.map Prod.snd).Nodup)
    {before : Reply} (hfits : StoryFits ⟨n, p⟩ l (some (.waiting f places before)))
    (reply : Reply) :
    StoryFits ⟨n, p⟩ (l ++ storyOf ⟨n, p⟩ b)
      (some (if left.isEmpty then .finished reply else .waiting f left reply)) := by
  obtain ⟨hwaits, hover⟩ := hfits
  rcases resumes.story hnodup p with ⟨hall, hstory⟩ | ⟨id, o, hid, hleft, hstory⟩
  · rw [hstory, List.append_nil]
    exact storyFits_settled reply (fun d hd => hwaits d (resumes.sublist.subset hd))
      fun hno => hover fun d hd => hno d (hall d hd)
  · rw [hstory, hwaits id hid]
    exact storyFits_settled reply (fun d hd => absurd hd (hleft d)) fun _ => .ended id f o

/-- All sends of a call are abandoned at once. -/
theorem resumes_abandoned (n : Nat) (f : Frame) (places : List (String × Nat)) :
    Resumes n f places [] (places.map fun x => .ended x.1 f ⟨n, x.2⟩ .abandoned) := by
  induction places with
  | nil => exact .nil
  | cons x rest ih => exact .ends .abandoned ih

end Turns

namespace Hub

variable {τ : Type} {h h' : Hub τ} {n : Nat} {f : Frame}

/-! ## Sends that begin and go on -/

/-- There is a connection for every place. -/
def Found (h : Hub τ) (places : List (String × Nat)) : Prop :=
  ∀ x ∈ places, ∃ c, h.find? x.1 = some c

theorem Balances.found {io : String → Prop} {b : List Entry} (balances : Balances io b h h')
    {places : List (String × Nat)} (found : h.Found places) : h'.Found places := fun x hx => by
  obtain ⟨c, hc⟩ := found x hx
  obtain ⟨c', hc', -⟩ := balances.conn x.1 c hc
  exact ⟨c', hc'⟩

/-- A send begins: what is entered, and whether it has to wait. -/
theorem sendEntry_cases (h : Hub τ) (id : String) (f : Frame) (t : Ticket) :
    (∃ o, o ≠ Start.waits ∧ h.sendEntry id f t = .sent id f t o ∧ (h.beginSend id f t).1 = false) ∨
    (∃ c, h.find? id = some c) ∧ h.sendEntry id f t = .sent id f t .waits ∧
      (h.beginSend id f t).1 = true := by
  rw [sendEntry, beginSend]
  cases hc : h.find? id with
  | none => exact .inl ⟨.refused, by decide, rfl, rfl⟩
  | some c =>
    dsimp only
    cases c.alive with
    | false => exact .inl ⟨.refused, by decide, rfl, rfl⟩
    | true =>
      cases c.outbox.hasRoom with
      | true => exact .inl ⟨.entered, by decide, rfl, rfl⟩
      | false => exact .inr ⟨⟨c, rfl⟩, rfl, rfl⟩

/-- A waiting send gets a turn: what is entered, and whether it still has to wait. -/
theorem resumed?_cases {id : String} (found : ∃ c, h.find? id = some c) (roomFirst : Bool)
    (f : Frame) (t : Ticket) :
    (∃ o, h.resumed? roomFirst id f t = some (.ended id f t o) ∧
      (h.resumeSend roomFirst id f t).1 = false) ∨
    h.resumed? roomFirst id f t = none ∧ (h.resumeSend roomFirst id f t).1 = true := by
  obtain ⟨c, hc⟩ := found
  rw [resumed?, resumeSend, hc]
  dsimp only
  split
  · exact .inl ⟨.entered, rfl, rfl⟩
  · split
    · exact .inl ⟨.givenUp, rfl, rfl⟩
    · exact .inr ⟨rfl, rfl⟩

theorem begins_beginSends (n : Nat) (f : Frame) (places : List (String × Nat)) (h : Hub τ) :
    Begins n f places (beginSends n f places h).1 (sendEntries n f places h) ∧
      (beginSends n f places h).2.Found (beginSends n f places h).1 := by
  induction places generalizing h with
  | nil => exact ⟨.nil, fun _ hx => absurd hx List.not_mem_nil⟩
  | cons x rest ih =>
    obtain ⟨id, p⟩ := x
    obtain ⟨htail, hfound⟩ := ih (h.beginSend id f ⟨n, p⟩).2
    rw [sendEntries, beginSends]
    dsimp only
    rcases h.sendEntry_cases id f ⟨n, p⟩ with ⟨o, hover, hentry, hwaits⟩ | ⟨hc, hentry, hwaits⟩
    · rw [hentry, hwaits]
      exact ⟨.settles hover htail, hfound⟩
    · rw [hentry, hwaits]
      refine ⟨.waits htail, fun x hx => ?_⟩
      rcases List.mem_cons.mp hx with rfl | hx
      · have hbalances : Balances (fun _ => True) _ h _ :=
          (balances_beginSend h id f ⟨n, p⟩).trans (balances_beginSends n f rest _)
        have hone : h.Found [(id, p)] := by simpa [Found] using hc
        exact hbalances.found hone _ (List.mem_singleton_self _)
      · exact hfound x hx

theorem resumes_resumeSends (roomFirst : Nat → Bool) (n : Nat) (f : Frame)
    {places : List (String × Nat)} {h : Hub τ} (found : h.Found places) :
    Resumes n f places (resumeSends roomFirst n f places h).1
      (resumeEntries roomFirst n f places h) := by
  induction places generalizing h with
  | nil => exact .nil
  | cons x rest ih =>
    obtain ⟨id, p⟩ := x
    have hbalances : Balances (fun _ => True) _ h _ :=
      balances_resumeSend h (roomFirst p) id f ⟨n, p⟩
    have htail := ih (hbalances.found fun x hx => found x (List.mem_cons_of_mem _ hx))
    rw [resumeEntries, resumeSends]
    dsimp only
    rcases resumed?_cases (found (id, p) List.mem_cons_self) (roomFirst p) f ⟨n, p⟩ with
      ⟨o, hentry, hwaits⟩ | ⟨hentry, hwaits⟩
    · rw [hentry, hwaits]
      exact .ends o htail
    · rw [hentry, hwaits]
      exact .waits htail

/-! ## Turns of calls -/

/-- A call was set to wait for those of its sends that are left, if there are any. For each of them
there is a connection. -/
structure Settles (n : Nat) (f : Frame) (left : List (String × Nat)) (reply : Reply)
    (h h' : Hub τ) : Prop where
  calls_eq : h'.calls =
    h.calls.set n (if left.isEmpty then .finished reply else .waiting f left reply)
  found : h'.Found left

theorem settles_settleCall (hcalls : h'.calls = h.calls) {left : List (String × Nat)}
    (found : h'.Found left) (n : Nat) (f : Frame) (reply : Reply) :
    Settles n f left reply h (h'.settleCall n f left reply) where
  calls_eq := by
    rw [← hcalls]
    rfl
  found := found

/-- What a call does at its first turn. -/
def Starts (n : Nat) (b : List Entry) (h h' : Hub τ) : Prop :=
  ∃ f places left reply, Begins n f places left b ∧ (places.map Prod.snd).Nodup ∧
    Settles n f left reply h h'

theorem Starts.after {h'' : Hub τ} {b : List Entry} (starts : Starts n b h' h'')
    (hcalls : h'.calls = h.calls) : Starts n b h h'' := by
  obtain ⟨f, places, left, reply, begins, hnodup, settles⟩ := starts
  exact ⟨f, places, left, reply, begins, hnodup, hcalls ▸ settles.calls_eq, settles.found⟩

theorem starts_sendToEach {old : Call} (hold : h.calls[n]? = some old) (hopen : old.frame? = some f)
    (ids : List String) (reply : Reply) :
    Starts n (sendEntries n f ids.zipIdx h) h (h.sendToEach n f ids reply) := by
  obtain ⟨begins, found⟩ := begins_beginSends n f ids.zipIdx h
  have hcalls := (serves_beginSends ids.zipIdx (sends_of_open hold hopen)).2
  exact ⟨f, _, _, reply, begins, List.nodup_zipIdx_map_snd ids, settles_settleCall hcalls found ..⟩

theorem starts_fanOut {old : Call} (hold : h.calls[n]? = some old) (hopen : old.frame? = some f)
    (target : String) (members : List Member) :
    Starts n (h.fanEntries n target members f) h (h.fanOut n target members f) := by
  rw [fanEntries, fanOut]
  cases members with
  | nil =>
    exact ⟨f, [], [], .targeted 0, .nil, .nil, rfl, fun _ hx => absurd hx List.not_mem_nil⟩
  | cons m rest =>
    exact (starts_sendToEach (h := h.count fun m => m.countSent target) hold hopen _ _).after rfl

/-- The first turn of a call begins its sends, unless it finds nobody to send to. -/
theorem starts_beginCall {r : SendOrder} (hold : h.calls[n]? = some (.requested r)) :
    ∃ b, Starts n b h (h.beginCall n r) ∧ ∀ t, storyOf t (h.firstEntries n r) = storyOf t b := by
  cases r with
  | toHandle id f => exact ⟨_, starts_sendToEach hold rfl [id] .sent, fun _ => rfl⟩
  | toConnection id f =>
    rw [firstEntries, beginCall]
    cases h.registry.lookup id with
    | none =>
      exact ⟨[], ⟨f, [], [], .found false, .nil, .nil, rfl,
        fun _ hx => absurd hx List.not_mem_nil⟩, fun _ => rfl⟩
    | some m =>
      exact ⟨_, (starts_sendToEach (h := h.count fun m => m.countSent "connection") hold rfl [m.id]
        (.found true)).after rfl, fun _ => rfl⟩
  | toUser user f => exact ⟨_, starts_fanOut hold rfl "user" _, fun _ => rfl⟩
  | toAll f => exact ⟨_, starts_fanOut hold rfl "broadcast" _, fun _ => rfl⟩

/-! ## What is told of other things -/

variable [Transport τ]

/-- What is neither a turn of a call nor abandons one tells of no send. -/
theorem ticket?_entries {e : Event τ} (hturn : ∀ n roomFirst, e ≠ .turn (.call n) roomFirst)
    (habandon : ∀ n, e ≠ .abandon n) (h : Hub τ) : ∀ x ∈ h.entries e, x.ticket? = none := by
  cases e with
  | upgrade | upgradeFailed | ask | remove | request | peer | pass =>
    exact fun _ hx => absurd hx List.not_mem_nil
  | abandon n => exact absurd rfl (habandon n)
  | act id script =>
    intro x hx
    obtain ⟨f, o, rfl⟩ := eq_tried_of_mem_scriptEntries id script h x hx
    rfl
  | turn t roomFirst =>
    cases t with
    | call n => exact absurd rfl (hturn n roomFirst)
    | writer id =>
      intro x hx
      obtain ⟨f, -, rfl⟩ := Option.map_eq_some_iff.mp (Option.mem_toList.mp hx)
      rfl
    | reader id =>
      change ∀ x ∈ readerEntries _ id, _
      rw [readerEntries]
      split
      · exact fun _ hx => absurd hx List.not_mem_nil
      · split
        · exact fun _ hx => absurd hx List.not_mem_nil
        · intro x hx
          rcases List.mem_cons.mp hx with rfl | hx
          · rfl
          · obtain ⟨f, o, rfl⟩ := eq_tried_of_mem_handlerEntries _ _ _ _ _ x hx
            rfl

/-! ## The book tells every story -/

/-- What the book tells of the sends of the call with a number fits how far that has come. Its sends
that wait are at different places, for each of which there is a connection. -/
structure Recorded (n : Nat) (b : List Entry) (h : Hub τ) : Prop where
  fits : ∀ p, StoryFits ⟨n, p⟩ (storyOf ⟨n, p⟩ b) h.calls[n]?
  placed : ∀ f places reply, h.calls[n]? = some (Call.waiting f places reply) →
    (places.map Prod.snd).Nodup ∧ h.Found places

variable {b : List Entry} {e : Event τ}

omit [Transport τ] in
/-- A call was set to wait for what is left of its sends. -/
theorem Recorded.of_settles {left : List (String × Nat)} {reply : Reply} {b : List Entry}
    (settles : Settles n f left reply h h') (hlt : n < h.calls.length)
    (hnodup : (left.map Prod.snd).Nodup)
    (fits : ∀ p, StoryFits ⟨n, p⟩ (storyOf ⟨n, p⟩ b)
      (some (if left.isEmpty then .finished reply else .waiting f left reply))) :
    h'.Recorded n b := by
  have hcall := List.getElem?_set_self
    (a := if left.isEmpty then Call.finished reply else .waiting f left reply) hlt
  rw [← settles.calls_eq] at hcall
  refine ⟨fun p => hcall ▸ fits p, fun f' places reply' hwaiting => ?_⟩
  rw [hcall] at hwaiting
  split at hwaiting
  · cases hwaiting
  · cases hwaiting
    exact ⟨hnodup, settles.found⟩

/-- An event that tells nothing of the sends of a call, and leaves it as it is or asks for it. -/
theorem Recorded.of_untold (recorded : h.Recorded n b) (e : Event τ)
    (hcall : ∀ c, (h.step e).calls[n]? = some c → h.calls[n]? = some c ∨ ∃ r, c = .requested r)
    (hkeeps : ∀ c, h.calls[n]? = some c → (h.step e).calls[n]? = some c)
    (huntold : ∀ p, storyOf ⟨n, p⟩ (h.entries e) = []) :
    (h.step e).Recorded n (b ++ h.entries e) := by
  refine ⟨fun p => ?_, fun f places reply hwaiting => ?_⟩
  · rw [storyOf_append, huntold, List.append_nil]
    have hfits := recorded.fits p
    cases hc : h.calls[n]? with
    | some c =>
      rw [hkeeps c hc, ← hc]
      exact hfits
    | none =>
      rw [hc] at hfits
      cases hc' : (h.step e).calls[n]? with
      | none => exact hfits
      | some c =>
        rcases hcall c hc' with hold | ⟨r, rfl⟩
        · rw [hc] at hold
          cases hold
        · exact hfits
  · rcases hcall _ hwaiting with hold | ⟨r, hr⟩
    · obtain ⟨hnodup, found⟩ := recorded.placed f places reply hold
      exact ⟨hnodup, (balances_step h e).found found⟩
    · cases hr

/-- A turn of the call. -/
theorem Recorded.turn (recorded : h.Recorded n b) (roomFirst : Nat → Bool) :
    (h.step (.turn (.call n) roomFirst)).Recorded n
      (b ++ h.entries (.turn (.call n) roomFirst)) := by
  generalize hh₁ : ({ h with ready := h.ready.erase (.call n) } : Hub τ) = h₁
  have recorded : h₁.Recorded n b := by
    rw [← hh₁]
    exact ⟨recorded.fits, recorded.placed⟩
  have hstep : h.step (.turn (.call n) roomFirst) = h₁.callTurn roomFirst n := by
    rw [← hh₁]
    rfl
  have hentries : h.entries (.turn (.call n) roomFirst) = h₁.callEntries roomFirst n := by
    rw [← hh₁]
    rfl
  rw [hstep, hentries, callTurn, callEntries]
  have hfits := recorded.fits
  cases hc : h₁.calls[n]? with
  | none => exact ⟨fun p => by simpa using recorded.fits p, recorded.placed⟩
  | some c =>
    have hlt : n < h₁.calls.length := (List.getElem?_eq_some_iff.mp hc).1
    rw [hc] at hfits
    cases c with
    | requested r =>
      obtain ⟨b', ⟨f, places, left, reply, begins, hnodup, settles⟩, hstory⟩ :=
        starts_beginCall hc
      refine .of_settles settles hlt (hnodup.sublist (begins.sublist.map _)) fun p => ?_
      have hnone : storyOf ⟨n, p⟩ b = [] := hfits p
      rw [storyOf_append, hnone, hstory, List.nil_append]
      exact begins.fits hnodup reply
    | waiting f places reply =>
      obtain ⟨hnodup, found⟩ := recorded.placed f places reply hc
      have resumes := resumes_resumeSends roomFirst n f found
      have hserves : h₁.Serves (resumeSends roomFirst n f places h₁).2 :=
        serves_resumeSends places (sends_of_open hc rfl)
      have hbalances : Balances (fun _ => True) _ h₁ (resumeSends roomFirst n f places h₁).2 :=
        balances_resumeSends roomFirst n f places h₁
      have hleft : (resumeSends roomFirst n f places h₁).2.Found
          (resumeSends roomFirst n f places h₁).1 := fun x hx =>
        hbalances.found found x (resumes.sublist.subset hx)
      refine .of_settles (settles_settleCall hserves.2 hleft n f reply) hlt
        (hnodup.sublist (resumes.sublist.map _)) fun p => ?_
      rw [storyOf_append]
      exact resumes.fits hnodup (hfits p) reply
    | finished reply => exact ⟨fun p => by simpa using recorded.fits p, recorded.placed⟩
    | abandoned => exact ⟨fun p => by simpa using recorded.fits p, recorded.placed⟩

/-- The call is abandoned. -/
theorem Recorded.abandon (recorded : h.Recorded n b) :
    (h.step (.abandon n)).Recorded n (b ++ h.entries (.abandon n)) := by
  change (h.abandon n).Recorded n (b ++ h.abandonEntries n)
  rw [Hub.abandon, abandonEntries]
  have hfits := recorded.fits
  cases hc : h.calls[n]? with
  | none => exact ⟨fun p => by simpa using recorded.fits p, recorded.placed⟩
  | some c =>
    have hlt : n < h.calls.length := (List.getElem?_eq_some_iff.mp hc).1
    rw [hc] at hfits
    -- an abandoned call has no sends that wait
    have habandoned : ∀ {h' : Hub τ} {b' : List Entry}, h'.calls = h.calls →
        (∀ p, Told ⟨n, p⟩ (storyOf ⟨n, p⟩ b')) → (h'.setCall n .abandoned).Recorded n b' := by
      intro h' b' hcalls htold
      have hcall : (h'.setCall n .abandoned).calls[n]? = some .abandoned := by
        rw [← hcalls] at hlt
        exact List.getElem?_set_self hlt
      refine ⟨fun p => hcall ▸ htold p, fun f places reply hwaiting => ?_⟩
      rw [hcall] at hwaiting
      cases hwaiting
    cases c with
    | requested r =>
      refine habandoned rfl fun p => ?_
      have hnone : storyOf ⟨n, p⟩ b = [] := hfits p
      rw [List.append_nil, hnone]
      exact .nothing
    | waiting f places reply =>
      obtain ⟨hnodup, -⟩ := recorded.placed f places reply hc
      refine habandoned (serves_withdrawSends n places h).2 fun p => ?_
      rw [storyOf_append]
      exact (resumes_abandoned n f places).fits hnodup (hfits p) reply
    | finished reply => exact ⟨fun p => by simpa using recorded.fits p, recorded.placed⟩
    | abandoned => exact ⟨fun p => by simpa using recorded.fits p, recorded.placed⟩

/-- A turn of a call tells of its own sends only. -/
theorem storyOf_callTurn (found : ∀ f places reply,
      h.calls[n]? = some (.waiting f places reply) → h.Found places)
    (roomFirst : Nat → Bool) {t : Ticket} (hne : t.call ≠ n) :
    storyOf t (h.entries (.turn (.call n) roomFirst)) = [] := by
  change storyOf t (callEntries { h with ready := h.ready.erase (.call n) } roomFirst n) = []
  rw [callEntries]
  cases hc : h.calls[n]? with
  | none => rfl
  | some c =>
    cases c with
    | requested r =>
      obtain ⟨b', ⟨f, places, left, reply, begins, -, -⟩, hstory⟩ :=
        starts_beginCall (h := { h with ready := h.ready.erase (.call n) }) hc
      refine (hstory t).trans (storyOf_eq_nil fun x hx ht => hne (begins.call_eq x hx ht))
    | waiting f places reply =>
      have resumes := resumes_resumeSends (h := { h with ready := h.ready.erase (.call n) })
        roomFirst n f (found f places reply hc)
      exact storyOf_eq_nil fun x hx ht => hne (resumes.call_eq x hx ht)
    | finished reply => rfl
    | abandoned => rfl

omit [Transport τ] in
theorem abandonEntries_call_eq (h : Hub τ) {t : Ticket} (hne : t.call ≠ n) :
    storyOf t (h.abandonEntries n) = [] := by
  rw [abandonEntries]
  split
  · rename_i f places reply hc
    exact storyOf_eq_nil fun x hx ht => hne ((resumes_abandoned n f places).call_eq x hx ht)
  · rfl

theorem recorded_step (recorded : ∀ n, h.Recorded n b) (e : Event τ) (n : Nat) :
    (h.step e).Recorded n (b ++ h.entries e) := by
  by_cases hturn : ∃ m roomFirst, e = .turn (.call m) roomFirst
  · obtain ⟨m, roomFirst, rfl⟩ := hturn
    by_cases hm : m = n
    · exact hm ▸ (recorded m).turn roomFirst
    · have hcalls : (h.step (.turn (.call m) roomFirst)).calls[n]? = h.calls[n]? :=
        getElem?_calls_callTurn_of_ne hm { h with ready := h.ready.erase (.call m) } roomFirst
      exact (recorded n).of_untold _ (fun c hc => .inl (hcalls ▸ hc)) (fun c hc => hcalls ▸ hc)
        fun p => storyOf_callTurn
          (fun f places reply hc => ((recorded m).placed f places reply hc).2) roomFirst
          fun h => hm h.symm
  by_cases habandon : ∃ m, e = .abandon m
  · obtain ⟨m, rfl⟩ := habandon
    by_cases hm : m = n
    · exact hm ▸ (recorded m).abandon
    · have hcalls : (h.step (.abandon m)).calls[n]? = h.calls[n]? := by
        change (h.abandon m).calls[n]? = _
        rcases calls_abandon h m with heq | heq
        · rw [heq]
        · rw [heq, List.getElem?_set_ne hm]
      exact (recorded n).of_untold _ (fun c hc => .inl (hcalls ▸ hc)) (fun c hc => hcalls ▸ hc)
        fun p => h.abandonEntries_call_eq fun h => hm h.symm
  · have hturn : ∀ m roomFirst, e ≠ .turn (.call m) roomFirst := fun m roomFirst he =>
      hturn ⟨m, roomFirst, he⟩
    have habandon : ∀ m, e ≠ .abandon m := fun m he => habandon ⟨m, he⟩
    have asks := asks_step hturn habandon h
    refine (recorded n).of_untold _ (fun c hc => asks.of_getElem? hc) (fun c hc => asks.getElem? hc)
      fun p => storyOf_eq_nil fun x hx ht => ?_
    rw [ticket?_entries hturn habandon h x hx] at ht
    cases ht

/-- A send waits: its frame is still to be put into the outbox of a connection. -/
def InLine (h : Hub τ) (id : String) (f : Frame) (t : Ticket) : Prop :=
  ∃ places reply, h.calls[t.call]? = some (.waiting f places reply) ∧ (id, t.place) ∈ places

/-- The story of a send up to now: if it has not come to its end, it is in line. -/
inductive Story (h : Hub τ) (t : Ticket) : List Entry → Prop
  | over {b : List Entry} (told : Told t b) : Story h t b
  | waits {id : String} {f : Frame} (inLine : h.InLine id f t) : Story h t [.sent id f t .waits]

omit [Transport τ] in
theorem Recorded.story {t : Ticket} (recorded : h.Recorded t.call b) : h.Story t (storyOf t b) := by
  have hfits := recorded.fits t.place
  change StoryFits t (storyOf t b) _ at hfits
  cases hc : h.calls[t.call]? with
  | none =>
    rw [hc] at hfits
    exact .over (hfits ▸ .nothing)
  | some c =>
    rw [hc] at hfits
    cases c with
    | requested r => exact .over (hfits ▸ .nothing)
    | waiting f places reply =>
      obtain ⟨hwaits, hover⟩ := hfits
      by_cases hid : ∃ id, (id, t.place) ∈ places
      · obtain ⟨id, hmem⟩ := hid
        rw [hwaits id hmem]
        exact .waits ⟨places, reply, hc, hmem⟩
      · exact .over (hover fun id hmem => hid ⟨id, hmem⟩)
    | finished reply => exact .over hfits
    | abandoned => exact .over hfits

end Hub

/-- **The book tells every story**, in every run. -/
theorem Run.recorded {τ : Type} [Transport τ] {h h' : Hub τ} {es : List (Event τ)} {b : List Entry}
    (run : Run h es h') (recorded : ∀ n, h.Recorded n b) (n : Nat) :
    h'.Recorded n (b ++ book h es) := by
  induction run generalizing b with
  | nil h =>
    rw [book, List.append_nil]
    exact recorded n
  | cons _ _ ih =>
    rw [book, ← List.append_assoc]
    exact ih (Hub.recorded_step recorded _)

end Switchboard
