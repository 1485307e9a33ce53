import Switchboard.Proofs.Handling
import Switchboard.Proofs.JsonObject
import Switchboard.Proofs.ReadBack

/-!
# The replies of the JSON protocol

Which frames are answered, and how, is told by `answer?`, which goes by the members of the object in
a text frame alone. The default handlers offer these answers and nothing else.

`protocol_replies` says of a connection that keeps the default handlers: the frames that its reader
takes are answered in their order, by one offer each; an offer that finds no room is counted as
dropped and leaves everything as it would be had there been no answer; and whatever strings a client
put into its frame, the answer is text that reads back as what was meant.

## Shape of the proof

`course_protocol` says what the protocol's handler can do with a frame, whatever answers it gets,
and `Hub.Acts.offered` what comes of it in a hub. That the connection keeps its handlers is an
induction over the run (`Run.defaults`); the offers of a run are then those of its dispatches, one
by one.
-/

namespace Switchboard

/-! ## Answers -/

/-- The name that a payload gives as its type: the last member of this name has to be a string. -/
def typeName? (payload : Bytes) : Option String :=
  (Json.members? payload).bind fun ms => (ms.reverse.lookup "type").bind Json.asString?

/-- The answer to a message with a type. -/
def ServerMessage.answerTo (name : String) : ServerMessage :=
  if name = "ping" then .pong
  else .error "UNSUPPORTED_MESSAGE" (Json.unknownVariant name ["ping"])

/-- The answer to a frame, if there is one. -/
def answer? (f : Frame) : Option ServerMessage :=
  if f.kind = .text then (typeName? f.payload).map ServerMessage.answerTo else none

/-- The frame that holds the answer to a frame. -/
def replyFrame? (f : Frame) : Option Frame := (answer? f).map fun m => .ofText m.print

/-- Which frames are answered, and how. -/
structure Frame.Answers (f : Frame) : Prop where
  notText : f.kind ≠ .text → answer? f = none
  notJson : ∀ e, Json.parse f.payload = .error e → answer? f = none
  notObject : ∀ v, Json.parse f.payload = .ok v → v.NoObject → answer? f = none
  /-- An object is known by the members that its text gives, in their order. -/
  object : ∀ v, Json.parse f.payload = .ok v → v.NoObject ∨
    ∃ ms, Json.members? f.payload = some ms ∧ v = .ofMembers ms
  untyped : ∀ ms, Json.members? f.payload = some ms →
    (∀ name, ms.reverse.lookup "type" ≠ some (.string name)) → answer? f = none
  ping : ∀ ms, Json.members? f.payload = some ms → f.kind = .text →
    ms.reverse.lookup "type" = some (.string "ping") → answer? f = some .pong
  other : ∀ ms name, Json.members? f.payload = some ms → f.kind = .text →
    ms.reverse.lookup "type" = some (.string name) → name ≠ "ping" →
      answer? f = some (.error "UNSUPPORTED_MESSAGE" (Json.unknownVariant name ["ping"]))

theorem Frame.answers (f : Frame) : f.Answers where
  notText hkind := if_neg hkind
  notJson e he := by
    cases hms : Json.members? f.payload with
    | none => simp [answer?, typeName?, hms]
    | some ms => cases he.symm.trans (Json.parse_of_members? hms)
  notObject v hv hno := by
    cases hms : Json.members? f.payload with
    | none => simp [answer?, typeName?, hms]
    | some ms =>
      obtain rfl := Except.ok.inj (hv.symm.trans (Json.parse_of_members? hms))
      exact absurd hno id
  object v hv := by
    rcases Json.parse_cases f.payload with ⟨⟨e, he⟩, -⟩ | ⟨⟨v', hv', hno⟩, -⟩ | ⟨ms, hms, hok⟩
    · rw [hv] at he
      cases he
    · obtain rfl := Except.ok.inj (hv.symm.trans hv')
      exact .inl hno
    · exact .inr ⟨ms, hms, Except.ok.inj (hv.symm.trans hok)⟩
  untyped ms hms huntyped := by
    have hnone : (ms.reverse.lookup "type").bind Json.asString? = none := by
      cases htype : ms.reverse.lookup "type" with
      | none => rfl
      | some v =>
        cases v with
        | string name => exact absurd htype (huntyped name)
        | _ => rfl
    simp [answer?, typeName?, hms, hnone]
  ping ms hms hkind htype := by
    simp [answer?, typeName?, hms, hkind, htype, Json.asString?, ServerMessage.answerTo]
  other ms name hms hkind htype hname := by
    simp [answer?, typeName?, hms, hkind, htype, Json.asString?, ServerMessage.answerTo, hname]

/-- What the protocol makes of a payload is its type and nothing else. -/
theorem recognize_eq (payload : Bytes) :
    ClientMessage.recognize payload = match typeName? payload with
      | none => .foreign
      | some name =>
        if name = "ping" then .message .ping
        else .unsupported (Json.unknownVariant name ClientMessage.variants) := by
  rw [ClientMessage.recognize, typeName?]
  rcases Json.parse_cases payload with ⟨⟨e, he⟩, hnone⟩ | ⟨⟨v, hv, hno⟩, hnone⟩ | ⟨ms, hms, hok⟩
  · rw [he, hnone]
    rfl
  · rw [hv, hnone]
    cases v with
    | object => exact absurd hno id
    | _ => rfl
  · rw [hok, hms, Option.bind_some]
    dsimp only
    rw [Json.get?_ofMembers]
    rfl

/-! ## Answers read back -/

namespace ServerMessage

/-- The name of a message and its other members. -/
def parts : ServerMessage → String × List (String × String)
  | .pong => ("pong", [])
  | .error code message => ("error", [("code", code), ("message", message)])

/-- Whoever reads an answer gets what was meant: it is text, a JSON object with these members and no
others, and the message that was written. -/
structure ReadsBack (m : ServerMessage) : Prop where
  text : (Frame.ofText m.print).kind = .text ∧ (Frame.ofText m.print).text? = some m.print
  sendable : (Frame.ofText m.print).isSendable = true
  object : Json.parse (Frame.ofText m.print).payload =
    .ok (.ofMembers (("type", .string m.parts.1) :: m.parts.2.map fun x => (x.1, .string x.2)))
  message : ServerMessage.parse (Frame.ofText m.print).payload = .ok m

theorem toList_print (m : ServerMessage) :
    m.print.toList = Json.taggedText m.parts.1 m.parts.2 := by
  have hhead : "\x7b\"type\":\"error\"".toList =
      '\x7b' :: (Json.stringText "type" ++ ':' :: Json.stringText "error") := by decide
  cases m with
  | pong =>
    change "\x7b\"type\":\"pong\"\x7d".toList = Json.taggedText "pong" []
    decide
  | error code message =>
    change (String.ofList ("\x7b\"type\":\"error\"".toList ++ memberText "code" code ++
      memberText "message" message ++ ['\x7d'])).toList = _
    rw [String.toList_ofList, hhead]
    simp [parts, Json.taggedText, Json.Reader.memberTexts, Json.Tagged.tagKey]

theorem encode_print (m : ServerMessage) :
    Utf8.encode m.print = Utf8.spelling (Json.taggedText m.parts.1 m.parts.2) := by
  rw [Utf8.encode, toList_print, Utf8.spelling]

theorem readsBack (m : ServerMessage) : m.ReadsBack where
  text := ⟨rfl, Utf8.decode?_encode m.print⟩
  sendable := by
    rw [Frame.isSendable, Frame.ofText, Utf8.isValid_encode]
    rfl
  object := by
    rw [Frame.ofText, encode_print]
    exact Json.parse_taggedText _ _
  message := by
    have htag : m.parts.1 ∈ variants := by cases m <;> simp [parts, variants]
    have hkeys : ∀ x ∈ m.parts.2, x.1 ≠ Json.Tagged.tagKey := by
      cases m <;> simp [parts, Json.Tagged.tagKey]
    rw [Frame.ofText, parse, encode_print, Json.read_taggedText "ServerMessage" htag hkeys]
    cases m with
    | pong => simp [parts, Json.Tagged.unit, Except.mapError]
    | error code message =>
      simp [parts, Json.Reader.stringMembers, Json.Tagged.stringPair, Json.Tagged.collect,
        Json.Tagged.stringPart, Except.mapError, bind, Except.bind, pure, Except.pure,
        List.lookup_cons]

end ServerMessage

/-! ## What the default handlers do -/

/-- The frame that an action offers. -/
def Action.offer? : Action → Option Frame
  | .offered f _ => some f
  | _ => none

/-- Whether an action does no more than log. -/
def Action.IsLog : Action → Prop
  | .logged _ => True
  | _ => False

/-- The frames that the handlers of a connection offer to it in an episode. -/
def Episode.offers (id : String) : Episode → List Frame
  | .dispatched d _ is =>
    if d = id then (is.flatMap Invocation.actions).filterMap Action.offer? else []
  | _ => []

/-- A script leaves the handlers of its connection as they are, whatever answers it gets. -/
def Script.KeepsHandlers (script : Script) : Prop :=
  ∀ as p?, script.Course as p? → ∀ a ∈ as, ∀ hs, a.amend hs = hs

/-- Actions that log, and offer a frame if there is one. -/
structure LogsAndOffers (g? : Option Frame) (as : List Action) : Prop where
  exists_eq : ∃ sent before after, as = before ++ (g?.toList.map (.offered · sent) ++ after) ∧
    (∀ a ∈ before, a.IsLog) ∧ ∀ a ∈ after, a.IsLog

section Courses

variable {member : Member} {f : Frame} {g? : Option Frame} {as : List Action}
  {p? : Option Panic} {m : ServerMessage}

theorem offer?_eq_none_of_isLog {a : Action} (ha : a.IsLog) : a.offer? = none := by
  cases a <;> first | rfl | exact absurd ha id

theorem amend_of_isLog {a : Action} (ha : a.IsLog) (hs : List Handler) : a.amend hs = hs := by
  cases a <;> first | rfl | exact absurd ha id

theorem LogsAndOffers.log (logs : LogsAndOffers g? as) (e : LogEvent) :
    LogsAndOffers g? (.logged e :: as) := by
  obtain ⟨sent, before, after, rfl, hbefore, hafter⟩ := logs
  refine ⟨sent, .logged e :: before, after, rfl, fun a ha => ?_, hafter⟩
  rcases List.mem_cons.mp ha with rfl | ha
  · trivial
  · exact hbefore a ha

theorem logsAndOffers_nil : LogsAndOffers none [] :=
  ⟨false, [], [], rfl, fun _ ha => absurd ha List.not_mem_nil,
    fun _ ha => absurd ha List.not_mem_nil⟩

theorem LogsAndOffers.append {as' : List Action} (first : LogsAndOffers none as)
    (second : LogsAndOffers g? as') : LogsAndOffers g? (as ++ as') := by
  obtain ⟨_, before, after, rfl, hbefore, hafter⟩ := first
  obtain ⟨sent, before', after', rfl, hbefore', hafter'⟩ := second
  refine ⟨sent, before ++ after ++ before', after', by simp, fun a ha => ?_, hafter'⟩
  rcases List.mem_append.mp ha with ha | ha
  · exact (List.mem_append.mp ha).elim (hbefore a) (hafter a)
  · exact hbefore' a ha

theorem LogsAndOffers.filterMap_eq (logs : LogsAndOffers g? as) :
    as.filterMap Action.offer? = g?.toList := by
  obtain ⟨sent, before, after, rfl, hbefore, hafter⟩ := logs
  have hnone : ∀ {logs : List Action}, (∀ a ∈ logs, a.IsLog) → logs.filterMap Action.offer? = [] :=
    fun hlogs => List.filterMap_eq_nil_iff.mpr fun a ha => offer?_eq_none_of_isLog (hlogs a ha)
  rw [List.filterMap_append, List.filterMap_append, hnone hbefore, hnone hafter]
  cases g? <;> rfl

theorem LogsAndOffers.amend_eq (logs : LogsAndOffers g? as) {a : Action} (ha : a ∈ as)
    (hs : List Handler) : a.amend hs = hs := by
  obtain ⟨sent, before, after, rfl, hbefore, hafter⟩ := logs
  rcases List.mem_append.mp ha with ha | ha
  · exact amend_of_isLog (hbefore a ha) hs
  rcases List.mem_append.mp ha with ha | ha
  · obtain ⟨g, -, rfl⟩ := List.mem_map.mp ha
    rfl
  · exact amend_of_isLog (hafter a ha) hs

theorem course_reply (course : (Handler.reply member m .done).Course as p?) :
    p? = none ∧ LogsAndOffers (some (.ofText m.print)) as := by
  cases course with
  | trySend sent rest =>
    have hlogs : ∀ {logs : List Action}, (∀ a ∈ logs, a.IsLog) →
        LogsAndOffers (some (.ofText m.print)) (.offered (.ofText m.print) sent :: logs) :=
      fun hlogs => ⟨sent, [], _, rfl, fun _ ha => absurd ha List.not_mem_nil, hlogs⟩
    cases sent with
    | true =>
      cases rest with
      | done => exact ⟨rfl, hlogs fun _ ha => absurd ha List.not_mem_nil⟩
    | false =>
      cases rest with
      | log rest =>
        cases rest with
        | done =>
          refine ⟨rfl, hlogs fun a ha => ?_⟩
          obtain rfl := List.mem_singleton.mp ha
          trivial

/-- **The protocol's handler** offers the answer to a frame, if there is one, and logs. -/
theorem course_protocol (course : (Handler.protocol member f).Course as p?) :
    p? = none ∧ LogsAndOffers (replyFrame? f) as := by
  rw [Handler.protocol] at course
  by_cases hkind : f.kind = .text
  · rw [if_neg (not_not.mpr hkind), recognize_eq] at course
    rw [replyFrame?, answer?, if_pos hkind]
    cases hname : typeName? f.payload with
    | none =>
      rw [hname] at course
      cases course with
      | log rest =>
        cases rest with
        | done => exact ⟨rfl, logsAndOffers_nil.log _⟩
    | some name =>
      rw [hname] at course
      dsimp only at course
      rw [Option.map_some, Option.map_some, ServerMessage.answerTo]
      by_cases hping : name = "ping"
      · rw [if_pos hping] at course ⊢
        exact course_reply course
      · rw [if_neg hping] at course ⊢
        cases course with
        | log rest =>
          obtain ⟨hpanic, logs⟩ := course_reply rest
          exact ⟨hpanic, logs.log _⟩
  · rw [if_pos hkind] at course
    rw [replyFrame?, answer?, if_neg hkind]
    cases course with
    | done => exact ⟨rfl, logsAndOffers_nil⟩

theorem course_logInbound (course : (Handler.logInbound member f).Course as p?) :
    p? = none ∧ LogsAndOffers none as := by
  cases course with
  | log rest =>
    cases rest with
    | done => exact ⟨rfl, logsAndOffers_nil.log _⟩

end Courses

namespace Outbox

/-- An outbox after a frame, if there is one, was offered to it. -/
def offered (o : Outbox) : Option Frame → Outbox
  | some f => if o.hasRoom then o.put f else o
  | none => o

/-- Whether an outbox has no room for a frame, if there is one. -/
def turnsDown (o : Outbox) : Option Frame → Bool
  | some _ => !o.hasRoom
  | none => false

end Outbox

namespace Hub

variable {τ : Type} {h h' h₁ : Hub τ} {id : String} {member : Member} {f : Frame} {index : Nat}
  {is : List Invocation} {as : List Action} {g? : Option Frame} {a : Action}

/-- Handlers that do not panic do what they do one after another. -/
theorem Invokes.acts (invokes : Invokes member f index h is h')
    (hpanics : ∀ i ∈ is, i.panic? = none) :
    Acts member.id h (is.flatMap Invocation.actions) h' := by
  have happend : ∀ {as as' : List Action} {h h₁ h' : Hub τ}, Acts member.id h as h₁ →
      Acts member.id h₁ as' h' → Acts member.id h (as ++ as') h' := fun first second => by
    induction first with
    | nil => exact second
    | cons answers _ ih => exact .cons answers (ih second)
  induction invokes with
  | nil => exact .nil _
  | @cons index h h₁ h' i is _ acts _ ih =>
    have hrest := ih fun j hj => hpanics j (List.mem_cons_of_mem _ hj)
    rw [hpanics i List.mem_cons_self] at hrest
    exact happend acts hrest

theorem Invokes.course (invokes : Invokes member f index h is h') {i : Invocation} (hi : i ∈ is) :
    (i.handler member f).Course i.actions i.panic? := by
  induction invokes with
  | nil => exact absurd hi List.not_mem_nil
  | cons course _ _ ih =>
    rcases List.mem_cons.mp hi with rfl | hi
    · exact course
    · exact ih hi

/-- **The default handlers** offer the answer to a frame, if there is one, and log. -/
theorem Invokes.logsAndOffers (invokes : Invokes member f index h is h')
    (hdefaults : is.map Invocation.handler = Handler.defaults) :
    (∀ i ∈ is, i.panic? = none) ∧
      LogsAndOffers (replyFrame? f) (is.flatMap Invocation.actions) := by
  obtain ⟨i, rest, rfl, hi, hrest⟩ := List.map_eq_cons_iff.mp hdefaults
  obtain ⟨j, rest, rfl, hj, hrest⟩ := List.map_eq_cons_iff.mp hrest
  obtain rfl := List.map_eq_nil_iff.mp hrest
  have course := invokes.course (i := i) List.mem_cons_self
  have course' := invokes.course (i := j) (List.mem_cons_of_mem _ List.mem_cons_self)
  rw [hi] at course
  rw [hj] at course'
  obtain ⟨hpanic, logs⟩ := course_logInbound course
  obtain ⟨hpanic', logs'⟩ := course_protocol course'
  refine ⟨by simp [hpanic, hpanic'], ?_⟩
  simpa using logs.append logs'

/-- A frame, if there is one, was offered to a connection, and nothing else was done to any. -/
structure Offered (c : Connection τ) (g? : Option Frame) (h h' : Hub τ) : Prop where
  conn : h'.find? c.id = some { c with outbox := c.outbox.offered g? }
  others : ∀ d, d ≠ c.id → h'.find? d = h.find? d
  dropped : h'.metrics.dropped = h.metrics.dropped + if c.outbox.turnsDown g? then 1 else 0

theorem Acts.of_logs (acts : Acts id h as h') (hlogs : ∀ a ∈ as, a.IsLog) :
    ∃ log, h' = { h with log } := by
  induction acts with
  | nil => exact ⟨_, rfl⟩
  | @cons h h' a as _ _ ih =>
    obtain ⟨log, rfl⟩ := ih fun b hb => hlogs b (List.mem_cons_of_mem _ hb)
    cases a with
    | logged e => exact ⟨log, rfl⟩
    | _ => exact (hlogs _ List.mem_cons_self).elim

theorem Acts.split {as' : List Action} (acts : Acts id h (as ++ as') h') :
    ∃ h₁, Acts id h as h₁ ∧ Acts id h₁ as' h' := by
  induction as generalizing h with
  | nil => exact ⟨h, .nil h, acts⟩
  | cons a as ih =>
    cases acts with
    | cons answers rest =>
      obtain ⟨h₁, first, second⟩ := ih rest
      exact ⟨h₁, .cons answers first, second⟩

theorem offered_trySend {c : Connection τ} (hc : h.find? c.id = some c) (halive : c.alive = true)
    (f : Frame) : Offered c (some f) h (h.trySend c.id f).2 := by
  rw [trySend, hc]
  dsimp only
  rw [halive, Bool.true_and]
  cases hroom : c.outbox.hasRoom with
  | true =>
    obtain ⟨ready, heq, -⟩ := rouses_wakeWriter
      ((h.update c.id fun c => { c with outbox := c.outbox.put f }).record
        (.entered c.id f .offer)) c.id
    rw [if_pos rfl, putFrame, enter, heq]
    refine ⟨?_, fun d hd => ?_, ?_⟩
    · rw [Outbox.offered, if_pos hroom]
      exact find?_update_self hc fun _ => rfl
    · have hput := find?_update (f := fun c => { c with outbox := c.outbox.put f }) (fun _ => rfl)
        h c.id d
      exact hput.trans (if_neg hd)
    · rw [Outbox.turnsDown, hroom]
      rfl
  | false =>
    rw [if_neg Bool.false_ne_true]
    refine ⟨?_, fun _ _ => rfl, ?_⟩
    · rw [Outbox.offered, if_neg (by simp [hroom])]
      exact hc
    · rw [Outbox.turnsDown, hroom]
      rfl

/-- What comes of actions that log, and offer a frame if there is one. -/
theorem Acts.offered {c : Connection τ} (acts : Acts c.id h as h') (logs : LogsAndOffers g? as)
    (hc : h.find? c.id = some c) (halive : c.alive = true) : Offered c g? h h' := by
  obtain ⟨sent, before, after, rfl, hbefore, hafter⟩ := logs
  obtain ⟨h₁, first, rest⟩ := acts.split
  obtain ⟨h₂, second, third⟩ := rest.split
  obtain ⟨log₁, rfl⟩ := first.of_logs hbefore
  obtain ⟨log₂, rfl⟩ := third.of_logs hafter
  cases g? with
  | none =>
    cases second
    exact ⟨hc, fun _ _ => rfl, rfl⟩
  | some g =>
    cases second with
    | cons answers rest =>
      cases rest
      have offered := offered_trySend (h := { h with log := log₁ }) hc halive g
      exact ⟨offered.conn, offered.others, offered.dropped⟩

/-- The reader of a connection took a frame for the default handlers, which answered it, and is
ready for the next one. -/
structure Answered [Transport τ] (c : Connection τ) (f : Frame) (h h' : Hub τ) : Prop where
  taken : c.alive = true ∧ c.dispatched? h.now h.config = some f
  /-- Besides its link, only its outbox has changed, and that only if the answer has found room. -/
  conn : h'.find? c.id = some { c with
    link := (Transport.receive h.now c.link).2
    outbox := c.outbox.offered (replyFrame? f) }
  others : ∀ d, d ≠ c.id → h'.find? d = h.find? d
  dropped : h'.metrics.dropped =
    h.metrics.dropped + if c.outbox.turnsDown (replyFrame? f) then 1 else 0
  ready : .reader c.id ∈ h'.ready

variable [Transport τ]

theorem Dispatches.answered (dispatches : Dispatches id f is h h') {c : Connection τ}
    (hc : h.find? id = some c) (hdefaults : c.handlers = Handler.defaults) :
    Answered c f h h' ∧ LogsAndOffers (replyFrame? f) (is.flatMap Invocation.actions) := by
  obtain ⟨c', h₁, hc', halive, hf, hmap, invokes, rfl⟩ := dispatches
  obtain rfl := Option.some.inj (hc.symm.trans hc')
  obtain rfl := id_of_find? hc
  obtain ⟨hpanics, logs⟩ := invokes.logsAndOffers (hmap.trans hdefaults)
  have hreceived : (({ h with ready := h.ready.erase (.reader c.id) } : Hub τ).received c f).find?
      c.id = some { c with link := (Transport.receive h.now c.link).2 } :=
    find?_update_self (h := { h with ready := h.ready.erase (.reader c.id) }) hc fun _ => rfl
  have offered := (invokes.acts hpanics).offered
    (c := { c with link := (Transport.receive h.now c.link).2 }) logs hreceived halive
  refine ⟨⟨⟨halive, hf⟩, offered.conn, fun d hd => (offered.others d hd).trans ?_, offered.dropped,
    List.mem_cons_self⟩, logs⟩
  exact (find?_update (h := { h with ready := h.ready.erase (.reader c.id) })
    (f := fun y => { y with link := (Transport.receive h.now c.link).2 }) (fun _ => rfl)
    c.id d).trans (if_neg hd)

end Hub

/-! ## Connections that keep their handlers -/

section Keeping

variable {id d : String} {hs : List Handler}

theorem Rota.handlers?_amend_of_ne (hne : d ≠ id) (r : Rota) (a : Action) :
    (r.amend d a).handlers? id = r.handlers? id := by
  rw [handlers?, handlers?, amend, List.find?_map, Option.map_map]
  have hpred : ((fun x : Member × List Handler => decide (x.1.id = id)) ∘
      fun x => if x.1.id = d then (x.1, a.amend x.2) else x) = fun x => decide (x.1.id = id) := by
    funext x
    rw [Function.comp_apply]
    split <;> rfl
  rw [hpred]
  cases hx : r.lists.find? fun x => decide (x.1.id = id) with
  | none => rfl
  | some x =>
    have hid : ¬ x.1.id = d := by
      have hfound := List.find?_some hx
      exact fun h => hne (h.symm.trans (of_decide_eq_true hfound))
    rw [Option.map_some, Option.map_some, Function.comp_apply, if_neg hid]

theorem Rota.handlers?_foldl_amend {as : List Action}
    (has : d = id → ∀ a ∈ as, ∀ hs, a.amend hs = hs) (r : Rota) :
    (as.foldl (amend d) r).handlers? id = r.handlers? id := by
  induction as generalizing r with
  | nil => rfl
  | cons a rest ih =>
    have hfirst : (r.amend d a).handlers? id = r.handlers? id := by
      by_cases hd : d = id
      · rw [amend_eq_self (has hd a List.mem_cons_self)]
      · exact handlers?_amend_of_ne hd r a
    rw [List.foldl_cons, ih fun hd b hb => has hd b (List.mem_cons_of_mem _ hb), hfirst]

theorem Rota.handlers?_foldl_call {is : List Invocation}
    (his : d = id → ∀ a ∈ is.flatMap Invocation.actions, ∀ hs, a.amend hs = hs) (r : Rota) :
    (is.foldl (call d) r).handlers? id = r.handlers? id := by
  induction is generalizing r with
  | nil => rfl
  | cons i rest ih =>
    rw [List.flatMap_cons] at his
    have hrest := ih (fun hd a ha => his hd a (List.mem_append_right _ ha)) (r.call d i)
    exact hrest.trans (handlers?_foldl_amend
      (fun hd a ha => his hd a (List.mem_append_left _ ha)) r)

theorem Rota.handlers?_enroll {r : Rota} (hr : r.handlers? id = some hs) (m : Member)
    (others : List Handler) : (r.enroll m others).handlers? id = some hs := by
  rw [handlers?] at hr ⊢
  obtain ⟨x, hx, rfl⟩ := Option.map_eq_some_iff.mp hr
  rw [enroll, List.find?_append, hx]
  rfl

end Keeping

section Runs

variable {τ : Type} [Transport τ] {h h' : Hub τ} {es : List (Event τ)} {e : Event τ} {id : String}

/-- A connection with the default handlers keeps them in an event, unless a script that is run on
its behalf changes them. -/
theorem Hub.defaults_step (hdefaults : h.rota.handlers? id = some Handler.defaults)
    (hkept : ∀ script, e = .act id script → script.KeepsHandlers) :
    (h.step e).rota.handlers? id = some Handler.defaults := by
  rw [Hub.rota_step]
  cases hx : h.episode? e with
  | none => exact hdefaults
  | some x =>
    change (h.rota.after x).handlers? id = _
    cases x with
    | opened m others => exact Rota.handlers?_enroll hdefaults m others
    | scripted d as p? =>
      obtain ⟨script, rfl, -⟩ := Hub.acts_of_episode? hx
      obtain ⟨-, rfl, rfl⟩ := Episode.scripted.inj (Option.some.inj hx)
      refine (Rota.handlers?_foldl_amend (fun hd => ?_) h.rota).trans hdefaults
      subst hd
      exact hkept script rfl _ _ (Hub.acts_runScript d script h).1
    | dispatched d f is =>
      refine (Rota.handlers?_foldl_call (fun hd a ha => ?_) h.rota).trans hdefaults
      subst hd
      have dispatches := Hub.dispatches_of_episode? hx
      obtain ⟨c, -, hc, -⟩ := dispatches
      rw [Hub.handlers?_rota, hc, Option.map_some, Option.some.injEq] at hdefaults
      exact ((Hub.dispatches_of_episode? hx).answered hc hdefaults).2.amend_eq ha

theorem Run.defaults (run : Run h es h') (hdefaults : h.rota.handlers? id = some Handler.defaults)
    (hkept : ∀ script, .act id script ∈ es → script.KeepsHandlers) :
    h'.rota.handlers? id = some Handler.defaults := by
  induction run with
  | nil => exact hdefaults
  | cons _ _ ih =>
    refine ih (Hub.defaults_step hdefaults ?_) fun script hmem =>
      hkept script (List.mem_cons_of_mem _ hmem)
    rintro script rfl
    exact hkept script List.mem_cons_self

/-- The default handlers offer the answer to the frame of an episode, if there is one. -/
theorem Hub.offers_episode? (hdefaults : h.rota.handlers? id = some Handler.defaults) :
    (h.episode? e).toList.flatMap (Episode.offers id) =
      ((h.episode? e).toList.filterMap (Episode.frame? id)).filterMap replyFrame? := by
  cases hx : h.episode? e with
  | none => rfl
  | some x =>
    cases x with
    | opened | scripted => rfl
    | dispatched d f is =>
      by_cases hd : d = id
      · subst hd
        obtain ⟨c, -, hc, -⟩ := Hub.dispatches_of_episode? hx
        rw [Hub.handlers?_rota, hc, Option.map_some, Option.some.injEq] at hdefaults
        have logs := ((Hub.dispatches_of_episode? hx).answered hc hdefaults).2
        simp only [Option.toList_some, List.flatMap_cons, List.flatMap_nil, List.append_nil,
          Episode.offers, if_true, logs.filterMap_eq, List.filterMap_cons, Episode.frame?,
          List.filterMap_nil]
        cases replyFrame? f <;> rfl
      · simp [Episode.offers, Episode.frame?, hd]

theorem Run.offers_eq (run : Run h es h')
    (hdefaults : h.rota.handlers? id = some Handler.defaults)
    (hkept : ∀ script, .act id script ∈ es → script.KeepsHandlers) :
    (episodes h es).flatMap (Episode.offers id) =
      ((episodes h es).filterMap (Episode.frame? id)).filterMap replyFrame? := by
  induction run with
  | nil => rfl
  | cons _ _ ih =>
    rw [episodes, List.flatMap_append, List.filterMap_append, List.filterMap_append,
      Hub.offers_episode? hdefaults]
    refine congrArg _ (ih (Hub.defaults_step hdefaults ?_) fun script hmem =>
      hkept script (List.mem_cons_of_mem _ hmem))
    rintro script rfl
    exact hkept script List.mem_cons_self

/-- What the handlers of the connection `id` answer in a run with the events `es`. -/
structure Hub.Replies (id : String) (h : Hub τ) (es : List (Event τ)) : Prop where
  /-- The frames that handlers are given are those that the reader takes. -/
  frames : (episodes h es).filterMap (Episode.frame? id) =
    (readerActs id h es).filterMap fun x => x.2.frame?
  /-- One offer is made for each frame that is answered, in the order of the frames. -/
  offers : (episodes h es).flatMap (Episode.offers id) =
    ((episodes h es).filterMap (Episode.frame? id)).filterMap replyFrame?
  /-- What comes of an answer. -/
  answered : ∀ {before after f is}, episodes h es = before ++ .dispatched id f is :: after →
    ∃ es₁ e es₂ g c, es = es₁ ++ e :: es₂ ∧ Run h es₁ g ∧ episodes h es₁ = before ∧
      g.find? id = some c ∧ g.Answered c f (g.step e)

/-- **The JSON protocol.** A connection that keeps the default handlers answers those text frames
that hold an object whose last member `type` is a string: a pong if that is `ping`, an error
otherwise. The answers are offered in the order of the frames, once each; one that finds no room is
counted as dropped, once, and nothing else comes of it. Every answer is text that reads back as what
was meant. -/
theorem protocol_replies (run : Run h es h') {c : Connection τ} (hc : h.find? id = some c)
    (hdefaults : c.handlers = Handler.defaults)
    (hkept : ∀ script, .act id script ∈ es → script.KeepsHandlers) :
    Hub.Replies id h es ∧ (∀ f : Frame, f.Answers) ∧ ∀ m : ServerMessage, m.ReadsBack := by
  have hdefaults : h.rota.handlers? id = some Handler.defaults := by
    rw [Hub.handlers?_rota, hc, Option.map_some, hdefaults]
  refine ⟨⟨filterMap_frame?_episodes id h es, run.offers_eq hdefaults hkept, ?_⟩, Frame.answers,
    ServerMessage.readsBack⟩
  intro before after f is heq
  obtain ⟨es₁, e, es₂, g, rfl, first, he, -, hbefore, -⟩ := run.exists_split_of_episodes heq
  have dispatches := Hub.dispatches_of_episode? he
  obtain ⟨c', -, hc', -⟩ := dispatches
  have hkeeps := first.defaults hdefaults fun script hmem =>
    hkept script (List.mem_append_left _ hmem)
  rw [Hub.handlers?_rota, hc', Option.map_some, Option.some.injEq] at hkeeps
  exact ⟨es₁, e, es₂, g, c', rfl, first, hbefore, hc',
    ((Hub.dispatches_of_episode? he).answered hc' hkeeps).1⟩

end Runs

/-- A connection with the default handlers and room for one frame. -/
def roomForOne : Hub MemoryLink :=
  (Hub.initial {} .listed [] 0 0 : Hub MemoryLink).step
    (.upgrade "a" (.ok {}) { capacity := some 1, handlers := Handler.defaults })

/-- A peer that says something unknown, and then pings, before anything has been sent. -/
def asksTwice : List (Event MemoryLink) :=
  [.peer "a" (.sends (.ofText "\x7b\"type\":\"a\\\"\"\x7d")),
    .peer "a" (.sends ⟨.binary, []⟩), .peer "a" (.sends (.ofText "\x7b\"type\":\"ping\"\x7d")),
    .turn (.reader "a") Hub.teardownFirst, .turn (.reader "a") Hub.teardownFirst,
    .turn (.reader "a") Hub.teardownFirst, .turn (.reader "a") Hub.teardownFirst]

theorem protocol_replies_of_asksTwice :
    (episodes roomForOne asksTwice).flatMap (Episode.offers "a") =
      [.ofText (ServerMessage.error "UNSUPPORTED_MESSAGE"
        "unknown variant `a\"`, expected `ping`").print, .ofText ServerMessage.pong.print] ∧
      (asksTwice.foldl Hub.step roomForOne).metrics.dropped = 1 := by
  have run : Run roomForOne asksTwice (asksTwice.foldl Hub.step roomForOne) :=
    .of_allowed (by decide +kernel)
  obtain ⟨c, hc⟩ : ∃ c, roomForOne.find? "a" = some c := ⟨_, rfl⟩
  obtain ⟨replies, -, -⟩ := protocol_replies run hc (by obtain rfl := Option.some.inj hc; rfl)
    (by simp [asksTwice])
  refine ⟨?_, by decide +kernel⟩
  rw [replies.offers, replies.frames]
  decide +kernel

end Switchboard
