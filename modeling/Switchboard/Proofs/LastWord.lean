import Switchboard.Proofs.Closing
import Switchboard.Proofs.Speech

/-!
# What comes after a close frame

A hub says goodbye by a close frame, and after that it hands nothing over to the link. A close frame
from the outbox it passes on as any other frame, so that others may follow if the link takes them; a
link within the process does (`closesTwice`). A web socket refuses what comes after a close frame,
whoever sent that: its peer receives nothing more but, at most, one pong that was owed before
(`close_is_last`).

## Shape of the proof

What is handed over to the link of a connection is a `Speech`, whatever the link. That of a web
socket is watched from the beginning on: `SocketLink.Attests` says what the notes of its sink tell
of it, and each use of the link and each act of its peer keeps that true.
-/

namespace Switchboard

/-- A close frame begins to be handed over. -/
def SinkAct.IsClose : SinkAct → Prop
  | .send f _ => f.kind = .close
  | .resume _ | .close _ | .release => False

/-- If a frame begins to be handed over, it is refused. -/
def SinkAct.IsRefused : SinkAct → Prop
  | .send _ p => ∃ e, p = .failed e
  | .resume _ | .close _ | .release => True

/-! ## A watched web socket -/

namespace SocketLink

variable {s s' : SocketLink} {acts : List (Nat × SinkAct)} {act : SinkAct} {now : Nat}

/-- What was done with the sink of a web socket, and what that says of it. -/
structure Attests (acts : List (Nat × SinkAct)) (s : SocketLink) : Prop where
  concludes : s.Concludes
  refused : acts.Pairwise fun a b => a.2.IsClose → b.2.IsRefused
  closing : ∀ a ∈ acts, a.2.IsClose → s.closing ≠ .open

theorem Fresh.attests (fresh : s.Fresh) : s.Attests [] where
  concludes := fresh.concludes
  refused := .nil
  closing _ ha := absurd ha List.not_mem_nil

/-- Something that is not noted. -/
theorem Attests.aside (attests : s.Attests acts) (concludes : s'.Concludes)
    (hclosing : s.closing ≠ .open → s'.closing ≠ .open) : s'.Attests acts :=
  { attests with concludes, closing := fun a ha hclose => hclosing (attests.closing a ha hclose) }

/-- Something more is done with the sink. -/
theorem Attests.note (attests : s.Attests acts) (concludes : s'.Concludes)
    (hclosing : s.closing ≠ .open → s'.closing ≠ .open)
    (hrefused : s.closing ≠ .open → act.IsRefused) (hclose : act.IsClose → s'.closing ≠ .open) :
    s'.Attests (acts ++ [(now, act)]) where
  concludes := concludes
  refused := by
    refine List.pairwise_append.mpr ⟨attests.refused, List.pairwise_singleton _ _, ?_⟩
    intro a ha b hb hisClose
    rw [List.mem_singleton.mp hb]
    exact hrefused (attests.closing a ha hisClose)
  closing a ha hisClose := by
    rcases List.mem_append.mp ha with ha | ha
    · exact hclosing (attests.closing a ha hisClose)
    · rw [List.mem_singleton.mp ha] at hisClose
      exact hclose hisClose

end SocketLink

/-- If the link is a web socket, the notes say of it what is true. -/
def Watched.Attested (w : Watched Link) : Prop := ∀ s, w.link = .socket s → s.Attests w.acts

open SocketLink in
/-- Whatever a connection does with a watched link, the notes stay true. -/
theorem Watched.keeps_attested : Transport.Keeps Watched.Attested where
  -- Of a link that is no web socket nothing is attested. The sink's acts are noted, those of the
  -- stream are not.
  send now f w attested s' hs' := by
    obtain ⟨link, acts⟩ := w
    cases link with
    | socket s =>
      obtain rfl := Link.socket.inj hs'
      refine (attested s rfl).note (concludes_send (attested s rfl).concludes now f)
        (fun hclosing => keeps_closing.send now f hclosing) (fun hclosing => ?_)
        fun hclose => closing_send_of_close hclose now s
      obtain ⟨e, heq⟩ := send_of_closing hclosing now f
      exact ⟨e, congrArg Prod.fst heq⟩
    | memory m | scripted t => cases hs'
  resume now w attested s' hs' := by
    obtain ⟨link, acts⟩ := w
    cases link with
    | socket s =>
      obtain rfl := Link.socket.inj hs'
      exact (attested s rfl).note (keeps_concludes.resume now (attested s rfl).concludes)
        (fun hclosing => keeps_closing.resume now hclosing) (fun _ => trivial) False.elim
    | memory m | scripted t => cases hs'
  close now w attested s' hs' := by
    obtain ⟨link, acts⟩ := w
    cases link with
    | socket s =>
      obtain rfl := Link.socket.inj hs'
      exact (attested s rfl).note (keeps_concludes.close now (attested s rfl).concludes)
        (fun hclosing => keeps_closing.close now hclosing) (fun _ => trivial) False.elim
    | memory m | scripted t => cases hs'
  receive now w attested s' hs' := by
    obtain ⟨link, acts⟩ := w
    cases link with
    | socket s =>
      obtain rfl := Link.socket.inj hs'
      exact (attested s rfl).aside (keeps_concludes.receive now (attested s rfl).concludes)
        fun hclosing => keeps_closing.receive now hclosing
    | memory m | scripted t => cases hs'
  releaseSink now w attested s' hs' := by
    obtain ⟨link, acts⟩ := w
    cases link with
    | socket s =>
      obtain rfl := Link.socket.inj hs'
      exact (attested s rfl).note (keeps_concludes.releaseSink now (attested s rfl).concludes)
        (fun hclosing => keeps_closing.releaseSink now hclosing) (fun _ => trivial) False.elim
    | memory m | scripted t => cases hs'
  releaseStream now w attested s' hs' := by
    obtain ⟨link, acts⟩ := w
    cases link with
    | socket s =>
      obtain rfl := Link.socket.inj hs'
      exact (attested s rfl).aside (keeps_concludes.releaseStream now (attested s rfl).concludes)
        fun hclosing => keeps_closing.releaseStream now hclosing
    | memory m | scripted t => cases hs'

/-! ## What peers do -/

/-- An act of its peer leaves what a web socket is about to send, and how far it has come. -/
theorem Link.PeerAct.of_socket {act : Link → Link} (peer : PeerAct act) {l : Link}
    {s' : SocketLink} (hact : act l = .socket s') :
    ∃ s, l = .socket s ∧ s'.closing = s.closing ∧ s'.wire = s.wire ∧ s'.reply = s.reply := by
  have hpush : ∀ (s : SocketLink) (bs : Bytes), (s.push bs).2.closing = s.closing ∧
      (s.push bs).2.wire = s.wire ∧ (s.push bs).2.reply = s.reply := by
    intro s bs
    rw [SocketLink.push]
    split <;> exact ⟨rfl, rfl, rfl⟩
  cases l with
  | socket s =>
    refine ⟨s, rfl, ?_⟩
    cases peer with
    | send f code =>
      simp only [peerSend] at hact
      split at hact
      · obtain rfl := Link.socket.inj hact
        exact hpush s _
      · obtain rfl := Link.socket.inj hact
        exact ⟨rfl, rfl, rfl⟩
    | sendBytes bs =>
      simp only [peerSendBytes] at hact
      split at hact
      · obtain rfl := Link.socket.inj hact
        exact hpush s bs
      · obtain rfl := Link.socket.inj hact
        exact ⟨rfl, rfl, rfl⟩
    | fail | hangUp | stopReceiving | stopReading | vanish =>
      obtain rfl := Link.socket.inj hact
      exact ⟨rfl, rfl, rfl⟩
  | memory m =>
    cases peer with
    | send f code =>
      simp only [peerSend] at hact
      split at hact <;> cases hact
    | fail e =>
      simp only [peerFail] at hact
      split at hact <;> cases hact
    | sendBytes | hangUp | stopReceiving | stopReading | vanish => cases hact
  | scripted t => cases peer <;> cases hact

/-- Web sockets are opened with nothing sent over them, and what peers do is what peers can do. -/
def Event.Ordinary : Event Link → Prop
  | .upgrade _ (.ok (.socket s)) _ => s.Fresh
  | .peer _ change => Link.PeerAct change
  | _ => True

/-- The link to a client that asked for a web socket is one. -/
theorem Http.Exchange.exists_linkTo (config : SocketConfig) (client : Client) (arriving : Bytes) :
    ∃ s, linkTo config client arriving = .socket s ∧ s.Fresh := by
  rw [linkTo]
  split <;> exact ⟨_, rfl, rfl, rfl, rfl, rfl⟩

theorem Event.Ordinary.attested {e : Event Link} (ordinary : e.Ordinary) :
    e.watched.Leaves Watched.Attested ∧ e.watched.Offers Watched.Attested := by
  cases e with
  | peer id change =>
    refine ⟨fun w attested s' hs' => ?_, trivial⟩
    obtain ⟨s, hs, hclosing, hwire, hreply⟩ := Link.PeerAct.of_socket ordinary hs'
    have attests := attested s hs
    exact attests.aside (attests.concludes.of_same hwire hreply fun hopen => hclosing ▸ hopen)
      fun hstill => hclosing ▸ hstill
  | upgrade id made o =>
    refine ⟨trivial, ?_⟩
    cases made with
    | error e => trivial
    | ok link =>
      intro s hs
      obtain rfl : link = .socket s := hs
      exact SocketLink.Fresh.attests ordinary
  | _ => exact ⟨trivial, trivial⟩

section Runs

variable {config : SocketConfig} {origins : OriginPolicy} {handlers : List Handler}
  {now wallClock : Nat}

/-- What the notes of a run say of a web socket. -/
theorem Run.attests {es : List (Event Link)} {h : Hub Link} {id : String} {c : Connection Link}
    {s : SocketLink} (run : Run (Hub.initial config origins handlers now wallClock) es h)
    (ordinary : ∀ e ∈ es, e.Ordinary) (hc : h.find? id = some c) (hs : c.link = .socket s) :
    s.Attests (sinkActs id (Hub.initial config origins handlers now wallClock) es) := by
  obtain ⟨w, again, rfl⟩ := run.watched (h := Hub.initial config origins handlers now wallClock)
  obtain ⟨d, hd, rfl⟩ := Option.map_eq_some_iff.mp ((Hub.find?_unwatched w id).symm.trans hc)
  have hes : ∀ e ∈ es.map Event.watched,
      e.Leaves Watched.Attested ∧ e.Offers Watched.Attested := by
    intro e he
    obtain ⟨e', he', rfl⟩ := List.mem_map.mp he
    exact (ordinary e' he').attested
  have hacts := sinkActs_eq (h := Hub.initial config origins handlers now wallClock) again hd
  rw [hacts]
  exact again.allOver Watched.keeps_attested hes (fun _ hnone => nomatch hnone) d hd s hs

/-- **What comes after a close frame.** Over any transport, the hub's own close frame is the last
frame that it hands over, so that a close frame with others behind it came from the outbox. Over a
web socket, once a close frame was handed over, whoever sent it, every other frame is refused, and
the peer receives nothing after the close frame but a pong that was owed before. -/
theorem close_is_last (config : SocketConfig) (origins : OriginPolicy) (handlers : List Handler)
    (now wallClock : Nat) (id : String) :
    (∀ {τ : Type} [Transport τ] {es : List (Event τ)} {h : Hub τ},
      Run (Hub.initial config origins handlers now wallClock) es h →
        framesOf (sinkActs id (Hub.initial config origins handlers now wallClock) es) =
          (handovers id h.history).map Prod.fst ∧
        ∀ before f cause after, handovers id h.history = before ++ (f, cause) :: after →
          f.kind = .close → cause = .queued ∨ cause = .farewell ∧ after = []) ∧
    ∀ {es : List (Event Link)} {h : Hub Link} {c : Connection Link} {s : SocketLink},
      Run (Hub.initial config origins handlers now wallClock) es h → (∀ e ∈ es, e.Ordinary) →
        h.find? id = some c → c.link = .socket s →
          (sinkActs id (Hub.initial config origins handlers now wallClock) es).Pairwise
            (fun a b => a.2.IsClose → b.2.IsRefused) ∧
          PongAtMost (s.received.map Delivery.frame).reverse := by
  constructor
  · intro τ _ es h run
    obtain ⟨hframes, phase, speech⟩ := run.speech id
    refine ⟨hframes, fun before f cause after heq hclose => ?_⟩
    rcases speech.close_last heq hclose with hqueued | ⟨hfarewell, hafter⟩
    · exact .inl hqueued
    · exact .inr ⟨(Prod.mk.inj hfarewell).2, hafter⟩
  · intro es h c s run ordinary hc hs
    have attests := run.attests ordinary hc hs
    exact ⟨attests.refused, attests.concludes.last.of_sublist (List.sublist_append_left _ _)⟩

end Runs

/-- A close frame and a text are sent over a link, a heartbeat becomes due, and the connection is
removed. -/
def closesTwice {τ : Type} (link : τ) : List (Event τ) :=
  [.upgrade "a" (.ok link) {}, .turn (.writer "a") Hub.teardownFirst,
    .ask (.toHandle "a" ⟨.close, Utf8.encode "bye"⟩), .turn (.call 0) Hub.teardownFirst,
    .ask (.toHandle "a" (.ofText "x")), .turn (.call 1) Hub.teardownFirst,
    .turn (.writer "a") Hub.teardownFirst, .turn (.writer "a") Hub.teardownFirst,
    .pass 54000 0, .turn (.writer "a") Hub.teardownFirst, .remove "a",
    .turn (.writer "a") Hub.teardownFirst]

/-- A close frame need not be the last frame: over a link within the process, a text, a heartbeat
and another close frame follow it, and all of them go through. -/
theorem not_close_always_last :
    (Run (Hub.initial {} .listed [] 0 0) (closesTwice ({} : MemoryLink))
        ((closesTwice {}).foldl Hub.step (Hub.initial {} .listed [] 0 0)) ∧
      sinkActs "a" (Hub.initial {} .listed [] 0 0) (closesTwice ({} : MemoryLink)) =
        [(0, .send ⟨.close, Utf8.encode "bye"⟩ .done), (0, .send (.ofText "x") .done),
          (54000, .send .ping .done), (54000, .send .close .done), (54000, .close .done),
          (54000, .release)]) ∧
    ¬ ∀ {es : List (Event MemoryLink)} {h : Hub MemoryLink},
      Run (Hub.initial {} .listed [] 0 0) es h → ∀ before f after,
        framesOf (sinkActs "a" (Hub.initial {} .listed [] 0 0) es) = before ++ f :: after →
          f.kind = .close → after = [] := by
  have run : Run (Hub.initial {} .listed [] 0 0) (closesTwice ({} : MemoryLink)) _ :=
    .of_allowed (by decide +kernel)
  have hacts : sinkActs "a" (Hub.initial {} .listed [] 0 0) (closesTwice ({} : MemoryLink)) =
      [(0, .send ⟨.close, Utf8.encode "bye"⟩ .done), (0, .send (.ofText "x") .done),
        (54000, .send .ping .done), (54000, .send .close .done), (54000, .close .done),
        (54000, .release)] := by decide +kernel
  refine ⟨⟨run, hacts⟩, fun hlast => ?_⟩
  have hnone := hlast run [] ⟨.close, Utf8.encode "bye"⟩ [.ofText "x", .ping, .close]
    (congrArg framesOf hacts) rfl
  cases hnone

theorem close_is_last_of_closesTwice :
    (∃ h, Run (Hub.initial {} .listed [] 0 0) (closesTwice ({} : MemoryLink)) h ∧
      (handovers "a" h.history).map Prod.fst =
        [⟨.close, Utf8.encode "bye"⟩, .ofText "x", .ping, .close]) ∧
    ∃ (h : Hub Link) (c : Connection Link) (s : SocketLink),
      Run (Hub.initial {} .listed [] 0 0) (closesTwice (Http.Exchange.linkTo {} {} [])) h ∧
        h.find? "a" = some c ∧ c.link = .socket s ∧
        s.received.map Delivery.frame = [⟨.close, Utf8.encode "bye"⟩] ∧
        (sinkActs "a" (Hub.initial {} .listed [] 0 0)
          (closesTwice (Http.Exchange.linkTo {} {} []))).Pairwise
            (fun a b => a.2.IsClose → b.2.IsRefused) := by
  constructor
  · have run : Run (Hub.initial {} .listed [] 0 0) (closesTwice ({} : MemoryLink)) _ :=
      .of_allowed (by decide +kernel)
    have hframes := ((close_is_last {} .listed [] 0 0 "a").1 run).1
    exact ⟨_, run, hframes.symm.trans (by decide +kernel)⟩
  · have run : Run (Hub.initial {} .listed [] 0 0)
        (closesTwice (Http.Exchange.linkTo {} {} [])) _ := .of_allowed (by decide +kernel)
    have ordinary : ∀ e ∈ closesTwice (Http.Exchange.linkTo {} {} []), e.Ordinary := by
      obtain ⟨s, hlink, fresh⟩ := Http.Exchange.exists_linkTo {} {} []
      simp [closesTwice, hlink, Event.Ordinary, fresh]
    have hseen : (((closesTwice (Http.Exchange.linkTo {} {} [])).foldl Hub.step
        (Hub.initial {} .listed [] 0 0)).find? "a").map
          (fun c => (c.link.limit?.isSome, c.link.received.map Delivery.frame)) =
        some (true, [⟨.close, Utf8.encode "bye"⟩]) := by decide +kernel
    obtain ⟨c, hc, hseen⟩ := Option.map_eq_some_iff.mp hseen
    cases hlink : c.link with
    | socket s =>
      rw [hlink] at hseen
      have hrefused := ((close_is_last {} .listed [] 0 0 "a").2 run ordinary hc hlink).1
      exact ⟨_, c, s, run, hc, hlink, (Prod.mk.inj hseen).2, hrefused⟩
    | memory m | scripted t =>
      rw [hlink] at hseen
      cases hseen

end Switchboard
