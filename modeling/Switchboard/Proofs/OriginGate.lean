import Mathlib
import Switchboard.Proofs.Run
import Switchboard.Transport.Memory

/-!
# Which origins may open a web socket

A request for a web socket names the origin of the page it comes from by a header, whose value is a
list of bytes. With a list of origins configured, the request is forbidden if that value is text and
none of the listed origins up to the case of ASCII letters. A value that is not text counts as no
value at all, so that the request is let in like one that names no origin.

## Order of decisions

Only the length that the request announces and its query are regarded before the origin. The
handshake comes after it, and has no part in whether the request is forbidden.
-/

namespace Switchboard

namespace Http.Api

variable {τ : Type} {h : Hub τ} {r : Request} {v : Bytes}

/-- An origin is turned away if it is text and not on the list. -/
theorem checkOrigin_eq_false_iff (hpolicy : h.origins = .listed)
    (hsome : h.config.allowedOrigins ≠ []) (hstar : "*" ∉ h.config.allowedOrigins)
    (hv : r.header? "origin" = some v) :
    h.checkOrigin (r.textHeader? "origin") = false ↔ v.all Request.isVisible = true ∧
      ∀ a ∈ h.config.allowedOrigins, Ascii.sameBytes (Utf8.encode a) v = false := by
  rw [Hub.checkOrigin, hpolicy, OriginPolicy.admits, Request.textHeader?_of_header? hv]
  by_cases hvisible : v.all Request.isVisible = true
  · have hascii : ∀ b ∈ v, b.toNat < 128 := fun b hb =>
      Request.lt_of_isVisible (List.all_eq_true.mp hvisible b hb)
    rw [if_pos hvisible, SocketConfig.originAllowed_some hsome hstar, List.any_eq_false]
    simp only [Ascii.sameText_eq_sameBytes, Ascii.encode_ofBytes hascii, hvisible, true_and,
      Bool.not_eq_true]
  · -- what is not text counts as no origin, and that is always admitted
    rw [if_neg hvisible, SocketConfig.originAllowed_none]
    simp [hvisible]

/-- What a request for a web socket comes to. -/
theorem handle_socket (s : Server) (h : Hub τ) (hmethod : r.method = "GET")
    (hroute : Route.ofTarget? (Target.parse r.target) = some .socket) :
    handle s h r =
      if announcesTooMuch r then
        (.answer (finish r ((Response.text 413 "length limit exceeded").withHeaders [])), h)
      else
        ((socket h (Target.parse r.target) r).1.mapResponse (finish r),
          (socket h (Target.parse r.target) r).2) := by
  have hoptions : ¬ r.method = "OPTIONS" := by rw [hmethod]; decide
  have hallowed : (Route.methods .socket).contains r.method = true := by rw [hmethod]; decide
  rw [handle, hroute, if_neg hoptions]
  simp only [Option.any_some, hallowed, if_true]
  rfl

/-- A request of an origin that is turned away is forbidden, and the hub only logs that. -/
theorem socket_of_refused {t : Target} {parameters : Option String × Option String}
    (hquery : socketQuery t.queryPairs = .ok parameters)
    (hcheck : h.checkOrigin (r.textHeader? "origin") = false) :
    (socket h t r).1.status? = some 403 ∧
      ∃ e : LogEvent, (socket h t r).2 = { h with log := e :: h.log } := by
  rw [socket, hquery]
  simp only [hcheck, Bool.not_false, if_true]
  exact ⟨rfl, _, rfl⟩

/-- Any other request is answered by its handshake. -/
theorem socket_of_admitted {t : Target} {parameters : Option String × Option String}
    (hquery : socketQuery t.queryPairs = .ok parameters)
    (hcheck : h.checkOrigin (r.textHeader? "origin") = true) :
    (socket h t r).1.status? ≠ some 403 ∧
      ((socket h t r).1.status? = some 101 ↔ ∃ key, Handshake.key r = .ok key) := by
  rw [socket, hquery]
  simp only [hcheck, Bool.not_true, Bool.false_eq_true, if_false]
  cases hkey : Handshake.key r with
  | error fault =>
    have hstatus : fault.status ≠ 403 ∧ fault.status ≠ 101 := by cases fault <;> decide
    refine ⟨fun he => hstatus.1 (Option.some.inj he), fun he => ?_, fun he => ?_⟩
    · exact absurd (Option.some.inj he) hstatus.2
    · obtain ⟨key, he⟩ := he
      cases he
  | ok key => exact ⟨(by decide : some 101 ≠ some 403), fun _ => ⟨key, rfl⟩, fun _ => rfl⟩

/-- **Foreign origins are forbidden, as far as they are text.** A list of origins is configured, and
a request for a web socket names its origin by the bytes `v`. It is forbidden if and only if `v` is
text and none of the list up to ASCII case, and its handshake has no part in that; the hub is the
same then but for a line in its log. Otherwise it opens a web socket if and only if its handshake
does. Only a request that announces too long a body is refused before. -/
theorem forbidden_iff_foreign (s : Server) (hpolicy : h.origins = .listed)
    (hsome : h.config.allowedOrigins ≠ []) (hstar : "*" ∉ h.config.allowedOrigins)
    (hmethod : r.method = "GET")
    (hroute : Route.ofTarget? (Target.parse r.target) = some .socket)
    (hquery : ∃ parameters, socketQuery (Target.parse r.target).queryPairs = .ok parameters)
    (hv : r.header? "origin" = some v) :
    ((handle s h r).1.status? = some 403 ↔ announcesTooMuch r = false ∧
      v.all Request.isVisible = true ∧
        ∀ a ∈ h.config.allowedOrigins, Ascii.sameBytes (Utf8.encode a) v = false) ∧
    ((handle s h r).1.status? = some 403 →
      ∃ e : LogEvent, (handle s h r).2 = { h with log := e :: h.log }) ∧
    ((handle s h r).1.status? = some 101 ↔ announcesTooMuch r = false ∧
      (∃ key, Handshake.key r = .ok key) ∧
        (v.all Request.isVisible = false ∨
          ∃ a ∈ h.config.allowedOrigins, Ascii.sameBytes (Utf8.encode a) v = true)) := by
  obtain ⟨parameters, hquery⟩ := hquery
  have hforeign := checkOrigin_eq_false_iff hpolicy hsome hstar hv
  have hknown : h.checkOrigin (r.textHeader? "origin") = true ↔ v.all Request.isVisible = false ∨
      ∃ a ∈ h.config.allowedOrigins, Ascii.sameBytes (Utf8.encode a) v = true := by
    rw [← Bool.not_eq_false, hforeign, Classical.not_and_iff_not_or_not, Bool.not_eq_true]
    simp only [Classical.not_forall, Bool.not_eq_false, exists_prop]
  rw [handle_socket s h hmethod hroute]
  by_cases hlength : announcesTooMuch r = true
  · rw [if_pos hlength]
    have hstatus : (Outcome.answer (finish r ((Response.text 413
        "length limit exceeded").withHeaders []))).status? = some 413 :=
      congrArg some (status_finish r _)
    simp [hstatus, hlength]
  · have hshort : announcesTooMuch r = false := by simpa using hlength
    rw [if_neg hlength, status?_mapResponse (status_finish r), ← hforeign, ← hknown]
    simp only [hshort, true_and]
    cases hcheck : h.checkOrigin (r.textHeader? "origin") with
    | false =>
      obtain ⟨hstatus, hlog⟩ := socket_of_refused hquery hcheck
      simp [hstatus, hlog]
    | true =>
      obtain ⟨hstatus, hkey⟩ := socket_of_admitted hquery hcheck
      simp [hstatus, hkey]

/-- A request that names an origin outside ASCII, `é` being the two bytes `C3 A9` in it. -/
def accentedOrigin : Request where
  method := "GET"
  target := "/ws"
  headers := [("origin", Utf8.encode "https://evil.é"), ("connection", Utf8.encode "Upgrade"),
    ("upgrade", Utf8.encode "websocket"), ("sec-websocket-version", Utf8.encode "13"),
    ("sec-websocket-key", Utf8.encode "dGhlIHNhbXBsZSBub25jZQ==")]
  upgradable := true

/-- A hub with one listed origin. -/
def oneListed : Hub MemoryLink :=
  .initial { allowedOrigins := ["https://app.example.com"] } .listed [] 0 0

theorem forbidden_iff_foreign_of_accentedOrigin :
    (handle {} oneListed accentedOrigin).1.status? = some 101 := by
  have hv : accentedOrigin.header? "origin" = some (Utf8.encode "https://evil.é") := by cbv
  have hroute : Route.ofTarget? (Target.parse accentedOrigin.target) = some .socket := by cbv
  have hquery : socketQuery (Target.parse accentedOrigin.target).queryPairs = .ok (none, none) := by
    cbv
  have hlength : announcesTooMuch accentedOrigin = false := by cbv
  have hkey : Handshake.key accentedOrigin = .ok (Utf8.encode "dGhlIHNhbXBsZSBub25jZQ==") := by
    cbv
  have hvisible : (Utf8.encode "https://evil.é").all Request.isVisible = false := by cbv
  obtain ⟨-, -, hopens⟩ := forbidden_iff_foreign (h := oneListed) {} rfl (by decide) (by decide) rfl
    hroute ⟨_, hquery⟩ hv
  exact hopens.mpr ⟨hlength, ⟨_, hkey⟩, .inl hvisible⟩

end Http.Api

end Switchboard
