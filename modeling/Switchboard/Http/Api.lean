import Switchboard.Decimal.Reader
import Switchboard.Http.Handshake
import Switchboard.Http.MediaType
import Switchboard.Http.Target
import Switchboard.Hub.Clock
import Switchboard.Hub.Manage
import Switchboard.Json.Shape
import Switchboard.Metrics.Exposition
import Switchboard.Text.Timestamp

/-!
# The HTTP interface of a hub

Connections are looked up, removed and sent to under `/api/v1`, the state of the hub is reported
under `/health`, `/stats` and `/metrics`, and `/ws` opens a connection. `Api.handle` decides what a
request comes to: an answer at once, a send whose report makes the answer, or a connection to be
opened once the answer has been written.

## Order of decisions

Any request with method `OPTIONS` is answered as a preflight, and one that announces too long a body
is refused, wherever it goes. Then come the route and its method, the parts of the path, the body,
and the handler of the route. Every response allows every origin.
-/

namespace Switchboard.Http

/-- Where a request goes. The path's variable part is not decoded yet. -/
inductive Route where
  | socket
  | health
  | stats
  | metrics
  | connection (id : List Char)
  | connectionMessages (id : List Char)
  | userConnections (user : List Char)
  | userMessages (user : List Char)
  | broadcast
  deriving DecidableEq, Repr

namespace Route

/-- The route of a target. A variable part at the end of a path is not empty. -/
def ofTarget? (t : Target) : Option Route :=
  match (t.segments?.getD []).map String.ofList with
  | ["ws"] => some .socket
  | ["health"] => some .health
  | ["stats"] => some .stats
  | ["metrics"] => some .metrics
  | ["api", "v1", "connections", id] => if id.isEmpty then none else some (.connection id.toList)
  | ["api", "v1", "connections", id, "messages"] => some (.connectionMessages id.toList)
  | ["api", "v1", "users", user, "connections"] => some (.userConnections user.toList)
  | ["api", "v1", "users", user, "messages"] => some (.userMessages user.toList)
  | ["api", "v1", "broadcast"] => some .broadcast
  | _ => none

/-- The methods of a route. A route with `GET` has `HEAD` too. -/
def methods : Route → List String
  | .connection _ => ["GET", "HEAD", "DELETE"]
  | .connectionMessages _ | .userMessages _ | .broadcast => ["POST"]
  | _ => ["GET", "HEAD"]

/-- The methods of a route as the value of a header. -/
def allow (r : Route) : String := ",".intercalate r.methods

end Route

/-- What a server adds to its hub. -/
structure Server where
  /-- The mode the server runs in. -/
  runMode : Option String := none
  /-- The wall-clock time at which it was started, in milliseconds. -/
  startedAt : Nat := 0
  deriving DecidableEq, Repr, Inhabited

namespace Api

variable {τ : Type}

/-- What a request comes to. -/
inductive Outcome where
  | answer (r : Response)
  /-- Send, and answer by what the send reports; `missing` is what was not found if nothing was. -/
  | send (order : SendOrder) (missing : String)
  /-- Answer, then open a connection. -/
  | connect (r : Response) (user tag : Option String)
  deriving DecidableEq, Repr

/-- The version of the interface. -/
def version : String := "1.0.0"

/-- The greatest length of a body in bytes. -/
def maxBody : Nat := 1048576

/-- The headers that allow every origin. -/
def originHeaders : List (String × String) :=
  [("vary", "origin, access-control-request-method, access-control-request-headers"),
    ("access-control-allow-origin", "*")]

/-- The headers of a preflight. -/
def preflightHeaders : List (String × String) :=
  [("access-control-allow-methods", "*"), ("access-control-allow-headers", "*")]

/-- A text or nothing as JSON. -/
def optionJson (s : Option String) : Json := s.elim .null .string

/-- A count as JSON. -/
def countJson (n : Nat) : Json := .integer n

/-- What is told about a connection. -/
def infoJson (c : Connection τ) : Json :=
  .object [("id", .string c.id), ("user_id", optionJson c.member.user),
    ("app_tag", optionJson c.member.tag), ("created_at", .string (Timestamp.text c.createdAt)),
    ("alive", .bool c.alive)]

/-- What is told about a registry. -/
def statsJson (s : Stats) : Json :=
  .object [("total_connections", countJson s.total), ("unique_users", countJson s.uniqueUsers),
    ("anonymous_connections", countJson s.anonymous),
    ("apps", .object (s.apps.counts.map fun (tag, n) => (tag, countJson n)))]

/-- The answer to an error, and its event. -/
def errorAnswer (s : Server) (h : Hub τ) (e : Error) : Response × Hub τ :=
  let body : Json := .object [("error", .object
    [("code", .string e.code), ("message", .string (e.clientMessage s.runMode))])]
  let event : LogEvent :=
    ⟨.error, "API error", [("code", .text e.code), ("status", .text (toString e.status)),
      ("message", .text e.message)]⟩
  (.json e.status body, h.logEvent event)

/-- The error of an id that is not registered. -/
def noConnection (id : String) : Error := .notFound s!"connection '{id}'"

/-- Answer whether the server is well. -/
def health (s : Server) (h : Hub τ) : Response :=
  let stats := h.registry.stats
  .json 200 <| .object [("status", .string "healthy"), ("version", .string version),
    ("uptime_seconds", countJson ((h.wallClock - s.startedAt) / 1000)),
    ("connections", .object
      [("total", countJson stats.total), ("unique_users", countJson stats.uniqueUsers)])]

/-- Set the gauges and answer with all counters. -/
def metrics (h : Hub τ) : Response × Hub τ :=
  let stats := h.registry.stats
  let h := h.count fun m =>
    { m with connectionsActive := stats.total, usersConnected := stats.uniqueUsers }
  ({ status := 200, headers := [("content-type", "text/plain; version=0.0.4; charset=utf-8")]
     body := Utf8.encode (Exposition.text h.metrics) }, h)

/-- Answer with a connection. -/
def getConnection (s : Server) (h : Hub τ) (id : String) : Response × Hub τ :=
  match (h.registry.lookup id).bind fun m => h.find? m.id with
  | some c => (.json 200 (infoJson c), h)
  | none => errorAnswer s h (noConnection id)

/-- Remove a connection. -/
def deleteConnection (s : Server) (h : Hub τ) (id : String) : Response × Hub τ :=
  let (removed, h) := h.remove id
  if removed then (.empty 204, h.logAbout id .info "Connection removed via API" [])
  else errorAnswer s h (noConnection id)

/-- Answer with the connections of a user. -/
def getUser (s : Server) (h : Hub τ) (user : String) : Response × Hub τ :=
  match h.registry.lookupUser user with
  | some members =>
    let connections := members.filterMap fun m => h.find? m.id
    (.json 200 (.object
      [("user_id", .string user), ("connections", .array (connections.map infoJson))]), h)
  | none => errorAnswer s h (.notFound s!"user '{user}' has no connections")

/-- The length of its body that a request announces. -/
def announcedLength? (r : Request) : Option Nat :=
  (r.textHeader? "content-length").bind fun v => Decimal.natural? (Nat.pow 2 64 - 1) v.toList

/-- Whether a request announces a body that is too long. -/
def announcesTooMuch (r : Request) : Bool := (announcedLength? r).any fun n => decide (n > maxBody)

/-- The greatest length of the body of a request: no more than was announced is read. -/
def bodyLimit (r : Request) : Nat := min maxBody ((announcedLength? r).getD maxBody)

/-- The frame that the body of a request asks to be sent, or the response that refuses it. -/
def readBody (r : Request) : Except Response Frame :=
  let isJson := ((r.textHeader? "content-type").bind MediaType.parse?).any MediaType.isJson
  if !isJson then .error (.text 415 "Expected request with `Content-Type: application/json`")
  else if r.body.length > bodyLimit r then
    .error (.text 413 "Failed to buffer the request body: length limit exceeded")
  else
    match Json.readStruct "SendRequest" "payload" r.body with
    | .ok payload => .ok (.ofJson payload)
    | .error e =>
      let reason := e.messageWithPath r.body
      .error <|
        if e.isMismatch then
          .text 422 ("Failed to deserialize the JSON body into the target type: " ++ reason)
        else .text 400 ("Failed to parse the request body as JSON: " ++ reason)

/-- The values of the two parameters of `/ws`, or the parameter that is given twice. -/
def socketQuery (pairs : List (String × String)) : Except String (Option String × Option String) :=
  let valuesOf (key : String) := pairs.filter fun (k, _) => k = key
  let seen := pairs.map Prod.fst
  let twice := (List.range seen.length).find? fun i =>
    let key := seen.getD i ""
    (key = "user_id" || key = "app") && (seen.take i).contains key
  match twice with
  | some i => .error (seen.getD i "")
  | none => .ok (((valuesOf "user_id").head?).map Prod.snd, ((valuesOf "app").head?).map Prod.snd)

/-- Decide about a request for a web socket. -/
def socket (h : Hub τ) (t : Target) (r : Request) : Outcome × Hub τ :=
  match socketQuery t.queryPairs with
  | .error key =>
    (.answer (.text 400 s!"Failed to deserialize query string: duplicate field `{key}`"), h)
  | .ok (user, tag) =>
    let origin := r.textHeader? "origin"
    if !h.checkOrigin origin then
      let h := h.logEvent
        ⟨.warn, "Rejected WebSocket origin", [("origin", .text (origin.getD ""))]⟩
      (.answer (.text 403 "Origin not allowed"), h)
    else
      match Handshake.key r with
      | .error fault =>
        let h := h.logEvent
          ⟨.debug, "Not a WebSocket upgrade request", [("error", .text fault.message)]⟩
        (.answer (.text fault.status fault.message), h)
      | .ok key => (.connect (Handshake.accept key) user tag, h)

/-- Decide about a request whose variable part of the path is `part`. -/
def withPart (h : Hub τ) (part : List Char) (next : String → Outcome × Hub τ) : Outcome × Hub τ :=
  match Target.decodeSegment? part with
  | some text => next text
  | none => (.answer (.text 400 "Invalid URL: Invalid UTF-8 in `id`"), h)

/-- Decide about a request to send. -/
def sendOutcome (h : Hub τ) (r : Request) (order : Frame → SendOrder) (missing : String) :
    Outcome × Hub τ :=
  match readBody r with
  | .ok f => (.send (order f) missing, h)
  | .error response => (.answer response, h)

/-- Decide about a request that has arrived at a route with one of its methods. -/
def atRoute (s : Server) (h : Hub τ) (t : Target) (r : Request) (route : Route) : Outcome × Hub τ :=
  let now (answer : Response × Hub τ) : Outcome × Hub τ := (.answer answer.1, answer.2)
  match route with
  | .socket => socket h t r
  | .health => now (health s h, h)
  | .stats => now (.json 200 (statsJson h.registry.stats), h)
  | .metrics => now (metrics h)
  | .connection part =>
    withPart h part fun id =>
      if r.method = "DELETE" then now (deleteConnection s h id) else now (getConnection s h id)
  | .connectionMessages part =>
    withPart h part fun id => sendOutcome h r (.toConnection id) id
  | .userConnections part => withPart h part fun user => now (getUser s h user)
  | .userMessages part => withPart h part fun user => sendOutcome h r (.toUser user) user
  | .broadcast => sendOutcome h r .toAll ""

/-- The status of an outcome that has a response. -/
def Outcome.status? : Outcome → Option Nat
  | .answer r | .connect r _ _ => some r.status
  | .send _ _ => none

/-- Change the response of an outcome that has one. -/
def Outcome.mapResponse (f : Response → Response) : Outcome → Outcome
  | .answer r => .answer (f r)
  | .send order missing => .send order missing
  | .connect r user tag => .connect (f r) user tag

theorem status?_mapResponse {f : Response → Response} (hf : ∀ r, (f r).status = r.status)
    (outcome : Outcome) : (outcome.mapResponse f).status? = outcome.status? := by
  cases outcome with
  | answer r => exact congrArg some (hf r)
  | send order missing => rfl
  | connect r user tag => exact congrArg some (hf r)

/-- Finish a response to a request: no body is sent for `HEAD`. -/
def finish (r : Request) (response : Response) : Response :=
  let response := response.withHeaders originHeaders
  if r.method = "HEAD" then { response with body := [] } else response

theorem status_finish (r : Request) (response : Response) :
    (finish r response).status = response.status := by
  rw [finish]
  split <;> rfl

/-- Decide about a request. -/
def handle (s : Server) (h : Hub τ) (r : Request) : Outcome × Hub τ :=
  let t := Target.parse r.target
  let route := Route.ofTarget? t
  let allowed := route.any fun x => x.methods.contains r.method
  let allow := if allowed then [] else (route.map fun x => ("allow", x.allow)).toList
  if r.method = "OPTIONS" then
    (.answer (((Response.empty 200).withHeaders (preflightHeaders ++ allow)).withHeaders
      originHeaders), h)
  else if announcesTooMuch r then
    (.answer (finish r ((Response.text 413 "length limit exceeded").withHeaders allow)), h)
  else
    match route with
    | none => (.answer (finish r (.empty 404)), h)
    | some route =>
      if allowed then
        let (outcome, h) := atRoute s h t r route
        (outcome.mapResponse (finish r), h)
      else (.answer (finish r ((Response.empty 405).withHeaders allow)), h)

/-- The response to a request to send, once the send has reported. -/
def afterSend (s : Server) (h : Hub τ) (r : Request) (missing : String) (reply : Option Reply) :
    Response × Hub τ :=
  let targeted (n : Nat) : Response × Hub τ :=
    (.json 200 (.object [("targeted", countJson n)]), h)
  let (response, h) := match reply with
    | some (.targeted n) => targeted n
    | some (.found false) => errorAnswer s h (noConnection missing)
    | _ => targeted 1
  (finish r response, h)

/-- Answer a request, waiting for its send if it asks for one. The second part of the answer tells
how to open the connection that the request asks for, if it does. -/
def serve [Transport τ] (s : Server) (h : Hub τ) (r : Request) :
    (Response × Option ConnectOptions) × Hub τ :=
  match handle s h r with
  | (.answer response, h) => ((response, none), h)
  | (.send order missing, h) =>
    let (reply, h) := h.call order
    let (response, h) := afterSend s h r missing reply
    ((response, none), h)
  | (.connect response user tag, h) =>
    ((response, some { user, tag, handlers := h.serverHandlers }), h)

end Api

end Switchboard.Http
