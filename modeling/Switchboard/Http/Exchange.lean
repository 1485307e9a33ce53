import Switchboard.Http.Api
import Switchboard.Http.Head
import Switchboard.Transport.Link

/-!
# Exchanges over a byte pipe

A client sends the text of its request over a byte pipe and reads the response from another. If the
response opens a web socket, the pipes become the link of a new connection as soon as the response
is written, and what follows the head of the request has arrived on it; if the client has gone
before that, the upgrade has failed. A client that goes before its request is read leaves no trace.
-/

namespace Switchboard.Http

/-- When a client goes away without reading the response. -/
inductive Departure where
  /-- Before its request is read. -/
  | atOnce
  /-- After as much of the response was written as the pipe holds. -/
  | unread
  deriving DecidableEq, Repr

/-- A client at the other end of two pipes. -/
structure Client where
  /-- The number of bytes that the pipe to the client holds. -/
  capacity : Nat := 1048576
  /-- Whether the client answers each ping with a pong. -/
  answersPings : Bool := false
  departure : Option Departure := none
  deriving DecidableEq, Repr, Inhabited

namespace Exchange

/-- The first line of a response that opens a web socket. -/
def statusLine : String := "HTTP/1.1 101 Switching Protocols"

/-- The number of bytes of the header that gives the date. -/
def dateSize : Nat := "date: Thu, 01 Jan 1970 00:00:00 GMT".utf8ByteSize

/-- The number of bytes of a response that opens a web socket. -/
def sizeOnWire (r : Response) : Nat :=
  let line (size : Nat) : Nat := size + 2
  let headers := r.headers.foldl
    (fun size (n, v) => size + line (n.utf8ByteSize + 2 + v.utf8ByteSize)) 0
  line statusLine.utf8ByteSize + headers + line dateSize + line 0

/-- Whether the response that opens a web socket is written before the client goes. -/
def isWritten (c : Client) (r : Response) : Bool :=
  match c.departure with
  | none => true
  | some .atOnce => false
  | some .unread => decide (sizeOnWire r ≤ c.capacity)

/-- The reason of an upgrade that came to nothing. -/
def canceled : String := "operation was canceled"

/-- The link to a client that sent some bytes after the head of its request. -/
def linkTo (config : SocketConfig) (c : Client) (arriving : Bytes) : Link :=
  let link : SocketLink :=
    { capacity := c.capacity, answersPings := c.answersPings, arriving
      inbound := { limit := config.maxMessageSize } }
  .socket (if c.departure.isSome then link.vanish else link)

/-- Whether buffers of the configured sizes can be had: the one for reading is reserved at once, and
the one for writing has to be smaller than its own bound. -/
def buffersFit (config : SocketConfig) : Bool :=
  config.readBufferSize < Nat.pow 2 63 && config.writeBufferSize < Nat.pow 2 64 - 1

/-- What came of an exchange: the response, if there was one, and the connection that was to be
opened after it. -/
structure Outcome where
  response : Option Response := none
  upgrade : Option Upgrade := none
  deriving DecidableEq, Repr

/-- Open a connection after the response to a client, under the given id. -/
def connect (h : Hub Link) (id : String) (c : Client) (arriving : Bytes) (o : ConnectOptions) :
    Upgrade × Hub Link :=
  if buffersFit h.config then h.upgrade id (.ok (linkTo h.config c arriving)) o else (.crashed, h)

/-- Answer the request that a client sends. A connection that it opens gets the given id. -/
def run (s : Server) (h : Hub Link) (id : String) (c : Client) (request : String) :
    Outcome × Hub Link :=
  if c.departure = some .atOnce then ({}, h)
  else
    match Head.read request with
    | .error fault => ({ response := some fault.response }, h)
    | .ok accepted =>
      let ((response, options), h) := Api.serve s h accepted.head.request
      let response := accepted.conclude response
      match options with
      | none => ({ response := some response }, h)
      | some o =>
        if isWritten c response then
          let (upgrade, h) := connect h id c (Utf8.encode (.ofList accepted.rest)) o
          ({ response := some response, upgrade := some upgrade }, h)
        else ({ response := some response }, h.upgradeFailed canceled)

end Exchange

end Switchboard.Http
