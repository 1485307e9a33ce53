import Switchboard.Http.Message
import Switchboard.Text.Base64
import Switchboard.Text.Sha1

/-!
# The opening handshake of a web socket

A request asks for a web socket by its method and four headers, and the exchange has to be one that
can change its protocol. The first condition that fails decides the answer. The server proves that
it understood by a digest of the request's key.
-/

namespace Switchboard.Http

/-- Why a request does not open a web socket. -/
inductive HandshakeFault where
  | methodNotGet
  | connectionNotUpgrade
  | upgradeNotWebSocket
  | keyMissing
  | versionNot13
  | notUpgradable
  deriving DecidableEq, Repr

namespace HandshakeFault

/-- The wording of a fault. -/
def message : HandshakeFault → String
  | .methodNotGet => "Request method must be `GET`"
  | .connectionNotUpgrade => "Connection header did not include 'upgrade'"
  | .upgradeNotWebSocket => "`Upgrade` header did not include 'websocket'"
  | .keyMissing => "`Sec-WebSocket-Key` header missing"
  | .versionNot13 => "`Sec-WebSocket-Version` header did not include '13'"
  | .notUpgradable => "WebSocket request couldn't be upgraded since no upgrade state was present"

/-- The status that answers a fault. -/
def status : HandshakeFault → Nat
  | .methodNotGet => 405
  | .notUpgradable => 426
  | _ => 400

end HandshakeFault

namespace Handshake

/-- Whether a text contains another. -/
def contains (part : List Char) : List Char → Bool
  | [] => part.isEmpty
  | c :: rest => part.isPrefixOf (c :: rest) || contains part rest

/-- The key of a request that opens a web socket. -/
def key (r : Request) : Except HandshakeFault Bytes :=
  let includes (name part : String) : Bool :=
    ((r.header? name).bind Utf8.decode?).any fun v => contains part.toList (Ascii.lower v).toList
  let equals (name value : String) : Bool :=
    (r.header? name).any fun v => Ascii.sameBytes v (Utf8.encode value)
  if r.method ≠ "GET" then .error .methodNotGet
  else if !includes "connection" "upgrade" then .error .connectionNotUpgrade
  else if !equals "upgrade" "websocket" then .error .upgradeNotWebSocket
  else
    match r.header? "sec-websocket-key" with
    | none => .error .keyMissing
    | some key =>
      if !equals "sec-websocket-version" "13" then .error .versionNot13
      else if !r.upgradable then .error .notUpgradable
      else .ok key

/-- What is appended to a key before the digest is taken. -/
def guid : String := "258EAFA5-E914-47DA-95CA-C5AB0DC85B11"

/-- The proof that a key was understood. -/
def acceptKey (key : Bytes) : String :=
  Base64.encode (Sha1.digest (key ++ Utf8.encode guid))

/-- The response that opens a web socket. -/
def accept (key : Bytes) : Response :=
  { status := 101
    headers := [("connection", "upgrade"), ("upgrade", "websocket"),
      ("sec-websocket-accept", acceptKey key)] }

end Handshake

end Switchboard.Http
