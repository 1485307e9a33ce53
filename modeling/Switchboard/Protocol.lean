import Switchboard.Error
import Switchboard.Frame
import Switchboard.Json.Shape

/-!
# The messages of the JSON protocol

A client may send `{"type":"ping"}` and is answered `{"type":"pong"}`. An object with any other
`type` is answered with an error; whatever has no `type` that is a string is not part of the
protocol.
-/

namespace Switchboard

/-- What a client says. -/
inductive ClientMessage where
  | ping
  deriving DecidableEq, Repr

namespace ClientMessage

/-- The names of the messages. -/
def variants : List String := ["ping"]

/-- Read a message from a JSON text. -/
def parse (text : Bytes) : Except Error ClientMessage :=
  (Json.Tagged.read "ClientMessage" variants (fun _ content => do
    Json.Tagged.unit content
    return .ping) text).mapError (Error.ofJson text)

/-- The JSON text of a message. -/
def print : ClientMessage → String
  | .ping => "\x7b\"type\":\"ping\"\x7d"

/-- What a frame's payload is to the protocol. -/
inductive Reading where
  /-- Not part of the protocol. -/
  | foreign
  | message (m : ClientMessage)
  /-- A message of an unknown type. -/
  | unsupported (reason : String)
  deriving DecidableEq, Repr

/-- Read a payload. -/
def recognize (payload : Bytes) : Reading :=
  match Json.parse payload with
  | .error _ => .foreign
  | .ok v =>
    match (v.get? Json.Tagged.tagKey).bind Json.asString? with
    | none => .foreign
    | some name =>
      if name = "ping" then .message .ping
      else .unsupported (Json.unknownVariant name variants)

end ClientMessage

/-- What the server says. -/
inductive ServerMessage where
  | pong
  | error (code message : String)
  deriving DecidableEq, Repr

namespace ServerMessage

/-- The names of the messages. -/
def variants : List String := ["pong", "error"]

/-- Read a message from a JSON text. -/
def parse (text : Bytes) : Except Error ServerMessage :=
  (Json.Tagged.read "ServerMessage" variants (fun tag content =>
    if tag = "pong" then do
      Json.Tagged.unit content
      return .pong
    else do
      let (code, message) ← Json.Tagged.stringPair "ServerMessage::Error" "code" "message" content
      return .error code message) text).mapError (Error.ofJson text)

/-- A member of a message, after the one before it. -/
def memberText (key value : String) : List Char :=
  ',' :: (Json.stringText key ++ ':' :: Json.stringText value)

/-- The JSON text of a message. -/
def print : ServerMessage → String
  | .pong => "\x7b\"type\":\"pong\"\x7d"
  | .error code message =>
    String.ofList <|
      "\x7b\"type\":\"error\"".toList ++ memberText "code" code ++ memberText "message" message ++
        ['\x7d']

/-- The code of the answer to a message of an unknown type. -/
def unsupportedCode : String := "UNSUPPORTED_MESSAGE"

end ServerMessage

end Switchboard
