import Switchboard.Frame
import Switchboard.Socket.Fault

/-!
# Messages that come in over a web socket

`Inbound` holds the bytes that have come in and were not taken, and the message under way if it
comes in fragments. `Inbound.next` takes the next message, be it of data or of control; control
frames may come between the fragments of a message.

A frame is judged in a fixed order: its opcode and its length as soon as its header is there, the
rest once the whole frame is. The text of a message in fragments is checked fragment by fragment, so
that it is refused at the first byte that no continuation can repair.
-/

namespace Switchboard

/-- What has come in over a web socket. -/
structure Inbound where
  /-- The greatest length of a message. -/
  limit : Nat
  /-- The bytes that were not taken. -/
  bytes : Bytes := []
  /-- The kind of the message under way and what of it is there. -/
  partialMessage : Option (FrameKind × Bytes) := none
  deriving DecidableEq, Repr, Inhabited

namespace Inbound

/-- The greatest length of a frame. -/
def maxFrame : Nat := 16777216

/-- The greatest length of a control frame. -/
def maxControl : Nat := 125

/-- The text of a payload that has to be text. -/
def textOf (payload : Bytes) : Except SocketFault String :=
  (Utf8.decode payload).mapError fun f => .notText f.message

/-- The text of a byte in decimal. -/
def byteText (b : UInt8) : String := toString b.toNat

/-- The wording of a text that ends within a character of which `bytes` are there. -/
def unfinishedDetail (bytes : Bytes) : String :=
  let buffer := (bytes ++ List.replicate 4 0).take 4
  "incomplete string: Incomplete \x7b buffer: [" ++ ", ".intercalate (buffer.map byteText) ++
    "], buffer_len: " ++ toString bytes.length ++ " \x7d"

/-- Refuse the fragments of a text that no continuation can repair, and if `whole` those that end
within a character. -/
def checkText (whole : Bool) (payload : Bytes) : Except SocketFault Unit :=
  match Utf8.decode payload with
  | .ok _ => .ok ()
  | .error ⟨_, some _⟩ => .error (.notText "\uFFFD")
  | .error ⟨index, none⟩ =>
    if whole then .error (.notText (unfinishedDetail (payload.drop index))) else .ok ()

/-- The frame of a message that is complete. -/
def message (kind : FrameKind) (payload : Bytes) : Except SocketFault SocketFrame :=
  if kind = .text then (textOf payload).map .text else .ok (.binary payload)

/-- The frame of a close frame's payload. -/
def closeFrame (payload : Bytes) : Except SocketFault SocketFrame :=
  match payload with
  | [] => .ok (.close none)
  | [_] => .error .shortClose
  | a :: b :: reason => (textOf reason).map fun s => .close (some (Wire.number [a, b], s))

/-- Judge a control frame. -/
def control (final : Bool) (o : Wire.Opcode) (payload : Bytes) : Except SocketFault SocketFrame :=
  if !final then .error .fragmentedControl
  else if payload.length > maxControl then .error .longControl
  else match o with
    | .ping => .ok (.ping payload)
    | .pong => .ok (.pong payload)
    | _ => closeFrame payload

/-- Add a fragment to the message under way, which `seen` is the beginning of: the message if it is
complete, and what is under way after. -/
def extend (i : Inbound) (final : Bool) (kind : FrameKind) (seen payload : Bytes) :
    Except SocketFault (Option SocketFrame × Inbound) :=
  let whole := seen ++ payload
  if whole.length > i.limit then .error (.tooLong whole.length i.limit)
  else do
    if kind = .text then checkText final whole
    if final then
      let m ← message kind whole
      return (some m, { i with partialMessage := none })
    else return (none, { i with partialMessage := some (kind, whole) })

/-- Judge a data frame: the message if it is complete, and what is under way after. -/
def data (i : Inbound) (final : Bool) (o : Wire.Opcode) (payload : Bytes) :
    Except SocketFault (Option SocketFrame × Inbound) :=
  let kind := if o = .text then FrameKind.text else .binary
  match o, i.partialMessage with
  | .continuation, none => .error .nothingToContinue
  | .continuation, some (kind, seen) => i.extend final kind seen payload
  | o, some _ => .error (.notContinued o)
  | _, none =>
    if !final then i.extend false kind [] payload
    else if payload.length > i.limit then .error (.tooLong payload.length i.limit)
    else (message kind payload).map fun m => (some m, i)

/-- Judge a frame that is there as a whole: the message that it completes, and what is under way
after. -/
def judge (i : Inbound) (h : Wire.Header) (o : Wire.Opcode) (payload : Bytes) :
    Except SocketFault (Option SocketFrame × Inbound) :=
  match h.key with
  | none => .error .notMasked
  | some key =>
    let payload := Wire.mask key payload
    if h.reserved then .error .reservedBits
    else if o.isControl then (control h.final o payload).map fun m => (some m, i)
    else i.data h.final o payload

/-- Take the next message: nothing if it is not there yet. -/
def next (i : Inbound) : Except SocketFault (Option SocketFrame × Inbound) :=
  match _h : Wire.scan i.bytes with
  | .short => .ok (none, i)
  | .header header _ rest =>
    match Wire.Opcode.ofNat? header.code with
    | none => .error (.unknownOpcode header.code)
    | some o =>
      if header.length > maxFrame then .error (.tooLong header.length maxFrame)
      else if rest.length < header.length then .ok (none, i)
      else
        let left := { i with bytes := rest.drop header.length }
        match left.judge header o (rest.take header.length) with
        | .error fault => .error fault
        | .ok (some m, after) => .ok (some m, after)
        | .ok (none, after) => next { after with bytes := rest.drop header.length }
termination_by i.bytes.length
decreasing_by
  have hlt : rest.length < i.bytes.length := Wire.length_lt_of_scan _h
  simp only [List.length_drop]; omega

end Inbound

end Switchboard
