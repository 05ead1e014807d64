/-
# `Tacacs.Packet` — whole packets

A packet is a header and a body.  Packets that a client makes pass `Packet.new?`,
which asks that the header names the body's family and the minor version the
body needs.  Packets that are read do not pass it: what the peer wrote is what
one gets.

A packet is written with its body hidden (`encodeHidden`) or open
(`encodeOpen`), and the header has to say which.  Reading takes the direction of
the packet (`Side`), because the same header stands before different bodies on
the way to the server and on the way back.  The body a header claims is brought to
light in the buffer before it is read, and it stays so when the reading fails
(`Received.buffer`).
-/
import Tacacs.Body
import Tacacs.Pad

namespace Tacacs

/-- A packet. -/
structure Packet where
  header : Header
  body : Body
deriving DecidableEq

/-- Why a packet cannot be written. -/
inductive EncodeError
  /-- The body is too long for the header's length field. -/
  | notEnoughSpace
  /-- The header says "open" of a packet to be hidden, or the other way round. -/
  | flagMismatch
deriving DecidableEq

/-- The wording of a writing error. -/
def EncodeError.message : EncodeError → String
  | .notEnoughSpace => "not enough space in provided buffer"
  | .flagMismatch => "unencrypted header flag does not match requested obfuscation"

/-- The two directions of a connection. -/
inductive Side
  /-- From the server. -/
  | reply
  /-- From the client. -/
  | request
deriving DecidableEq

namespace Packet

/-- The packet of a header and a body that go together. -/
def new? (header : Header) (body : Body) : Option Packet :=
  if header.type ≠ body.type then none
  else match body.requiredMinor? with
    | some minor => if minor = header.minor then some ⟨header, body⟩ else none
    | none => some ⟨header, body⟩

/-- How many octets a packet has on the wire. -/
def wireSize (p : Packet) : Nat :=
  Header.size + p.body.wireSize

/-! ## Writing -/

/-- The octets of a packet, its body laid under a header through `hide`. -/
def encodeThrough (hide : Octets → Octets) (p : Packet) : Except EncodeError Octets :=
  if p.body.wireSize < 0x100000000 then
    .ok (p.header.encode (UInt32.ofNat p.body.wireSize) ++ hide p.body.encode)
  else .error .notEnoughSpace

/-- The octets of a packet with its body hidden under a key. -/
def encodeHidden (key : Octets) (p : Packet) : Except EncodeError Octets :=
  if p.header.flags.unencrypted then .error .flagMismatch
  else p.encodeThrough (Pad.toggle key p.header)

/-- The octets of a packet with its body as it is. -/
def encodeOpen (p : Packet) : Except EncodeError Octets :=
  if p.header.flags.unencrypted then p.encodeThrough id else .error .flagMismatch

/-! ## Reading -/

/-- The form of the body behind a header, by the direction of the packet. -/
def bodyKind (side : Side) (h : Header) : Except DecodeError BodyKind :=
  match side, h.type with
  | .reply, .authentication => .ok .authenReply
  | .reply, .authorization => .ok .authorReply
  | .reply, .accounting => .error (.unsupportedType .accounting)
  | .request, .authentication => .ok (if h.sequence = 1 then .start else .continue)
  | .request, .authorization => .ok .authorRequest
  | .request, .accounting => .ok .accounting

/-- Reads the packet of a header and a body that was brought to light. -/
def ofPlain (side : Side) (h : Header) (body : Octets) : Except DecodeError Packet :=
  match bodyKind side h with
  | .error e => .error e
  | .ok kind => (Body.decode kind body).map (Packet.mk h)

/-- Reads the packet of a header and a body as it was received. -/
def ofReceived (side : Side) (key : Octets) (h : Header) (body : Octets) :
    Except DecodeError Packet :=
  ofPlain side h (Pad.toggle key h body)

/-- What reading at the front of a buffer comes to. -/
structure Received where
  packet : Except DecodeError Packet
  /-- The buffer after the reading. -/
  buffer : Octets

/-- Reads a packet at the front of a buffer.  The body is brought to light in
place; nothing changes if there is no sound header or not all of the body. -/
def receive (side : Side) (key buffer : Octets) : Received :=
  match Header.decode buffer, Header.claimedLength? buffer with
  | .error e, _ => ⟨.error e, buffer⟩
  | .ok _, none => ⟨.error .unexpectedEnd, buffer⟩
  | .ok h, some length =>
    let rest := buffer.drop Header.size
    let body := rest.take length.toNat
    if body.length < length.toNat then ⟨.error .unexpectedEnd, buffer⟩
    else
      let body := Pad.toggle key h body
      ⟨ofPlain side h body, buffer.take Header.size ++ body ++ rest.drop length.toNat⟩

end Packet

end Tacacs
