/-
# `Tacacs.Header` — the twelve octets in front of every packet

A header names the protocol version, the packet's type, its sequence number
within the session, two flags, the session, and the length of the body that
follows.  The length is no part of `Header`: it is worked out from the body
whenever a packet is written, and read from the octets by `claimedLength?`.

The major version is always 12, so a version is known by its minor number.  All
eight bits of the flags are kept, also the six that mean nothing here.
`Header.decode` looks at the version before the type, and both faults have the
same name; only a string too short for a header has another.
-/
import Tacacs.Coded
import Tacacs.Buffer

namespace Tacacs

/-! ## The parts of a header -/

/-- The minor version, which decides which kinds of authentication are open. -/
inductive MinorVersion
  /-- The version of ASCII authentication and of authorization. -/
  | default
  /-- The version of PAP and CHAP authentication. -/
  | one
deriving DecidableEq

namespace MinorVersion

/-- The version octet: the major version 12 above the minor one. -/
def octet : MinorVersion → UInt8
  | default => 0xC0
  | one => 0xC1

/-- Reads a version octet. -/
def ofOctet? (octet : UInt8) : Option MinorVersion :=
  if octet = 0xC0 then some default
  else if octet = 0xC1 then some one
  else none

theorem ofOctet?_eq_some_iff {o : UInt8} {v : MinorVersion} :
    ofOctet? o = some v ↔ o = v.octet := by
  cases v <;> simp only [ofOctet?, octet] <;> grind

end MinorVersion

/-- The three families of packets. -/
inductive PacketType
  | authentication
  | authorization
  | accounting
deriving DecidableEq

namespace PacketType

instance : Coded PacketType where
  members := [authentication, authorization, accounting]
  code
    | authentication => 1
    | authorization => 2
    | accounting => 3
  mem_members a := by cases a <;> decide
  code_injective a b := by cases a <;> cases b <;> decide

/-- The name of a packet type in messages. -/
def name : PacketType → String
  | authentication => "Authentication"
  | authorization => "Authorization"
  | accounting => "Accounting"

end PacketType

/-- The eight flag bits of a header. -/
structure Flags where
  bits : UInt8
deriving DecidableEq

namespace Flags

/-- The flags of a packet this library makes. -/
def make (unencrypted singleConnection : Bool) : Flags :=
  ⟨(if unencrypted then 0x01 else 0) ||| (if singleConnection then 0x04 else 0)⟩

/-- The body is sent as it is. -/
def unencrypted (flags : Flags) : Bool :=
  flags.bits &&& 0x01 != 0

/-- The sender would keep the connection for further sessions. -/
def singleConnection (flags : Flags) : Bool :=
  flags.bits &&& 0x04 != 0

@[simp] theorem unencrypted_make (u s : Bool) : (make u s).unencrypted = u := by
  cases u <;> cases s <;> decide

@[simp] theorem singleConnection_make (u s : Bool) : (make u s).singleConnection = s := by
  cases u <;> cases s <;> decide

end Flags

/-- The number all packets of a session share. -/
abbrev SessionId := UInt32

/-- A packet header, without the length of the body. -/
structure Header where
  minor : MinorVersion
  type : PacketType
  /-- Odd in packets of the client, even in packets of the server. -/
  sequence : UInt8
  flags : Flags
  session : SessionId
deriving DecidableEq

/-! ## What can be wrong with received octets -/

/-- Why received octets are no packet. -/
inductive DecodeError
  /-- The version or the packet type is unknown. -/
  | malformedHeader
  /-- The lengths in the body do not add up, or a code in it is not assigned.
  A wrong key has the same effect. -/
  | corruptPacket
  /-- A packet of a type that does not come this way. -/
  | unsupportedType (type : PacketType)
  | unexpectedEnd
deriving DecidableEq

/-- The wording of a decoding error. -/
def DecodeError.message : DecodeError → String
  | .malformedHeader => "unknown version or packet type in header"
  | .corruptPacket => "corrupt packet or bad key"
  | .unsupportedType type => "unexpected inbound packet type " ++ type.name
  | .unexpectedEnd => "unexpected end of buffer when deserializing"

/-! ## Writing, reading, following -/

namespace Header

/-- How many octets a header has. -/
def size : Nat := 12

/-- The octets of a header in front of a body of the given length. -/
def encode (h : Header) (length : UInt32) : Octets :=
  [h.minor.octet, Coded.code h.type, h.sequence, h.flags.bits]
    ++ Octets.be32 h.session ++ Octets.be32 length

@[simp] theorem length_encode (h : Header) (n : UInt32) : (h.encode n).length = size := rfl

/-- Writes a header over the front of a buffer. -/
def fill (h : Header) (length : UInt32) : Filling Nat := do
  .room size
  .put 0 [h.minor.octet]
  .put 1 [Coded.code h.type]
  .put 2 [h.sequence]
  .put 3 [h.flags.bits]
  .put 4 (Octets.be32 h.session)
  .put 8 (Octets.be32 length)
  return size

/-- A buffer with a header written over its front. -/
def writeInto? (h : Header) (length : UInt32) (buffer : Octets) : Option Octets :=
  (h.fill length).run? buffer

/-- Reads the header at the front of a string. -/
def decode : Octets → Except DecodeError Header
  | v :: t :: sequence :: bits :: i₀ :: i₁ :: i₂ :: i₃ :: _ :: _ :: _ :: _ :: _ =>
    match MinorVersion.ofOctet? v, Coded.ofCode? t with
    | some minor, some type => .ok ⟨minor, type, sequence, ⟨bits⟩, Octets.read32 i₀ i₁ i₂ i₃⟩
    | _, _ => .error .malformedHeader
  | _ => .error .unexpectedEnd

/-- The body length that the header at the front of a string claims, whether
the rest of the header is sound or not. -/
def claimedLength? : Octets → Option UInt32
  | _ :: _ :: _ :: _ :: _ :: _ :: _ :: _ :: l₀ :: l₁ :: l₂ :: l₃ :: _ =>
    some (Octets.read32 l₀ l₁ l₂ l₃)
  | _ => none

/-- The header of the packet that follows within the session, in the given
version.  There is none after sequence number 255: numbers never start over. -/
def next? (h : Header) (minor : MinorVersion) : Option Header :=
  if h.sequence = 255 then none
  else some { h with minor, sequence := h.sequence + 1 }

end Header

/-- The wording for a header that nothing can follow. -/
def Header.exhaustedMessage : String :=
  "session sequence numbers exhausted; start a new session"

end Tacacs
