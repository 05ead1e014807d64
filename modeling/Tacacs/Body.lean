/-
# `Tacacs.Body` — packet bodies of every form

Six forms of body go over a connection.  Five are the bodies of authentication
and authorization; accounting bodies are carried as they are.  This file says
for each form what family it belongs to, which minor version it needs, how it is
written and how it is read.

What is written is a string of octets (`encode`); into a buffer it goes part by part
(`fill`), and the size that is asked for beforehand is worked out from the body alone
(`wireSize`).
-/
import Tacacs.Authentication
import Tacacs.Authorization

namespace Tacacs

/-- The forms of packet bodies. -/
inductive BodyKind
  | start
  | continue
  | authenReply
  | authorRequest
  | authorReply
  | accounting
deriving DecidableEq

/-- A packet body. -/
inductive Body
  | start (body : Authentication.Start)
  | continue (body : Authentication.Continue)
  | authenReply (body : Authentication.Reply)
  | authorRequest (body : Authorization.Request)
  | authorReply (body : Authorization.Reply)
  /-- An accounting body, not looked into. -/
  | accounting (octets : Octets)
deriving DecidableEq

namespace Body

/-- The form of a body. -/
def kind : Body → BodyKind
  | start _ => .start
  | .continue _ => .continue
  | authenReply _ => .authenReply
  | authorRequest _ => .authorRequest
  | authorReply _ => .authorReply
  | accounting _ => .accounting

/-- The family a body belongs to. -/
def type : Body → PacketType
  | start _ | .continue _ | authenReply _ => .authentication
  | authorRequest _ | authorReply _ => .authorization
  | accounting _ => .accounting

/-- The minor version a body needs, if it needs one: only a start does. -/
def requiredMinor? : Body → Option MinorVersion
  | start body => body.access.type.requiredMinor?
  | _ => none

/-- The octets of a body. -/
def encode : Body → Octets
  | start body => body.encode
  | .continue body => body.encode
  | authenReply body => body.encode
  | authorRequest body => body.encode
  | authorReply body => body.encode
  | accounting octets => octets

/-- How many octets a body has on the wire. -/
def wireSize : Body → Nat
  | start body => body.wireSize
  | .continue body => body.wireSize
  | authenReply body => body.wireSize
  | authorRequest body => body.wireSize
  | authorReply body => body.wireSize
  | accounting octets => octets.length

@[simp] theorem length_encode (b : Body) : b.encode.length = b.wireSize := by
  cases b <;> simp [encode, wireSize]

/-- Writes a body over the front of a buffer. -/
def fill : Body → Filling Nat
  | start body => body.fill
  | .continue body => body.fill
  | authenReply body => body.fill
  | authorRequest body => body.fill
  | authorReply body => body.fill
  | accounting octets => do
    .room octets.length
    .put 0 octets
    return octets.length

/-- A buffer with a body written over its front. -/
def writeInto? (body : Body) (buffer : Octets) : Option Octets :=
  body.fill.run? buffer

/-- Reads a body of the given form; octets that are none count as a corrupt packet. -/
def decode (kind : BodyKind) (octets : Octets) : Except DecodeError Body :=
  let read? : Option Body :=
    match kind with
    | .start => (Authentication.Start.decode? octets).map start
    | .continue => (Authentication.Continue.decode? octets).map .continue
    | .authenReply => (Authentication.Reply.decode? octets).map authenReply
    | .authorRequest => (Authorization.Request.decode? octets).map authorRequest
    | .authorReply => (Authorization.Reply.decode? octets).map authorReply
    | .accounting => some (accounting octets)
  match read? with
  | some body => .ok body
  | none => .error .corruptPacket

end Body

end Tacacs
