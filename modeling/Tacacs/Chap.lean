/-
# `Tacacs.Chap` — challenge-handshake authentication

A CHAP attempt sends an identifier, a challenge of sixteen octets and the digest
of both with the password between them.  The client makes the challenge itself,
and takes the identifier from a sequence in which every attempt has its own
number; the numbers start over after 255.
-/
import Tacacs.Digest.Md5

namespace Tacacs.Chap

/-- A source of identifiers. -/
structure IdentifierSequence where
  /-- The identifier that is drawn next. -/
  next : UInt8
deriving DecidableEq

/-- Draws an identifier. -/
def IdentifierSequence.draw (s : IdentifierSequence) : UInt8 × IdentifierSequence :=
  (s.next, ⟨s.next + 1⟩)

/-- The given number of identifiers, one after the other. -/
def IdentifierSequence.drawMany (s : IdentifierSequence) : Nat → List UInt8
  | 0 => []
  | n + 1 => s.draw.1 :: s.draw.2.drawMany n

/-- The challenge of an attempt: sixteen octets, chosen at random. -/
structure Challenge where
  octets : Octets
  length_eq : octets.length = 16
deriving DecidableEq

/-- The challenge of the given octets, if they are sixteen. -/
def Challenge.ofOctets? (octets : Octets) : Option Challenge :=
  if h : octets.length = 16 then some ⟨octets, h⟩ else none

/-- The digest that shows knowledge of a password. -/
def response (identifier : UInt8) (password : Octets) (challenge : Challenge) : Octets :=
  Digest.Md5.digest (identifier :: password ++ challenge.octets)

/-- What an attempt sends: identifier, challenge and response. -/
def data (identifier : UInt8) (password : Octets) (challenge : Challenge) : Octets :=
  identifier :: challenge.octets ++ response identifier password challenge

@[simp] theorem length_data (identifier : UInt8) (password : Octets) (challenge : Challenge) :
    (data identifier password challenge).length = 33 := by
  simp [data, response, challenge.length_eq]

end Tacacs.Chap
