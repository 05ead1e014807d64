/-
# `Tacacs.Frame` — cutting packets out of a stream

What arrives on a stream arrives in pieces of any size, and the pieces have
nothing to do with the packets in them.  A `Reader` holds the part of a packet
that is there already: some of the header, or the header and some of the body.
`nextFrame` reads on through the pieces at hand until a packet is complete, the
stream ends or fails, or there is nothing more to read.  It takes exactly the
octets of that packet and leaves the rest of the last piece in its place.

The header is judged as soon as it is complete, and a body longer than the limit
is refused before any of it is read.  Where the end of the stream finds the
reader decides what it means: between two packets it is the end, anywhere else
the connection broke off.
-/
import Tacacs.Failure

namespace Tacacs

/-- A packet as it came off a stream: its body may still be hidden. -/
structure Frame where
  header : Header
  body : Octets
deriving DecidableEq

/-- What happens on the receiving side of a stream. -/
inductive Arrival
  /-- Octets that arrive together. -/
  | octets (s : Octets)
  /-- The end of the stream.  Nothing comes after it. -/
  | ended
  | fault (fault : StreamFault)
deriving DecidableEq

/-- The part of a packet that was read so far. -/
inductive Reader
  /-- Fewer octets than a header has. -/
  | header (got : Octets)
  /-- A header, the length it claims, and fewer octets than that. -/
  | body (header : Header) (length : Nat) (got : Octets)
deriving DecidableEq

/-- Where reading has come to. -/
inductive Progress
  /-- There is nothing more to read yet. -/
  | waiting (reader : Reader)
  | frame (frame : Frame)
  /-- The stream ended between two packets. -/
  | ended
  | failed (failure : Failure)
deriving DecidableEq

namespace Reader

/-- A reader between two packets. -/
def start : Reader := .header []

/-- Goes on from a complete header. -/
def opened (limit : UInt32) (octets : Octets) : Progress :=
  match Header.decode octets, (Header.claimedLength? octets).getD 0 with
  | .error e, _ => .failed (.ofDecodeError e)
  | .ok h, length =>
    if limit < length then .failed .corruptPacket
    else if length = 0 then .frame ⟨h, []⟩
    else .waiting (.body h length.toNat [])

/-- Reads on in a body, and says what is left of the octets. -/
def fillBody (h : Header) (length : Nat) (got octets : Octets) : Progress × Octets :=
  let missing := length - got.length
  let got := got ++ octets.take missing
  if got.length < length then (.waiting (.body h length got), octets.drop missing)
  else (.frame ⟨h, got⟩, octets.drop missing)

/-- Reads on with octets that arrived together, as far as the packet goes, and
says what is left of them. -/
def absorb (limit : UInt32) : Reader → Octets → Progress × Octets
  | .body h length got, octets => fillBody h length got octets
  | .header got, octets =>
    let missing := Header.size - got.length
    let got := got ++ octets.take missing
    let rest := octets.drop missing
    if got.length < Header.size then (.waiting (.header got), rest)
    else
      match opened limit got with
      | .waiting (.body h length got) => fillBody h length got rest
      | progress => (progress, rest)

/-- What the end of the stream means to a reader. -/
def atEnd : Reader → Progress
  | .header [] => .ended
  | _ => .failed .closed

/-- What a failed reading means to a reader: within a body, a stream that ends
too early counts as closed, however it says so. -/
def atFault : Reader → StreamFault → Progress
  | .body .., ⟨.unexpectedEof, _⟩ => .failed .closed
  | _, fault => .failed (.stream fault)

/-- Reads up to the end of a packet, and says what is left of what arrived. -/
def nextFrame (limit : UInt32) : Reader → List Arrival → Progress × List Arrival
  | r, [] => (.waiting r, [])
  | r, .octets s :: rest =>
    match r.absorb limit s with
    | (.waiting r, _) => r.nextFrame limit rest
    | (progress, []) => (progress, rest)
    | (progress, left) => (progress, .octets left :: rest)
  | r, .ended :: rest => (r.atEnd, .ended :: rest)
  | r, .fault f :: rest => (r.atFault f, rest)

/-- What the given number of readings come to, each of them beginning between
two packets: octets read by one that has to wait are lost to the next. -/
def readings (limit : UInt32) : Nat → List Arrival → List Progress
  | 0, _ => []
  | n + 1, arrivals =>
    let (progress, rest) := start.nextFrame limit arrivals
    progress :: readings limit n rest

end Reader

end Tacacs
