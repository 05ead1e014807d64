/-
# `Tacacs.Proofs.Packet.RoundTrip` — a packet arrives as it was sent

A packet that was written can be read at the other end, if it goes the right way
(`Travels`) and both ends have the same key.  The header comes back as it was, with the
flags that mean nothing here.  The body comes back as it is read from its own octets,
which is the body itself unless a part of it had to be cut (`Body.normal`).  What stands
behind the packet in the buffer stays there.

Writer and reader meet in three places, and there is a lemma for each.  The length that
the writer puts into the header is the length that the reader takes from it
(`claimedLength?_encode`).  The pad depends on nothing but the key and what the reader
finds in the header (`decode_encode`), so the reader takes off what the writer laid on.
And the reader, who knows no more than the header and the direction, looks for a body of
the form that was written (`bodyKind_of_travels`).
-/
import Tacacs.Packet
import Tacacs.Proofs.Body.NormalForm

namespace Tacacs

/-! ## Numbers of four octets -/

namespace Octets

theorem read32_be32 (n : UInt32) :
    read32 (n >>> 24).toUInt8 (n >>> 16).toUInt8 (n >>> 8).toUInt8 n.toUInt8 = n := by
  apply UInt32.toBitVec_inj.1
  ext i hi
  simp only [read32, UInt32.toBitVec_or, UInt32.toBitVec_shiftLeft, UInt8.toBitVec_toUInt32,
    UInt32.toBitVec_toUInt8, UInt32.toBitVec_shiftRight, UInt32.toBitVec_ofNat,
    BitVec.ofNat_eq_ofNat, BitVec.reduceMod, BitVec.ushiftRight_eq', BitVec.toNat_ofNat,
    Nat.reducePow, Nat.reduceMod, BitVec.shiftLeft_eq', BitVec.getElem_or,
    BitVec.getElem_shiftLeft, BitVec.getElem_setWidth, BitVec.getLsbD_setWidth,
    BitVec.getLsbD_ushiftRight]
  grind

end Octets

/-! ## Headers -/

namespace Header

/-- Reading a header that was written gives that header, whatever follows it. -/
theorem decode_encode (h : Header) (length : UInt32) (rest : Octets) :
    decode (h.encode length ++ rest) = .ok h := by
  have hminor : MinorVersion.ofOctet? h.minor.octet = some h.minor :=
    MinorVersion.ofOctet?_eq_some_iff.2 rfl
  simp only [encode, Octets.be32, List.cons_append, List.nil_append, decode, hminor,
    Coded.ofCode?_code, Octets.read32_be32]

theorem claimedLength?_encode (h : Header) (length : UInt32) (rest : Octets) :
    claimedLength? (h.encode length ++ rest) = some length := by
  simp only [encode, Octets.be32, List.cons_append, List.nil_append, claimedLength?,
    Octets.read32_be32]

end Header

/-! ## Sizes -/

namespace Authorization

theorem sentSize_le (arguments : List Argument) : sentSize arguments ≤ 65280 := by
  have hall (as : List Argument) :
      as.foldr (fun a size => 1 + a.wireSize + size) 0 ≤ 256 * as.length := by
    induction as with
    | nil => exact Nat.le_refl _
    | cons a as ih =>
      have hone : a.wireSize ≤ 255 := Nat.min_le_left _ _
      rw [List.foldr_cons, List.length_cons]
      omega
  have hfew : (arguments.take 255).length ≤ 255 := List.length_take_le _ _
  have hsent := hall (arguments.take 255)
  rw [sentSize]
  omega

end Authorization

/-- The length field of a header can tell the size of any body but an accounting body. -/
theorem Body.wireSize_lt {body : Body} (h : ∀ octets, body = .accounting octets →
    octets.length < 0x100000000) : body.wireSize < 0x100000000 := by
  cases body with
  | start s =>
    simp only [wireSize, Authentication.Start.wireSize, Origin.wireSize]
    omega
  | «continue» c =>
    simp only [wireSize, Authentication.Continue.wireSize]
    omega
  | authenReply r =>
    simp only [wireSize, Authentication.Reply.wireSize]
    omega
  | authorRequest r =>
    have harguments := Authorization.sentSize_le r.arguments
    simp only [wireSize, Authorization.Request.wireSize, Origin.wireSize]
    omega
  | authorReply r =>
    have harguments := Authorization.sentSize_le r.arguments
    simp only [wireSize, Authorization.Reply.wireSize]
    omega
  | accounting octets => exact h octets rfl

namespace Packet

/-! ## Writing -/

/-- The octets of a packet, its body hidden under a key unless the header says that it is
open. -/
def encode (key : Octets) (p : Packet) : Except EncodeError Octets :=
  if p.header.flags.unencrypted then p.encodeOpen else p.encodeHidden key

/-- The number in the header of a packet that is written. -/
def lengthField (p : Packet) : UInt32 :=
  UInt32.ofNat p.body.wireSize

theorem toNat_lengthField {p : Packet} (h : p.body.wireSize < 0x100000000) :
    p.lengthField.toNat = p.body.wireSize := by
  rw [lengthField, UInt32.toNat_ofNat', Nat.mod_eq_of_lt h]

/-- The octets of a packet whose body is not too long. -/
def octets (key : Octets) (p : Packet) : Octets :=
  p.header.encode p.lengthField ++ Pad.toggle key p.header p.body.encode

@[simp] theorem length_octets (key : Octets) (p : Packet) : (p.octets key).length = p.wireSize := by
  rw [octets, List.length_append, Header.length_encode, Pad.length_toggle, Body.length_encode,
    wireSize]

theorem encode_eq {p : Packet} (h : p.body.wireSize < 0x100000000) (key : Octets) :
    p.encode key = .ok (p.octets key) := by
  unfold encode
  split
  next hopen =>
    rw [encodeOpen, if_pos hopen, encodeThrough, if_pos h, octets, Pad.toggle, if_pos hopen]
    rfl
  next hhidden =>
    rw [encodeHidden, if_neg hhidden, encodeThrough, if_pos h]
    rfl

/-! ## Reading -/

/-- A packet may go this way, and its header tells the form of its body. -/
def Travels (p : Packet) : Side → Prop
  | .reply =>
    match p.body with
    | .authenReply _ | .authorReply _ => True
    | _ => False
  | .request =>
    match p.body with
    | .start _ => p.header.sequence = 1
    | .continue _ => p.header.sequence ≠ 1
    | .authorRequest _ => True
    | .accounting octets => octets.length < 0x100000000
    | _ => False

theorem type_of_new? {p : Packet} (h : new? p.header p.body = some p) :
    p.header.type = p.body.type := by
  unfold new? at h
  split at h
  next hother => cases h
  next hsame => exact Classical.not_not.1 hsame

theorem wireSize_lt_of_travels {p : Packet} {side : Side} (h : p.Travels side) :
    p.body.wireSize < 0x100000000 := by
  refine Body.wireSize_lt ?_
  intro octets hbody
  cases side with
  | reply =>
    rw [Travels, hbody] at h
    exact h.elim
  | request =>
    rw [Travels, hbody] at h
    exact h

theorem bodyKind_of_travels {p : Packet} {side : Side} (htype : p.header.type = p.body.type)
    (h : p.Travels side) : bodyKind side p.header = .ok p.body.kind := by
  obtain ⟨⟨minor, type, sequence, flags, session⟩, body⟩ := p
  obtain rfl : type = body.type := htype
  cases side with
  | reply =>
    cases body with
    | authenReply r => rfl
    | authorReply r => rfl
    | _ => exact h.elim
  | request =>
    cases body with
    | start s => exact congrArg Except.ok (if_pos h)
    | «continue» c => exact congrArg Except.ok (if_neg h)
    | authorRequest r => rfl
    | accounting octets => rfl
    | _ => exact h.elim

/-- Only the key under which a packet was hidden brings it to light, but any key will do
if it is open. -/
def Opens (p : Packet) (key key' : Octets) : Prop :=
  p.header.flags.unencrypted = true ∨ key' = key

theorem toggle_of_opens {p : Packet} {key key' : Octets} (h : p.Opens key key') (body : Octets) :
    Pad.toggle key' p.header (Pad.toggle key p.header body) = body := by
  rcases h with hopen | rfl
  · rw [Pad.toggle, if_pos hopen, Pad.toggle, if_pos hopen]
  · exact Pad.toggle_toggle _ _ _

theorem receive_octets {p : Packet} {side : Side} {key key' : Octets}
    (htype : p.header.type = p.body.type) (htravels : p.Travels side) (hopens : p.Opens key key')
    (rest : Octets) :
    receive side key' (p.octets key ++ rest)
      = ⟨.ok ⟨p.header, p.body.normal⟩,
          (p.octets key).take Header.size ++ p.body.encode ++ rest⟩ := by
  have hlength := toNat_lengthField (wireSize_lt_of_travels htravels)
  have hhidden : (Pad.toggle key p.header p.body.encode).length = p.lengthField.toNat := by
    rw [Pad.length_toggle, Body.length_encode, hlength]
  have hplain : ofPlain side p.header p.body.encode = .ok ⟨p.header, p.body.normal⟩ := by
    rw [ofPlain, bodyKind_of_travels htype htravels]
    dsimp only
    rw [Body.decode_encode]
    rfl
  rw [octets, List.append_assoc, receive, Header.decode_encode, Header.claimedLength?_encode]
  dsimp only
  rw [List.drop_left' (Header.length_encode _ _), List.take_left' hhidden,
    List.drop_left' hhidden, if_neg (by omega), toggle_of_opens hopens, hplain,
    List.take_left' (Header.length_encode _ _), List.take_left' (Header.length_encode _ _)]

/-- What is written for a packet, and what is read at the front of a buffer in which it
stands. -/
structure Arrives (side : Side) (key : Octets) (p : Packet) (octets : Octets) (body : Body) :
    Prop where
  written : p.encode key = .ok octets
  length : octets.length = p.wireSize
  /-- The header tells how long the body is. -/
  claimed : ∃ length, Header.claimedLength? octets = some length
    ∧ length.toNat = p.body.encode.length
  /-- The body is read as it is read from its own octets, not hidden. -/
  plain : Body.decode p.body.kind p.body.encode = .ok body
  /-- The header is read as it was, and nothing happens to what follows the packet. -/
  read : ∀ key' rest, p.Opens key key' →
    receive side key' (octets ++ rest)
      = ⟨.ok ⟨p.header, body⟩, octets.take Header.size ++ p.body.encode ++ rest⟩

/-- **A packet arrives as it was sent.**  Any packet that was put together, and goes the
right way, can be written, and is read again whatever the key and whatever stands behind
it; and the body that is read is the one that was written if that one is read as itself
from its own octets. -/
theorem receive_encode {p : Packet} {side : Side} (hnew : new? p.header p.body = some p)
    (htravels : p.Travels side) (key : Octets) :
    ∃ octets body, Arrives side key p octets body
      ∧ (Body.decode p.body.kind p.body.encode = .ok p.body → ∀ key' rest, p.Opens key key' →
          (receive side key' (octets ++ rest)).packet = .ok p) := by
  have hsize := wireSize_lt_of_travels htravels
  have htype := type_of_new? hnew
  have hclaimed : Header.claimedLength? (p.octets key) = some p.lengthField :=
    Header.claimedLength?_encode _ _ _
  have hread (key' rest : Octets) (hopens : p.Opens key key') :=
    receive_octets htype htravels hopens rest
  refine ⟨p.octets key, p.body.normal, ?_, ?_⟩
  · exact ⟨encode_eq hsize key, length_octets key p,
      ⟨_, hclaimed, by rw [toNat_lengthField hsize, Body.length_encode]⟩, Body.decode_encode _,
      hread⟩
  · intro hsame key' rest hopens
    rw [Body.decode_encode] at hsame
    rw [hread key' rest hopens, Except.ok.inj hsame]

/-- The last packet of a login: the user may come in.  Four flags that mean nothing are
set. -/
def welcome : Packet :=
  ⟨⟨.default, .authentication, 2, ⟨0xF0⟩, 0xDEADBEEF⟩, .authenReply ⟨.pass, 0, "welcome", [0xFF]⟩⟩

theorem receive_encode_welcome :
    new? welcome.header welcome.body = some welcome ∧ welcome.Travels .reply
      ∧ ∃ octets, welcome.encode [0x6B, 0x65, 0x79] = .ok octets
        ∧ (receive .reply [0x6B, 0x65, 0x79] (octets ++ [1, 2, 3])).packet = .ok welcome := by
  have hnew : new? welcome.header welcome.body = some welcome := by decide
  have htravels : welcome.Travels .reply := trivial
  have hfits : welcome.body.Fits := by decide
  obtain ⟨octets, body, harrives, hsame⟩ := receive_encode hnew htravels [0x6B, 0x65, 0x79]
  refine ⟨hnew, htravels, octets, harrives.written, hsame ?_ _ [1, 2, 3] (.inr rfl)⟩
  rw [Body.decode_encode, Body.normal_of_fits hfits]

end Packet

end Tacacs
