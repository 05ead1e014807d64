/-
# `Tacacs.Proofs.Packet.Headers` — twelve octets and the header they spell

A header and the length of a body have twelve octets, and these octets tell both.  Not every
twelve octets do so: the first has to be a version and the second a type (`Packet.Sound`),
while the other ten may be anything.

    place    what                         what is refused
    0        major and minor version      all but 0xC0 and 0xC1
    1        type                         all but 1, 2 and 3
    2        sequence number              nothing
    3        flags, meaning or not        nothing
    4 – 7    session                      nothing
    8 – 11   length of the body           nothing

So writing and reading are inverse to each other between all headers with all lengths on the
one side and the sound strings of twelve octets on the other (`bijOn_encode`).  One half is
known from packets, which are read behind their headers (`decode_encode`).  The other is that
nothing which was read is lost (`encode_claimed`); and what has to be seen for that is that
the code of a version, a type and a number of four octets are those that were read.
-/
import Mathlib.Data.Set.Function
import Tacacs.Proofs.Packet.Filling
import Tacacs.Proofs.Packet.InPlace

namespace Tacacs

/-! ## Octets that were read -/

namespace Octets

theorem be32_read32 (a b c d : UInt8) : be32 (read32 a b c d) = [a, b, c, d] := by
  have ha := a.toNat_lt
  have hb := b.toNat_lt
  have hc := c.toNat_lt
  have hd := d.toNat_lt
  have hvalue : (read32 a b c d).toNat
      = a.toNat * 2 ^ 24 + b.toNat * 2 ^ 16 + c.toNat * 2 ^ 8 + d.toNat := by
    rw [toNat_read32]
    simp only [value, List.foldl_cons, List.foldl_nil]
    omega
  have hoctet {k : UInt32} {n : Nat} {x : UInt8} (hk : k.toNat % 32 = n)
      (h : (read32 a b c d).toNat / 2 ^ n % 256 = x.toNat) :
      (read32 a b c d >>> k).toUInt8 = x := by
    apply UInt8.toNat_inj.1
    rw [UInt32.toNat_toUInt8, UInt32.toNat_shiftRight, hk, Nat.shiftRight_eq_div_pow, h]
  have hfirst : (read32 a b c d >>> 24).toUInt8 = a := hoctet (n := 24) rfl (by omega)
  have hsecond : (read32 a b c d >>> 16).toUInt8 = b := hoctet (n := 16) rfl (by omega)
  have hthird : (read32 a b c d >>> 8).toUInt8 = c := hoctet (n := 8) rfl (by omega)
  have hlast : (read32 a b c d).toUInt8 = d := by
    apply UInt8.toNat_inj.1
    rw [UInt32.toNat_toUInt8]
    omega
  rw [be32, hfirst, hsecond, hthird, hlast]

end Octets

namespace Header

open Packet

variable {h : Header} {length : UInt32} {buffer : Octets}

/-- **Nothing that was read is lost**: written again, a header and a length give the octets
that they were read from. -/
theorem encode_claimed (hread : decode buffer = .ok h)
    (hclaimed : claimedLength? buffer = some length) : h.encode length = buffer.take 12 := by
  unfold decode at hread
  split at hread
  next v t q b i₀ i₁ i₂ i₃ l₀ l₁ l₂ l₃ rest =>
    split at hread
    next minor type hminor htype =>
      obtain rfl := Except.ok.inj hread
      obtain rfl := Option.some.inj hclaimed
      obtain rfl := MinorVersion.ofOctet?_eq_some_iff.1 hminor
      obtain rfl := Coded.ofCode?_eq_some_iff.1 htype
      simp only [encode, Octets.be32_read32]
      rfl
    next => cases hread
  next => cases hread

theorem claimedLength?_of_short (hshort : buffer.length < 12) : claimedLength? buffer = none := by
  unfold claimedLength?
  split
  next =>
    simp only [List.length_cons] at hshort
    omega
  next => rfl

/-- A header that is read stands at the front, place by place. -/
theorem decode_eq_ok_iff (hlong : 12 ≤ buffer.length) :
    decode buffer = .ok h ↔ Sound buffer ∧ h = front buffer := by
  rw [decode_eq hlong]
  split
  next hsound => rw [Except.ok.injEq, eq_comm, and_iff_right hsound]
  next hsound =>
    refine iff_of_false ?_ fun hboth => hsound hboth.1
    intro hread
    cases hread

theorem sound_encode (h : Header) (length : UInt32) : Sound (h.encode length) := by
  have hread : decode (h.encode length ++ []) = .ok h := decode_encode h length []
  rw [List.append_nil] at hread
  exact ((decode_eq_ok_iff (Nat.le_of_eq (h.length_encode length).symm)).1 hread).1

/-! ## The theorem -/

/-- A header is written over the front of a buffer, and stands there. -/
structure StandsIn (h : Header) (length : UInt32) (buffer out : Octets) : Prop where
  written : h.fill length buffer = .ok 12 out
  /-- What stands behind it was there before. -/
  rest : out.drop 12 = buffer.drop 12
  size : out.length = buffer.length
  read : decode out = .ok h
  claimed : claimedLength? out = some length

theorem exists_standsIn (h : Header) (length : UInt32) (hlong : 12 ≤ buffer.length) :
    ∃ out, StandsIn h length buffer out := by
  have hfront : (h.encode length).length = 12 := h.length_encode length
  refine ⟨h.encode length ++ buffer.drop 12, (h.fills length).whole buffer hlong, ?_, ?_,
    h.decode_encode length _, h.claimedLength?_encode length _⟩
  · exact List.drop_left' hfront
  · rw [List.length_append, hfront, List.length_drop]
    omega

/-- What is read at the front of a buffer with room for a header. -/
structure ReadFrom (buffer : Octets) : Prop where
  accepted : (∃ h, decode buffer = .ok h) ↔ Sound buffer
  refused : ¬Sound buffer → decode buffer = .error .malformedHeader
  /-- Every part of a header is told by its place alone, with the number of the version in the
  lower half of its octet; -/
  placed : ∀ h, decode buffer = .ok h → h = front buffer ∧ buffer.octet 0 >>> 4 = 12
    ∧ buffer.octet 0 &&& 15 = if h.minor = .one then 1 else 0
  /-- So is the length, also where there is no header. -/
  claimed : ∃ length, claimedLength? buffer = some length ∧ length.toNat = Packet.claimed buffer
  reproduced : ∀ h length, decode buffer = .ok h → claimedLength? buffer = some length →
    ∀ other : Octets, 12 ≤ other.length →
      h.fill length other = .ok 12 (buffer.take 12 ++ other.drop 12)

theorem readFrom (hlong : 12 ≤ buffer.length) : ReadFrom buffer where
  accepted := by
    simp only [decode_eq_ok_iff hlong, exists_and_left, exists_eq, and_true]
  refused := by
    intro hsound
    rw [decode_eq hlong, if_neg hsound]
  placed := by
    intro h hread
    obtain ⟨hsound, rfl⟩ := (decode_eq_ok_iff hlong).1 hread
    have hminor : (front buffer).minor = if buffer.octet 0 = 0xC0 then .default else .one := rfl
    refine ⟨rfl, ?_⟩
    rw [hminor]
    rcases hsound.1 with hversion | hversion
    · rw [hversion]
      decide
    · rw [hversion]
      decide
  claimed := claimedLength?_eq hlong
  reproduced := by
    intro h length hread hclaimed other hroom
    rw [← encode_claimed hread hclaimed]
    exact (h.fills length).whole other hroom

/-- The octets of headers with lengths are just the sound strings of twelve octets, and each
of these tells one header and one length. -/
theorem bijOn_encode :
    Set.BijOn (fun p : Header × UInt32 => p.1.encode p.2) Set.univ
      {s | s.length = 12 ∧ Sound s} := by
  refine ⟨?_, ?_, ?_⟩
  · rintro ⟨h, length⟩ -
    exact ⟨h.length_encode length, h.sound_encode length⟩
  · rintro ⟨h, length⟩ - ⟨h', length'⟩ - hsame
    have hsame : h.encode length ++ [] = h'.encode length' ++ [] := congrArg (· ++ []) hsame
    have hheader := h.decode_encode length []
    have hclaimed := h.claimedLength?_encode length []
    rw [hsame, decode_encode] at hheader
    rw [hsame, claimedLength?_encode] at hclaimed
    rw [Except.ok.inj hheader, Option.some.inj hclaimed]
  · rintro s ⟨htwelve, hsound⟩
    obtain ⟨length, hclaimed, -⟩ := claimedLength?_eq (Nat.le_of_eq htwelve.symm)
    have hread : decode s = .ok (front s) :=
      (decode_eq_ok_iff (Nat.le_of_eq htwelve.symm)).2 ⟨hsound, rfl⟩
    refine ⟨(front s, length), trivial, ?_⟩
    have hwritten := encode_claimed hread hclaimed
    rwa [List.take_of_length_le (Nat.le_of_eq htwelve)] at hwritten

/-- **Writing and reading a header are inverse to each other.**  A header that is written into
a buffer with room for it is read there again, to the last flag, and its length with it.  What
can be read as a header is told by two octets, and whatever was read gives the same twelve
octets when it is written again. -/
theorem read_inverts_write :
    (∀ (h : Header) (length : UInt32) (buffer : Octets), 12 ≤ buffer.length →
        ∃ out, StandsIn h length buffer out)
      ∧ (∀ buffer : Octets, 12 ≤ buffer.length → ReadFrom buffer)
      ∧ (∀ buffer : Octets, buffer.length < 12 →
          decode buffer = .error .unexpectedEnd ∧ claimedLength? buffer = none)
      ∧ Set.BijOn (fun p : Header × UInt32 => p.1.encode p.2) Set.univ
          {s | s.length = 12 ∧ Sound s} := by
  refine ⟨?_, ?_, ?_, bijOn_encode⟩
  · intro h length buffer hlong
    exact exists_standsIn h length hlong
  · intro buffer hlong
    exact readFrom hlong
  · intro buffer hshort
    exact ⟨decode_of_short hshort, claimedLength?_of_short hshort⟩

/-- The header of a last packet, with every flag set and the greatest length. -/
def utmost : Header :=
  ⟨.one, .accounting, 255, ⟨0xFF⟩, 0xDEADBEEF⟩

/-- It is written into a buffer with two octets more, and read there; and so is what stands
in a buffer that was not written by anybody.  Eleven octets are too few. -/
theorem read_inverts_write_utmost :
    (∃ out, StandsIn utmost 0xFFFFFFFF (List.replicate 14 0xEE) out)
      ∧ ReadFrom [0xC0, 2, 0, 0x52, 0, 1, 0xE2, 0x40, 0x80, 0, 0, 1, 7]
      ∧ decode (List.replicate 11 0xC0) = .error .unexpectedEnd := by
  obtain ⟨hwritten, hread, hshort, -⟩ := read_inverts_write
  refine ⟨hwritten utmost 0xFFFFFFFF _ (by decide), hread _ (by decide), ?_⟩
  exact (hshort (List.replicate 11 0xC0) (by decide)).1

end Header

end Tacacs
