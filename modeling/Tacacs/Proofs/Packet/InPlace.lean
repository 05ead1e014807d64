/-
# `Tacacs.Proofs.Packet.InPlace` — what reading a packet does to its buffer

A packet is read where it stands, at the front of a buffer.  Its body is brought to light
there before it can be told whether it is a body, so a reading that fails may have changed
the buffer, too.  What it does is told here by the places of octets alone.  `refusal?` asks
three things, in this order:

    are there twelve octets?                                   or an unexpected end
    do 0 and 1 stand for a version and a type?                 or a malformed header
    are there as many more as the octets 8 to 11 claim?        or an unexpected end

`receive_confined` says that the buffer stays as it is if one of them fails.  Otherwise the
octets that are claimed are laid over with the pad, no other octet is touched, and none
behind them is looked at; and so it is whatever comes of the body.

All of it is read from one equation, `receive_eq`.  A second reading undoes the first
because the three questions and the pad depend on the first twelve octets and on the length
of the buffer (`whole_congr`, `opened_opened`), and these do not change.
-/
import Tacacs.Proofs.Stream.Framing
import Tacacs.Proofs.Packet.Reading

namespace Tacacs

/-! ## Places at the front -/

namespace Octets

theorem slice_congr {s s' : Octets} {n start length : Nat} (h : s.take n = s'.take n)
    (hin : start + length ≤ n) : s.slice start length = s'.slice start length := by
  have inFront (s : Octets) : slice s start length = slice (s.take n) start length := by
    rw [slice, slice, List.drop_take, List.take_take, Nat.min_eq_left (by omega)]
  rw [inFront s, h, ← inFront s']

theorem getD_congr {s s' : Octets} {n i : Nat} (h : s.take n = s'.take n) (hin : i < n) :
    s.getD i 0 = s'.getD i 0 := by
  rw [List.getD_eq_getElem?_getD, List.getD_eq_getElem?_getD, ← List.getElem?_take_of_lt hin, h,
    List.getElem?_take_of_lt hin]

theorem take_slice_drop (s : Octets) (start length : Nat) :
    s.take start ++ s.slice start length ++ s.drop (start + length) = s := by
  rw [slice, List.append_assoc, ← List.drop_drop, List.take_append_drop, List.take_append_drop]

end Octets

namespace Packet

variable (side : Side) (key : Octets) {buffer other : Octets} {e : DecodeError}

/-- The length that the front of a buffer claims for the body. -/
def claimed (buffer : Octets) : Nat :=
  (buffer.slice 8 4).value

/-- Where the packet at the front of a buffer ends, if there is one. -/
def reach (buffer : Octets) : Nat :=
  12 + claimed buffer

/-- A version and a type stand where a header has them. -/
def Sound (buffer : Octets) : Prop :=
  (buffer.octet 0 = 0xC0 ∨ buffer.octet 0 = 0xC1) ∧ 1 ≤ buffer.octet 1 ∧ buffer.octet 1 ≤ 3
deriving Decidable

/-- Why no packet stands at the front of a buffer, if none does. -/
def refusal? (buffer : Octets) : Option DecodeError :=
  if buffer.length < 12 then some .unexpectedEnd
  else if ¬Sound buffer then some .malformedHeader
  else if buffer.length < reach buffer then some .unexpectedEnd
  else none

/-- The header at the front of a buffer, if there is a sound one. -/
def front (buffer : Octets) : Header :=
  headerAt buffer 0

/-- A buffer with the body at its front laid over with the pad. -/
def opened (key buffer : Octets) : Octets :=
  buffer.take 12 ++ Pad.toggle key (front buffer) (buffer.slice 12 (claimed buffer))
    ++ buffer.drop (reach buffer)

/-! ## One equation -/

theorem decode_eq (h : 12 ≤ buffer.length) :
    Header.decode buffer
      = if Sound buffer then .ok (front buffer) else .error .malformedHeader := by
  obtain ⟨v, t, q, b, i₀, i₁, i₂, i₃, l₀, l₁, l₂, l₃, rest, rfl⟩ :=
    Octets.exists_front 12 h
  have hfront : Header.decode (v :: t :: q :: b :: i₀ :: i₁ :: i₂ :: i₃ :: l₀ :: l₁ :: l₂ :: l₃
      :: rest) = Header.decode [v, t, q, b, i₀, i₁, i₂, i₃, l₀, l₁, l₂, l₃] := rfl
  rw [hfront]
  split
  next hsound =>
    have hlength : [l₀, l₁, l₂, l₃].length = 4 := rfl
    refine (Reader.decode_sound hlength hsound.1 hsound.2).trans ?_
    have hsession : Octets.read32 i₀ i₁ i₂ i₃ = UInt32.ofNat (Octets.value [i₀, i₁, i₂, i₃]) := by
      rw [← Octets.toNat_read32, UInt32.ofNat_toNat]
    rw [hsession]
    rfl
  next hsound =>
    refine (Header.decode_error_iff rfl).2 ?_
    rintro ⟨hv, ht⟩
    exact hsound ⟨hv, Reader.type_known_iff.2 ht⟩

theorem claimedLength?_eq (h : 12 ≤ buffer.length) :
    ∃ length, Header.claimedLength? buffer = some length ∧ length.toNat = claimed buffer := by
  obtain ⟨v, t, q, b, i₀, i₁, i₂, i₃, l₀, l₁, l₂, l₃, rest, rfl⟩ :=
    Octets.exists_front 12 h
  exact ⟨_, rfl, Octets.toNat_read32 l₀ l₁ l₂ l₃⟩

theorem decode_of_short (h : buffer.length < 12) :
    Header.decode buffer = .error .unexpectedEnd := by
  unfold Header.decode
  split
  next =>
    simp only [List.length_cons] at h
    omega
  next => rfl

/-- What reading at the front of a buffer comes to, and what it leaves there. -/
theorem receive_eq (buffer : Octets) :
    receive side key buffer = match refusal? buffer with
      | some e => ⟨.error e, buffer⟩
      | none => ⟨ofReceived side key (front buffer) (buffer.slice 12 (claimed buffer)),
          opened key buffer⟩ := by
  unfold receive refusal?
  by_cases hshort : buffer.length < 12
  · rw [if_pos hshort, decode_of_short hshort]
  obtain ⟨length, hclaimed, hlength⟩ := claimedLength?_eq (Nat.le_of_not_lt hshort)
  rw [if_neg hshort, decode_eq (Nat.le_of_not_lt hshort), hclaimed]
  by_cases hsound : Sound buffer
  · have hbody : ((buffer.drop Header.size).take length.toNat).length < length.toNat
        ↔ buffer.length < reach buffer := by
      rw [List.length_take, List.length_drop, reach, Header.size, hlength]
      omega
    rw [if_pos hsound, if_neg (not_not_intro hsound)]
    dsimp only
    by_cases hend : buffer.length < reach buffer
    · rw [if_pos (hbody.2 hend), if_pos hend]
    · rw [if_neg (mt hbody.1 hend), if_neg hend, hlength, List.drop_drop]
      rfl
  · rw [if_neg hsound, if_pos hsound]

theorem receive_of_refusal (h : refusal? buffer = some e) :
    receive side key buffer = ⟨.error e, buffer⟩ := by
  rw [receive_eq, h]

theorem receive_of_whole (h : refusal? buffer = none) :
    receive side key buffer
      = ⟨ofReceived side key (front buffer) (buffer.slice 12 (claimed buffer)),
          opened key buffer⟩ := by
  rw [receive_eq, h]

theorem refusal?_eq_none_iff :
    refusal? buffer = none ↔ 12 ≤ buffer.length ∧ Sound buffer ∧ reach buffer ≤ buffer.length := by
  unfold refusal?
  split
  next hshort => exact iff_of_false (Option.some_ne_none _) fun h => Nat.not_le_of_lt hshort h.1
  next hlong =>
    split
    next hsound => exact iff_of_false (Option.some_ne_none _) fun h => hsound h.2.1
    next hsound =>
      split
      next hend => exact iff_of_false (Option.some_ne_none _) fun h => Nat.not_le_of_lt hend h.2.2
      next hend =>
        exact iff_of_true rfl
          ⟨Nat.le_of_not_lt hlong, Classical.not_not.1 hsound, Nat.le_of_not_lt hend⟩

/-! ## What it depends on -/

section

variable (hfront : other.take 12 = buffer.take 12)
include hfront

theorem front_congr : front other = front buffer := by
  have hoctet (i : Nat) (h : i < 12) : other.getD i 0 = buffer.getD i 0 :=
    Octets.getD_congr hfront h
  have hsession : other.slice 4 4 = buffer.slice 4 4 := Octets.slice_congr hfront (by decide)
  unfold Octets.slice at hsession
  simp only [front, headerAt, Nat.zero_add, hoctet, hsession, Nat.reduceLT]

theorem claimed_congr : claimed other = claimed buffer := by
  rw [claimed, claimed, Octets.slice_congr hfront (by decide)]

theorem sound_congr : Sound other ↔ Sound buffer := by
  have hoctet (i : Nat) (h : i < 12) : other.octet i = buffer.octet i :=
    Octets.getD_congr hfront h
  rw [Sound, Sound, hoctet 0 (by decide), hoctet 1 (by decide)]

theorem whole_congr (h : refusal? buffer = none) (hlength : reach buffer ≤ other.length) :
    refusal? other = none := by
  obtain ⟨-, hsound, -⟩ := refusal?_eq_none_iff.1 h
  have hreach : reach other = reach buffer := congrArg (12 + ·) (claimed_congr hfront)
  refine refusal?_eq_none_iff.2 ⟨?_, (sound_congr hfront).2 hsound, hreach ▸ hlength⟩
  exact Nat.le_trans (Nat.le_add_right 12 (claimed buffer)) hlength

end

/-! ## A second reading -/

section

variable (h : refusal? buffer = none)
include h

theorem length_slice_claimed : (buffer.slice 12 (claimed buffer)).length = claimed buffer := by
  obtain ⟨-, -, hreach⟩ := refusal?_eq_none_iff.1 h
  rw [reach] at hreach
  rw [Octets.slice, List.length_take, List.length_drop]
  omega

theorem opened_parts :
    (opened key buffer).take 12 = buffer.take 12
      ∧ (opened key buffer).slice 12 (claimed buffer)
          = Pad.toggle key (front buffer) (buffer.slice 12 (claimed buffer))
      ∧ (opened key buffer).drop (reach buffer) = buffer.drop (reach buffer) := by
  obtain ⟨hheader, -, -⟩ := refusal?_eq_none_iff.1 h
  have htake : (buffer.take 12).length = 12 := by
    rw [List.length_take, Nat.min_eq_left hheader]
  have hbody : (Pad.toggle key (front buffer) (buffer.slice 12 (claimed buffer))).length
      = claimed buffer := by
    rw [Pad.length_toggle, length_slice_claimed h]
  refine ⟨?_, ?_, ?_⟩
  · rw [opened, List.append_assoc, List.take_left' htake]
  · rw [opened, List.append_assoc, Octets.slice, List.drop_left' htake, List.take_left' hbody]
  · rw [opened, List.drop_left']
    rw [List.length_append, htake, hbody, reach]

theorem length_opened : (opened key buffer).length = buffer.length := by
  obtain ⟨hheader, -, hreach⟩ := refusal?_eq_none_iff.1 h
  rw [opened, List.length_append, List.length_append, Pad.length_toggle, length_slice_claimed h,
    List.length_take, List.length_drop, Nat.min_eq_left hheader, ← reach]
  omega

theorem whole_opened : refusal? (opened key buffer) = none := by
  obtain ⟨-, -, hreach⟩ := refusal?_eq_none_iff.1 h
  exact whole_congr (opened_parts key h).1 h (length_opened key h ▸ hreach)

theorem opened_opened : opened key (opened key buffer) = buffer := by
  obtain ⟨hheader, hbody, hbehind⟩ := opened_parts key h
  have hclaimed := claimed_congr hheader
  have hreach : reach (opened key buffer) = reach buffer := congrArg (12 + ·) hclaimed
  calc opened key (opened key buffer)
      = buffer.take 12 ++ Pad.toggle key (front buffer)
            (Pad.toggle key (front buffer) (buffer.slice 12 (claimed buffer)))
          ++ buffer.drop (reach buffer) := by
        rw [opened, hclaimed, hreach, front_congr hheader, hheader, hbody, hbehind]
    _ = buffer := by
        rw [Pad.toggle_toggle, reach]
        exact Octets.take_slice_drop buffer 12 (claimed buffer)

end

theorem restored (side' : Side) (buffer : Octets) :
    (receive side' key (receive side key buffer).buffer).buffer = buffer := by
  cases h : refusal? buffer with
  | some e => rw [receive_of_refusal side key h, receive_of_refusal side' key h]
  | none =>
    rw [receive_of_whole side key h, receive_of_whole side' key (whole_opened key h),
      opened_opened key h]

/-! ## What stands behind -/

/-- Buffers that agree as far as the packet at the front reaches are read alike. -/
theorem receive_congr (h : refusal? buffer = none)
    (hagree : other.take (reach buffer) = buffer.take (reach buffer)) :
    (receive side key other).packet = (receive side key buffer).packet
      ∧ (receive side key other).buffer
          = (receive side key buffer).buffer.take (reach buffer) ++ other.drop (reach buffer) := by
  obtain ⟨hheader, -, hreach⟩ := refusal?_eq_none_iff.1 h
  have hin : 12 ≤ reach buffer := Nat.le_add_right 12 (claimed buffer)
  have hfront : other.take 12 = buffer.take 12 := by
    have htake := congrArg (List.take 12) hagree
    rwa [List.take_take, List.take_take, Nat.min_eq_left hin] at htake
  have hbody : other.slice 12 (claimed buffer) = buffer.slice 12 (claimed buffer) :=
    Octets.slice_congr hagree (Nat.le_refl _)
  have hlength : reach buffer ≤ other.length := by
    have htake := congrArg List.length hagree
    rw [List.length_take, List.length_take, Nat.min_eq_left hreach] at htake
    omega
  have hopened : (opened key buffer).take (reach buffer)
      = buffer.take 12 ++ Pad.toggle key (front buffer) (buffer.slice 12 (claimed buffer)) := by
    rw [opened, List.take_left']
    rw [List.length_append, List.length_take, Pad.length_toggle, length_slice_claimed h,
      Nat.min_eq_left hheader, reach]
  have hsame : reach other = reach buffer := congrArg (12 + ·) (claimed_congr hfront)
  rw [receive_of_whole side key h, receive_of_whole side key (whole_congr hfront h hlength),
    front_congr hfront, claimed_congr hfront, hbody]
  refine ⟨rfl, ?_⟩
  rw [hopened, opened, front_congr hfront, claimed_congr hfront, hbody, hfront, hsame]

/-! ## The theorem -/

/-- Reading at the front of a buffer changes no more than it should, and looks at no more. -/
structure Confined (side : Side) (key buffer : Octets) : Prop where
  /-- Where no packet stands, there is an error and nothing else. -/
  refused : ∀ e, refusal? buffer = some e → receive side key buffer = ⟨.error e, buffer⟩
  /-- Otherwise the body is laid over with the pad. -/
  opened : refusal? buffer = none → receive side key buffer
    = ⟨ofReceived side key (front buffer) (buffer.slice 12 (claimed buffer)), opened key buffer⟩
  /-- It is so whatever comes of the body. -/
  comesTo : refusal? buffer = none → ComesTo side (front buffer)
    (Pad.toggle key (front buffer) (buffer.slice 12 (claimed buffer)))
    (receive side key buffer).packet
  /-- What stands behind the packet stays, and has no part in it. -/
  behind : refusal? buffer = none →
    ∀ other, other.take (reach buffer) = buffer.take (reach buffer) →
      (receive side key other).packet = (receive side key buffer).packet
        ∧ (receive side key other).buffer
            = (receive side key buffer).buffer.take (reach buffer) ++ other.drop (reach buffer)
  /-- A second reading undoes the first, whichever way the packet is said to go. -/
  restored : ∀ side', (receive side' key (receive side key buffer).buffer).buffer = buffer

/-- **Reading touches the body that is claimed, and nothing else**, at whatever octet the
buffer ends and whatever length is claimed. -/
theorem receive_confined (side : Side) (key buffer : Octets) : Confined side key buffer where
  refused := by
    intro e h
    exact receive_of_refusal side key h
  opened := by
    intro h
    exact receive_of_whole side key h
  comesTo := by
    intro h
    rw [receive_of_whole side key h]
    exact comesTo_ofReceived side key _ _
  behind := by
    intro h other hagree
    exact receive_congr side key h hagree
  restored := by
    intro side'
    exact restored side key side' buffer

/-- Two octets that are no body are laid over all the same, and the one behind them is not. -/
example :
    let buffer : Octets := [0xC0, 1, 2, 0, 1, 2, 3, 4, 0, 0, 0, 2, 0x4F, 0x4B, 0xEE]
    (receive .reply [0x6B] buffer).packet = .error .corruptPacket
      ∧ (receive .reply [0x6B] buffer).buffer
          = [0xC0, 1, 2, 0, 1, 2, 3, 4, 0, 0, 0, 2, 0x9C, 0x44, 0xEE] := by
  decide +kernel

/-- An unknown version is found out before a length that cannot be met. -/
example : refusal? [0xC2, 1, 1, 0, 0, 0, 0, 1, 0xFF, 0xFF, 0xFF, 0xFF]
    = some .malformedHeader := by
  decide

end Packet

end Tacacs
