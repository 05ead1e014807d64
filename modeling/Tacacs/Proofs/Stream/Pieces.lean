/-
# `Tacacs.Proofs.Stream.Pieces` — it does not matter how a stream is cut

A reader takes what has arrived, piece by piece, until a packet is complete.  What it
finds depends on the octets and not on the pieces: to read on with one piece and then
with another is to read on with both joined (`absorb_append`), and so `nextFrame` comes
to what one piece of all the octets would have come to (`nextFrame_waiting`,
`nextFrame_done`).

At the front of a stream a packet that was written is found as it was
(`absorb_packet`); as long as only a part of it is there, the reader waits
(`absorb_part`).
-/
import Tacacs.Frame
import Tacacs.Proofs.Packet.RoundTrip

namespace Tacacs.Reader

variable {limit : UInt32} {r r' : Reader} {progress : Progress} {left : Octets}

/-! ## One piece after the other -/

/-- The packet is not complete yet. -/
def Partial : Reader → Prop
  | .header got => got.length < Header.size
  | .body _ length got => got.length < length

theorem partial_start : start.Partial :=
  Nat.zero_lt_succ _

/-- Goes on, from where reading has come to, with octets that arrive later. -/
def goOn (limit : UInt32) : Progress × Octets → Octets → Progress × Octets
  | (.waiting r, _), more => r.absorb limit more
  | (progress, left), more => (progress, left ++ more)

theorem goOn_done (hdone : ∀ r, progress ≠ .waiting r) (limit : UInt32) (left more : Octets) :
    goOn limit (progress, left) more = (progress, left ++ more) := by
  cases progress with
  | waiting r => exact absurd rfl (hdone r)
  | frame f => rfl
  | ended => rfl
  | failed e => rfl

theorem opened_waiting {octets : Octets} (h : opened limit octets = .waiting r) :
    ∃ header length, r = .body header length [] := by
  unfold opened at h
  split at h
  · cases h
  · split at h
    · cases h
    · split at h
      · cases h
      · cases h
        exact ⟨_, _, rfl⟩

/-- Octets that do not fill up a part of a known size are all taken, and what comes later
goes behind them. -/
theorem fill_short {size : Nat} {got s : Octets}
    (h : (got ++ s.take (size - got.length)).length < size) (more : Octets) :
    s.take (size - got.length) = s ∧ s.drop (size - got.length) = [] ∧
      (s ++ more).take (size - got.length) = s ++ more.take (size - (got ++ s).length) ∧
      (s ++ more).drop (size - got.length) = more.drop (size - (got ++ s).length) := by
  rw [List.length_append, List.length_take] at h
  have hshort : s.length ≤ size - got.length := by omega
  have hmissing : size - (got ++ s).length = size - got.length - s.length := by
    rw [List.length_append, Nat.sub_add_eq]
  rw [List.take_append, List.drop_append, List.take_of_length_le hshort,
    List.drop_of_length_le hshort, hmissing]
  exact ⟨rfl, rfl, rfl, rfl⟩

theorem fill_long {size : Nat} {got s : Octets}
    (h : ¬(got ++ s.take (size - got.length)).length < size) (more : Octets) :
    (s ++ more).take (size - got.length) = s.take (size - got.length) ∧
      (s ++ more).drop (size - got.length) = s.drop (size - got.length) ++ more := by
  rw [List.length_append, List.length_take] at h
  have hlong : size - got.length ≤ s.length := by omega
  exact ⟨List.take_append_of_le_length hlong, List.drop_append_of_le_length hlong⟩

theorem fillBody_append (limit : UInt32) (h : Header) (length : Nat) (got s more : Octets) :
    fillBody h length got (s ++ more) = goOn limit (fillBody h length got s) more := by
  by_cases hfull : (got ++ s.take (length - got.length)).length < length
  · obtain ⟨htake, -, htake', hdrop'⟩ := fill_short hfull more
    have hwaiting : fillBody h length got s
        = (.waiting (.body h length (got ++ s)), s.drop (length - got.length)) := by
      rw [fillBody, if_pos hfull, htake]
    rw [hwaiting, goOn, absorb, fillBody, fillBody, htake', hdrop', List.append_assoc]
  · obtain ⟨htake', hdrop'⟩ := fill_long hfull more
    rw [fillBody, fillBody, if_neg hfull, htake', hdrop', if_neg hfull]
    rfl

/-- To read on with two pieces joined is to read on with one and then the other. -/
theorem absorb_append (limit : UInt32) (r : Reader) (s more : Octets) :
    r.absorb limit (s ++ more) = goOn limit (r.absorb limit s) more := by
  cases r with
  | body h length got => exact fillBody_append limit h length got s more
  | header got =>
    by_cases hfull : (got ++ s.take (Header.size - got.length)).length < Header.size
    · obtain ⟨htake, -, htake', hdrop'⟩ := fill_short hfull more
      have hwaiting : (Reader.header got).absorb limit s
          = (.waiting (.header (got ++ s)), s.drop (Header.size - got.length)) := by
        rw [absorb, if_pos hfull, htake]
      rw [hwaiting, goOn, absorb, absorb, htake', hdrop', List.append_assoc]
    · obtain ⟨htake', hdrop'⟩ := fill_long hfull more
      rw [absorb, absorb, if_neg hfull, htake', hdrop', if_neg hfull]
      split
      next h length got' hopened => exact fillBody_append limit h length got' _ more
      next hbody =>
        refine (goOn_done ?_ _ _ _).symm
        intro r hopened
        obtain ⟨header, length, rfl⟩ := opened_waiting hopened
        exact hbody _ _ _ hopened

theorem waiting_fillBody {h : Header} {length : Nat} {got s : Octets}
    (hf : fillBody h length got s = (.waiting r', left)) : left = [] ∧ r'.Partial := by
  unfold fillBody at hf
  dsimp only at hf
  split at hf
  next hfull =>
    cases hf
    exact ⟨(fill_short hfull []).2.1, hfull⟩
  next hfull => cases hf

/-- A reader that waits has taken everything, and its packet is not complete. -/
theorem waiting_absorb {s : Octets} (h : r.absorb limit s = (.waiting r', left)) :
    left = [] ∧ r'.Partial := by
  cases r with
  | body header length got => exact waiting_fillBody h
  | header got =>
    unfold absorb at h
    dsimp only at h
    split at h
    next hfull =>
      cases h
      exact ⟨(fill_short hfull []).2.1, hfull⟩
    next hfull =>
      split at h
      next hopened => exact waiting_fillBody h
      next hbody =>
        obtain ⟨header, length, rfl⟩ := opened_waiting (Prod.mk.inj h).1
        exact absurd (Prod.mk.inj h).1 (hbody _ _ _)

theorem absorb_nil (h : r.Partial) : r.absorb limit [] = (.waiting r, []) := by
  cases r with
  | header got =>
    simp only [absorb, List.take_nil, List.append_nil, List.drop_nil]
    exact if_pos h
  | body header length got =>
    simp only [absorb, fillBody, List.take_nil, List.append_nil, List.drop_nil]
    exact if_pos h

/-! ## All pieces at hand -/

theorem nextFrame_piece {s : Octets} (h : r.absorb limit s = (progress, left))
    (hdone : ∀ r, progress ≠ .waiting r) (rest : List Arrival) :
    ∃ pieces : List Octets, pieces.flatten = left
      ∧ r.nextFrame limit (.octets s :: rest) = (progress, pieces.map .octets ++ rest) := by
  rw [nextFrame, h]
  split
  next r' left' hw => exact absurd (Prod.mk.inj hw).1 (hdone r')
  next progress' hne heq =>
    cases heq
    exact ⟨[], rfl, rfl⟩
  next progress' left' hne hnil heq =>
    cases heq
    exact ⟨[left], List.append_nil _, rfl⟩

theorem nextFrame_waiting (hr : r.Partial) {pieces : List Octets}
    (h : r.absorb limit pieces.flatten = (.waiting r', left)) (rest : List Arrival) :
    r.nextFrame limit (pieces.map .octets ++ rest) = r'.nextFrame limit rest := by
  induction pieces generalizing r with
  | nil =>
    rw [List.flatten_nil, absorb_nil hr] at h
    cases h
    rfl
  | cons s pieces ih =>
    rw [List.flatten_cons, absorb_append] at h
    cases hs : r.absorb limit s with
    | mk progress left₁ =>
      rw [hs] at h
      cases progress with
      | waiting r₁ =>
        rw [List.map_cons, List.cons_append, nextFrame, hs]
        exact ih (waiting_absorb hs).2 h
      | frame f => cases h
      | ended => cases h
      | failed e => cases h

/-- Where all octets hold a packet, it is found, and the octets behind it are left. -/
theorem nextFrame_done (hr : r.Partial) {pieces : List Octets}
    (h : r.absorb limit pieces.flatten = (progress, left)) (hdone : ∀ r, progress ≠ .waiting r)
    (rest : List Arrival) :
    ∃ pieces' : List Octets, pieces'.flatten = left
      ∧ r.nextFrame limit (pieces.map .octets ++ rest)
        = (progress, pieces'.map .octets ++ rest) := by
  induction pieces generalizing r with
  | nil =>
    rw [List.flatten_nil, absorb_nil hr] at h
    exact absurd (Prod.mk.inj h).1.symm (hdone r)
  | cons s pieces ih =>
    rw [List.flatten_cons, absorb_append] at h
    rw [List.map_cons, List.cons_append]
    cases hs : r.absorb limit s with
    | mk progress₁ left₁ =>
      rw [hs] at h
      by_cases hw : ∃ r₁, progress₁ = .waiting r₁
      · obtain ⟨r₁, rfl⟩ := hw
        rw [nextFrame, hs]
        exact ih (waiting_absorb hs).2 h
      · have hdone₁ (r₁ : Reader) (he : progress₁ = .waiting r₁) : False := hw ⟨r₁, he⟩
        rw [goOn_done hdone₁] at h
        obtain ⟨rfl, rfl⟩ := Prod.mk.inj h
        obtain ⟨pieces', rfl, hnext⟩ := nextFrame_piece hs hdone (pieces.map .octets ++ rest)
        refine ⟨pieces' ++ pieces, List.flatten_append, ?_⟩
        rw [hnext, List.map_append, List.append_assoc]

/-! ## Packets -/

theorem fillBody_start (h : Header) (length : Nat) (behind : Octets) :
    fillBody h length [] behind =
      if behind.length < length then (.waiting (.body h length behind), [])
      else (.frame ⟨h, behind.take length⟩, behind.drop length) := by
  have hlength : (behind.take length).length < length ↔ behind.length < length := by
    rw [List.length_take]
    omega
  simp only [fillBody, List.length_nil, Nat.sub_zero, List.nil_append, hlength]
  split
  next hshort =>
    rw [List.take_of_length_le (Nat.le_of_lt hshort), List.drop_of_length_le (Nat.le_of_lt hshort)]
  next => rfl

theorem absorb_start {head behind : Octets} (hhead : head.length = Header.size) :
    start.absorb limit (head ++ behind) =
      match Header.decode head with
      | .error e => (.failed (.ofDecodeError e), behind)
      | .ok h =>
        let length := (Header.claimedLength? head).getD 0
        if limit < length then (.failed .corruptPacket, behind)
        else fillBody h length.toNat [] behind := by
  have hfull : ¬head.length < Header.size := by
    rw [hhead]
    exact Nat.lt_irrefl _
  rw [start, absorb]
  simp only [List.length_nil, Nat.sub_zero, List.nil_append, List.take_left' hhead,
    List.drop_left' hhead, if_neg hfull]
  unfold opened
  cases Header.decode head with
  | error e => rfl
  | ok h =>
    dsimp only
    generalize (Header.claimedLength? head).getD 0 = length
    by_cases hlimit : limit < length
    · rw [if_pos hlimit, if_pos hlimit]
    · rw [if_neg hlimit, if_neg hlimit]
      -- a body without octets is not waited for, and the same is found as if it were
      by_cases hempty : length = 0
      · subst hempty
        rfl
      · rw [if_neg hempty]

theorem absorb_packet {h : Header} {length : UInt32} {body : Octets}
    (hlength : body.length = length.toNat) (hlimit : length ≤ limit) (rest : Octets) :
    start.absorb limit (h.encode length ++ body ++ rest) = (.frame ⟨h, body⟩, rest) := by
  have hdecode := Header.decode_encode h length []
  have hclaimed := Header.claimedLength?_encode h length []
  have hnot : ¬limit < length := UInt32.not_lt.2 hlimit
  have hcomplete : ¬(body ++ rest).length < length.toNat := by
    rw [List.length_append]
    omega
  rw [List.append_nil] at hdecode hclaimed
  rw [List.append_assoc, absorb_start (Header.length_encode h length), hdecode, hclaimed]
  dsimp only [Option.getD_some]
  rw [if_neg hnot, fillBody_start, if_neg hcomplete, List.take_left' hlength,
    List.drop_left' hlength]

/-- As long as only a part of a packet is there, the reader waits; when the rest comes,
the packet is found, and what is behind it is left. -/
theorem absorb_part {f : Frame} {packet s more rest : Octets}
    (hpacket : ∀ rest, start.absorb limit (packet ++ rest) = (.frame f, rest))
    (h : s ++ more = packet ++ rest) :
    (∃ r, start.absorb limit s = (.waiting r, []))
      ∨ ∃ left, start.absorb limit s = (.frame f, left) ∧ left ++ more = rest := by
  have hall := hpacket rest
  rw [← h, absorb_append] at hall
  cases hs : start.absorb limit s with
  | mk progress left =>
    rw [hs] at hall
    cases progress with
    | waiting r =>
      obtain ⟨rfl, -⟩ := waiting_absorb hs
      exact .inl ⟨r, rfl⟩
    | frame f' =>
      obtain ⟨hf, hleft⟩ := Prod.mk.inj hall
      cases hf
      exact .inr ⟨left, rfl, hleft⟩
    | ended => cases hall
    | failed e => cases hall

end Tacacs.Reader
