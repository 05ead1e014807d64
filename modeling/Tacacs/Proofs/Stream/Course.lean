/-
# `Tacacs.Proofs.Stream.Course` — a whole stream, from its first octet to its end

`found` says what stands at the front of a stream that is known to its end, and `course`
what the whole stream amounts to: the packets that are taken from it, in order, and why
the reading stops.  Both look at the octets alone, and test one thing after the other in
the order in which they can go wrong.

The reader knows nothing of the stream but what has arrived.  `nextFrame_found` says that
it comes to the same nevertheless: wherever it stands, and however much has arrived, it
waits for more, or it finds what `found` finds at the front of everything that it holds,
that has arrived and that is still to come.
-/
import Tacacs.Proofs.Connection.Frames

namespace Tacacs

/-! ## Streams -/

/-- How a stream comes to its end. -/
inductive StreamEnd
  /-- The server closes it. -/
  | ended
  | fault (f : StreamFault)
deriving DecidableEq

namespace StreamEnd

/-- The end of a stream, as it arrives. -/
def arrival : StreamEnd → Arrival
  | ended => .ended
  | fault f => .fault f

/-- What it means that a stream comes to its end when only these octets of a header are
there. -/
def inHeader (got : Octets) : StreamEnd → Except Failure Unit
  | ended => if got = [] then .ok () else .error .closed
  | fault f => .error (.stream f)

/-- What it means that a stream comes to its end within a body. -/
def inBody : StreamEnd → Except Failure Unit
  | ended => .error .closed
  | fault f => if f.kind = .unexpectedEof then .error .closed else .error (.stream f)

end StreamEnd

/-- What stands at the front of a stream. -/
inductive Found
  /-- A packet, and these octets behind it. -/
  | packet (f : Frame) (rest : Octets)
  /-- No packet, but a reason to stop. -/
  | stop (result : Except Failure Unit)

/-- Looks for a packet at the front of a stream that comes to this end. -/
def found (limit : UInt32) (e : StreamEnd) (s : Octets) : Found :=
  if s.length < Header.size then .stop (e.inHeader s)
  else
    match Header.decode (s.take Header.size) with
    | .error _ => .stop (.error .malformedHeader)
    | .ok h =>
      let length := (Header.claimedLength? (s.take Header.size)).getD 0
      if limit < length then .stop (.error .corruptPacket)
      else
        let behind := s.drop Header.size
        if behind.length < length.toNat then .stop e.inBody
        else .packet ⟨h, behind.take length.toNat⟩ (behind.drop length.toNat)

theorem length_lt_of_found {limit : UInt32} {e : StreamEnd} {s rest : Octets} {f : Frame}
    (h : found limit e s = .packet f rest) : rest.length < s.length := by
  unfold found at h
  split at h
  · cases h
  · rename_i hheader
    split at h
    · cases h
    · dsimp only at h
      split at h
      · cases h
      · split at h
        · cases h
        · obtain ⟨-, rfl⟩ := Found.packet.inj h
          have hsize : 0 < Header.size := Nat.zero_lt_succ _
          rw [List.length_drop, List.length_drop]
          omega

/-- The packets that are taken from a stream, and what the reading of it comes to. -/
def course (config : Config) (e : StreamEnd) (s : Octets) : List Frame × Except Failure Unit :=
  match _h : found config.maxBodyLength e s with
  | .stop result => ([], result)
  | .packet f rest =>
    if f.stops config then ([f], .error (.unexpectedType .accounting))
    else (f :: (course config e rest).1, (course config e rest).2)
termination_by s.length
decreasing_by all_goals exact length_lt_of_found _h

section

variable {config : Config} {e : StreamEnd} {s rest : Octets} {f : Frame}
  {result : Except Failure Unit}

theorem course_of_stop (h : found config.maxBodyLength e s = .stop result) :
    course config e s = ([], result) := by
  rw [course]
  split
  next hfound =>
    cases h.symm.trans hfound
    rfl
  next hfound => cases h.symm.trans hfound

theorem course_of_packet (h : found config.maxBodyLength e s = .packet f rest) :
    course config e s =
      if f.stops config then ([f], .error (.unexpectedType .accounting))
      else (f :: (course config e rest).1, (course config e rest).2) := by
  rw [course]
  split
  next hfound => cases h.symm.trans hfound
  next hfound =>
    cases h.symm.trans hfound
    rfl

end

/-! ## Headers -/

/-- A header that is complete is refused for an unknown version or an unknown type, and for
nothing else. -/
theorem Header.decode_error_iff {v t : UInt8} {rest : Octets} (h : rest.length = 10) :
    Header.decode (v :: t :: rest) = .error .malformedHeader ↔
      ¬((v = 0xC0 ∨ v = 0xC1) ∧ (t = 1 ∨ t = 2 ∨ t = 3)) := by
  have hversion : (∃ minor, MinorVersion.ofOctet? v = some minor) ↔ v = 0xC0 ∨ v = 0xC1 := by
    simp only [MinorVersion.ofOctet?_eq_some_iff]
    constructor
    · rintro ⟨_ | _, rfl⟩
      · exact .inl rfl
      · exact .inr rfl
    · rintro (rfl | rfl)
      · exact ⟨.default, rfl⟩
      · exact ⟨.one, rfl⟩
  have htype : (∃ type : PacketType, Coded.ofCode? t = some type) ↔ t = 1 ∨ t = 2 ∨ t = 3 := by
    simp only [Coded.ofCode?_eq_some_iff]
    constructor
    · rintro ⟨_ | _ | _, rfl⟩
      · exact .inl rfl
      · exact .inr (.inl rfl)
      · exact .inr (.inr rfl)
    · rintro (rfl | rfl | rfl)
      · exact ⟨.authentication, rfl⟩
      · exact ⟨.authorization, rfl⟩
      · exact ⟨.accounting, rfl⟩
  rw [← hversion, ← htype]
  match rest, h with
  | [_, _, _, _, _, _, _, _, _, _], _ =>
    simp only [decode]
    cases MinorVersion.ofOctet? v <;>
      cases (Coded.ofCode? t : Option PacketType) <;> simp

theorem Header.decode_error {octets : Octets} {e : DecodeError} (h : octets.length = Header.size)
    (he : Header.decode octets = .error e) : e = .malformedHeader := by
  match octets, h with
  | [_, _, _, _, _, _, _, _, _, _, _, _], _ =>
    simp only [decode] at he
    split at he
    · cases he
    · exact (Except.error.inj he).symm

/-! ## What the reader finds -/

namespace Reader

variable {limit : UInt32} {e : StreamEnd} {r : Reader} {held whole : Octets}

/-- What it comes to that the stream ends before the packet is complete. -/
def cutOff (e : StreamEnd) : Reader → Except Failure Unit
  | .header got => e.inHeader got
  | .body .. => e.inBody

/-- What it comes to that the stream ends where reading has come to. -/
def conclude (e : StreamEnd) : Progress × Octets → Found
  | (.waiting r, _) => .stop (r.cutOff e)
  | (.frame f, left) => .packet f left
  | (.ended, _) => .stop (.ok ())
  | (.failed failure, _) => .stop (.error failure)

/-- The reader tests for the same in the same order. -/
theorem conclude_absorb (limit : UInt32) (e : StreamEnd) (s : Octets) :
    conclude e (start.absorb limit s) = found limit e s := by
  unfold found
  by_cases hshort : s.length < Header.size
  · have hhead : [] ++ s.take (Header.size - ([] : Octets).length) = s :=
      List.take_of_length_le (Nat.le_of_lt hshort)
    rw [if_pos hshort, start, absorb, hhead, if_pos hshort]
    rfl
  · have hlength : (s.take Header.size).length = Header.size := by
      rw [List.length_take]
      omega
    have hread : start.absorb limit (s.take Header.size ++ s.drop Header.size) = _ :=
      absorb_start hlength
    rw [List.take_append_drop] at hread
    rw [if_neg hshort, hread]
    cases hdecode : Header.decode (s.take Header.size) with
    | error e' =>
      obtain rfl := Header.decode_error hlength hdecode
      rfl
    | ok h =>
      dsimp only
      generalize (Header.claimedLength? (s.take Header.size)).getD 0 = length
      split
      next => rfl
      next =>
        rw [fillBody_start]
        split <;> rfl

/-- At the end of the stream the reader says what it comes to. -/
theorem nextFrame_end (limit : UInt32) (e : StreamEnd) (r : Reader) :
    ∃ progress rest, r.nextFrame limit [e.arrival] = (progress, rest) ∧
      ((progress = .ended ∧ r.cutOff e = .ok ()) ∨
        ∃ failure, progress = .failed failure ∧ r.cutOff e = .error failure) := by
  cases e with
  | ended =>
    refine ⟨r.atEnd, [.ended], rfl, ?_⟩
    match r with
    | .header [] => exact .inl ⟨rfl, rfl⟩
    | .header (_ :: _) => exact .inr ⟨.closed, rfl, rfl⟩
    | .body .. => exact .inr ⟨.closed, rfl, rfl⟩
  | fault f =>
    refine ⟨r.atFault f, [], rfl, .inr ?_⟩
    match r, f with
    | .header _, f => exact ⟨.stream f, rfl, rfl⟩
    | .body .., ⟨kind, text⟩ =>
      cases kind with
      | unexpectedEof => exact ⟨.closed, rfl, rfl⟩
      | _ => exact ⟨_, rfl, rfl⟩

/-- What a reader comes to with what has arrived of a stream, while this is still to come.
The stream, from the front of the packet that the reader is in, is `whole`. -/
inductive Finds (limit : UInt32) (e : StreamEnd) (whole : Octets) (more : List Arrival) :
    Progress × List Arrival → Prop
  | waits {r : Reader} (held : Octets) {pieces : List Octets} :
      start.absorb limit held = (.waiting r, []) → more = pieces.map .octets ++ [e.arrival] →
      held ++ pieces.flatten = whole → Finds limit e whole more (.waiting r, [])
  | packet {f : Frame} {rest : List Arrival} {pieces : List Octets} :
      rest ++ more = pieces.map .octets ++ [e.arrival] →
      found limit e whole = .packet f pieces.flatten → Finds limit e whole more (.frame f, rest)
  | ended {rest : List Arrival} : found limit e whole = .stop (.ok ()) →
      Finds limit e whole more (.ended, rest)
  | failed {failure : Failure} {rest : List Arrival} :
      found limit e whole = .stop (.error failure) →
      Finds limit e whole more (.failed failure, rest)

/-- What has arrived of a stream are some of its pieces, or all of them and its end. -/
theorem arrived_cases {arrivals more : List Arrival} {pieces : List Octets} {e : StreamEnd}
    (h : arrivals ++ more = pieces.map .octets ++ [e.arrival]) :
    (∃ here later, pieces = here ++ later ∧ arrivals = here.map .octets ∧
        more = later.map .octets ++ [e.arrival]) ∨
      arrivals = pieces.map .octets ++ [e.arrival] ∧ more = [] := by
  rcases List.append_eq_append_iff.1 h with ⟨later, hpieces, hmore⟩ | ⟨end', harrivals, hend⟩
  · obtain ⟨here, later', rfl, hhere, hlater⟩ := List.map_eq_append_iff.1 hpieces
    exact .inl ⟨here, later', rfl, hhere.symm, by rw [hlater, hmore]⟩
  · cases end' with
    | nil =>
      refine .inl ⟨pieces, [], (List.append_nil _).symm, ?_, ?_⟩
      · rw [harrivals, List.append_nil]
      · exact hend.symm
    | cons a end' =>
      obtain ⟨rfl, hnil⟩ := List.cons.inj hend
      obtain ⟨rfl, rfl⟩ := List.append_eq_nil_iff.1 hnil.symm
      exact .inr ⟨harrivals, rfl⟩

/-- **What the reader comes to is what stands in the stream**, as far as it has arrived. -/
theorem nextFrame_found (hheld : start.absorb limit held = (.waiting r, []))
    {arrivals more : List Arrival} {pieces : List Octets}
    (h : arrivals ++ more = pieces.map .octets ++ [e.arrival]) :
    Finds limit e (held ++ pieces.flatten) more (r.nextFrame limit arrivals) := by
  have hr : r.Partial := (waiting_absorb hheld).2
  have hjoin (s : Octets) : start.absorb limit (held ++ s) = r.absorb limit s := by
    rw [absorb_append, hheld]
    rfl
  -- behind a packet, or a fault, stands what was not looked at
  have done : ∀ (here later : List Octets) (tail : List Arrival) {progress left},
      pieces = here ++ later → tail ++ more = later.map .octets ++ [e.arrival] →
      r.absorb limit here.flatten = (progress, left) → (∀ r', progress ≠ .waiting r') →
      Finds limit e (held ++ pieces.flatten) more
        (r.nextFrame limit (here.map .octets ++ tail)) := by
    rintro here later tail progress left rfl htail habsorb hdone
    obtain ⟨pieces', rfl, hnext⟩ := nextFrame_done hr habsorb hdone tail
    have hfound : found limit e (held ++ (here ++ later).flatten)
        = conclude e (progress, (pieces' ++ later).flatten) := by
      rw [← conclude_absorb, hjoin, List.flatten_append, absorb_append, habsorb,
        goOn_done hdone, List.flatten_append]
    rw [hnext]
    cases progress with
    | waiting r' => exact absurd rfl (hdone r')
    | frame f =>
      refine .packet ?_ hfound
      rw [List.append_assoc, htail, List.map_append, List.append_assoc]
    | ended => exact .ended hfound
    | failed failure => exact .failed hfound
  rcases arrived_cases h with ⟨here, later, hpieces, rfl, hmore⟩ | ⟨rfl, rfl⟩
  · cases habsorb : r.absorb limit here.flatten with
    | mk progress left =>
      by_cases hw : ∃ r', progress = .waiting r'
      · obtain ⟨r', rfl⟩ := hw
        obtain ⟨rfl, -⟩ := waiting_absorb habsorb
        have hnext := nextFrame_waiting hr habsorb []
        rw [List.append_nil] at hnext
        rw [hnext]
        refine .waits (held ++ here.flatten) ((hjoin _).trans habsorb) hmore ?_
        rw [hpieces, List.flatten_append, List.append_assoc]
      · have hrest := done here later [] hpieces hmore habsorb fun r' he => hw ⟨r', he⟩
        rwa [List.append_nil] at hrest
  · cases habsorb : r.absorb limit pieces.flatten with
    | mk progress left =>
      by_cases hw : ∃ r', progress = .waiting r'
      · obtain ⟨r', rfl⟩ := hw
        have hfound : found limit e (held ++ pieces.flatten) = .stop (r'.cutOff e) := by
          rw [← conclude_absorb, hjoin, habsorb]
          rfl
        rw [nextFrame_waiting hr habsorb]
        obtain ⟨progress, rest, hnext, ⟨rfl, hcut⟩ | ⟨failure, rfl, hcut⟩⟩ :=
          nextFrame_end limit e r'
        · rw [hnext]
          exact .ended (hcut ▸ hfound)
        · rw [hnext]
          exact .failed (hcut ▸ hfound)
      · exact done pieces [] [e.arrival] (List.append_nil _).symm rfl habsorb
          fun r' he => hw ⟨r', he⟩

end Reader

end Tacacs
