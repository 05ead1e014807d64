/-
# `Tacacs.Proofs.Stream.Framing` — the packets in a stream, place by place

What readings come to is said twice.  `standsAt` says it of a stream as a whole: it looks
at the octets from an offset on, by their places, and tells what stands there and how far
it reaches.  `parse` goes on from there to the next offset, up to the first one at which no
packet stands.  A `Reader` knows no offsets; it takes one piece after the other, and has to
keep half a header or half a body in mind where a piece ends.

`readings_eq_parse` says that both come to the same, however the stream is cut, and that
each reading takes as much from the stream as `standsAt` says.  The pieces matter at one
place only: `nextFrame_pieces` joins them.  From there on both sides look at the same
octets, one at the front and one at an offset (`absorb_drop`).
-/
import Tacacs.Proofs.Stream.Course

namespace Tacacs

/-! ## Numbers -/

namespace Octets

/-- The number that octets spell, the high one first. -/
def value (s : Octets) : Nat :=
  s.foldl (fun n octet => 256 * n + octet.toNat) 0

theorem toNat_read32 (a b c d : UInt8) : (read32 a b c d).toNat = value [a, b, c, d] := by
  -- to join numbers that have no binary place in common is to add them
  have or_eq_add {x y i : Nat} (h : y < 2 ^ i) : x * 2 ^ i ||| y = x * 2 ^ i + y := by
    rw [← Nat.shiftLeft_eq, Nat.shiftLeft_add_eq_or_of_lt h]
  have ha := a.toNat_lt
  have hb := b.toNat_lt
  have hc := c.toNat_lt
  have hd := d.toNat_lt
  have hread : (read32 a b c d).toNat
      = a.toNat * 2 ^ 24 ||| b.toNat * 2 ^ 16 ||| c.toNat * 2 ^ 8 ||| d.toNat := by
    simp only [read32, UInt32.toNat_or, UInt32.toNat_shiftLeft, UInt8.toNat_toUInt32,
      Nat.shiftLeft_eq, UInt32.reduceToNat, Nat.reduceMod]
    rw [Nat.mod_eq_of_lt (by omega), Nat.mod_eq_of_lt (by omega), Nat.mod_eq_of_lt (by omega)]
  have htwo : a.toNat * 2 ^ 24 ||| b.toNat * 2 ^ 16 = (a.toNat * 2 ^ 8 + b.toNat) * 2 ^ 16 := by
    rw [or_eq_add (by omega)]
    omega
  have hthree : (a.toNat * 2 ^ 8 + b.toNat) * 2 ^ 16 ||| c.toNat * 2 ^ 8
      = ((a.toNat * 2 ^ 8 + b.toNat) * 2 ^ 8 + c.toNat) * 2 ^ 8 := by
    rw [or_eq_add (by omega)]
    omega
  rw [hread, htwo, hthree, or_eq_add (by omega)]
  simp only [value, List.foldl_cons, List.foldl_nil]
  omega

end Octets

/-! ## What stands at an offset -/

/-- The header at an offset, if there is a sound one. -/
def headerAt (s : Octets) (o : Nat) : Header where
  minor := if s.getD o 0 = 0xC0 then .default else .one
  type :=
    if s.getD (o + 1) 0 = 1 then .authentication
    else if s.getD (o + 1) 0 = 2 then .authorization
    else .accounting
  sequence := s.getD (o + 2) 0
  flags := ⟨s.getD (o + 3) 0⟩
  session := UInt32.ofNat (Octets.value ((s.drop (o + 4)).take 4))

/-- What stands at an offset of a stream, up to its end, and the offset to go on from. -/
def standsAt (limit : UInt32) (s : Octets) (o : Nat) : Progress × Nat :=
  if s.length ≤ o then (.ended, o)
  else if s.length < o + 12 then (.failed .closed, s.length)
  else if ¬((s.getD o 0 = 0xC0 ∨ s.getD o 0 = 0xC1) ∧
      1 ≤ s.getD (o + 1) 0 ∧ s.getD (o + 1) 0 ≤ 3) then
    (.failed .malformedHeader, o + 12)
  else
    let length := Octets.value ((s.drop (o + 8)).take 4)
    if limit.toNat < length then (.failed .corruptPacket, o + 12)
    else if s.length < o + 12 + length then (.failed .closed, s.length)
    else (.frame ⟨headerAt s o, (s.drop (o + 12)).take length⟩, o + 12 + length)

theorem lt_of_standsAt {limit : UInt32} {s : Octets} {o o' : Nat} {f : Frame}
    (h : standsAt limit s o = (.frame f, o')) : o < o' ∧ o' ≤ s.length := by
  unfold standsAt at h
  split at h
  · cases h
  · split at h
    · cases h
    · split at h
      · cases h
      · dsimp only at h
        split at h
        · cases h
        · split at h
          · cases h
          · rename_i hend
            obtain rfl := (Prod.mk.inj h).2
            omega

theorem standsAt_le (limit : UInt32) {s : Octets} {o : Nat} (h : o ≤ s.length) :
    (standsAt limit s o).2 ≤ s.length := by
  unfold standsAt
  split
  · exact h
  · split
    · exact Nat.le_refl _
    · split
      · dsimp only
        omega
      · dsimp only
        split
        · dsimp only
          omega
        · split
          · exact Nat.le_refl _
          · dsimp only
            omega

/-- Everything that stands in a stream from an offset on, up to the first that is no packet,
each with the offset behind it. -/
def parse (limit : UInt32) (s : Octets) (o : Nat) : List (Progress × Nat) :=
  match _h : standsAt limit s o with
  | (.frame f, o') => (.frame f, o') :: parse limit s o'
  | stop => [stop]
termination_by s.length - o
decreasing_by
  have hlt := lt_of_standsAt _h
  omega

section

variable {limit : UInt32} {s : Octets} {o o' : Nat} {progress : Progress}

theorem parse_of_frame {f : Frame} (h : standsAt limit s o = (.frame f, o')) :
    parse limit s o = (.frame f, o') :: parse limit s o' := by
  rw [parse]
  split
  next hframe =>
    cases h.symm.trans hframe
    rfl
  next hstop => exact absurd h (hstop _ _)

theorem parse_of_stop (h : standsAt limit s o = (progress, o'))
    (hstop : ∀ f, progress ≠ .frame f) : parse limit s o = [(progress, o')] := by
  rw [parse]
  split
  next f _ hframe => exact absurd (Prod.mk.inj (h.symm.trans hframe)).1 (hstop f)
  next => rw [h]

end

/-! ## The reader and the offset -/

namespace Reader

variable {limit : UInt32} {s : Octets} {o : Nat}

/-- What it comes to that a stream ends where reading has come to, and what is left. -/
def atLast : Progress × Octets → Progress × Octets
  | (.waiting r, _) => (r.atEnd, [])
  | (progress, left) => (progress, left)

theorem nextFrame_pieces (limit : UInt32) (pieces : List Octets) :
    ∃ rest : List Octets, start.nextFrame limit (pieces.map .octets ++ [.ended])
        = ((atLast (start.absorb limit pieces.flatten)).1, rest.map .octets ++ [.ended]) ∧
      rest.flatten = (atLast (start.absorb limit pieces.flatten)).2 := by
  cases habsorb : start.absorb limit pieces.flatten with
  | mk progress left =>
    cases progress with
    | waiting r =>
      refine ⟨[], ?_, rfl⟩
      rw [nextFrame_waiting partial_start habsorb]
      rfl
    | frame f =>
      obtain ⟨rest, hrest, hnext⟩ := nextFrame_done partial_start habsorb nofun [.ended]
      exact ⟨rest, hnext, hrest⟩
    | ended =>
      obtain ⟨rest, hrest, hnext⟩ := nextFrame_done partial_start habsorb nofun [.ended]
      exact ⟨rest, hnext, hrest⟩
    | failed e =>
      obtain ⟨rest, hrest, hnext⟩ := nextFrame_done partial_start habsorb nofun [.ended]
      exact ⟨rest, hnext, hrest⟩

theorem atLast_absorb {head behind : Octets} (hhead : head.length = Header.size) :
    atLast (start.absorb limit (head ++ behind)) =
      match Header.decode head with
      | .error e => (.failed (.ofDecodeError e), behind)
      | .ok h =>
        let length := (Header.claimedLength? head).getD 0
        if limit < length then (.failed .corruptPacket, behind)
        else if behind.length < length.toNat then (.failed .closed, [])
        else (.frame ⟨h, behind.take length.toNat⟩, behind.drop length.toNat) := by
  rw [absorb_start hhead]
  cases Header.decode head with
  | error e => rfl
  | ok h =>
    dsimp only
    generalize (Header.claimedLength? head).getD 0 = length
    split
    next => rfl
    next =>
      rw [fillBody_start]
      split <;> rfl

theorem type_known_iff {t : UInt8} : 1 ≤ t ∧ t ≤ 3 ↔ t = 1 ∨ t = 2 ∨ t = 3 := by
  rw [UInt8.le_iff_toNat_le, UInt8.le_iff_toNat_le]
  simp only [← UInt8.toNat_inj, UInt8.reduceToNat]
  omega

theorem decode_sound {v t q b i₀ i₁ i₂ i₃ : UInt8} {rest : Octets} (hrest : rest.length = 4)
    (hv : v = 0xC0 ∨ v = 0xC1) (ht : 1 ≤ t ∧ t ≤ 3) :
    Header.decode (v :: t :: q :: b :: i₀ :: i₁ :: i₂ :: i₃ :: rest) =
      .ok ⟨if v = 0xC0 then .default else .one,
        if t = 1 then .authentication else if t = 2 then .authorization else .accounting,
        q, ⟨b⟩, Octets.read32 i₀ i₁ i₂ i₃⟩ := by
  match rest, hrest with
  | [_, _, _, _], _ =>
    rcases hv with rfl | rfl <;> rcases type_known_iff.1 ht with rfl | rfl | rfl <;> rfl

theorem absorb_drop_short (limit : UInt32) (h : s.length < o + 12) :
    atLast (start.absorb limit (s.drop o)) =
      ((standsAt limit s o).1, s.drop (standsAt limit s o).2) := by
  unfold standsAt
  by_cases hend : s.length ≤ o
  · rw [if_pos hend, List.drop_of_length_le hend]
    rfl
  · have hlength : (s.drop o).length < Header.size := by
      rw [List.length_drop, Header.size]
      omega
    have hne : s.drop o ≠ [] := by
      rw [Ne, List.drop_eq_nil_iff]
      exact hend
    have hwait : start.absorb limit (s.drop o) = (.waiting (.header (s.drop o)), []) := by
      rw [start, absorb]
      simp only [List.length_nil, Nat.sub_zero, List.nil_append,
        List.take_of_length_le (Nat.le_of_lt hlength),
        List.drop_of_length_le (Nat.le_of_lt hlength)]
      exact if_pos hlength
    rw [if_neg hend, if_pos h, hwait, List.drop_length]
    cases hs : s.drop o with
    | nil => exact absurd hs hne
    | cons octet rest => rfl

/-- **The reader finds what stands at the offset** to which the octets before were taken. -/
theorem absorb_drop (limit : UInt32) (s : Octets) (o : Nat) :
    atLast (start.absorb limit (s.drop o)) =
      ((standsAt limit s o).1, s.drop (standsAt limit s o).2) := by
  by_cases hshort : s.length < o + 12
  · exact absorb_drop_short limit hshort
  have hhead : ((s.drop o).take 12).length = 12 := by
    rw [List.length_take, List.length_drop]
    omega
  have hsplit : s.drop o = (s.drop o).take 12 ++ s.drop (o + 12) := by
    rw [← List.drop_drop, List.take_append_drop]
  have hget (i : Nat) : s.getD (o + i) 0 = (s.drop o).getD i 0 := by
    rw [List.getD_eq_getElem?_getD, List.getD_eq_getElem?_getD, List.getElem?_drop]
  have hbehind : (s.drop (o + 12)).length = s.length - (o + 12) := List.length_drop
  match hoctets : (s.drop o).take 12, hhead with
  | [v, t, q, b, i₀, i₁, i₂, i₃, l₀, l₁, l₂, l₃], _ =>
    rw [hoctets] at hsplit
    have hv : s.getD o 0 = v := by rw [← Nat.add_zero o, hget, hsplit]; rfl
    have ht : s.getD (o + 1) 0 = t := by rw [hget, hsplit]; rfl
    have hq : s.getD (o + 2) 0 = q := by rw [hget, hsplit]; rfl
    have hb : s.getD (o + 3) 0 = b := by rw [hget, hsplit]; rfl
    have hsession : (s.drop (o + 4)).take 4 = [i₀, i₁, i₂, i₃] := by
      rw [← List.drop_drop, hsplit]
      rfl
    have hlength : (s.drop (o + 8)).take 4 = [l₀, l₁, l₂, l₃] := by
      rw [← List.drop_drop, hsplit]
      rfl
    unfold standsAt headerAt
    rw [hsplit, atLast_absorb rfl, if_neg (by omega), if_neg hshort, hv, ht, hq, hb, hsession,
      hlength, ← Octets.toNat_read32, ← Octets.toNat_read32, UInt32.ofNat_toNat]
    by_cases hsound : (v = 0xC0 ∨ v = 0xC1) ∧ 1 ≤ t ∧ t ≤ 3
    · rw [decode_sound rfl hsound.1 hsound.2, if_neg (not_not_intro hsound)]
      dsimp only [Header.claimedLength?, Option.getD_some]
      by_cases hlimit : limit < Octets.read32 l₀ l₁ l₂ l₃
      · rw [if_pos hlimit, if_pos (UInt32.lt_iff_toNat_lt.1 hlimit)]
      · rw [if_neg hlimit, if_neg (mt UInt32.lt_iff_toNat_lt.2 hlimit)]
        by_cases hend : s.length < o + 12 + (Octets.read32 l₀ l₁ l₂ l₃).toNat
        · rw [if_pos (by omega), if_pos hend, List.drop_length]
        · rw [if_neg (by omega), if_neg hend, List.drop_drop]
    · have hdecode : Header.decode [v, t, q, b, i₀, i₁, i₂, i₃, l₀, l₁, l₂, l₃]
          = .error .malformedHeader :=
        (Header.decode_error_iff rfl).2 (by rwa [← type_known_iff])
      rw [hdecode, if_pos hsound]
      rfl

/-! ## One reading after the other -/

/-- What is left of the arrivals after the given number of readings. -/
def leftBy (limit : UInt32) : Nat → List Arrival → List Arrival
  | 0, arrivals => arrivals
  | n + 1, arrivals => leftBy limit n (start.nextFrame limit arrivals).2

/-- The octets that were not read yet. -/
def unread (arrivals : List Arrival) : Octets :=
  arrivals.flatMap fun
    | .octets s => s
    | _ => []

theorem unread_pieces (pieces : List Octets) :
    unread (pieces.map .octets ++ [.ended]) = pieces.flatten := by
  induction pieces with
  | nil => rfl
  | cons s pieces ih =>
    rw [List.map_cons, List.cons_append, List.flatten_cons, ← ih]
    rfl

/-- A reading comes to what stands at the offset, and leaves what is behind it. -/
theorem nextFrame_standsAt (limit : UInt32) {s : Octets} {o : Nat} {pieces : List Octets}
    (h : pieces.flatten = s.drop o) :
    ∃ rest : List Octets, start.nextFrame limit (pieces.map .octets ++ [.ended])
        = ((standsAt limit s o).1, rest.map .octets ++ [.ended]) ∧
      rest.flatten = s.drop (standsAt limit s o).2 := by
  obtain ⟨rest, hnext, hrest⟩ := nextFrame_pieces limit pieces
  rw [h, absorb_drop] at hnext hrest
  exact ⟨rest, hnext, hrest⟩

/-- The readings come to what stands at the offset, and behind it, and so on. -/
theorem readings_from (limit : UInt32) (s : Octets) (n : Nat) {o : Nat} {pieces : List Octets}
    (h : pieces.flatten = s.drop o) :
    (readings limit n (pieces.map .octets ++ [.ended])).take (parse limit s o).length
      = ((parse limit s o).take n).map Prod.fst := by
  induction n generalizing o pieces with
  | zero => rw [readings, List.take_nil, List.take_zero, List.map_nil]
  | succ n ih =>
    obtain ⟨rest, hnext, hrest⟩ := nextFrame_standsAt limit h
    rw [readings, hnext]
    cases hstands : standsAt limit s o with
    | mk progress o' =>
      rw [hstands] at hrest
      by_cases hframe : ∃ f, progress = .frame f
      · obtain ⟨f, rfl⟩ := hframe
        rw [parse_of_frame hstands, List.length_cons, List.take_succ_cons, List.take_succ_cons,
          List.map_cons, ih hrest]
      · rw [parse_of_stop hstands fun f he => hframe ⟨f, he⟩, List.take_succ_cons, List.take_nil]
        rfl

/-- After each reading the octets that are left are those behind what it came to. -/
theorem unread_leftBy (limit : UInt32) (s : Octets) (k : Nat) {o o' : Nat} {progress : Progress}
    {pieces : List Octets} (ho : o ≤ s.length) (h : pieces.flatten = s.drop o)
    (hk : (parse limit s o)[k]? = some (progress, o')) :
    o' ≤ s.length ∧
      unread (leftBy limit (k + 1) (pieces.map .octets ++ [.ended])) = s.drop o' := by
  induction k generalizing o pieces with
  | zero =>
    obtain ⟨rest, hnext, hrest⟩ := nextFrame_standsAt limit h
    have hstands : standsAt limit s o = (progress, o') := by
      rw [parse] at hk
      split at hk
      next hframe => exact hframe.trans (Option.some.inj hk)
      next => exact Option.some.inj hk
    have hle := standsAt_le limit ho
    rw [hstands] at hle hrest
    rw [leftBy, leftBy, hnext, unread_pieces]
    exact ⟨hle, hrest⟩
  | succ k ih =>
    obtain ⟨rest, hnext, hrest⟩ := nextFrame_standsAt limit h
    rw [leftBy, hnext]
    cases hstands : standsAt limit s o with
    | mk progress₀ o₁ =>
      rw [hstands] at hrest
      by_cases hframe : ∃ f, progress₀ = .frame f
      · obtain ⟨f, rfl⟩ := hframe
        rw [parse_of_frame hstands] at hk
        exact ih (lt_of_standsAt hstands).2 hrest hk
      · rw [parse_of_stop hstands fun f he => hframe ⟨f, he⟩] at hk
        cases hk

/-- **It does not matter how a stream is cut.**  Whatever the pieces are in which it
arrives, one reading after the other comes to what stands in the stream, place by place, up
to the first that is no packet; and each takes exactly the octets up to the place where the
next begins. -/
theorem readings_eq_parse (limit : UInt32) (pieces : List Octets) :
    (∀ n, (readings limit n (pieces.map .octets ++ [.ended])).take
          (parse limit pieces.flatten 0).length
        = ((parse limit pieces.flatten 0).take n).map Prod.fst) ∧
      ∀ k progress o, (parse limit pieces.flatten 0)[k]? = some (progress, o) →
        o ≤ pieces.flatten.length ∧
          unread (leftBy limit (k + 1) (pieces.map .octets ++ [.ended]))
            = pieces.flatten.drop o := by
  have hstart : pieces.flatten = pieces.flatten.drop 0 := List.drop_zero.symm
  refine ⟨?_, ?_⟩
  · intro n
    exact readings_from limit pieces.flatten n hstart
  · intro k progress o hk
    exact unread_leftBy limit pieces.flatten k (Nat.zero_le _) hstart hk

/-- A packet without a body ends a stream that arrives octet by octet. -/
example :
    (readings 16 3 ([[0xC0], [2, 2, 1, 0, 0, 0x30], [0x39, 0, 0, 0], [0]].map .octets ++ [.ended]))
      = [.frame ⟨⟨.default, .authorization, 2, ⟨1⟩, 12345⟩, []⟩, .ended, .ended] := by
  decide

end Reader

end Tacacs
