/-
# `Tacacs.Octets` — strings of octets, and the numbers and pieces in them

Everything on the wire is a string of octets.  Three things are done with such
a string, and this file holds all three:

* a number is written into it or read from it, high octet first
  (`be16`, `be32` and their readers);
* a stretch of known lengths is cut into its pieces (`cut`), which succeeds
  exactly when the lengths account for the whole stretch;
* a string is laid over the front of a buffer, and the rest of the buffer
  stays (`overwrite`).

`cut_eq_some_iff` is the law the packet bodies rest on: to cut by lengths is to
find the one list of pieces that has those lengths and joins up to the string.
-/
namespace Tacacs

/-- A string of octets, as it stands on the wire or in a buffer. -/
abbrev Octets := List UInt8

namespace Octets

/-! ## Numbers, high octet first -/

/-- The two octets of a number below `2 ^ 16`. -/
def be16 (n : Nat) : Octets :=
  [UInt8.ofNat (n / 256), UInt8.ofNat n]

/-- The number that two octets spell. -/
def read16 (high low : UInt8) : Nat :=
  high.toNat * 256 + low.toNat

/-- The four octets of a 32-bit word. -/
def be32 (n : UInt32) : Octets :=
  [(n >>> 24).toUInt8, (n >>> 16).toUInt8, (n >>> 8).toUInt8, n.toUInt8]

/-- The 32-bit word that four octets spell. -/
def read32 (a b c d : UInt8) : UInt32 :=
  (a.toUInt32 <<< 24) ||| (b.toUInt32 <<< 16) ||| (c.toUInt32 <<< 8) ||| d.toUInt32

@[simp] theorem length_be16 (n : Nat) : (be16 n).length = 2 := rfl

@[simp] theorem length_be32 (n : UInt32) : (be32 n).length = 4 := rfl

theorem read16_be16 {n : Nat} (h : n < 65536) :
    read16 (UInt8.ofNat (n / 256)) (UInt8.ofNat n) = n := by
  simp only [read16, UInt8.toNat_ofNat']
  omega

theorem be16_read16 (high low : UInt8) : be16 (read16 high low) = [high, low] := by
  have hh := high.toNat_lt
  have hl := low.toNat_lt
  have e : (high.toNat * 256 + low.toNat) / 256 = high.toNat := by omega
  simp only [be16, read16, e, UInt8.ofNat_toNat, List.cons.injEq, true_and, and_true]
  apply UInt8.toNat_inj.1
  simp only [UInt8.toNat_ofNat']
  omega

theorem read16_lt (high low : UInt8) : read16 high low < 65536 := by
  have hh := high.toNat_lt
  have hl := low.toNat_lt
  simp only [read16]
  omega

/-! ## Pieces of known lengths -/

/-- The length octet of each piece. -/
def sizes (pieces : List Octets) : Octets :=
  pieces.map fun piece => UInt8.ofNat piece.length

/-- The two length octets of each piece. -/
def sizes16 (pieces : List Octets) : Octets :=
  pieces.flatMap fun piece => be16 piece.length

@[simp] theorem length_sizes (pieces : List Octets) : (sizes pieces).length = pieces.length :=
  List.length_map _

@[simp] theorem length_sizes16 (pieces : List Octets) :
    (sizes16 pieces).length = 2 * pieces.length := by
  induction pieces with
  | nil => rfl
  | cons p ps ih =>
    rw [sizes16, List.flatMap_cons, List.length_append, ← sizes16, ih]
    simp
    omega

/-- Cuts a string into pieces of the given lengths.  There is no answer unless
the lengths account for the whole string, no octet missing and none left. -/
def cut : List Nat → Octets → Option (List Octets)
  | [], s => if s.isEmpty then some [] else none
  | n :: ns, s =>
    let piece := s.take n
    if piece.length = n then (cut ns (s.drop n)).map (piece :: ·) else none

/-- Cutting by lengths finds the one list of pieces that has those lengths and
joins up to the string. -/
theorem cut_eq_some_iff {ns : List Nat} {s : Octets} {pieces : List Octets} :
    cut ns s = some pieces ↔ pieces.map List.length = ns ∧ pieces.flatten = s := by
  induction ns generalizing s pieces with
  | nil => cases s <;> simp [cut] <;> grind
  | cons n ns ih =>
    simp only [cut]
    constructor
    · intro h
      split at h
      · rename_i hn
        obtain ⟨rest, hr, rfl⟩ := Option.map_eq_some_iff.1 h
        obtain ⟨h1, h2⟩ := ih.1 hr
        simp [hn, h1, h2]
      · simp at h
    · rintro ⟨h1, rfl⟩
      match pieces, h1 with
      | p :: rest, h1 =>
        obtain ⟨rfl, rfl⟩ : p.length = n ∧ rest.map List.length = ns := by simpa using h1
        have : cut (rest.map List.length) rest.flatten = some rest := ih.2 ⟨rfl, rfl⟩
        simp [this]

/-! ## Buffers -/

/-- A buffer after `s` was written over its front. -/
def overwrite (s buffer : Octets) : Octets :=
  s ++ buffer.drop s.length

theorem length_overwrite {s buffer : Octets} (h : s.length ≤ buffer.length) :
    (overwrite s buffer).length = buffer.length := by
  simp [overwrite]
  omega

end Octets

end Tacacs
