/-
# `Tacacs.Proofs.Packet.Hiding` — the pad, and what it does to a body

A body is gone through strip by strip, and only one digest is kept on the way.  Seen as
a whole, it is laid over with one endless row of digests (`Pad.block`): each octet
has its own octet of that row (`Pad.mask`), wherever the body ends.

`getElem?_lay` ties the two together.  Its induction is on the strips that are left, and
what it carries is that the digest kept from the strip before is the block before
(`Pad.carried`), which is none at the first strip.  That the octets of a body are hidden one
by one is all that the rest needs: bodies cut short and bodies compared are read from it.
-/
import Tacacs.Pad

namespace Tacacs.Pad

open Digest

variable (key : Octets) (h : Header)

/-! ## The row of digests -/

/-- The digests laid over a body: the first is of the session, the key, the version and
the sequence number, each further one of these and the digest before. -/
def block (key : Octets) (h : Header) : Nat → Octets
  | 0 => Md5.digest (Octets.be32 h.session ++ key ++ [h.minor.octet, h.sequence])
  | i + 1 =>
    Md5.digest (Octets.be32 h.session ++ key ++ [h.minor.octet, h.sequence] ++ block key h i)

/-- What is kept when a strip is reached: the digest of the strip before. -/
def carried (key : Octets) (h : Header) : Nat → Octets
  | 0 => []
  | i + 1 => block key h i

/-- The octet laid over the octet of a body at the given place. -/
def mask (key : Octets) (h : Header) (i : Nat) : UInt8 :=
  (block key h (i / 16)).getD (i % 16) 0

theorem length_block (i : Nat) : (block key h i).length = 16 := by
  cases i <;> rfl

theorem finish_carried (i : Nat) :
    ((Md5.Absorbed.nothing.append (seed key h)).append (carried key h i)).finish
      = block key h i := by
  rw [← Md5.digest_append]
  cases i with
  | zero =>
    rw [carried, List.append_nil]
    rfl
  | succ i => rfl

theorem getElem?_block (i j : Nat) (hi : i < 16) :
    (block key h j)[i]? = some (mask key h (16 * j + i)) := by
  have hlt : i < (block key h j).length := by rw [length_block]; exact hi
  have hblock : (16 * j + i) / 16 = j := by omega
  have hplace : (16 * j + i) % 16 = i := by omega
  rw [mask, hblock, hplace, List.getD_eq_getElem?_getD, List.getElem?_eq_getElem hlt,
    Option.getD_some]

/-- The row of the first blocks has the octets that are laid over a body in turn. -/
theorem getElem?_row (n i : Nat) (hi : i < 16 * n) :
    ((List.range n).flatMap (block key h))[i]? = some (mask key h i) := by
  have hlength (n : Nat) : ((List.range n).flatMap (block key h)).length = 16 * n := by
    induction n with
    | zero => rfl
    | succ n ih =>
      rw [List.range_succ, List.flatMap_append, List.length_append, ih, List.flatMap_singleton,
        length_block, Nat.mul_succ]
  induction n with
  | zero => omega
  | succ n ih =>
    rw [List.range_succ, List.flatMap_append, List.flatMap_singleton]
    rcases Nat.lt_or_ge i (16 * n) with hbefore | hlast
    · rw [List.getElem?_append_left (by rw [hlength]; exact hbefore), ih hbefore]
    · have hplace : 16 * n + (i - 16 * n) = i := by omega
      rw [List.getElem?_append_right (by rw [hlength]; exact hlast), hlength,
        getElem?_block key h _ n (by omega), hplace]

/-! ## Octet by octet -/

/-- From the strip on for which a digest was kept, each octet is hidden by its own
octet of the row. -/
theorem getElem?_lay (n j : Nat) (body : Octets) (hbody : body.length ≤ 16 * n) (i : Nat) :
    (lay (Md5.Absorbed.nothing.append (seed key h)) n (carried key h j) body)[i]?
      = body[i]?.map (· ^^^ mask key h (16 * j + i)) := by
  induction n generalizing j body i with
  | zero =>
    have hnil : body = [] := List.eq_nil_of_length_eq_zero (by omega)
    rw [hnil]
    rfl
  | succ n ih =>
    have hstrip : ((body.take 16).zipWith (· ^^^ ·) (block key h j)).length
        = min 16 body.length := by
      rw [List.length_zipWith, List.length_take, length_block]
      omega
    rw [lay, finish_carried]
    rcases Nat.lt_or_ge i (min 16 body.length) with hin | hbehind
    · have hi : i < body.length := by omega
      rw [List.getElem?_append_left (by rw [hstrip]; exact hin), List.getElem?_zipWith,
        List.getElem?_take_of_lt (by omega), getElem?_block key h i j (by omega),
        List.getElem?_eq_getElem hi]
      rfl
    · have hrest := ih (j + 1) (body.drop 16) (by rw [List.length_drop]; omega)
        (i - min 16 body.length)
      rw [List.getElem?_append_right (by rw [hstrip]; exact hbehind), hstrip]
      refine hrest.trans ?_
      rw [List.getElem?_drop]
      -- Behind a short strip there is nothing, on either side.
      rcases Nat.lt_or_ge i body.length with hi | hi
      · have hplace : 16 + (i - min 16 body.length) = i := by omega
        have hmask : 16 * (j + 1) + (i - min 16 body.length) = 16 * j + i := by omega
        rw [hplace, hmask]
      · rw [List.getElem?_eq_none (by omega), List.getElem?_eq_none hi]
        rfl

/-- **Every octet of a hidden body is hidden on its own.** -/
theorem getElem?_toggle (hhidden : h.flags.unencrypted = false) (body : Octets) (i : Nat) :
    (toggle key h body)[i]? = body[i]?.map (· ^^^ mask key h i) := by
  have hlay := getElem?_lay key h ((body.length + 15) / 16) 0 body (by omega) i
  rw [Nat.mul_zero, Nat.zero_add] at hlay
  rw [toggle, hhidden]
  exact hlay

/-! ## Whole bodies -/

theorem toggle_of_open (hopen : h.flags.unencrypted = true) (body : Octets) :
    toggle key h body = body := by
  rw [toggle, if_pos hopen]

theorem toggle_eq_row (hhidden : h.flags.unencrypted = false) (body : Octets) (n : Nat)
    (hn : body.length ≤ 16 * n) :
    toggle key h body = body.zipWith (· ^^^ ·)
      (((List.range n).flatMap (block key h)).take body.length) := by
  refine List.ext_getElem? fun i => ?_
  rw [getElem?_toggle key h hhidden, List.getElem?_zipWith]
  rcases Nat.lt_or_ge i body.length with hi | hi
  · rw [List.getElem?_take_of_lt hi, getElem?_row key h n i (by omega),
      List.getElem?_eq_getElem hi]
    rfl
  · rw [List.getElem?_eq_none hi]
    rfl

/-- The front of a hidden body is the front of the body, hidden. -/
theorem toggle_take (body : Octets) (n : Nat) :
    toggle key h (body.take n) = (toggle key h body).take n := by
  cases hflag : h.flags.unencrypted with
  | true => rw [toggle_of_open key h hflag, toggle_of_open key h hflag]
  | false =>
    refine List.ext_getElem? fun i => ?_
    rw [getElem?_toggle key h hflag, List.getElem?_take, List.getElem?_take,
      getElem?_toggle key h hflag]
    split <;> rfl

theorem toggle_xor_toggle (body body' : Octets) :
    (toggle key h body).zipWith (· ^^^ ·) (toggle key h body')
      = body.zipWith (· ^^^ ·) body' := by
  cases hflag : h.flags.unencrypted with
  | true => rw [toggle_of_open key h hflag, toggle_of_open key h hflag]
  | false =>
    refine List.ext_getElem? fun i => ?_
    rw [List.getElem?_zipWith, List.getElem?_zipWith, getElem?_toggle key h hflag,
      getElem?_toggle key h hflag]
    rcases body[i]? with _ | a <;> rcases body'[i]? with _ | b
    · rfl
    · rfl
    · rfl
    · have hmask : (a ^^^ mask key h i) ^^^ (b ^^^ mask key h i) = a ^^^ b := by
        rw [UInt8.xor_comm b, UInt8.xor_assoc, ← UInt8.xor_assoc (mask key h i), UInt8.xor_self,
          UInt8.zero_xor]
      exact congrArg some hmask

/-- What a key and a header do to bodies.  Where the header asks for hiding:

* the body is laid over with the digests in a row, however many more of them there are;
* each octet has the octet of the row at its own place.

For every header:

* the body keeps its length, and comes back when it is hidden again;
* the front of a body is hidden as if nothing followed it;
* two hidden bodies differ in the same bits as the bodies, as far as both reach;
* only the session, the version, the sequence number and the flag that turns hiding off
  matter, so neither the type nor another flag does;
* where that flag stands, the body stays as it is. -/
structure Hides (key : Octets) (h : Header) : Prop where
  row : h.flags.unencrypted = false → ∀ body n, body.length ≤ 16 * n →
    toggle key h body = body.zipWith (· ^^^ ·)
      (((List.range n).flatMap (block key h)).take body.length)
  octets : h.flags.unencrypted = false → ∀ body i,
    (toggle key h body)[i]? = body[i]?.map (· ^^^ mask key h i)
  length : ∀ body, (toggle key h body).length = body.length
  twice : ∀ body, toggle key h (toggle key h body) = body
  front : ∀ body n, toggle key h (body.take n) = (toggle key h body).take n
  compared : ∀ body body',
    (toggle key h body).zipWith (· ^^^ ·) (toggle key h body') = body.zipWith (· ^^^ ·) body'
  headers : ∀ h' : Header, h'.session = h.session → h'.minor = h.minor →
    h'.sequence = h.sequence → h'.flags.unencrypted = h.flags.unencrypted →
    ∀ body, toggle key h' body = toggle key h body
  plain : h.flags.unencrypted = true → ∀ body, toggle key h body = body

/-- **A body is hidden by a pad that the key and the header determine.** -/
theorem hidden_by_pad (key : Octets) (h : Header) : Hides key h where
  row := toggle_eq_row key h
  octets := getElem?_toggle key h
  length := length_toggle key h
  twice := toggle_toggle key h
  front := toggle_take key h
  compared := toggle_xor_toggle key h
  headers h' hsession hminor hsequence hflag body := by
    have hseed : seed key h' = seed key h := by rw [seed, seed, hsession, hminor, hsequence]
    rw [toggle, toggle, hseed, hflag]
  plain := toggle_of_open key h

/-- A strip of sixteen octets and one of nine, hidden with the key `secret`. -/
example :
    toggle [0x73, 0x65, 0x63, 0x72, 0x65, 0x74] ⟨.default, .authentication, 1, ⟨0⟩, 0x01020304⟩
        [0x68, 0x65, 0x6C, 0x6C, 0x6F, 0x20, 0x74, 0x61, 0x63, 0x61, 0x63, 0x73, 0x20, 0x70,
          0x6C, 0x75, 0x73, 0x20, 0x77, 0x6F, 0x72, 0x6C, 0x64, 0x21, 0x21]
      = [0x54, 0x32, 0x74, 0xF1, 0x71, 0xD4, 0xD5, 0x5C, 0x6A, 0xE9, 0x23, 0x86, 0x6D, 0xAD,
          0xD6, 0x0B, 0xC8, 0x48, 0x46, 0xAE, 0xE0, 0xE8, 0xEF, 0xE9, 0x61] := by
  decide +kernel

end Tacacs.Pad
