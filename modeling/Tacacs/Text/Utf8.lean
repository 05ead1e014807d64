/-
# `Tacacs.Text.Utf8` — text as octets, and octets as text whatever they hold

Text goes to the wire as UTF-8.  What comes from the wire may be anything: a
field can be cut in the middle of a character, and a wrong key makes every
octet noise.  So reading never fails.  The octets are read one at a time; where
they stop spelling a character, all that was read of it stands for one
replacement character U+FFFD, and reading goes on with the octet that did not
fit.

The reader is a fold (`Reading.push`), which is what makes "the reading of a
longer string starts with the reading of a shorter one" a fact about `foldl`.
The ranges in `begun?` shut out overlong forms, surrogates and numbers past
U+10FFFF: they are the table of well-formed UTF-8 octet sequences.
-/
import Tacacs.Octets

namespace Tacacs.Text.Utf8

/-- The octets of a text. -/
def encode (text : String) : Octets :=
  text.toList.flatMap String.utf8EncodeChar

/-- What stands for octets that spell no character. -/
def replacement : Char := '\uFFFD'

/-- A character of several octets, begun and not finished. -/
structure Begun where
  /-- How many octets are still to come. -/
  missing : Nat
  /-- The least value the next octet may have. -/
  low : UInt8
  /-- The greatest value the next octet may have. -/
  high : UInt8
  /-- The bits read so far, as a number. -/
  bits : Nat
deriving DecidableEq

/-- What a first octet from 0x80 on announces; nothing if no character begins with it. -/
def begun? (octet : UInt8) : Option Begun :=
  if 0xC2 ≤ octet ∧ octet ≤ 0xDF then some ⟨1, 0x80, 0xBF, octet.toNat - 0xC0⟩
  else if octet = 0xE0 then some ⟨2, 0xA0, 0xBF, 0⟩
  else if octet = 0xED then some ⟨2, 0x80, 0x9F, 0xD⟩
  else if 0xE1 ≤ octet ∧ octet ≤ 0xEF then some ⟨2, 0x80, 0xBF, octet.toNat - 0xE0⟩
  else if octet = 0xF0 then some ⟨3, 0x90, 0xBF, 0⟩
  else if octet = 0xF4 then some ⟨3, 0x80, 0x8F, 4⟩
  else if 0xF1 ≤ octet ∧ octet ≤ 0xF3 then some ⟨3, 0x80, 0xBF, octet.toNat - 0xF0⟩
  else none

/-- How far a reading has come: the characters found, the last one first, and
the character it is in the middle of. -/
structure Reading where
  found : List Char
  begun : Option Begun
deriving DecidableEq

/-- A reading that has seen nothing. -/
def Reading.start : Reading := ⟨[], none⟩

/-- Reads an octet where a character has to begin. -/
def Reading.pushFirst (found : List Char) (octet : UInt8) : Reading :=
  if octet < 0x80 then ⟨Char.ofNat octet.toNat :: found, none⟩
  else match begun? octet with
    | some b => ⟨found, some b⟩
    | none => ⟨replacement :: found, none⟩

/-- Reads one octet more. -/
def Reading.push (r : Reading) (octet : UInt8) : Reading :=
  match r.begun with
  | none => pushFirst r.found octet
  | some b =>
    if b.low ≤ octet ∧ octet ≤ b.high then
      let bits := b.bits * 64 + (octet.toNat - 0x80)
      if b.missing ≤ 1 then ⟨Char.ofNat bits :: r.found, none⟩
      else ⟨r.found, some ⟨b.missing - 1, 0x80, 0xBF, bits⟩⟩
    else pushFirst (replacement :: r.found) octet

/-- The characters read, in order; an unfinished one counts as one replacement. -/
def Reading.chars (r : Reading) : List Char :=
  match r.begun with
  | none => r.found.reverse
  | some _ => (replacement :: r.found).reverse

/-- The text that octets spell, with a replacement character wherever they
spell none. -/
def decode (octets : Octets) : String :=
  String.ofList (octets.foldl Reading.push Reading.start).chars

/-! ## A text that was written reads as itself -/

theorem length_encode (text : String) : (encode text).length = text.utf8ByteSize := by
  have h : text.toUTF8.data.toList = encode text := by
    conv => lhs; rw [← String.ofList_toList (s := text)]
    rw [String.toUTF8_eq_toByteArray, String.toByteArray_ofList, List.utf8Encode]
    simp [encode]
  rw [← h, String.toUTF8_eq_toByteArray]
  simp

private theorem begun?_two : ∀ n < 32, 2 ≤ n →
    begun? (UInt8.ofNat (n + 192)) = some ⟨1, 0x80, 0xBF, n⟩ := by
  decide

private theorem begun?_three : ∀ n < 16,
    begun? (UInt8.ofNat (n + 224))
      = some ⟨2, if n = 0 then 0xA0 else 0x80, if n = 13 then 0x9F else 0xBF, n⟩ := by
  decide

private theorem begun?_four : ∀ n < 5,
    begun? (UInt8.ofNat (n + 240))
      = some ⟨3, if n = 0 then 0x90 else 0x80, if n = 4 then 0x8F else 0xBF, n⟩ := by
  decide

private theorem push_first {octet : UInt8} {b : Begun} (h : begun? octet = some b)
    (hb : 0x80 ≤ octet) (found : List Char) :
    Reading.push ⟨found, none⟩ octet = ⟨found, some b⟩ := by
  have hn : ¬octet < 0x80 := UInt8.not_lt.2 hb
  simp [Reading.push, Reading.pushFirst, hn, h]

private theorem push_next {n m : Nat} (hn : n < 64) {low high : UInt8}
    (hl : low.toNat ≤ n + 128) (hh : n + 128 ≤ high.toNat) (bits : Nat) (found : List Char) :
    Reading.push ⟨found, some ⟨m, low, high, bits⟩⟩ (UInt8.ofNat (n + 128))
      = if m ≤ 1 then ⟨Char.ofNat (bits * 64 + n) :: found, none⟩
        else ⟨found, some ⟨m - 1, 0x80, 0xBF, bits * 64 + n⟩⟩ := by
  have ht : (UInt8.ofNat (n + 128)).toNat = n + 128 := by
    rw [UInt8.toNat_ofNat']
    omega
  have hr : low ≤ UInt8.ofNat (n + 128) ∧ UInt8.ofNat (n + 128) ≤ high := by
    rw [UInt8.le_iff_toNat_le, UInt8.le_iff_toNat_le, ht]
    exact ⟨hl, hh⟩
  simp only [Reading.push, hr, and_self, if_true, ht, Nat.add_sub_cancel]

private theorem le_ofNat {n k : Nat} (hk : 128 ≤ k) (h : n + k < 256) :
    0x80 ≤ UInt8.ofNat (n + k) := by
  rw [UInt8.le_iff_toNat_le, UInt8.toNat_ofNat', show (0x80 : UInt8).toNat = 128 from rfl]
  omega

theorem foldl_push_utf8EncodeChar (c : Char) (found : List Char) :
    (String.utf8EncodeChar c).foldl Reading.push ⟨found, none⟩ = ⟨c :: found, none⟩ := by
  have hv : c.toNat < 0xD800 ∨ 0xDFFF < c.toNat ∧ c.toNat < 0x110000 := c.valid
  have hc : Char.ofNat c.toNat = c := Char.ofNat_toNat c
  unfold String.utf8EncodeChar
  simp only [show c.val.toNat = c.toNat from rfl]
  generalize c.toNat = v at hv hc
  subst hc
  have h80 : (0x80 : UInt8).toNat = 128 := rfl
  have hBF : (0xBF : UInt8).toNat = 191 := rfl
  split
  · have hlt : UInt8.ofNat v < 0x80 := by
      rw [UInt8.lt_iff_toNat_lt, UInt8.toNat_ofNat', h80]
      omega
    have hn : (UInt8.ofNat v).toNat = v := by
      rw [UInt8.toNat_ofNat']
      omega
    simp only [List.foldl_cons, List.foldl_nil, Reading.push, Reading.pushFirst, hlt, if_true, hn]
  split
  · rw [List.foldl_cons, push_first (begun?_two (v / 64 % 32) (by omega) (by omega))
        (le_ofNat (by omega) (by omega)),
      List.foldl_cons, push_next (by omega) (by omega) (by omega), if_pos (by omega)]
    have : v / 64 % 32 * 64 + v % 64 = v := by omega
    rw [this, List.foldl_nil]
  split
  · have low : (if v / 4096 % 16 = 0 then (0xA0 : UInt8) else 0x80).toNat ≤ v / 64 % 64 + 128 := by
      split
      · rw [show (0xA0 : UInt8).toNat = 160 from rfl]; omega
      · omega
    have high :
        v / 64 % 64 + 128 ≤ (if v / 4096 % 16 = 13 then (0x9F : UInt8) else 0xBF).toNat := by
      split
      · rw [show (0x9F : UInt8).toNat = 159 from rfl]; omega
      · omega
    rw [List.foldl_cons, push_first (begun?_three (v / 4096 % 16) (by omega))
        (le_ofNat (by omega) (by omega)),
      List.foldl_cons, push_next (by omega) low high, if_neg (by omega),
      List.foldl_cons, push_next (by omega) (by omega) (by omega), if_pos (by omega)]
    have : (v / 4096 % 16 * 64 + v / 64 % 64) * 64 + v % 64 = v := by omega
    rw [this, List.foldl_nil]
  · have hd : v / 262144 % 8 < 5 := by omega
    have low : (if v / 262144 % 8 = 0 then (0x90 : UInt8) else 0x80).toNat
        ≤ v / 4096 % 64 + 128 := by
      split
      · rw [show (0x90 : UInt8).toNat = 144 from rfl]; omega
      · omega
    have high : v / 4096 % 64 + 128
        ≤ (if v / 262144 % 8 = 4 then (0x8F : UInt8) else 0xBF).toNat := by
      split
      · rw [show (0x8F : UInt8).toNat = 143 from rfl]; omega
      · omega
    rw [List.foldl_cons, push_first (begun?_four (v / 262144 % 8) hd)
        (le_ofNat (by omega) (by omega)),
      List.foldl_cons, push_next (by omega) low high, if_neg (by omega),
      List.foldl_cons, push_next (by omega) (by omega) (by omega), if_neg (by omega),
      List.foldl_cons, push_next (by omega) (by omega) (by omega), if_pos (by omega)]
    have : ((v / 262144 % 8 * 64 + v / 4096 % 64) * 64 + v / 64 % 64) * 64 + v % 64 = v := by omega
    rw [this, List.foldl_nil]

theorem foldl_push_encode (cs found : List Char) :
    (cs.flatMap String.utf8EncodeChar).foldl Reading.push ⟨found, none⟩
      = ⟨cs.reverse ++ found, none⟩ := by
  induction cs generalizing found with
  | nil => rfl
  | cons c cs ih =>
    rw [List.flatMap_cons, List.foldl_append, foldl_push_utf8EncodeChar, ih, List.reverse_cons,
      List.append_assoc, List.singleton_append]

/-- A text that was written reads as itself. -/
@[simp] theorem decode_encode (text : String) : decode (encode text) = text := by
  rw [decode, encode, Reading.start, foldl_push_encode]
  simp [Reading.chars]

end Tacacs.Text.Utf8
