/-
# `Tacacs.Digest.Md5` — the MD5 message digest

The pad that hides packet bodies and the answer to a CHAP challenge are both
MD5 digests.  A message is taken in octet by octet (`Absorbed.push`): sixty-four
octets make a block, and a full block is mixed into the four registers at once.
`Absorbed.finish` adds the closing octets and writes out the registers.

Because taking in is a fold, a message can be taken in piece by piece
(`digest_append`), and what many messages begin with is taken in only once.
That is all the rest of the library uses of MD5, together with `length_digest`:
a digest has sixteen octets.
-/
import Tacacs.Octets

namespace Tacacs.Digest.Md5

/-! ## Mixing one block -/

/-- The four registers. -/
structure Registers where
  a : UInt32
  b : UInt32
  c : UInt32
  d : UInt32
deriving DecidableEq

/-- The registers before the first block. -/
def Registers.initial : Registers :=
  ⟨0x67452301, 0xefcdab89, 0x98badcfe, 0x10325476⟩

/-- The additive constants: the whole part of `2 ^ 32 * |sin i|` for `i` from 1 to 64. -/
def sines : Array UInt32 := #[
  0xd76aa478, 0xe8c7b756, 0x242070db, 0xc1bdceee, 0xf57c0faf, 0x4787c62a, 0xa8304613, 0xfd469501,
  0x698098d8, 0x8b44f7af, 0xffff5bb1, 0x895cd7be, 0x6b901122, 0xfd987193, 0xa679438e, 0x49b40821,
  0xf61e2562, 0xc040b340, 0x265e5a51, 0xe9b6c7aa, 0xd62f105d, 0x02441453, 0xd8a1e681, 0xe7d3fbc8,
  0x21e1cde6, 0xc33707d6, 0xf4d50d87, 0x455a14ed, 0xa9e3e905, 0xfcefa3f8, 0x676f02d9, 0x8d2a4c8a,
  0xfffa3942, 0x8771f681, 0x6d9d6122, 0xfde5380c, 0xa4beea44, 0x4bdecfa9, 0xf6bb4b60, 0xbebfbc70,
  0x289b7ec6, 0xeaa127fa, 0xd4ef3085, 0x04881d05, 0xd9d4d039, 0xe6db99e5, 0x1fa27cf8, 0xc4ac5665,
  0xf4292244, 0x432aff97, 0xab9423a7, 0xfc93a039, 0x655b59c3, 0x8f0ccc92, 0xffeff47d, 0x85845dd1,
  0x6fa87e4f, 0xfe2ce6e0, 0xa3014314, 0x4e0811a1, 0xf7537e82, 0xbd3af235, 0x2ad7d2bb, 0xeb86d391]

/-- How far each step turns, by its place in a group of four; one row a round. -/
def turns : Array UInt32 :=
  #[7, 12, 17, 22, 5, 9, 14, 20, 4, 11, 16, 23, 6, 10, 15, 21]

/-- A word turned left. -/
def turnLeft (x n : UInt32) : UInt32 :=
  (x <<< n) ||| (x >>> (32 - n))

/-- One of the sixty-four steps on a block of sixteen words. -/
def Registers.step (words : Array UInt32) (r : Registers) (i : Nat) : Registers :=
  let (mixed, place) :=
    if i < 16 then ((r.b &&& r.c) ||| (~~~r.b &&& r.d), i)
    else if i < 32 then ((r.d &&& r.b) ||| (~~~r.d &&& r.c), (5 * i + 1) % 16)
    else if i < 48 then (r.b ^^^ r.c ^^^ r.d, (3 * i + 5) % 16)
    else (r.c ^^^ (r.b ||| ~~~r.d), (7 * i) % 16)
  let sum := r.a + mixed + sines.getD i 0 + words.getD place 0
  ⟨r.d, r.b + turnLeft sum (turns.getD (i / 16 * 4 + i % 4) 0), r.b, r.c⟩

/-- The words of a block, each from four octets, low octet first. -/
def wordsOf : Octets → List UInt32
  | a :: b :: c :: d :: rest => Octets.read32 d c b a :: wordsOf rest
  | _ => []

/-- Mixes a block of sixty-four octets into the registers. -/
def Registers.mix (r : Registers) (block : Octets) : Registers :=
  let words := (wordsOf block).toArray
  let s := (List.range 64).foldl (Registers.step words) r
  ⟨r.a + s.a, r.b + s.b, r.c + s.c, r.d + s.d⟩

/-! ## Taking in a message -/

/-- A message as far as it has been taken in. -/
structure Absorbed where
  registers : Registers
  /-- The octets of the block that is not full yet, the last one first. -/
  block : List UInt8
  filled : Nat
  /-- How many octets were taken in altogether. -/
  length : Nat
deriving DecidableEq

/-- Nothing taken in yet. -/
def Absorbed.nothing : Absorbed := ⟨.initial, [], 0, 0⟩

/-- Takes in one octet. -/
def Absorbed.push (s : Absorbed) (octet : UInt8) : Absorbed :=
  if s.filled = 63 then
    ⟨s.registers.mix (octet :: s.block).reverse, [], 0, s.length + 1⟩
  else
    ⟨s.registers, octet :: s.block, s.filled + 1, s.length + 1⟩

/-- Takes in a string. -/
def Absorbed.append (s : Absorbed) (octets : Octets) : Absorbed :=
  octets.foldl Absorbed.push s

/-- A word as four octets, low octet first. -/
def lowFirst (n : UInt32) : Octets :=
  [n.toUInt8, (n >>> 8).toUInt8, (n >>> 16).toUInt8, (n >>> 24).toUInt8]

/-- What closes a message: a one bit, zeros up to eight octets before a block's
end, and the length in bits, modulo `2 ^ 64`. -/
def Absorbed.closing (s : Absorbed) : Octets :=
  let bits := s.length * 8
  0x80 :: List.replicate ((119 - s.filled) % 64) 0
    ++ lowFirst (UInt32.ofNat bits) ++ lowFirst (UInt32.ofNat (bits / 0x100000000))

/-- The digest of what was taken in. -/
def Absorbed.finish (s : Absorbed) : Octets :=
  let r := (s.append s.closing).registers
  lowFirst r.a ++ lowFirst r.b ++ lowFirst r.c ++ lowFirst r.d

/-- The digest of a message. -/
def digest (message : Octets) : Octets :=
  (Absorbed.nothing.append message).finish

@[simp] theorem length_finish (s : Absorbed) : s.finish.length = 16 := rfl

@[simp] theorem length_digest (message : Octets) : (digest message).length = 16 := rfl

theorem Absorbed.append_append (s : Absorbed) (x y : Octets) :
    s.append (x ++ y) = (s.append x).append y :=
  List.foldl_append

/-- What two messages begin with can be taken in once for both. -/
theorem digest_append (x y : Octets) :
    digest (x ++ y) = ((Absorbed.nothing.append x).append y).finish := by
  rw [digest, Absorbed.append_append]

end Tacacs.Digest.Md5
