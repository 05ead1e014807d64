/-
# `Tacacs.Pad` — hiding a body

A body is hidden by a pad of MD5 digests laid over it with exclusive or.  The
first digest is of the session id, the shared key, the version and the sequence
number; each further one is of the same octets and the digest before it.  The
pad depends on nothing else, so laying it on twice gives the body back.

The pad is never made as a whole.  The body is gone through in strips of sixteen
octets, and only the digest of the strip before is kept.

A header can say that its body is not hidden; then the body stays as it is.
-/
import Tacacs.Digest.Md5
import Tacacs.Header

namespace Tacacs.Pad

open Digest

/-- What every digest of the pad begins with. -/
def seed (key : Octets) (h : Header) : Octets :=
  Octets.be32 h.session ++ key ++ [h.minor.octet, h.sequence]

/-- Lays a digest over each of the given number of strips, the last of which may
be short.  Each digest is of the seed and the one before. -/
def lay (seed : Md5.Absorbed) : Nat → Octets → Octets → Octets
  | 0, _, _ => []
  | strips + 1, previous, body =>
    let digest := (seed.append previous).finish
    (body.take 16).zipWith (· ^^^ ·) digest ++ lay seed strips digest (body.drop 16)

/-- Hides a body, or brings a hidden one to light. -/
def toggle (key : Octets) (h : Header) (body : Octets) : Octets :=
  if h.flags.unencrypted then body
  else lay (Md5.Absorbed.nothing.append (seed key h)) ((body.length + 15) / 16) [] body

theorem length_lay (s : Md5.Absorbed) (n : Nat) (previous body : Octets) :
    (lay s n previous body).length = min (16 * n) body.length := by
  induction n generalizing previous body with
  | zero => simp [lay]
  | succ n ih => simp [lay, ih]; omega

@[simp] theorem length_toggle (key : Octets) (h : Header) (body : Octets) :
    (toggle key h body).length = body.length := by
  unfold toggle
  split
  · rfl
  · rw [length_lay]
    omega

private theorem zipWith_xor_zipWith_xor (x pad : Octets) (h : x.length ≤ pad.length) :
    (x.zipWith (· ^^^ ·) pad).zipWith (· ^^^ ·) pad = x := by
  induction x generalizing pad with
  | nil => rfl
  | cons a x ih =>
    match pad, h with
    | b :: pad, h =>
      simp only [List.zipWith_cons_cons, List.cons.injEq]
      exact ⟨by rw [UInt8.xor_assoc, UInt8.xor_self, UInt8.xor_zero],
        ih pad (by simpa using h)⟩

theorem lay_lay (s : Md5.Absorbed) (n : Nat) (previous body : Octets) :
    lay s n previous (lay s n previous body) = body.take (16 * n) := by
  induction n generalizing previous body with
  | zero => simp [lay]
  | succ n ih =>
    let digest := (s.append previous).finish
    let strip := (body.take 16).zipWith (· ^^^ ·) digest
    let rest := lay s n digest (body.drop 16)
    have hstrip : strip.length = min 16 body.length := by
      rw [List.length_zipWith, List.length_take, Md5.length_finish]
      omega
    have hrest : rest.length = min (16 * n) (body.length - 16) := by
      rw [length_lay, List.length_drop]
    -- The strips are cut where they were before: behind a short one there is nothing.
    have hcut : (strip ++ rest).take 16 = strip ∧ (strip ++ rest).drop 16 = rest := by
      rcases Nat.le_total 16 body.length with hlong | hshort
      · exact ⟨List.take_left' (by omega), List.drop_left' (by omega)⟩
      · have hnone : rest = [] := List.eq_nil_of_length_eq_zero (by omega)
        rw [hnone, List.append_nil]
        exact ⟨List.take_of_length_le (by omega), List.drop_eq_nil_of_le (by omega)⟩
    have hfits : (body.take 16).length ≤ digest.length := by
      rw [List.length_take, Md5.length_finish]
      omega
    calc lay s (n + 1) previous (strip ++ rest)
        = ((strip ++ rest).take 16).zipWith (· ^^^ ·) digest
            ++ lay s n digest ((strip ++ rest).drop 16) := rfl
      _ = body.take 16 ++ (body.drop 16).take (16 * n) := by
          rw [hcut.1, hcut.2, zipWith_xor_zipWith_xor _ _ hfits, ih]
      _ = body.take (16 * (n + 1)) := by
          rw [Nat.mul_succ, Nat.add_comm (16 * n), List.take_add]

/-- Hiding twice gives the body back. -/
@[simp] theorem toggle_toggle (key : Octets) (h : Header) (body : Octets) :
    toggle key h (toggle key h body) = body := by
  by_cases hu : h.flags.unencrypted
  · simp [toggle, hu]
  · have hl := length_toggle key h body
    simp only [toggle, hu, Bool.false_eq_true, if_false] at hl ⊢
    rw [hl, lay_lay]
    exact List.take_of_length_le (by omega)

end Tacacs.Pad
