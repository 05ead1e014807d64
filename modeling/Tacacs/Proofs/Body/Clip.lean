/-
# `Tacacs.Proofs.Body.Clip` — a text that is cut on its way

A text field is cut after so many octets, wherever that is, and read as far as it
goes.  If the cut falls between two characters, the characters before it are left.
If it falls within one, what is left of that one stands for a replacement
character, which may have more octets than were left; so the text that is read can
be longer than the cut allows, and will be cut itself when it is sent on.

`clipChars` says on the characters what comes of a text (`clip_eq`).  That nothing
changes any more the second time (`clip_clip`) is a matter of sizes:
a replacement character has three octets, a character that was cut had at most
three left, and any cut within or right behind a replacement character leaves one.

To see that a cut within a character leaves just one replacement, the table of
octet sequences need not be opened again.  Every octet brings a reading forward
(`Reading.weight`), and the octets of one character bring it forward by one
character; so between them it cannot have come to a boundary (`begun_within`).
-/
import Tacacs.Text.Utf8

namespace Tacacs.Text.Utf8

/-! ## Within a character -/

/-- How far a reading has come; one that is within a character is halfway. -/
def Reading.weight (r : Reading) : Nat :=
  2 * r.found.length + if r.begun.isSome then 1 else 0

theorem weight_pushFirst (found : List Char) (octet : UInt8) :
    2 * found.length < (Reading.pushFirst found octet).weight := by
  unfold Reading.pushFirst
  split
  · simp [Reading.weight]
  · split
    · simp [Reading.weight]
    · simp [Reading.weight]

theorem weight_push (r : Reading) (octet : UInt8) :
    r.weight ≤ (r.push octet).weight ∧ (r.begun = none → r.weight < (r.push octet).weight) := by
  rcases r with ⟨found, _ | b⟩
  · have h := weight_pushFirst found octet
    exact ⟨Nat.le_of_lt h, fun _ => h⟩
  · refine ⟨?_, nofun⟩
    have hwithin (b : Begun) : (⟨found, some b⟩ : Reading).weight = 2 * found.length + 1 := rfl
    have hfound (c : Char) : (⟨c :: found, none⟩ : Reading).weight = 2 * found.length + 2 := rfl
    rw [hwithin]
    unfold Reading.push
    dsimp only
    split
    · split
      · rw [hfound]
        exact Nat.le_succ _
      · exact Nat.le_of_eq (hwithin _).symm
    · have h := weight_pushFirst (replacement :: found) octet
      rw [List.length_cons] at h
      omega

theorem weight_foldl (r : Reading) (octets : Octets) :
    r.weight ≤ (octets.foldl Reading.push r).weight := by
  induction octets generalizing r with
  | nil => exact Nat.le_refl _
  | cons o os ih => exact Nat.le_trans (weight_push r o).1 (ih _)

theorem weight_foldl_of_boundary (found : List Char) {octets : Octets} (h : octets ≠ []) :
    2 * found.length < (octets.foldl Reading.push ⟨found, none⟩).weight := by
  cases octets with
  | nil => exact absurd rfl h
  | cons o os => exact Nat.lt_of_lt_of_le ((weight_push ⟨found, none⟩ o).2 rfl) (weight_foldl _ os)

theorem found_pushFirst (found : List Char) (octet : UInt8) :
    found <:+ (Reading.pushFirst found octet).found := by
  unfold Reading.pushFirst
  split
  · exact List.suffix_cons _ _
  · split
    · exact List.suffix_refl _
    · exact List.suffix_cons _ _

theorem found_push (r : Reading) (octet : UInt8) : r.found <:+ (r.push octet).found := by
  rcases r with ⟨found, _ | b⟩
  · exact found_pushFirst found octet
  · unfold Reading.push
    dsimp only
    split
    · split
      · exact List.suffix_cons _ _
      · exact List.suffix_refl _
    · exact (List.suffix_cons _ _).trans (found_pushFirst _ _)

theorem found_foldl (r : Reading) (octets : Octets) :
    r.found <:+ (octets.foldl Reading.push r).found := by
  induction octets generalizing r with
  | nil => exact List.suffix_refl _
  | cons o os ih => exact (found_push r o).trans (ih _)

/-- Between the octets that read as one character, a reading is within it. -/
theorem begun_within {front rest : Octets} {found : List Char} {c : Char} (hfront : front ≠ [])
    (hrest : rest ≠ [])
    (h : (front ++ rest).foldl Reading.push ⟨found, none⟩ = ⟨c :: found, none⟩) :
    ∃ b, front.foldl Reading.push ⟨found, none⟩ = ⟨found, some b⟩ := by
  have hstart := weight_foldl_of_boundary found hfront
  have hsuffix := found_foldl ⟨found, none⟩ front
  rw [List.foldl_append] at h
  generalize front.foldl Reading.push ⟨found, none⟩ = r at h hstart hsuffix
  have hend : (rest.foldl Reading.push r).weight = 2 * found.length + 2 := by
    rw [h]
    simp [Reading.weight]
    omega
  rcases r with ⟨found', _ | b⟩
  · -- at a boundary, one character would be behind and another one still to come
    have hmore := weight_foldl_of_boundary found' hrest
    have hweight : (⟨found', none⟩ : Reading).weight = 2 * found'.length := rfl
    omega
  · have hle := weight_foldl ⟨found', some b⟩ rest
    have hweight : (⟨found', some b⟩ : Reading).weight = 2 * found'.length + 1 := rfl
    have hlength : found'.length ≤ found.length := by omega
    have hsame : found = found' := hsuffix.eq_of_length_le hlength
    exact ⟨b, by rw [hsame]⟩

/-! ## What comes of the characters -/

/-- How many octets characters have. -/
def octetsOf (cs : List Char) : Nat :=
  (cs.flatMap String.utf8EncodeChar).length

@[simp] theorem octetsOf_cons (c : Char) (cs : List Char) :
    octetsOf (c :: cs) = c.utf8Size + octetsOf cs := by
  rw [octetsOf, List.flatMap_cons, List.length_append, String.length_utf8EncodeChar, octetsOf]

theorem octetsOf_toList (text : String) : octetsOf text.toList = text.utf8ByteSize :=
  length_encode text

/-- What is read of characters that are cut after `n` octets: those that the cut leaves
whole, and a replacement if it leaves a part of the next. -/
def clipChars : Nat → List Char → List Char
  | _, [] => []
  | n, c :: cs =>
    if c.utf8Size ≤ n then c :: clipChars (n - c.utf8Size) cs
    else if n = 0 then []
    else [replacement]

theorem chars_foldl_take (n : Nat) (cs found : List Char) :
    (((cs.flatMap String.utf8EncodeChar).take n).foldl Reading.push ⟨found, none⟩).chars
      = found.reverse ++ clipChars n cs := by
  induction cs generalizing n found with
  | nil => simp [clipChars, Reading.chars]
  | cons c cs ih =>
    have hlength := String.length_utf8EncodeChar c
    rw [List.flatMap_cons, List.take_append, clipChars]
    split
    next hwhole =>
      rw [List.take_of_length_le (by omega), List.foldl_append, foldl_push_utf8EncodeChar, hlength,
        ih]
      simp
    next hcut =>
      rw [Nat.sub_eq_zero_of_le (by omega), List.take_zero, List.append_nil]
      split
      next hzero => simp [hzero, Reading.chars]
      next hpart =>
        -- the octets that are left and those that are lost make up the character
        have hall := foldl_push_utf8EncodeChar c found
        rw [← List.take_append_drop n (String.utf8EncodeChar c)] at hall
        have hleft : (String.utf8EncodeChar c).take n ≠ [] := by
          intro h
          have := congrArg List.length h
          simp at this
          omega
        have hlost : (String.utf8EncodeChar c).drop n ≠ [] := by
          intro h
          have := congrArg List.length h
          simp at this
          omega
        obtain ⟨b, hb⟩ := begun_within hleft hlost hall
        rw [hb]
        simp [Reading.chars]

theorem clipChars_zero (cs : List Char) : clipChars 0 cs = [] := by
  cases cs with
  | nil => rfl
  | cons c cs =>
    have hsize := c.utf8Size_pos
    rw [clipChars, if_neg (by omega), if_pos rfl]

theorem clipChars_of_le {n : Nat} {cs : List Char} (h : octetsOf cs ≤ n) : clipChars n cs = cs := by
  induction cs generalizing n with
  | nil => rfl
  | cons c cs ih =>
    rw [octetsOf_cons] at h
    rw [clipChars, if_pos (by omega), ih (by omega)]

/-- What is read of characters that were cut has at least as many octets as were left. -/
theorem le_octetsOf_clipChars {n : Nat} {cs : List Char} (h : n ≤ octetsOf cs) :
    n ≤ octetsOf (clipChars n cs) := by
  induction cs generalizing n with
  | nil => exact h
  | cons c cs ih =>
    have hfour := c.utf8Size_le_four
    have hthree : octetsOf [replacement] = 3 := rfl
    rw [octetsOf_cons] at h
    rw [clipChars]
    split
    next hwhole =>
      have hrest := ih (n := n - c.utf8Size) (by omega)
      rw [octetsOf_cons]
      omega
    next hcut =>
      split
      next hzero => omega
      next hpart => omega

theorem clipChars_clipChars (n : Nat) (cs : List Char) :
    clipChars n (clipChars n cs) = clipChars n cs := by
  induction cs generalizing n with
  | nil => rfl
  | cons c cs ih =>
    rw [clipChars]
    split
    next hwhole => rw [clipChars, if_pos hwhole, ih]
    next hcut =>
      split
      next hzero => rfl
      next hpart =>
        rw [clipChars]
        split
        next hroom => rfl
        next hroom => rfl

theorem clipChars_append {n : Nat} {cs : List Char} (h : n ≤ octetsOf cs) (more : List Char) :
    clipChars n (cs ++ more) = clipChars n cs := by
  induction cs generalizing n with
  | nil =>
    obtain rfl : n = 0 := Nat.le_zero.1 h
    rw [clipChars_zero, clipChars_zero]
  | cons c cs ih =>
    rw [octetsOf_cons] at h
    rw [List.cons_append, clipChars, clipChars]
    split
    next hwhole => rw [ih (by omega)]
    next hcut => rfl

/-! ## What comes of a text -/

/-- What is read of a text that is cut after `n` octets. -/
def clip (n : Nat) (text : String) : String :=
  decode ((encode text).take n)

theorem clip_eq (n : Nat) (text : String) :
    clip n text = String.ofList (clipChars n text.toList) := by
  rw [clip, decode, encode, Reading.start, chars_foldl_take]
  rfl

theorem toList_clip (n : Nat) (text : String) : (clip n text).toList = clipChars n text.toList := by
  rw [clip_eq, String.toList_ofList]

theorem clip_of_le {n : Nat} {text : String} (h : text.utf8ByteSize ≤ n) : clip n text = text := by
  rw [clip_eq, clipChars_of_le (by rwa [octetsOf_toList]), String.ofList_toList]

theorem le_utf8ByteSize_clip {n : Nat} {text : String} (h : n ≤ text.utf8ByteSize) :
    n ≤ (clip n text).utf8ByteSize := by
  rw [← octetsOf_toList] at h
  rw [← octetsOf_toList, toList_clip]
  exact le_octetsOf_clipChars h

/-- A text that was cut before goes out in as many octets as the first time. -/
@[simp] theorem min_utf8ByteSize_clip (n : Nat) (text : String) :
    min n (clip n text).utf8ByteSize = min n text.utf8ByteSize := by
  rcases Nat.le_total text.utf8ByteSize n with h | h
  · rw [clip_of_le h]
  · rw [Nat.min_eq_left h, Nat.min_eq_left (le_utf8ByteSize_clip h)]

/-- A text that was cut before is read the second time as it was the first time. -/
@[simp] theorem clip_clip (n : Nat) (text : String) : clip n (clip n text) = clip n text := by
  rw [clip_eq, toList_clip, clipChars_clipChars, ← clip_eq]

/-- A cut within a character leaves a replacement, which is then cut itself. -/
example : clip 2 "aé" = "a\uFFFD" ∧ clip 2 "a\uFFFD" = "a\uFFFD" := by decide

theorem clip_append {n : Nat} {text : String} (h : n ≤ text.utf8ByteSize) (more : String) :
    clip n (text ++ more) = clip n text := by
  rw [← octetsOf_toList] at h
  rw [clip_eq, String.toList_append, clipChars_append h, ← clip_eq]

end Tacacs.Text.Utf8
