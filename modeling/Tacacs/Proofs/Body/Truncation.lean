/-
# `Tacacs.Proofs.Body.Truncation` — what a cut leaves of a text and of an argument

A text that is too long for its field is cut where the field ends.  `clipChars` says what is
read of it by going through its characters.  Here it is said without: what is left is the
longest front of whole characters that fits, and one replacement behind it if the cut falls
within a character (`Left`).  Each part of this is an induction on the characters, with as many
octets as are left for them.

An argument is cut as one text, name, mark and value together.  The mark has one octet.  So
there are two cases and no third, told by the length of the name alone (`Remains`):

    up to 254    the mark is left, and with it the name; the cut, if any, is in the value
    from 255 on  the mark is gone; what is left of the name is read as an argument without one

In the second case the argument that is read is mandatory with an empty value, whatever was
sent: this is what an argument without a mark is taken for, and neither the characters of a
name nor a replacement is a mark (`not_separated_clip`).
-/
import Tacacs.Proofs.Packet.Arguments

namespace Tacacs

namespace Text.Utf8

/-! ## Characters that are left whole -/

/-- The characters that are whole among the first `n` octets. -/
def whole : Nat → List Char → List Char
  | _, [] => []
  | n, c :: cs => if c.utf8Size ≤ n then c :: whole (n - c.utf8Size) cs else []

theorem whole_isPrefix (n : Nat) (cs : List Char) : whole n cs <+: cs := by
  induction cs generalizing n with
  | nil => exact List.prefix_rfl
  | cons c cs ih =>
    rw [whole]
    split
    next hfits => exact List.cons_prefix_cons.2 ⟨rfl, ih _⟩
    next => exact List.nil_prefix

theorem octetsOf_whole_le (n : Nat) (cs : List Char) : octetsOf (whole n cs) ≤ n := by
  induction cs generalizing n with
  | nil => exact Nat.zero_le n
  | cons c cs ih =>
    rw [whole]
    split
    next hfits =>
      have hrest := ih (n - c.utf8Size)
      rw [octetsOf_cons]
      omega
    next => exact Nat.zero_le n

theorem prefix_whole {n : Nat} {front cs : List Char} (hfront : front <+: cs)
    (hfits : octetsOf front ≤ n) : front <+: whole n cs := by
  induction cs generalizing n front with
  | nil => exact hfront
  | cons c cs ih =>
    cases front with
    | nil => exact List.nil_prefix
    | cons d front =>
      obtain ⟨rfl, hrest⟩ := List.cons_prefix_cons.1 hfront
      rw [octetsOf_cons] at hfits
      rw [whole, if_pos (by omega)]
      exact List.cons_prefix_cons.2 ⟨rfl, ih hrest (by omega)⟩

/-! ## Cuts within a character -/

/-- A cut after `n` octets falls within a character. -/
def Splits (n : Nat) (cs : List Char) : Prop :=
  ∃ front c rest, cs = front ++ c :: rest ∧ octetsOf front < n ∧ n < octetsOf front + c.utf8Size

theorem not_splits_zero (cs : List Char) : ¬Splits 0 cs := by
  rintro ⟨front, c, rest, -, hbefore, -⟩
  exact Nat.not_lt_zero _ hbefore

theorem splits_cons_of_lt {n : Nat} {c : Char} {cs : List Char} (hpos : 0 < n)
    (hlt : n < c.utf8Size) : Splits n (c :: cs) := by
  have hnil : octetsOf [] = 0 := rfl
  exact ⟨[], c, cs, rfl, by omega, by omega⟩

/-- Behind a character that is left whole the cut falls where it falls in the rest. -/
theorem splits_cons_iff {n : Nat} {c : Char} {cs : List Char} (hfits : c.utf8Size ≤ n) :
    Splits n (c :: cs) ↔ Splits (n - c.utf8Size) cs := by
  constructor
  · rintro ⟨front, d, rest, hsplit, hbefore, hbehind⟩
    cases front with
    | nil =>
      obtain ⟨rfl, -⟩ := List.cons.inj hsplit
      have hnil : octetsOf [] = 0 := rfl
      omega
    | cons e front =>
      obtain ⟨rfl, rfl⟩ := List.cons.inj hsplit
      rw [octetsOf_cons] at hbefore hbehind
      exact ⟨front, d, rest, rfl, by omega, by omega⟩
  · rintro ⟨front, d, rest, rfl, hbefore, hbehind⟩
    refine ⟨c :: front, d, rest, rfl, ?_, ?_⟩
    · rw [octetsOf_cons]
      omega
    · rw [octetsOf_cons]
      omega

/-- **What is read of characters that were cut.** -/
theorem clipChars_cases (n : Nat) (cs : List Char) :
    Splits n cs ∧ clipChars n cs = whole n cs ++ [replacement] ∨
      ¬Splits n cs ∧ clipChars n cs = whole n cs := by
  induction cs generalizing n with
  | nil =>
    refine .inr ⟨?_, rfl⟩
    rintro ⟨front, c, rest, hnil, -, -⟩
    exact List.cons_ne_nil _ _ (List.append_eq_nil_iff.1 hnil.symm).2
  | cons c cs ih =>
    rw [clipChars, whole]
    split
    next hfits =>
      rw [splits_cons_iff hfits]
      rcases ih (n - c.utf8Size) with ⟨hsplits, hread⟩ | ⟨hclean, hread⟩
      · exact .inl ⟨hsplits, congrArg (c :: ·) hread⟩
      · exact .inr ⟨hclean, congrArg (c :: ·) hread⟩
    next hcut =>
      split
      next hzero =>
        subst hzero
        exact .inr ⟨not_splits_zero _, rfl⟩
      next hpart =>
        exact .inl ⟨splits_cons_of_lt (by omega) (by omega), rfl⟩

/-- Nothing is read but characters that were written, and replacements. -/
theorem mem_clipChars {n : Nat} {cs : List Char} {c : Char} (h : c ∈ clipChars n cs) :
    c ∈ cs ∨ c = replacement := by
  rcases clipChars_cases n cs with ⟨-, hread⟩ | ⟨-, hread⟩
  · rw [hread, List.mem_append, List.mem_singleton] at h
    exact h.imp_left fun hmem => (whole_isPrefix n cs).subset hmem
  · rw [hread] at h
    exact .inl ((whole_isPrefix n cs).subset h)

theorem clipChars_append_of_le {n : Nat} {cs : List Char} (h : octetsOf cs ≤ n)
    (more : List Char) : clipChars n (cs ++ more) = cs ++ clipChars (n - octetsOf cs) more := by
  induction cs generalizing n with
  | nil => rfl
  | cons c cs ih =>
    rw [octetsOf_cons] at h ⊢
    rw [List.cons_append, clipChars, if_pos (by omega), ih (by omega), Nat.sub_sub]
    rfl

/-! ## Texts -/

/-- What is left of a text that is cut after `n` octets: the whole characters that are kept,
and what is read of all that is left. -/
structure Left (n : Nat) (text kept read : String) : Prop where
  front : kept.toList <+: text.toList
  fits : kept.utf8ByteSize ≤ n
  longest : ∀ other : String, other.toList <+: text.toList → other.utf8ByteSize ≤ n →
    other.toList <+: kept.toList
  within : Splits n text.toList → read = kept ++ replacement.toString
  between : ¬Splits n text.toList → read = kept

theorem utf8ByteSize_ofList (cs : List Char) : (String.ofList cs).utf8ByteSize = octetsOf cs := by
  rw [← octetsOf_toList, String.toList_ofList]

theorem left_clip (n : Nat) (text : String) :
    Left n text (String.ofList (whole n text.toList)) (clip n text) where
  front := by
    rw [String.toList_ofList]
    exact whole_isPrefix n _
  fits := by
    rw [utf8ByteSize_ofList]
    exact octetsOf_whole_le n _
  longest := by
    intro other hfront hfits
    rw [← octetsOf_toList] at hfits
    rw [String.toList_ofList]
    exact prefix_whole hfront hfits
  within := by
    intro hsplits
    rcases clipChars_cases n text.toList with ⟨-, hread⟩ | ⟨hclean, -⟩
    · rw [clip_eq, hread, String.ofList_append]
      rfl
    · exact absurd hsplits hclean
  between := by
    intro hclean
    rcases clipChars_cases n text.toList with ⟨hsplits, -⟩ | ⟨-, hread⟩
    · exact absurd hsplits hclean
    · rw [clip_eq, hread]

theorem clip_eq_min (n : Nat) (text : String) :
    decode ((encode text).take (min n (encode text).length)) = clip n text := by
  rw [clip, ← List.take_eq_take_min]

end Text.Utf8

/-! ## Arguments -/

namespace Argument

open Text.Utf8 (clip clip_eq clip_append clipChars clipChars_append_of_le mem_clipChars
  octetsOf_toList toList_clip)

theorem not_separated_clip {n : Nat} {text : String} (h : ¬Separated text) :
    ¬Separated (clip n text) := by
  have hother {mark : Char} (hmark : mark ≠ Text.Utf8.replacement)
      (hmem : mark ∈ (clip n text).toList) : mark ∈ text.toList := by
    rw [toList_clip] at hmem
    exact (mem_clipChars hmem).resolve_right hmark
  rintro (hmem | hmem)
  · exact h (.inl (hother (by decide) hmem))
  · exact h (.inr (hother (by decide) hmem))

/-- If the mark is left, the cut is in the value. -/
theorem clip_text_of_short {a : Argument} (h : a.name.utf8ByteSize ≤ 254) :
    clip 255 a.text
      = text { a with value := clip (254 - a.name.utf8ByteSize) a.value } := by
  have hsize := octetsOf_toList a.name
  have hmark : a.separator.utf8Size = 1 := by
    unfold separator
    split <;> rfl
  have hbehind : clipChars (255 - a.name.utf8ByteSize) (a.separator :: a.value.toList)
      = a.separator :: clipChars (254 - a.name.utf8ByteSize) a.value.toList := by
    have hrest : 255 - a.name.utf8ByteSize - 1 = 254 - a.name.utf8ByteSize := by omega
    rw [clipChars, hmark, if_pos (by omega), hrest]
  rw [← String.toList_inj, toList_clip, toList_text, toList_text,
    clipChars_append_of_le (by omega), hsize, hbehind, toList_clip]
  rfl

/-- What is read of an argument that was cut on its way. -/
structure Remains (a read : Argument) : Prop where
  marked : a.name.utf8ByteSize ≤ 254 → read.name = a.name ∧ read.optional = a.optional
    ∧ read.value = clip (254 - a.name.utf8ByteSize) a.value
  unmarked : 254 < a.name.utf8ByteSize → read.optional = false ∧ read.value = ""
    ∧ read.name = clip 255 a.name

theorem remains_decode_encode (a : Argument) : Remains a (decode a.encode) := by
  rw [decode_encode, normal]
  refine ⟨?_, ?_⟩
  · intro hshort
    rw [clip_text_of_short hshort, parse_text]
    exact ⟨rfl, rfl, rfl⟩
  · intro hlong
    have hcut : clip 255 a.text = clip 255 a.name := by
      have htext : a.text = a.name ++ (a.separator.toString ++ a.value) := String.append_assoc
      rw [htext, clip_append (by omega)]
    rw [hcut, parse_of_not_separated (not_separated_clip (not_separated_name a))]
    exact ⟨rfl, rfl, rfl⟩

end Argument

/-! ## Bodies -/

namespace Body

/-- The texts of a body, each with the number of octets that its field can hold. -/
def texts : Body → List (Nat × String)
  | start s =>
    [(255, s.origin.user), (255, s.origin.port), (255, s.origin.remoteAddress)]
  | .continue c => [(65535, c.message)]
  | authenReply r => [(65535, r.message)]
  | authorRequest r =>
    [(255, r.origin.user), (255, r.origin.port), (255, r.origin.remoteAddress)]
  | authorReply r => [(65535, r.message)]
  | accounting _ => []

/-- The arguments of a body. -/
def arguments : Body → List Argument
  | authorRequest r => r.arguments
  | authorReply r => r.arguments
  | start _ | .continue _ | authenReply _ | accounting _ => []

theorem texts_normal (b : Body) :
    b.normal.texts = b.texts.map fun (n, text) => (n, Text.Utf8.clip n text) := by
  cases b <;> rfl

theorem arguments_normal (b : Body) :
    b.normal.arguments = (b.arguments.take 255).map fun a => .decode a.encode := by
  cases b <;> rfl

/-- **What a cut leaves.**  Of a text the longest front of whole characters is left that fits,
and one replacement behind it if the cut falls within a character; nothing happens to a text
that fits, nor to one that was cut before.  Of an argument the name and the mark are left if
the name has 254 octets at most, and otherwise neither mark nor value.  And so it is with every
text and every argument of every body that is written and read. -/
theorem what_cuts_leave :
    (∀ (n : Nat) (text : String), ∃ kept, Text.Utf8.Left n text kept
        (Text.Utf8.decode ((Text.Utf8.encode text).take (min n (Text.Utf8.encode text).length))))
      ∧ (∀ (n : Nat) (text : String), text.utf8ByteSize ≤ n → Text.Utf8.clip n text = text)
      ∧ (∀ (n : Nat) (text : String),
          Text.Utf8.clip n (Text.Utf8.clip n text) = Text.Utf8.clip n text)
      ∧ (∀ a : Argument, Argument.Remains a (.decode a.encode))
      ∧ ∀ b : Body, ∃ read, decode b.kind b.encode = .ok read
        ∧ read.texts = b.texts.map (fun (n, text) => (n, Text.Utf8.clip n text))
        ∧ read.arguments = (b.arguments.take 255).map fun a => .decode a.encode := by
  refine ⟨?_, ?_, Text.Utf8.clip_clip, Argument.remains_decode_encode, ?_⟩
  · intro n text
    rw [Text.Utf8.clip_eq_min]
    exact ⟨_, Text.Utf8.left_clip n text⟩
  · intro n text hfits
    exact Text.Utf8.clip_of_le hfits
  · intro b
    exact ⟨b.normal, b.decode_encode, b.texts_normal, b.arguments_normal⟩

theorem plain_longName :
    (String.ofList (List.replicate 128 'é')).toList.any isSeparator = false := by
  rw [String.toList_ofList]
  decide

theorem lt_longName : 254 < Text.Utf8.octetsOf (List.replicate 128 'é') := by
  decide +kernel

/-- An optional argument with a name of 128 characters, each of two octets. -/
def longNamed : Argument :=
  ⟨String.ofList (List.replicate 128 'é'), "v", true, plain_longName⟩

/-- The mark of such an argument is lost, and with it the value.  "cmd" keeps both, and a
text of three octets fits in three. -/
theorem what_cuts_leave_longNamed :
    (Argument.decode longNamed.encode).optional = false
      ∧ (Argument.decode longNamed.encode).value = ""
      ∧ (Argument.decode (Argument.parse "cmd*show").encode).optional = true
      ∧ Text.Utf8.clip 3 "aé" = "aé" := by
  obtain ⟨-, hwhole, -, hargument, -⟩ := what_cuts_leave
  have hlong : 254 < longNamed.name.utf8ByteSize :=
    Nat.lt_of_lt_of_eq lt_longName (Text.Utf8.utf8ByteSize_ofList _).symm
  obtain ⟨hoptional, hvalue, -⟩ := (hargument longNamed).unmarked hlong
  obtain ⟨-, hkept, -⟩ := (hargument (.parse "cmd*show")).marked (by decide)
  exact ⟨hoptional, hvalue, hkept, hwhole 3 "aé" (by decide)⟩

end Body

end Tacacs
