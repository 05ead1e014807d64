/-
# `Tacacs.Argument` — attribute-value pairs

An authorization names what is asked for by arguments such as `service=shell`.
A name and a value are separated by `=` where the argument is mandatory and by
`*` where it is optional.  A name holds neither mark, so the first mark in the
text form is the separator and the value may hold any.  The type carries this:
every way to come by an argument keeps its name free of marks, and that is why
reading the text form of an argument gives the same argument again
(`parse_text`).

Reading accepts every text.  One without a mark is a mandatory argument with an
empty value.
-/
import Tacacs.Text.Utf8

namespace Tacacs

/-- The two marks between a name and a value. -/
def isSeparator (c : Char) : Bool :=
  c == '=' || c == '*'

/-- An attribute-value pair. -/
structure Argument where
  name : String
  value : String
  optional : Bool
  /-- The name holds no separator. -/
  plain : name.toList.any isSeparator = false
deriving DecidableEq

namespace Argument

/-- The argument with the given parts, refused if the name holds a separator. -/
def new? (name value : String) (optional : Bool) : Option Argument :=
  if h : name.toList.any isSeparator = false then some ⟨name, value, optional, h⟩ else none

/-- The argument that says nothing: an empty name and an empty value, mandatory. -/
instance : Inhabited Argument :=
  ⟨⟨"", "", false, rfl⟩⟩

theorem new?_eq_none_iff {name value : String} {optional : Bool} :
    new? name value optional = none ↔ ∃ c ∈ name.toList, isSeparator c = true := by
  simp [new?]

/-- The mark between the name and the value. -/
def separator (a : Argument) : Char :=
  if a.optional then '*' else '='

theorem isSeparator_separator (a : Argument) : isSeparator a.separator = true := by
  unfold separator
  split <;> rfl

/-- The text form: name, separator, value. -/
def text (a : Argument) : String :=
  a.name ++ a.separator.toString ++ a.value

theorem toList_text (a : Argument) :
    a.text.toList = a.name.toList ++ a.separator :: a.value.toList := by
  simp [text]

/-! ## Reading the text form -/

private theorem any_takeWhile_not {cs : List Char} :
    (cs.takeWhile (fun c => !isSeparator c)).any isSeparator = false := by
  rw [List.any_eq_false]
  intro c hc
  simpa using (List.all_eq_true.1 (List.all_takeWhile (l := cs)) c hc)

/-- Reads a text form, dividing it at the first separator. -/
def parse (text : String) : Argument :=
  let chars := text.toList
  let rest := chars.dropWhile fun c => !isSeparator c
  { name := String.ofList (chars.takeWhile fun c => !isSeparator c)
    value := String.ofList rest.tail
    optional := rest.head? == some '*'
    plain := by rw [String.toList_ofList]; exact any_takeWhile_not }

/-- Reads a text form for a caller who expects that reading may fail.  Here it never does. -/
def ofText (text : String) : Except Empty Argument :=
  .ok (parse text)

theorem parse_text (a : Argument) : parse a.text = a := by
  have hn : ∀ c ∈ a.name.toList, (!isSeparator c) = true := by
    intro c hc
    simpa using List.any_eq_false.1 a.plain c hc
  have hs : (!isSeparator a.separator) = false := by simp [isSeparator_separator]
  have htake : a.text.toList.takeWhile (fun c => !isSeparator c) = a.name.toList := by
    rw [toList_text, List.takeWhile_append_of_pos hn, List.takeWhile_cons_of_neg (by simp [hs])]
    simp
  have hdrop : a.text.toList.dropWhile (fun c => !isSeparator c)
      = a.separator :: a.value.toList := by
    rw [toList_text, List.dropWhile_append_of_pos hn, List.dropWhile_cons_of_neg (by simp [hs])]
  have ho : (some a.separator == some '*') = a.optional := by
    unfold separator
    cases a.optional <;> decide
  cases a with
  | mk name value optional plain =>
    simp only [parse, htake, hdrop, mk.injEq, String.ofList_toList, List.tail_cons, List.head?_cons,
      true_and]
    exact ho

/-! ## On the wire -/

/-- The octets of an argument: those of its text form, cut after the 255th. -/
def encode (a : Argument) : Octets :=
  (Text.Utf8.encode a.text).take 255

def wireSize (a : Argument) : Nat :=
  min 255 (a.name.utf8ByteSize + 1 + a.value.utf8ByteSize)

theorem utf8ByteSize_text (a : Argument) :
    a.text.utf8ByteSize = a.name.utf8ByteSize + 1 + a.value.utf8ByteSize := by
  have : a.separator.utf8Size = 1 := by
    unfold separator
    split <;> rfl
  simp [text, this]

@[simp] theorem length_encode (a : Argument) : a.encode.length = a.wireSize := by
  rw [encode, wireSize, List.length_take, Text.Utf8.length_encode, utf8ByteSize_text]

/-- Reads an argument from the octets it was sent in. -/
def decode (octets : Octets) : Argument :=
  parse (Text.Utf8.decode octets)

end Argument

end Tacacs
