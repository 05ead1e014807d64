/-
# `Tacacs.Proofs.Packet.Arguments` — an argument and its text form

There are five ways to come by an argument (`Ways`), and only one of them looks at the name.
The others come down to dividing a text at its first separator, so that what stands in front
of it holds none.  `Divided` says where that is by the octets of the text, which need not be
where a character begins; but the octet of a separator is no part of any other character,
and so the octets are divided just where the text is (`divided_parse`).

That no name holds a separator makes the text form unambiguous.  It can be read back
(`Argument.parse_text`), so no two arguments have the same, and the texts with a separator
are just the text forms (`existsUnique_text_iff`).  A text without one is read, too, and gets
the separator that it lacks.
-/
import Mathlib.Logic.ExistsUnique
import Tacacs.Proofs.Body.Verbatim
import Tacacs.Proofs.Packet.Reading

namespace Tacacs.Argument

open Text

/-! ## Texts with a separator -/

/-- A text holds a separator. -/
def Separated (text : String) : Prop :=
  '=' ∈ text.toList ∨ '*' ∈ text.toList
deriving Decidable

theorem any_isSeparator_iff {text : String} :
    text.toList.any isSeparator = true ↔ Separated text := by
  rw [List.any_eq_true, Separated]
  constructor
  · rintro ⟨c, hc, hmark⟩
    rcases (by simpa [isSeparator] using hmark : c = '=' ∨ c = '*') with rfl | rfl
    · exact .inl hc
    · exact .inr hc
  · rintro (hc | hc)
    · exact ⟨'=', hc, rfl⟩
    · exact ⟨'*', hc, rfl⟩

theorem not_separated_iff {text : String} :
    ¬Separated text ↔ text.toList.any isSeparator = false := by
  rw [← any_isSeparator_iff, Bool.not_eq_true]

theorem not_separated_name (a : Argument) : ¬Separated a.name :=
  not_separated_iff.2 a.plain

theorem separated_text (a : Argument) : Separated a.text := by
  rw [← any_isSeparator_iff, toList_text]
  simp [isSeparator_separator]

/-- An octet of a separator stands for a separator, wherever it is in a text. -/
theorem not_isMark_of_mem {octet : UInt8} {text : String} (h : ¬Separated text)
    (hmem : octet ∈ Utf8.encode text) : ¬IsMark octet := by
  intro hmark
  exact h (any_isSeparator_iff.1 (any_isSeparator_of_mem hmark hmem))

/-! ## Text forms -/

theorem text_injective {a b : Argument} (h : a.text = b.text) : a = b := by
  rw [← parse_text a, h, parse_text]

theorem text_parse_eq (text : String) :
    (parse text).text = if Separated text then text else text ++ "=" := by
  rcases text_parse text with hkept | ⟨hplain, hput⟩
  · have hseparated := separated_text (parse text)
    rw [hkept] at hseparated
    rw [hkept, if_pos hseparated]
  · rw [hput, if_neg (not_separated_iff.2 hplain)]

/-- The texts with a separator are the text forms, and each is the text form of one
argument only. -/
theorem existsUnique_text_iff (text : String) :
    (∃! a : Argument, a.text = text) ↔ Separated text := by
  constructor
  · rintro ⟨a, rfl, -⟩
    exact separated_text a
  · intro h
    have hkept : (parse text).text = text := by rw [text_parse_eq, if_pos h]
    refine ⟨parse text, hkept, ?_⟩
    intro a ha
    rw [← ha, parse_text]

theorem parse_of_not_separated {text : String} (h : ¬Separated text) :
    parse text = ⟨text, "", false, not_separated_iff.1 h⟩ := by
  refine text_injective ?_
  rw [text_parse_eq, if_neg h]
  exact (String.append_empty).symm

/-! ## Octet by octet -/

/-- The octet of the separator. -/
def mark (a : Argument) : UInt8 :=
  if a.optional then 0x2A else 0x3D

theorem isMark_mark (a : Argument) : IsMark a.mark := by
  unfold mark
  split
  · exact .inr rfl
  · exact .inl rfl

theorem encode_text (a : Argument) :
    Utf8.encode a.text = Utf8.encode a.name ++ a.mark :: Utf8.encode a.value := by
  have hmark : String.utf8EncodeChar a.separator = [a.mark] := by
    unfold separator mark
    split <;> rfl
  rw [Utf8.encode, toList_text, List.flatMap_append, List.flatMap_cons, hmark]
  rfl

/-- Octets are divided at the first one of a separator: in front of it is the name, behind
it the value.  If there is none, all are the name. -/
inductive Divided (octets : Octets) (a : Argument) : Prop
  | marked (i : Nat) : octets.findIdx? (decide <| IsMark ·) = some i →
      Utf8.encode a.name = octets.take i → Utf8.encode a.value = octets.drop (i + 1) →
      (a.optional = true ↔ octets[i]? = some 0x2A) → Divided octets a
  | unmarked : octets.findIdx? (decide <| IsMark ·) = none →
      Utf8.encode a.name = octets → a.value = "" → a.optional = false → Divided octets a

theorem divided_text (a : Argument) : Divided (Utf8.encode a.text) a := by
  have hname : (Utf8.encode a.name).findIdx? (decide <| IsMark ·) = none := by
    rw [List.findIdx?_eq_none_iff]
    intro octet hmem
    exact decide_eq_false (not_isMark_of_mem (not_separated_name a) hmem)
  have hmark : a.optional = true ↔ some a.mark = some 0x2A := by
    unfold mark
    cases a.optional <;> decide
  rw [encode_text]
  refine .marked (Utf8.encode a.name).length ?_ ?_ ?_ ?_
  · rw [List.findIdx?_append, hname, List.findIdx?_cons, decide_eq_true (isMark_mark a)]
    simp
  · exact List.take_left.symm
  · rw [← List.singleton_append, ← List.append_assoc, List.drop_left']
    rw [List.length_append, List.length_singleton]
  · rw [List.getElem?_append_right (Nat.le_refl _), Nat.sub_self]
    exact hmark

theorem divided_parse (text : String) : Divided (Utf8.encode text) (parse text) := by
  by_cases h : Separated text
  · have hkept : (parse text).text = text := by rw [text_parse_eq, if_pos h]
    have hdivided := divided_text (parse text)
    rwa [hkept] at hdivided
  · rw [parse_of_not_separated h]
    refine .unmarked ?_ rfl rfl rfl
    rw [List.findIdx?_eq_none_iff]
    intro octet hmem
    exact decide_eq_false (not_isMark_of_mem h hmem)

/-! ## The ways to come by an argument -/

theorem new?_eq_some_iff {name value : String} {optional : Bool} {a : Argument} :
    new? name value optional = some a ↔
      ¬Separated name ∧ a.name = name ∧ a.value = value ∧ a.optional = optional := by
  rw [not_separated_iff, new?]
  constructor
  · intro h
    split at h
    next hplain =>
      obtain rfl := Option.some.inj h
      exact ⟨hplain, rfl, rfl, rfl⟩
    next => cases h
  · rintro ⟨hplain, rfl, rfl, rfl⟩
    exact dif_pos hplain

/-- An argument of a packet that was read is what was read of one of its fields. -/
theorem field_of_read {side : Side} {key body : Octets} {h : Header} {p : Packet} {a : Argument}
    (hread : Packet.ofReceived side key h body = .ok p) (hmem : .argument a ∈ p.body.contents) :
    ∃ piece, (.argument, piece) ∈ Body.fields (Pad.toggle key h body) p.body.kind
      ∧ a = parse (Utf8.decode piece) := by
  obtain ⟨-, -, hbody⟩ := Packet.parts_of_read hread
  obtain ⟨-, -, hspelt⟩ := Body.spelt_of_decode hbody
  rw [hspelt.contents] at hmem
  obtain ⟨⟨form, piece⟩, hfield, hcontent⟩ := List.mem_map.1 hmem
  cases form with
  | argument => exact ⟨piece, hfield, (Content.argument.inj hcontent).symm⟩
  | _ => cases hcontent

/-- What each way to come by an argument makes of what it is given. -/
structure Ways : Prop where
  made : ∀ name value optional a, new? name value optional = some a ↔
    ¬Separated name ∧ a.name = name ∧ a.value = value ∧ a.optional = optional
  refused : ∀ name value optional, new? name value optional = none ↔ Separated name
  parsed : ∀ text, Divided (Utf8.encode text) (parse text)
  converted : ∀ text, ofText text = .ok (parse text)
  default : new? "" "" false = some default
  /-- An argument of a packet is read so as well, be it a reply or a request. -/
  received : ∀ side key h body p a, Packet.ofReceived side key h body = .ok p →
    .argument a ∈ p.body.contents →
      ∃ piece, (.argument, piece) ∈ Body.fields (Pad.toggle key h body) p.body.kind
        ∧ a = parse (Utf8.decode piece)

theorem ways : Ways where
  made := by
    intro name value optional a
    exact new?_eq_some_iff
  refused := by
    intro name value optional
    rw [← any_isSeparator_iff, new?_eq_none_iff, List.any_eq_true]
  parsed := divided_parse
  converted := by
    intro text
    rfl
  default := rfl
  received := by
    intro side key h body p a hread hmem
    exact field_of_read hread hmem

/-! ## The theorem -/

/-- An argument and its text form tell the same. -/
structure Unambiguous (a : Argument) : Prop where
  plain : '=' ∉ a.name.toList ∧ '*' ∉ a.name.toList
  reparsed : parse a.text = a
  /-- No other argument has this text form. -/
  alone : ∀ b : Argument, b.text = a.text → b = a

/-- **No text form can be read in two ways**, whichever way one came by the argument.  A
text that is read keeps its form, but for a separator that it lacks. -/
theorem text_unambiguous :
    (∀ a : Argument, Unambiguous a)
      ∧ (∀ text, (∃! a : Argument, a.text = text) ↔ Separated text)
      ∧ (∀ text, (parse text).text = if Separated text then text else text ++ "=")
      ∧ Ways := by
  refine ⟨?_, existsUnique_text_iff, text_parse_eq, ways⟩
  intro a
  exact ⟨not_or.1 (not_separated_name a), parse_text a, fun b h => text_injective h⟩

/-- The first separator counts, and the value keeps the others. -/
example : (parse "addr*10.0.0.1=x").text = "addr*10.0.0.1=x"
    ∧ new? "addr" "10.0.0.1=x" true = some (parse "addr*10.0.0.1=x") := by
  decide

end Tacacs.Argument
