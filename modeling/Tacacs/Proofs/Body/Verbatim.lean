/-
# `Tacacs.Proofs.Body.Verbatim` — what is read can be written back

A body that was read and is written again gives the octets it was read from, to the
last bit: the codes, a status that has no name, flags that nobody knows, every length
and every field.

Two things can get lost on the way, and both of them sit in the fields.  Octets that
spell no text are read as replacement characters.  An argument without a separator is
written with one at its end, unless it is so long that the end is cut off.  A field in
which neither can happen is `Faithful`.

The proof goes through the slices.  Written field by field, a body that was read gives
back the slices it was read from (`written_eq_pieces`); so it gives back their lengths,
too, and these and the codes are all that stands in front of them.
-/
import Tacacs.Proofs.Body.NormalForm
import Tacacs.Proofs.Body.Grammar

namespace Tacacs

/-! ## Octets that are text -/

namespace Text.Utf8

/-- The octets are those of a text. -/
def Valid (octets : Octets) : Prop :=
  ∃ text, encode text = octets

theorem encode_decode {octets : Octets} (h : Valid octets) : encode (decode octets) = octets := by
  obtain ⟨text, rfl⟩ := h
  rw [decode_encode]

instance (octets : Octets) : Decidable (Valid octets) :=
  decidable_of_iff (encode (decode octets) = octets) ⟨fun h => ⟨_, h⟩, encode_decode⟩

/-- A character of one octet is that octet; of several octets each has its highest bit
set. -/
theorem toNat_of_mem_utf8EncodeChar {octet : UInt8} {c : Char}
    (h : octet ∈ String.utf8EncodeChar c) : octet.toNat = c.toNat ∨ 128 ≤ octet.toNat := by
  unfold String.utf8EncodeChar at h
  simp only [show c.val.toNat = c.toNat from rfl] at h
  generalize c.toNat = v at h ⊢
  repeat' split at h
  all_goals
    simp only [List.mem_cons, List.not_mem_nil, or_false] at h
    rcases h with rfl | rfl | rfl | rfl
    all_goals
      rw [UInt8.toNat_ofNat']
      omega

theorem ofNat_mem_of_mem_encode {octet : UInt8} {text : String} (hlow : octet.toNat < 128)
    (h : octet ∈ encode text) : Char.ofNat octet.toNat ∈ text.toList := by
  obtain ⟨c, hc, hmem⟩ := List.mem_flatMap.1 h
  rcases toNat_of_mem_utf8EncodeChar hmem with hsame | hhigh
  · rwa [hsame, Char.ofNat_toNat]
  · omega

end Text.Utf8

/-! ## Arguments -/

namespace Argument

/-- The octet of either separator. -/
def IsMark (octet : UInt8) : Prop :=
  octet = 0x3D ∨ octet = 0x2A
deriving Decidable

theorem any_isSeparator_of_mem {octet : UInt8} {text : String} (hmark : IsMark octet)
    (h : octet ∈ Text.Utf8.encode text) : text.toList.any isSeparator = true := by
  rw [List.any_eq_true]
  rcases hmark with rfl | rfl
  · exact ⟨'=', Text.Utf8.ofNat_mem_of_mem_encode (by decide) h, rfl⟩
  · exact ⟨'*', Text.Utf8.ofNat_mem_of_mem_encode (by decide) h, rfl⟩

/-- An argument is written as it was read if there was a separator in it, or if it is so
long that the one which is put at its end is cut off. -/
theorem encode_decode {piece : Octets} (hvalid : Text.Utf8.Valid piece)
    (hmarked : (∃ octet ∈ piece, IsMark octet) ∨ piece.length = 255)
    (hlength : piece.length ≤ 255) :
    (decode piece).encode = piece := by
  obtain ⟨text, rfl⟩ := hvalid
  rw [decode, Text.Utf8.decode_encode, encode]
  rcases text_parse text with hkept | ⟨hplain, hput⟩
  · rw [hkept, List.take_of_length_le hlength]
  · rcases hmarked with ⟨octet, hmem, hmark⟩ | hlong
    · rw [any_isSeparator_of_mem hmark hmem] at hplain
      cases hplain
    · have happend : Text.Utf8.encode (text ++ "=") = Text.Utf8.encode text ++ [0x3D] := by
        rw [Text.Utf8.encode, String.toList_append, List.flatMap_append]
        rfl
      rw [hput, happend, ← hlong, List.take_left]

end Argument

/-! ## Fields -/

/-- Nothing is lost of a field when it is read. -/
def Faithful : FieldForm × Octets → Prop
  | (.text, piece) => Text.Utf8.Valid piece
  | (.data, _) => True
  | (.argument, piece) =>
    Text.Utf8.Valid piece ∧ ((∃ octet ∈ piece, Argument.IsMark octet) ∨ piece.length = 255)

instance : DecidablePred Faithful
  | (.text, piece) => inferInstanceAs (Decidable (Text.Utf8.Valid piece))
  | (.data, _) => isTrue trivial
  | (.argument, _) => inferInstanceAs (Decidable (_ ∧ _))

/-- A field of this form and length is not cut, if texts and data are cut after so many
octets. -/
def Uncut (limit : Nat) : FieldForm × Nat → Prop
  | (.text, length) | (.data, length) => length ≤ limit
  | (.argument, length) => length ≤ 255

/-- What is written for what is in a field, if texts and data are cut after so many
octets. -/
def Content.write (limit : Nat) : Content → Octets
  | .text t => (Text.Utf8.encode t).take limit
  | .data d => d.take limit
  | .argument a => a.encode

theorem write_read {limit : Nat} {form : FieldForm} {piece : Octets}
    (hfaithful : Faithful (form, piece)) (huncut : Uncut limit (form, piece.length)) :
    (Content.read (form, piece)).write limit = piece := by
  cases form with
  | text =>
    rw [Content.read, Content.write, Text.Utf8.encode_decode hfaithful]
    exact List.take_of_length_le huncut
  | data =>
    rw [Content.read, Content.write]
    exact List.take_of_length_le huncut
  | argument =>
    obtain ⟨hvalid, hmarked⟩ := hfaithful
    rw [Content.read, Content.write]
    exact Argument.encode_decode hvalid hmarked huncut

/-! ## Lengths -/

namespace Octets

theorem sizes_append (front back : List Octets) :
    sizes (front ++ back) = sizes front ++ sizes back :=
  List.map_append

theorem sizes_of_lengths {pieces : List Octets} {lengths : Octets}
    (h : pieces.map List.length = lengths.map UInt8.toNat) : sizes pieces = lengths := by
  have hsizes : sizes pieces = (pieces.map List.length).map UInt8.ofNat := by
    rw [sizes, List.map_map]
    rfl
  rw [hsizes, h, List.map_map]
  exact (List.map_congr_left fun octet _ => UInt8.ofNat_toNat).trans (List.map_id _)

theorem sizes16_of_lengths {pieces : List Octets} {m₀ m₁ d₀ d₁ : UInt8}
    (h : pieces.map List.length = [read16 m₀ m₁, read16 d₀ d₁]) :
    sizes16 pieces = [m₀, m₁, d₀, d₁] := by
  have hsizes : sizes16 pieces = (pieces.map List.length).flatMap be16 := by
    rw [sizes16, List.flatMap_map]
  rw [hsizes, h, List.flatMap_cons, List.flatMap_cons, List.flatMap_nil, be16_read16, be16_read16]
  rfl

end Octets

namespace Body

/-- After how many octets the texts and data of a body are cut. -/
def limit (b : Octets) : BodyKind → Nat
  | .start | .authorRequest => 255
  | .continue | .authenReply | .authorReply => 65535
  | .accounting => b.length

theorem uncut_arguments (limit : Nat) (lengths : Octets) :
    ∀ field ∈ Layout.arguments lengths, Uncut limit field := by
  intro field hfield
  obtain ⟨octet, -, rfl⟩ := List.mem_map.1 hfield
  exact Nat.le_of_lt_succ octet.toNat_lt

theorem uncut_layout (b : Octets) (kind : BodyKind) :
    ∀ field ∈ (layout b kind).fields, Uncut (limit b kind) field := by
  have hone (i : Nat) : b.number i ≤ 255 := Nat.le_of_lt_succ (b.octet i).toNat_lt
  have htwo (i : Nat) : b.number16 i ≤ 65535 := Nat.le_of_lt_succ (Octets.read16_lt _ _)
  cases kind with
  | start => simp [layout, limit, Uncut, hone]
  | «continue» => simp [layout, limit, Uncut, htwo]
  | authenReply => simp [layout, limit, Uncut, htwo]
  | authorRequest =>
    simp only [layout, limit, List.forall_mem_append]
    exact ⟨by simp [Uncut, hone], uncut_arguments _ _⟩
  | authorReply =>
    simp only [layout, limit, List.forall_mem_append]
    exact ⟨by simp [Uncut, htwo], uncut_arguments _ _⟩
  | accounting => simp [layout, limit, Uncut]

/-! ## Fields are written as they were read -/

variable {b : Octets} {body : Body}

theorem map_length_fields (h : Spelt b body) :
    (fields b body.kind).map (Prod.map id List.length) = (layout b body.kind).fields := by
  rw [fields, ← List.zip_map_right, h.lengths]
  exact (List.zip_of_prod rfl rfl).symm

theorem uncut_fields (h : Spelt b body) {form : FieldForm} {piece : Octets}
    (hfield : (form, piece) ∈ fields b body.kind) :
    Uncut (limit b body.kind) (form, piece.length) := by
  refine uncut_layout b body.kind _ ?_
  rw [← map_length_fields h]
  exact List.mem_map_of_mem hfield

/-- The slices that are written for the fields of a body are those it was read from. -/
theorem written_eq_pieces (h : Spelt b body) (hfaithful : ∀ f ∈ fields b body.kind, Faithful f) :
    body.contents.map (Content.write (limit b body.kind)) = pieces b body.kind := by
  have hwrite : body.contents.map (Content.write (limit b body.kind))
      = (fields b body.kind).map Prod.snd := by
    rw [h.contents, List.map_map]
    refine List.map_congr_left ?_
    rintro ⟨form, piece⟩ hfield
    exact write_read (hfaithful _ hfield) (uncut_fields h hfield)
  have hlength :
      (pieces b body.kind).length = ((layout b body.kind).fields.map Prod.fst).length := by
    rw [pieces, Octets.length_slices, Layout.lengths, List.length_map, List.length_map]
  rw [hwrite, fields, List.map_snd_zip (Nat.le_of_eq hlength)]

/-! ## Bodies are written as they were read -/

theorem encode_start {s : Authentication.Start} (hfixed : 8 ≤ b.length) (h : Spelt b (.start s))
    (hwritten : s.fields = pieces b .start) : s.encode = b := by
  obtain ⟨x₀, x₁, x₂, x₃, x₄, x₅, x₆, x₇, rest, rfl⟩ := Octets.exists_front 8 hfixed
  have hcodes : Coded.code s.action :: s.access.encode = [x₀, x₁, x₂, x₃] := h.codes
  have hsizes : Octets.sizes s.fields = [x₄, x₅, x₆, x₇] := by
    rw [hwritten]
    exact Octets.sizes_of_lengths h.lengths
  calc s.encode = (Coded.code s.action :: s.access.encode) ++ Octets.sizes s.fields
        ++ s.fields.flatten := rfl
    _ = [x₀, x₁, x₂, x₃] ++ [x₄, x₅, x₆, x₇] ++ (pieces _ .start).flatten := by
      rw [hcodes, hsizes, hwritten]
    _ = x₀ :: x₁ :: x₂ :: x₃ :: x₄ :: x₅ :: x₆ :: x₇ :: rest := h.cover

theorem encode_continue {c : Authentication.Continue} (hfixed : 5 ≤ b.length)
    (h : Spelt b (.continue c)) (hwritten : c.fields = pieces b .continue) : c.encode = b := by
  obtain ⟨m₀, m₁, d₀, d₁, flags, rest, rfl⟩ := Octets.exists_front 5 hfixed
  have hcodes : [c.flags] = [flags] := h.codes
  have hsizes : Octets.sizes16 c.fields = [m₀, m₁, d₀, d₁] := by
    rw [hwritten]
    exact Octets.sizes16_of_lengths h.lengths
  calc c.encode = Octets.sizes16 c.fields ++ [c.flags] ++ c.fields.flatten := rfl
    _ = [m₀, m₁, d₀, d₁] ++ [flags] ++ (pieces _ .continue).flatten := by
      rw [hcodes, hsizes, hwritten]
    _ = m₀ :: m₁ :: d₀ :: d₁ :: flags :: rest := h.cover

theorem encode_authenReply {r : Authentication.Reply} (hfixed : 6 ≤ b.length)
    (h : Spelt b (.authenReply r)) (hwritten : r.fields = pieces b .authenReply) :
    r.encode = b := by
  obtain ⟨status, flags, m₀, m₁, d₀, d₁, rest, rfl⟩ := Octets.exists_front 6 hfixed
  have hcodes : [r.status.code, r.flags] = [status, flags] := h.codes
  have hsizes : Octets.sizes16 r.fields = [m₀, m₁, d₀, d₁] := by
    rw [hwritten]
    exact Octets.sizes16_of_lengths h.lengths
  calc r.encode = [r.status.code, r.flags] ++ Octets.sizes16 r.fields ++ r.fields.flatten := rfl
    _ = [status, flags] ++ [m₀, m₁, d₀, d₁] ++ (pieces _ .authenReply).flatten := by
      rw [hcodes, hsizes, hwritten]
    _ = status :: flags :: m₀ :: m₁ :: d₀ :: d₁ :: rest := h.cover

theorem sent_eq {arguments : List Argument} {count : UInt8} {sizes : Octets}
    (hsizes : Octets.sizes (arguments.map Argument.encode) = sizes)
    (hcount : sizes.length = count.toNat) :
    Authorization.sent arguments = arguments.map Argument.encode
      ∧ UInt8.ofNat (Authorization.sent arguments).length = count := by
  have hlength : arguments.length = count.toNat := by
    rw [← hcount, ← hsizes, Octets.length_sizes, List.length_map]
  have hsent : Authorization.sent arguments = arguments.map Argument.encode := by
    rw [Authorization.sent, List.take_of_length_le (by have := count.toNat_lt; omega)]
  refine ⟨hsent, ?_⟩
  rw [hsent, List.length_map, hlength, UInt8.ofNat_toNat]

theorem encode_authorRequest {r : Authorization.Request}
    (hfixed : (layout b .authorRequest).fixed ≤ b.length) (h : Spelt b (.authorRequest r))
    (hwritten : r.origin.fields ++ r.arguments.map Argument.encode = pieces b .authorRequest) :
    r.encode = b := by
  obtain ⟨x₀, x₁, x₂, x₃, x₄, x₅, x₆, count, rest, rfl⟩ :=
    Octets.exists_front 8 (Nat.le_of_add_right_le hfixed)
  have hcodes : Coded.code r.method :: r.access.encode = [x₀, x₁, x₂, x₃] := h.codes
  have hsizes : Octets.sizes (r.origin.fields ++ r.arguments.map Argument.encode)
      = [x₄, x₅, x₆] ++ rest.take count.toNat := by
    rw [hwritten]
    exact Octets.sizes_of_lengths (h.lengths.trans (lengths_authorRequest _))
  rw [Octets.sizes_append] at hsizes
  obtain ⟨horigin, harguments⟩ := List.append_inj hsizes rfl
  have hcount : (rest.take count.toNat).length = count.toNat := Octets.room_iff.1 hfixed
  obtain ⟨hsent, hnumber⟩ := sent_eq harguments hcount
  have htake : (x₀ :: x₁ :: x₂ :: x₃ :: x₄ :: x₅ :: x₆ :: count :: rest).take (8 + count.toNat)
      = [x₀, x₁, x₂, x₃, x₄, x₅, x₆, count] ++ rest.take count.toNat := List.take_add
  calc r.encode = (Coded.code r.method :: r.access.encode) ++ Octets.sizes r.origin.fields
        ++ [UInt8.ofNat (Authorization.sent r.arguments).length]
        ++ Octets.sizes (Authorization.sent r.arguments)
        ++ r.origin.fields.flatten ++ (Authorization.sent r.arguments).flatten := rfl
    _ = [x₀, x₁, x₂, x₃, x₄, x₅, x₆, count] ++ rest.take count.toNat
        ++ (pieces _ .authorRequest).flatten := by
      rw [hnumber, hsent, hcodes, horigin, harguments, List.append_assoc, ← List.flatten_append,
        hwritten]
      rfl
    _ = x₀ :: x₁ :: x₂ :: x₃ :: x₄ :: x₅ :: x₆ :: count :: rest := by
      rw [← htake]
      exact h.cover

theorem encode_authorReply {r : Authorization.Reply}
    (hfixed : (layout b .authorReply).fixed ≤ b.length) (h : Spelt b (.authorReply r))
    (hwritten : r.fields ++ r.arguments.map Argument.encode = pieces b .authorReply) :
    r.encode = b := by
  obtain ⟨status, count, m₀, m₁, d₀, d₁, rest, rfl⟩ :=
    Octets.exists_front 6 (Nat.le_of_add_right_le hfixed)
  have hcodes : [r.status.code] = [status] := h.codes
  have hlengths : r.fields.map List.length ++ (r.arguments.map Argument.encode).map List.length
      = [Octets.read16 m₀ m₁, Octets.read16 d₀ d₁] ++ (rest.take count.toNat).map UInt8.toNat := by
    rw [← List.map_append, hwritten]
    exact h.lengths.trans (lengths_authorReply _)
  obtain ⟨hfields, harguments⟩ := List.append_inj hlengths rfl
  have hfields := Octets.sizes16_of_lengths hfields
  have harguments := Octets.sizes_of_lengths harguments
  have hcount : (rest.take count.toNat).length = count.toNat := Octets.room_iff.1 hfixed
  obtain ⟨hsent, hnumber⟩ := sent_eq harguments hcount
  have htake : (status :: count :: m₀ :: m₁ :: d₀ :: d₁ :: rest).take (6 + count.toNat)
      = [status, count, m₀, m₁, d₀, d₁] ++ rest.take count.toNat := List.take_add
  calc r.encode = [r.status.code] ++ [UInt8.ofNat (Authorization.sent r.arguments).length]
        ++ Octets.sizes16 r.fields ++ Octets.sizes (Authorization.sent r.arguments)
        ++ r.fields.flatten ++ (Authorization.sent r.arguments).flatten := rfl
    _ = [status, count, m₀, m₁, d₀, d₁] ++ rest.take count.toNat
        ++ (pieces _ .authorReply).flatten := by
      rw [hnumber, hsent, hcodes, hfields, harguments, List.append_assoc, ← List.flatten_append,
        hwritten]
      rfl
    _ = status :: count :: m₀ :: m₁ :: d₀ :: d₁ :: rest := by
      rw [← htake]
      exact h.cover

theorem encode_of_written (hgrammatical : Grammatical b body.kind) (h : Spelt b body)
    (hwritten : body.contents.map (Content.write (limit b body.kind)) = pieces b body.kind) :
    body.encode = b := by
  cases body with
  | start s => exact encode_start hgrammatical.fixed h hwritten
  | «continue» c => exact encode_continue hgrammatical.fixed h hwritten
  | authenReply r => exact encode_authenReply hgrammatical.fixed h hwritten
  | authorRequest r =>
    refine encode_authorRequest hgrammatical.fixed h ?_
    rw [contents, List.map_append, List.map_map] at hwritten
    exact hwritten
  | authorReply r =>
    refine encode_authorReply hgrammatical.fixed h ?_
    rw [contents, List.map_append, List.map_map] at hwritten
    exact hwritten
  | accounting octets =>
    have hcontents : [Content.data octets] = [.data (b.take b.length)] := h.contents
    rw [List.take_length] at hcontents
    exact Content.data.inj (List.head_eq_of_cons_eq hcontents)

/-- **What was read is written as it was.**  A string that is read as a body of any kind
is what the body is written as, if nothing is lost of its texts and its arguments. -/
theorem encode_of_decode {kind : BodyKind} {b : Octets} {body : Body}
    (h : decode kind b = .ok body) (hfaithful : ∀ f ∈ fields b kind, Faithful f) :
    body.encode = b ∧ body.wireSize = b.length := by
  obtain ⟨rfl, hgrammatical, hspelt⟩ := spelt_of_decode h
  have hencode := encode_of_written hgrammatical hspelt (written_eq_pieces hspelt hfaithful)
  exact ⟨hencode, by rw [← length_encode, hencode]⟩

/-- A decision with a code that has no name, the message "é", one octet of data, and the
argument "a*b=". -/
def foreign : Octets :=
  [0x42, 1, 0, 2, 0, 1, 4, 0xC3, 0xA9, 0xFF, 0x61, 0x2A, 0x62, 0x3D]

theorem encode_of_decode_foreign :
    (∀ f ∈ fields foreign .authorReply, Faithful f)
      ∧ ∃ body, decode .authorReply foreign = .ok body ∧ body.encode = foreign := by
  have hfaithful : ∀ f ∈ fields foreign .authorReply, Faithful f := by decide
  obtain ⟨body, hread⟩ : ∃ body, decode .authorReply foreign = .ok body :=
    exists_decode_of_grammatical (by decide)
  exact ⟨hfaithful, body, hread, (encode_of_decode hread hfaithful).1⟩

/-- A short argument without a separator is written with one. -/
example : (decode .authorReply [0x01, 1, 0, 0, 0, 0, 1, 0x61]).toOption.map encode
    = some [0x01, 1, 0, 0, 0, 0, 2, 0x61, 0x3D] := by decide

end Body

end Tacacs
