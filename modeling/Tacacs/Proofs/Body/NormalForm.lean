/-
# `Tacacs.Proofs.Body.NormalForm` — every body survives the wire

A body that is too long for its length octets is sent all the same, cut to what they
can tell.  So what is read at the other end need not be what was written; it is the
body in its *normal form*.  There the cuts have been made, a character that was cut
in two has become a replacement, an argument whose separator was cut away has an
empty value, and a status that was named by its code goes by its name.

The normal form of a body is found by making it part by part (`Body.normal`), and
reading a written body gives just that (`Body.decode_encode`).  It is stable: written
and read once more it stays what it is, and it takes as many octets as the body it
came from (`Body.stable_on_wire`).  A body whose parts fit is in normal form.  The
converse fails, as a text may well be too long and end, where it is cut, in the
replacement that the cut would leave.

The one part for which stability is not a matter of cutting texts is the argument.
One that lost its separator has it back at its end when it is written again; but it
can only have lost it to a cut, so the end is behind the cut (`Argument.clip_normal`).
-/
import Tacacs.Proofs.Body.Clip
import Tacacs.Body

namespace Tacacs

open Text.Utf8 (clip clip_of_le clip_clip clip_append le_utf8ByteSize_clip min_utf8ByteSize_clip)

/-! ## Pieces and their lengths -/

namespace Octets

theorem cut_flatten {lengths : List Nat} {pieces : List Octets}
    (h : pieces.map List.length = lengths) : cut lengths pieces.flatten = some pieces :=
  cut_eq_some_iff.2 ⟨h, rfl⟩

theorem toNat_sizes {pieces : List Octets} (h : ∀ p ∈ pieces, p.length ≤ 255) :
    (sizes pieces).map UInt8.toNat = pieces.map List.length := by
  rw [sizes, List.map_map]
  refine List.map_congr_left ?_
  intro p hp
  have hshort := h p hp
  rw [Function.comp_apply, UInt8.toNat_ofNat']
  omega

theorem cut_message {message data : Octets} (hmessage : message.length ≤ 65535)
    (hdata : data.length ≤ 65535) (more : List Octets) :
    cut (read16 (UInt8.ofNat (message.length / 256)) (UInt8.ofNat message.length)
          :: read16 (UInt8.ofNat (data.length / 256)) (UInt8.ofNat data.length)
          :: more.map List.length) (message :: data :: more).flatten
      = some (message :: data :: more) := by
  refine cut_flatten ?_
  rw [read16_be16 (Nat.lt_succ_of_le hmessage), read16_be16 (Nat.lt_succ_of_le hdata)]
  rfl

end Octets

/-! ## The parts of a body -/

namespace Access

@[simp] theorem decode?_codes (a : Access) :
    decode? a.privilege.level (Coded.code a.type) (Coded.code a.service) = some a :=
  decode?_eq_some_iff.2 rfl

end Access

namespace Origin

/-- An origin with its fields as they are read. -/
def normal (o : Origin) : Origin :=
  ⟨clip 255 o.user, clip 255 o.port, clip 255 o.remoteAddress⟩

def Fits (o : Origin) : Prop :=
  o.user.utf8ByteSize ≤ 255 ∧ o.port.utf8ByteSize ≤ 255 ∧ o.remoteAddress.utf8ByteSize ≤ 255
deriving Decidable

theorem length_of_mem_fields (o : Origin) : ∀ p ∈ o.fields, p.length ≤ 255 := by
  intro p hp
  obtain ⟨text, -, rfl⟩ := List.mem_map.1 hp
  exact List.length_take_le _ _

@[simp] theorem normal_normal (o : Origin) : o.normal.normal = o.normal := by
  simp only [normal, clip_clip]

@[simp] theorem wireSize_normal (o : Origin) : o.normal.wireSize = o.wireSize := by
  simp only [normal, wireSize, min_utf8ByteSize_clip]

theorem normal_of_fits {o : Origin} (h : o.Fits) : o.normal = o := by
  obtain ⟨huser, hport, hremote⟩ := h
  rw [normal, clip_of_le huser, clip_of_le hport, clip_of_le hremote]

end Origin

namespace Argument

/-- An argument as it is read. -/
def normal (a : Argument) : Argument :=
  parse (clip 255 a.text)

def Fits (a : Argument) : Prop :=
  a.name.utf8ByteSize + 1 + a.value.utf8ByteSize ≤ 255
deriving Decidable

theorem decode_encode (a : Argument) : decode a.encode = a.normal :=
  rfl

theorem length_encode_le (a : Argument) : a.encode.length ≤ 255 :=
  List.length_take_le _ _

/-- Reading a text keeps its form, but for a separator that it puts where there is none. -/
theorem text_parse (text : String) :
    (parse text).text = text
      ∨ text.toList.any isSeparator = false ∧ (parse text).text = text ++ "=" := by
  have hsplit := List.takeWhile_append_dropWhile (p := fun c => !isSeparator c) (l := text.toList)
  rcases hrest : text.toList.dropWhile (fun c => !isSeparator c) with _ | ⟨c, rest⟩
  · right
    rw [hrest, List.append_nil] at hsplit
    refine ⟨?_, ?_⟩
    · rw [← hsplit, ← String.toList_ofList (l := List.takeWhile _ _)]
      exact (parse text).plain
    · rw [← String.toList_inj, toList_text, String.toList_append]
      simp only [parse, separator, hrest, hsplit]
      simp
  · left
    have hc : isSeparator c = true := by
      have hhead := List.head?_dropWhile_not (fun c => !isSeparator c) text.toList
      simpa [hrest] using hhead
    have hmark : (if (some c == some '*') = true then '*' else '=') = c := by
      rcases (by simpa [isSeparator] using hc : c = '=' ∨ c = '*') with rfl | rfl <;> decide
    rw [← String.toList_inj, toList_text]
    rw [hrest] at hsplit
    simp only [parse, separator, hrest, List.head?_cons, hmark, List.tail_cons,
      String.toList_ofList]
    exact hsplit

/-- Cut where the argument was cut, its normal form is what was left of the argument. -/
theorem clip_normal (a : Argument) : clip 255 a.normal.text = clip 255 a.text := by
  rcases text_parse (clip 255 a.text) with hkept | ⟨hplain, hput⟩
  · rw [normal, hkept, clip_clip]
  · -- the separator of `a` is gone, so there was a cut
    have hlong : 255 ≤ a.text.utf8ByteSize := by
      rcases Nat.le_total 255 a.text.utf8ByteSize with hlong | hshort
      · exact hlong
      · rw [clip_of_le hshort, toList_text] at hplain
        simp [isSeparator_separator] at hplain
    rw [normal, hput, clip_append (le_utf8ByteSize_clip hlong), clip_clip]

@[simp] theorem normal_normal (a : Argument) : a.normal.normal = a.normal := by
  rw [normal, clip_normal, ← normal]

@[simp] theorem wireSize_normal (a : Argument) : a.normal.wireSize = a.wireSize := by
  rw [wireSize, wireSize, ← utf8ByteSize_text, ← utf8ByteSize_text,
    ← min_utf8ByteSize_clip 255 a.normal.text, clip_normal, min_utf8ByteSize_clip]

theorem normal_of_fits {a : Argument} (h : a.Fits) : a.normal = a := by
  have hsize : a.text.utf8ByteSize ≤ 255 := by rwa [utf8ByteSize_text]
  rw [normal, clip_of_le hsize, parse_text]

end Argument

/-! ## Bodies of authentication -/

namespace Authentication

namespace Start

def normal (s : Start) : Start :=
  { s with origin := s.origin.normal, data := s.data.take 255 }

def Fits (s : Start) : Prop :=
  s.origin.Fits ∧ s.data.length ≤ 255
deriving Decidable

theorem length_of_mem_fields (s : Start) : ∀ p ∈ s.fields, p.length ≤ 255 := by
  intro p hp
  rcases List.mem_append.1 hp with hp | hp
  · exact s.origin.length_of_mem_fields p hp
  · obtain rfl := List.mem_singleton.1 hp
    exact List.length_take_le _ _

theorem decode?_encode (s : Start) : decode? s.encode = some s.normal := by
  have hcut := Octets.cut_flatten (Octets.toNat_sizes s.length_of_mem_fields).symm
  have hnew : new? s.action s.access s.origin.normal (s.data.take 255) = some s.normal :=
    dif_neg s.typed
  change Octets.cut [_, _, _, _] _ = some [_, _, _, _] at hcut
  simp only [encode, Access.encode, Octets.sizes, fields, Origin.fields, List.map_cons,
    List.map_nil, List.cons_append, List.nil_append, decode?] at hcut ⊢
  rw [hcut, Coded.ofCode?_code, Access.decode?_codes]
  exact hnew

theorem normal_normal (s : Start) : s.normal.normal = s.normal := by
  simp [normal, List.take_take]

theorem wireSize_normal (s : Start) : s.normal.wireSize = s.wireSize := by
  simp [normal, wireSize]

theorem normal_of_fits {s : Start} (h : s.Fits) : s.normal = s := by
  rw [normal, Origin.normal_of_fits h.1, List.take_of_length_le h.2]

end Start

namespace Continue

def normal (c : Continue) : Continue :=
  { c with message := clip 65535 c.message, data := c.data.take 65535 }

def Fits (c : Continue) : Prop :=
  c.message.utf8ByteSize ≤ 65535 ∧ c.data.length ≤ 65535
deriving Decidable

theorem decode?_encode (c : Continue) : decode? c.encode = some c.normal := by
  have hcut := Octets.cut_message (List.length_take_le 65535 (Text.Utf8.encode c.message))
    (List.length_take_le 65535 c.data) []
  simp only [encode, Octets.sizes16, Octets.be16, fields, List.flatMap_cons, List.flatMap_nil,
    List.map_nil, List.cons_append, List.nil_append, decode?] at hcut ⊢
  rw [hcut]
  rfl

theorem normal_normal (c : Continue) : c.normal.normal = c.normal := by
  simp [normal, List.take_take]

theorem wireSize_normal (c : Continue) : c.normal.wireSize = c.wireSize := by
  simp [normal, wireSize]

theorem normal_of_fits {c : Continue} (h : c.Fits) : c.normal = c := by
  rw [normal, clip_of_le h.1, List.take_of_length_le h.2]

end Continue

namespace Status

def assigned : List UInt8 :=
  [0x01, 0x02, 0x03, 0x04, 0x05, 0x06, 0x07, 0x21]

/-- The status is not called unknown although its code has a name. -/
def Proper : Status → Prop
  | unknown code => code ∉ assigned
  | _ => True

instance : DecidablePred Proper
  | unknown code => inferInstanceAs (Decidable (code ∉ assigned))
  | pass | fail | getData | getUser | getPassword | restart | error | follow => isTrue trivial

theorem ofCode_code {s : Status} (h : s.Proper) : ofCode s.code = s := by
  cases s with
  | unknown code => simp_all [Proper, assigned, ofCode, Status.code]
  | _ => rfl

end Status

namespace Reply

def normal (r : Reply) : Reply :=
  { r with status := .ofCode r.status.code, message := clip 65535 r.message,
           data := r.data.take 65535 }

/-- Both fields are at most 65535 octets long, and the status is called by its name. -/
def Fits (r : Reply) : Prop :=
  r.status.Proper ∧ r.message.utf8ByteSize ≤ 65535 ∧ r.data.length ≤ 65535
deriving Decidable

theorem decode?_encode (r : Reply) : decode? r.encode = some r.normal := by
  have hcut := Octets.cut_message (List.length_take_le 65535 (Text.Utf8.encode r.message))
    (List.length_take_le 65535 r.data) []
  simp only [encode, Octets.sizes16, Octets.be16, fields, List.flatMap_cons, List.flatMap_nil,
    List.map_nil, List.cons_append, List.nil_append, decode?] at hcut ⊢
  rw [hcut]
  rfl

theorem normal_normal (r : Reply) : r.normal.normal = r.normal := by
  simp [normal, List.take_take]

theorem wireSize_normal (r : Reply) : r.normal.wireSize = r.wireSize := by
  simp [normal, wireSize]

theorem normal_of_fits {r : Reply} (h : r.Fits) : r.normal = r := by
  rw [normal, Status.ofCode_code h.1, clip_of_le h.2.1, List.take_of_length_le h.2.2]

end Reply

end Authentication

/-! ## Bodies of authorization -/

namespace Authorization

/-- Arguments as they are read. -/
def normalArguments (arguments : List Argument) : List Argument :=
  (arguments.take 255).map Argument.normal

/-- There are at most 255 arguments, and each of them fits. -/
def ArgumentsFit (arguments : List Argument) : Prop :=
  arguments.length ≤ 255 ∧ ∀ a ∈ arguments, a.Fits
deriving Decidable

theorem length_of_mem_sent {arguments : List Argument} :
    ∀ p ∈ sent arguments, p.length ≤ 255 := by
  intro p hp
  obtain ⟨a, -, rfl⟩ := List.mem_map.1 hp
  exact a.length_encode_le

theorem toNat_length_sent (arguments : List Argument) :
    (UInt8.ofNat (sent arguments).length).toNat = (Octets.sizes (sent arguments)).length := by
  have hfew : (sent arguments).length ≤ 255 := by
    rw [sent, List.length_map]
    exact List.length_take_le _ _
  rw [Octets.length_sizes, UInt8.toNat_ofNat', Nat.mod_eq_of_lt (Nat.lt_succ_of_le hfew)]

theorem map_decode_sent (arguments : List Argument) :
    (sent arguments).map Argument.decode = normalArguments arguments := by
  rw [sent, normalArguments, List.map_map]
  exact List.map_congr_left fun a _ => a.decode_encode

@[simp] theorem normalArguments_normalArguments (arguments : List Argument) :
    normalArguments (normalArguments arguments) = normalArguments arguments := by
  unfold normalArguments
  rw [← List.map_take, List.take_take, List.map_map]
  exact List.map_congr_left fun a _ => a.normal_normal

@[simp] theorem sentSize_normalArguments (arguments : List Argument) :
    sentSize (normalArguments arguments) = sentSize arguments := by
  rw [sentSize, normalArguments, ← List.map_take, List.take_take, List.foldr_map]
  simp only [Argument.wireSize_normal]
  rfl

theorem normalArguments_of_fits {arguments : List Argument} (h : ArgumentsFit arguments) :
    normalArguments arguments = arguments := by
  rw [normalArguments, List.take_of_length_le h.1]
  exact (List.map_congr_left fun a ha => Argument.normal_of_fits (h.2 a ha)).trans (List.map_id _)

namespace Request

def normal (r : Request) : Request :=
  { r with origin := r.origin.normal, arguments := normalArguments r.arguments }

/-- Every field is at most 255 octets long, and the arguments fit. -/
def Fits (r : Request) : Prop :=
  r.origin.Fits ∧ ArgumentsFit r.arguments
deriving Decidable

theorem length_of_mem_fields (r : Request) :
    ∀ p ∈ r.origin.fields ++ sent r.arguments, p.length ≤ 255 := by
  intro p hp
  rcases List.mem_append.1 hp with hp | hp
  · exact r.origin.length_of_mem_fields p hp
  · exact length_of_mem_sent p hp

theorem decode?_encode (r : Request) : decode? r.encode = some r.normal := by
  have hcut := Octets.cut_flatten (Octets.toNat_sizes r.length_of_mem_fields).symm
  have hcount := toNat_length_sent r.arguments
  have hsplit : Octets.sizes (r.origin.fields ++ sent r.arguments)
      = Octets.sizes r.origin.fields ++ Octets.sizes (sent r.arguments) := List.map_append
  rw [hsplit, List.flatten_append] at hcut
  simp only [encode, decode?, Access.encode, Origin.fields, Octets.sizes, List.map_cons,
    List.map_nil, List.cons_append, List.nil_append, List.append_assoc] at hcut hcount ⊢
  rw [hcount, List.take_left, List.drop_left, if_neg (not_not_intro rfl), hcut,
    Coded.ofCode?_code, Access.decode?_codes]
  dsimp only
  rw [map_decode_sent]
  rfl

theorem normal_normal (r : Request) : r.normal.normal = r.normal := by
  simp [normal]

theorem wireSize_normal (r : Request) : r.normal.wireSize = r.wireSize := by
  simp [normal, wireSize]

theorem normal_of_fits {r : Request} (h : r.Fits) : r.normal = r := by
  rw [normal, Origin.normal_of_fits h.1, normalArguments_of_fits h.2]

end Request

namespace Status

def assigned : List UInt8 :=
  [0x01, 0x02, 0x10, 0x11, 0x21]

/-- The status is not called unknown although its code has a name. -/
def Proper : Status → Prop
  | unknown code => code ∉ assigned
  | _ => True

instance : DecidablePred Proper
  | unknown code => inferInstanceAs (Decidable (code ∉ assigned))
  | passAdd | passReplace | fail | error | follow => isTrue trivial

theorem ofCode_code {s : Status} (h : s.Proper) : ofCode s.code = s := by
  cases s with
  | unknown code => simp_all [Proper, assigned, ofCode, Status.code]
  | _ => rfl

end Status

namespace Reply

def normal (r : Reply) : Reply :=
  { status := .ofCode r.status.code, message := clip 65535 r.message, data := r.data.take 65535,
    arguments := normalArguments r.arguments }

/-- The message and the data are at most 65535 octets long, the arguments fit, and the
status is called by its name. -/
def Fits (r : Reply) : Prop :=
  r.status.Proper ∧ r.message.utf8ByteSize ≤ 65535 ∧ r.data.length ≤ 65535
    ∧ ArgumentsFit r.arguments
deriving Decidable

theorem decode?_encode (r : Reply) : decode? r.encode = some r.normal := by
  have hcut := Octets.cut_message (List.length_take_le 65535 (Text.Utf8.encode r.message))
    (List.length_take_le 65535 r.data) (sent r.arguments)
  have hcount := toNat_length_sent r.arguments
  rw [← Octets.toNat_sizes length_of_mem_sent] at hcut
  simp only [encode, decode?, fields, Octets.sizes16, Octets.be16, List.flatMap_cons,
    List.flatMap_nil, List.flatten_cons, List.flatten_nil, List.cons_append, List.nil_append,
    List.append_nil, List.append_assoc] at hcut ⊢
  rw [hcount, List.take_left, List.drop_left, if_neg (not_not_intro rfl), hcut]
  dsimp only
  rw [map_decode_sent]
  rfl

theorem normal_normal (r : Reply) : r.normal.normal = r.normal := by
  simp [normal, List.take_take]

theorem wireSize_normal (r : Reply) : r.normal.wireSize = r.wireSize := by
  simp [normal, wireSize]

theorem normal_of_fits {r : Reply} (h : r.Fits) : r.normal = r := by
  obtain ⟨hstatus, hmessage, hdata, harguments⟩ := h
  rw [normal, Status.ofCode_code hstatus, clip_of_le hmessage, List.take_of_length_le hdata,
    normalArguments_of_fits harguments]

end Reply

end Authorization

/-! ## Bodies of every form -/

namespace Body

/-- A body as it is read.  What is in an accounting body is not looked at. -/
def normal : Body → Body
  | start body => .start body.normal
  | .continue body => .continue body.normal
  | authenReply body => .authenReply body.normal
  | authorRequest body => .authorRequest body.normal
  | authorReply body => .authorReply body.normal
  | accounting octets => .accounting octets

/-- No part of a body will be cut or left out, and no status is called unknown that has
a name. -/
def Fits : Body → Prop
  | start body => body.Fits
  | .continue body => body.Fits
  | authenReply body => body.Fits
  | authorRequest body => body.Fits
  | authorReply body => body.Fits
  | accounting _ => True

instance : DecidablePred Fits
  | start body => inferInstanceAs (Decidable body.Fits)
  | .continue body => inferInstanceAs (Decidable body.Fits)
  | authenReply body => inferInstanceAs (Decidable body.Fits)
  | authorRequest body => inferInstanceAs (Decidable body.Fits)
  | authorReply body => inferInstanceAs (Decidable body.Fits)
  | accounting _ => isTrue trivial

/-- Reading a body that was written gives its normal form. -/
theorem decode_encode (b : Body) : decode b.kind b.encode = .ok b.normal := by
  cases b with
  | start body => simp only [decode, kind, encode, body.decode?_encode, Option.map_some, normal]
  | «continue» body =>
    simp only [decode, kind, encode, body.decode?_encode, Option.map_some, normal]
  | authenReply body =>
    simp only [decode, kind, encode, body.decode?_encode, Option.map_some, normal]
  | authorRequest body =>
    simp only [decode, kind, encode, body.decode?_encode, Option.map_some, normal]
  | authorReply body =>
    simp only [decode, kind, encode, body.decode?_encode, Option.map_some, normal]
  | accounting octets => rfl

theorem kind_normal (b : Body) : b.normal.kind = b.kind := by
  cases b <;> rfl

theorem normal_normal (b : Body) : b.normal.normal = b.normal := by
  cases b with
  | start body => exact congrArg start body.normal_normal
  | «continue» body => exact congrArg Body.continue body.normal_normal
  | authenReply body => exact congrArg authenReply body.normal_normal
  | authorRequest body => exact congrArg authorRequest body.normal_normal
  | authorReply body => exact congrArg authorReply body.normal_normal
  | accounting octets => rfl

theorem wireSize_normal (b : Body) : b.normal.wireSize = b.wireSize := by
  cases b with
  | start body => exact body.wireSize_normal
  | «continue» body => exact body.wireSize_normal
  | authenReply body => exact body.wireSize_normal
  | authorRequest body => exact body.wireSize_normal
  | authorReply body => exact body.wireSize_normal
  | accounting octets => rfl

theorem normal_of_fits {b : Body} (h : b.Fits) : b.normal = b := by
  cases b with
  | start body => exact congrArg start (Authentication.Start.normal_of_fits h)
  | «continue» body => exact congrArg Body.continue (Authentication.Continue.normal_of_fits h)
  | authenReply body => exact congrArg authenReply (Authentication.Reply.normal_of_fits h)
  | authorRequest body => exact congrArg authorRequest (Authorization.Request.normal_of_fits h)
  | authorReply body => exact congrArg authorReply (Authorization.Reply.normal_of_fits h)
  | accounting octets => rfl

/-- Whatever a body holds, it can be read once it is written.  The body that is read is
of the same form and as many octets long, is read the same every time it is written
again, and is the body that was written if that one fits. -/
theorem stable_on_wire (b : Body) :
    ∃ n, decode b.kind b.encode = .ok n ∧ n.kind = b.kind ∧ decode n.kind n.encode = .ok n
      ∧ n.wireSize = b.wireSize ∧ (b.Fits → n = b) := by
  refine ⟨b.normal, b.decode_encode, b.kind_normal, ?_, b.wireSize_normal, normal_of_fits⟩
  rw [decode_encode, normal_normal]

/-- An answer to a prompt fits, and is read as it was written. -/
theorem stable_on_wire_prompt :
    (Body.continue ⟨"café", [1, 2], 0⟩).Fits
      ∧ decode .continue (Body.continue ⟨"café", [1, 2], 0⟩).encode
        = .ok (.continue ⟨"café", [1, 2], 0⟩) := by
  have hfits : (Body.continue ⟨"café", [1, 2], 0⟩).Fits := by decide
  obtain ⟨n, hread, -, -, -, hsame⟩ := stable_on_wire (.continue ⟨"café", [1, 2], 0⟩)
  rw [hsame hfits] at hread
  exact ⟨hfits, hread⟩

end Body

end Tacacs
