/-
# `Tacacs.Proofs.Packet.Filling` — written whole, or not at all

A header or a body is written into a buffer part by part, every part at a place that is
worked out on the way from the lengths of the parts before it.  The size that the buffer
is asked for is worked out beforehand, by other sums.  This file says that the two agree
(`Fills`): with room for that size the work runs to its end, the front of the buffer then
holds the octets of the form and nothing of what was there before, and the rest is as it
was; without it nothing happens at all.  In neither case is a place named that the buffer
does not have.

What carries the proofs is `Writes`: the work goes on behind a *front* that has been
written, whatever buffer is below it, and leaves a longer front.  Two pieces of work in
a row write what both of them write (`Writes.bind`), and work that sees only a slice
writes at the beginning of that slice what it would write into an empty front
(`writes_within`, `writes_behind`).  So each form is one chain, in the order of its parts,
and its only side conditions say that a part is put where the front ends.

A number that tells a length or a count is a number of one or two octets, and would be a
wrong one if it did not fit.  `Counted` says that they all fit: the lengths that stand in
the octets of a body are those of the fields that stand behind them.
-/
import Tacacs.Proofs.Body.Verbatim
import Tacacs.Proofs.Packet.RoundTrip

namespace Tacacs

namespace Filling

variable {α β : Type} {work : Filling α} {a : α} {front more : Octets}

/-! ## Work behind a front -/

/-- Behind a front that has been written the work writes `more`, and gives `a`, in any
buffer that has room for both. -/
def Writes (work : Filling α) (a : α) (front more : Octets) : Prop :=
  ∀ buffer : Octets, front.length + more.length ≤ buffer.length →
    work (Octets.overwrite front buffer) = .ok a (Octets.overwrite (front ++ more) buffer)

theorem writes_pure (a : α) (front : Octets) : Writes (pure a) a front [] := by
  intro buffer _
  rw [List.append_nil]
  rfl

theorem Writes.bind {next : α → Filling β} {b : β} {more' : Octets} (h : Writes work a front more)
    (h' : Writes (next a) b (front ++ more) more') :
    Writes (work >>= next) b front (more ++ more') := by
  intro buffer hroom
  rw [List.length_append] at hroom
  have hfirst := h buffer (by omega)
  have hnext := h' buffer (by rw [List.length_append]; omega)
  rw [List.append_assoc] at hnext
  change EStateM.bind work next _ = _
  rw [EStateM.bind, hfirst]
  exact hnext

theorem writes_put {place : Nat} (h : front.length = place) (octets : Octets) :
    Writes (put place octets) () front octets := by
  intro buffer hroom
  subst h
  have hlength : (Octets.overwrite front buffer).length = buffer.length :=
    Octets.length_overwrite (by omega)
  rw [put, if_pos (by omega), Octets.overwrite, ← List.drop_drop, List.take_left, List.drop_left,
    List.drop_drop, Octets.overwrite, List.length_append]

theorem writes_cover (octets : Octets) : Writes (cover octets) () [] octets := by
  intro buffer hroom
  have htake : octets.take buffer.length = octets :=
    List.take_of_length_le (Nat.le_of_add_left_le hroom)
  change EStateM.Result.ok () (Octets.overwrite (octets.take buffer.length) buffer) = _
  rw [htake, List.nil_append]

theorem writes_putEach {place : Nat} (h : front.length = place) (pieces : List Octets) :
    Writes (putEach place pieces) (place + pieces.flatten.length) front pieces.flatten := by
  induction pieces generalizing place front with
  | nil => exact writes_pure place front
  | cons piece pieces ih =>
    have hplace : (front ++ piece).length = place + piece.length := by rw [List.length_append, h]
    have hend : place + (piece :: pieces).flatten.length
        = place + piece.length + pieces.flatten.length := by
      rw [List.flatten_cons, List.length_append, Nat.add_assoc]
    rw [hend]
    exact .bind (writes_put h piece) (ih hplace)

/-- A slice is a buffer of its own, with an empty front. -/
theorem within_overwrite (h : Writes work a [] more) (rest : Nat) {buffer : Octets}
    (hroom : front.length + (more.length + rest) ≤ buffer.length) :
    within front.length (more.length + rest) work (Octets.overwrite front buffer)
      = .ok a (Octets.overwrite (front ++ more) buffer) := by
  have hlength : (Octets.overwrite front buffer).length = buffer.length :=
    Octets.length_overwrite (by omega)
  let slice := (buffer.drop front.length).take (more.length + rest)
  have hslice : ([] : Octets).length + more.length ≤ slice.length := by
    rw [List.length_nil, List.length_take, List.length_drop]
    omega
  have hwork : work slice = .ok a (more ++ slice.drop more.length) := h slice hslice
  have hrest : slice.drop more.length ++ buffer.drop (front.length + (more.length + rest))
      = buffer.drop (front.length + more.length) := by
    rw [← List.drop_drop, ← List.drop_drop, ← List.drop_drop, List.drop_take,
      Nat.add_sub_cancel_left, List.take_append_drop]
  rw [within, if_pos (by omega), Octets.overwrite, List.drop_left, hwork]
  dsimp only
  rw [← List.drop_drop, List.take_left, List.drop_left, List.append_assoc, List.append_assoc,
    List.drop_drop, hrest, Octets.overwrite, List.length_append, List.append_assoc]

theorem writes_within {place length : Nat} (h : Writes work a [] more)
    (hplace : front.length = place) (hlength : more.length = length) :
    Writes (within place length work) a front more := by
  intro buffer hroom
  subst hplace hlength
  exact within_overwrite h 0 hroom

theorem writes_behind {place : Nat} (h : Writes work a [] more) (hplace : front.length = place) :
    Writes (behind place work) a front more := by
  intro buffer hroom
  subst hplace
  have hlength : (Octets.overwrite front buffer).length - front.length
      = more.length + (buffer.length - front.length - more.length) := by
    rw [Octets.length_overwrite (by omega)]
    omega
  rw [behind, hlength]
  exact within_overwrite h _ (by omega)

/-! ## Work on a whole form -/

/-- The work writes these octets, and asks for a buffer of this size. -/
structure Fills (work : Filling Nat) (size : Nat) (octets : Octets) : Prop where
  length : octets.length = size
  /-- The front is overwritten, every octet of it, and the rest is left alone. -/
  whole : ∀ buffer : Octets, size ≤ buffer.length →
    work buffer = .ok size (octets ++ buffer.drop size)
  nothing : ∀ buffer : Octets, buffer.length < size → work buffer = .error .notEnoughSpace buffer

theorem fills_room {size : Nat} {work : Filling Nat} {octets : Octets}
    (hlength : octets.length = size) (h : Writes work size [] octets) :
    Fills (do room size; work) size octets where
  length := hlength
  whole buffer hroom := by
    have hwork : work buffer = .ok size (octets ++ buffer.drop octets.length) :=
      h buffer (by rw [List.length_nil]; omega)
    rw [hlength] at hwork
    change EStateM.bind (room size) (fun _ => work) buffer = _
    rw [EStateM.bind, room, if_pos hroom]
    exact hwork
  nothing buffer hshort := by
    change EStateM.bind (room size) (fun _ => work) buffer = _
    rw [EStateM.bind, room, if_neg (Nat.not_le.2 hshort)]

end Filling

open Filling

/-! ## Headers -/

theorem Header.fills (h : Header) (length : UInt32) :
    Fills (h.fill length) Header.size (h.encode length) := by
  have hparts : h.encode length = [h.minor.octet] ++ ([Coded.code h.type] ++ ([h.sequence]
      ++ ([h.flags.bits] ++ (Octets.be32 h.session ++ (Octets.be32 length ++ []))))) := by
    simp [encode]
  refine fills_room (h.length_encode length) ?_
  rw [hparts]
  refine .bind (writes_put rfl _) ?_
  refine .bind (writes_put rfl _) ?_
  refine .bind (writes_put rfl _) ?_
  refine .bind (writes_put rfl _) ?_
  refine .bind (writes_put rfl _) ?_
  refine .bind (writes_put rfl _) ?_
  exact writes_pure _ _

/-! ## Parts of bodies -/

theorem Access.writes_fill (a : Access) : Writes a.fill () [] a.encode := by
  change Writes _ () [] ([_] ++ ([_] ++ [_]))
  refine .bind (writes_put rfl _) ?_
  refine .bind (writes_put rfl _) ?_
  exact writes_put rfl _

namespace Origin

theorem writes_fillLengths (o : Origin) :
    Writes o.fillLengths () [] (Octets.sizes o.fields) := by
  change Writes _ () [] ([_] ++ ([_] ++ [_]))
  refine .bind (writes_put rfl _) ?_
  refine .bind (writes_put rfl _) ?_
  exact writes_put rfl _

theorem writes_fillFields (o : Origin) :
    Writes o.fillFields o.fields.flatten.length [] o.fields.flatten := by
  have hfront : ([] : Octets).length = 0 := rfl
  have h := writes_putEach hfront o.fields
  rwa [Nat.zero_add] at h

end Origin

namespace Authorization

/-- The lengths are worked out from the parts of the arguments, and are those of the octets
that are sent. -/
theorem sizes_sent (arguments : List Argument) :
    Octets.sizes (sent arguments) = (arguments.take 255).map fun a => UInt8.ofNat a.wireSize := by
  rw [Octets.sizes, sent, List.map_map]
  refine List.map_congr_left ?_
  intro a _
  rw [Function.comp_apply, Argument.length_encode]

theorem length_sent (arguments : List Argument) :
    (sent arguments).length = (arguments.take 255).length :=
  List.length_map _

theorem writes_fillLengths (arguments : List Argument) :
    Writes (fillLengths arguments) (sent arguments).length [] (Octets.sizes (sent arguments)) := by
  rw [sizes_sent, length_sent, ← List.append_nil (List.map _ _)]
  refine .bind (writes_cover _) ?_
  exact writes_pure _ _

theorem writes_fillValues (arguments : List Argument) :
    Writes (fillValues arguments) (sent arguments).flatten.length [] (sent arguments).flatten := by
  have hfront : ([] : Octets).length = 0 := rfl
  have h := writes_putEach hfront (sent arguments)
  rwa [Nat.zero_add] at h

end Authorization

/-! ## Bodies -/

theorem Authentication.Start.fills (s : Start) : Fills s.fill s.wireSize s.encode := by
  have hparts : s.encode = [Coded.code s.action] ++ (s.access.encode
      ++ (Octets.sizes s.origin.fields ++ ([UInt8.ofNat (s.data.take 255).length]
      ++ (s.origin.fields.flatten ++ (s.data.take 255 ++ []))))) := by
    simp [encode, fields, Octets.sizes]
  refine fills_room s.length_encode ?_
  rw [hparts]
  refine .bind (writes_put rfl _) ?_
  refine .bind (writes_within s.access.writes_fill rfl rfl) ?_
  refine .bind (writes_within s.origin.writes_fillLengths rfl rfl) ?_
  refine .bind (writes_put rfl _) ?_
  refine .bind (writes_behind s.origin.writes_fillFields rfl) ?_
  refine .bind (writes_put ?_ _) ?_
  · rw [List.length_append]
    rfl
  exact writes_pure _ _

theorem Authentication.Continue.fills (c : Continue) : Fills c.fill c.wireSize c.encode := by
  let message := (Text.Utf8.encode c.message).take 65535
  let data := c.data.take 65535
  have hparts : c.encode = Octets.be16 message.length ++ (Octets.be16 data.length ++ ([c.flags]
      ++ (message ++ (data ++ [])))) := by
    simp [encode, fields, Octets.sizes16, message, data]
  refine fills_room c.length_encode ?_
  rw [hparts]
  refine .bind (writes_put rfl _) ?_
  refine .bind (writes_put rfl _) ?_
  refine .bind (writes_put rfl _) ?_
  refine .bind (writes_put rfl _) ?_
  refine .bind (writes_put ?_ _) ?_
  · rw [List.length_append]
    rfl
  exact writes_pure _ _

theorem Authentication.Reply.fills (r : Reply) : Fills r.fill r.wireSize r.encode := by
  let message := (Text.Utf8.encode r.message).take 65535
  let data := r.data.take 65535
  have hparts : r.encode = [r.status.code] ++ ([r.flags] ++ (Octets.be16 message.length
      ++ (Octets.be16 data.length ++ (message ++ (data ++ []))))) := by
    simp [encode, fields, Octets.sizes16, message, data]
  refine fills_room r.length_encode ?_
  rw [hparts]
  refine .bind (writes_put rfl _) ?_
  refine .bind (writes_put rfl _) ?_
  refine .bind (writes_put rfl _) ?_
  refine .bind (writes_put rfl _) ?_
  refine .bind (writes_put rfl _) ?_
  refine .bind (writes_put ?_ _) ?_
  · rw [List.length_append]
    rfl
  exact writes_pure _ _

theorem Authorization.Request.fills (r : Request) : Fills r.fill r.wireSize r.encode := by
  have hparts : r.encode = [Coded.code r.method] ++ (r.access.encode
      ++ (Octets.sizes r.origin.fields ++ ([UInt8.ofNat (r.arguments.take 255).length]
      ++ (Octets.sizes (sent r.arguments) ++ (r.origin.fields.flatten
      ++ ((sent r.arguments).flatten ++ [])))))) := by
    simp [encode, length_sent]
  refine fills_room r.length_encode ?_
  rw [hparts]
  refine .bind (writes_put rfl _) ?_
  refine .bind (writes_within r.access.writes_fill rfl rfl) ?_
  refine .bind (writes_within r.origin.writes_fillLengths rfl rfl) ?_
  refine .bind (writes_put rfl _) ?_
  refine .bind (writes_behind (writes_fillLengths r.arguments) rfl) ?_
  refine .bind (writes_behind r.origin.writes_fillFields ?_) ?_
  · rw [List.length_append, Octets.length_sizes]
    rfl
  refine .bind (writes_behind (writes_fillValues r.arguments) ?_) ?_
  · rw [List.length_append, List.length_append, Octets.length_sizes]
    rfl
  exact writes_pure _ _

theorem Authorization.Reply.fills (r : Reply) : Fills r.fill r.wireSize r.encode := by
  let message := (Text.Utf8.encode r.message).take 65535
  let data := r.data.take 65535
  have hparts : r.encode = [r.status.code] ++ ([UInt8.ofNat (r.arguments.take 255).length]
      ++ (Octets.be16 message.length ++ (Octets.be16 data.length
      ++ (Octets.sizes (sent r.arguments) ++ (message ++ (data
      ++ ((sent r.arguments).flatten ++ []))))))) := by
    simp [encode, fields, Octets.sizes16, length_sent, message, data]
  refine fills_room r.length_encode ?_
  rw [hparts]
  refine .bind (writes_put rfl _) ?_
  refine .bind (writes_put rfl _) ?_
  refine .bind (writes_put rfl _) ?_
  refine .bind (writes_put rfl _) ?_
  refine .bind (writes_behind (writes_fillLengths r.arguments) rfl) ?_
  refine .bind (writes_put ?_ _) ?_
  · rw [List.length_append, Octets.length_sizes]
    rfl
  refine .bind (writes_put ?_ _) ?_
  · rw [List.length_append, List.length_append, Octets.length_sizes]
    rfl
  refine .bind (writes_behind (writes_fillValues r.arguments) ?_) ?_
  · rw [List.length_append, List.length_append, List.length_append, Octets.length_sizes]
    rfl
  exact writes_pure _ _

theorem Body.fills (b : Body) : Fills b.fill b.wireSize b.encode := by
  cases b with
  | start s => exact s.fills
  | «continue» c => exact c.fills
  | authenReply r => exact r.fills
  | authorRequest r => exact r.fills
  | authorReply r => exact r.fills
  | accounting octets =>
    have hparts : (Body.accounting octets).encode = octets ++ [] := (List.append_nil octets).symm
    refine fills_room rfl ?_
    rw [hparts]
    refine .bind (writes_put rfl _) ?_
    exact writes_pure _ _

/-! ## Lengths and counts -/

namespace Octets

theorem slices_flatten (front : Octets) (pieces : List Octets) :
    (front ++ pieces.flatten).slices front.length (pieces.map List.length) = pieces := by
  induction pieces generalizing front with
  | nil => rfl
  | cons piece pieces ih =>
    have hrest := ih (front ++ piece)
    rw [List.length_append, List.append_assoc] at hrest
    rw [List.map_cons, slices, List.flatten_cons, hrest, slice, List.drop_left, List.take_left]

theorem slice_middle {place : Nat} {front : Octets} (h : front.length = place)
    (middle rest : Octets) : (front ++ (middle ++ rest)).slice place middle.length = middle := by
  rw [slice, List.drop_left' h, List.take_left]

end Octets

namespace Body

/-- The octets that are written for the fields of a body. -/
def written : Body → List Octets
  | start s => s.fields
  | .continue c => c.fields
  | authenReply r => r.fields
  | authorRequest r => r.origin.fields ++ Authorization.sent r.arguments
  | authorReply r => r.fields ++ Authorization.sent r.arguments
  | accounting octets => [octets]

/-- The arguments of a body, and where in its octets their number stands. -/
def count? : Body → Option (Nat × List Argument)
  | authorRequest r => some (7, r.arguments)
  | authorReply r => some (1, r.arguments)
  | start _ | .continue _ | authenReply _ | accounting _ => none

/-- The numbers that stand in the octets of a body are right. -/
structure Counted (b : Body) (octets : Octets) : Prop where
  /-- Every length is that of the octets which are written for its field. -/
  lengths : (layout octets b.kind).lengths = b.written.map List.length
  /-- The fields are where the lengths say. -/
  fields : pieces octets b.kind = b.written
  count : ∀ place arguments, b.count? = some (place, arguments) →
    octets.number place = (Authorization.sent arguments).length

section Counted

variable {b : Body}

theorem counted_of_lengths (fixed : Octets) (hparts : b.encode = fixed ++ b.written.flatten)
    (hfixed : (layout b.encode b.kind).fixed = fixed.length)
    (hlengths : (layout b.encode b.kind).lengths = b.written.map List.length)
    (hcount : ∀ place arguments, b.count? = some (place, arguments) →
      b.encode.number place = (Authorization.sent arguments).length) : Counted b b.encode := by
  refine ⟨hlengths, ?_, hcount⟩
  rw [pieces, hfixed, hlengths, hparts]
  exact Octets.slices_flatten fixed b.written

theorem count_of_none (h : b.count? = none) (place : Nat) (arguments : List Argument)
    (hcount : b.count? = some (place, arguments)) :
    b.encode.number place = (Authorization.sent arguments).length := by
  rw [h] at hcount
  cases hcount

end Counted

theorem counted_start (s : Authentication.Start) : Counted (start s) (start s).encode :=
  counted_of_lengths (Coded.code s.action :: s.access.encode ++ Octets.sizes s.fields) rfl rfl
    (Octets.toNat_sizes s.length_of_mem_fields) (count_of_none rfl)

theorem read16_length_take (octets : Octets) :
    Octets.read16 (UInt8.ofNat ((octets.take 65535).length / 256))
      (UInt8.ofNat (octets.take 65535).length) = (octets.take 65535).length :=
  Octets.read16_be16 (Nat.lt_succ_of_le (List.length_take_le _ _))

theorem counted_continue (c : Authentication.Continue) :
    Counted (.continue c) (Body.continue c).encode := by
  have hmessage : (Body.continue c).encode.number16 0
      = ((Text.Utf8.encode c.message).take 65535).length := read16_length_take _
  have hdata : (Body.continue c).encode.number16 2 = (c.data.take 65535).length :=
    read16_length_take _
  refine counted_of_lengths (Octets.sizes16 c.fields ++ [c.flags]) rfl rfl ?_ (count_of_none rfl)
  change [(Body.continue c).encode.number16 0, (Body.continue c).encode.number16 2] = [_, _]
  rw [hmessage, hdata]

theorem counted_authenReply (r : Authentication.Reply) :
    Counted (authenReply r) (authenReply r).encode := by
  have hmessage : (authenReply r).encode.number16 2
      = ((Text.Utf8.encode r.message).take 65535).length := read16_length_take _
  have hdata : (authenReply r).encode.number16 4 = (r.data.take 65535).length :=
    read16_length_take _
  refine counted_of_lengths (r.status.code :: r.flags :: Octets.sizes16 r.fields) rfl rfl ?_
    (count_of_none rfl)
  change [(authenReply r).encode.number16 2, (authenReply r).encode.number16 4] = [_, _]
  rw [hmessage, hdata]

theorem counted_authorRequest (r : Authorization.Request) :
    Counted (authorRequest r) (authorRequest r).encode := by
  let front := Coded.code r.method :: r.access.encode ++ Octets.sizes r.origin.fields
    ++ [UInt8.ofNat (Authorization.sent r.arguments).length]
  let lengths := Octets.sizes (Authorization.sent r.arguments)
  have hparts : (authorRequest r).encode
      = front ++ (lengths ++ (authorRequest r).written.flatten) := by
    simp [encode, Authorization.Request.encode, written, front, lengths]
  have hcount : (authorRequest r).encode.number 7 = lengths.length :=
    Authorization.toNat_length_sent r.arguments
  have hslice : (authorRequest r).encode.slice 8 lengths.length = lengths := by
    rw [hparts]
    exact Octets.slice_middle rfl _ _
  have horigin : [(authorRequest r).encode.number 4, (authorRequest r).encode.number 5,
      (authorRequest r).encode.number 6] = (Octets.sizes r.origin.fields).map UInt8.toNat := rfl
  refine counted_of_lengths (front ++ lengths) (hparts.trans (List.append_assoc ..).symm) ?_ ?_ ?_
  · change 8 + (authorRequest r).encode.number 7 = _
    rw [hcount, List.length_append]
    rfl
  · change (layout (authorRequest r).encode .authorRequest).lengths = _
    rw [lengths_authorRequest, hcount, hslice, horigin, ← List.map_append, ← Octets.sizes_append]
    exact Octets.toNat_sizes r.length_of_mem_fields
  · intro place arguments h
    cases h
    rw [hcount, Octets.length_sizes]

theorem counted_authorReply (r : Authorization.Reply) :
    Counted (authorReply r) (authorReply r).encode := by
  let front := r.status.code :: UInt8.ofNat (Authorization.sent r.arguments).length
    :: Octets.sizes16 r.fields
  let lengths := Octets.sizes (Authorization.sent r.arguments)
  have hparts : (authorReply r).encode
      = front ++ (lengths ++ (authorReply r).written.flatten) := by
    simp [encode, Authorization.Reply.encode, written, front, lengths]
  have hcount : (authorReply r).encode.number 1 = lengths.length :=
    Authorization.toNat_length_sent r.arguments
  have hslice : (authorReply r).encode.slice 6 lengths.length = lengths := by
    rw [hparts]
    exact Octets.slice_middle rfl _ _
  have hmessage : (authorReply r).encode.number16 2
      = ((Text.Utf8.encode r.message).take 65535).length := read16_length_take _
  have hdata : (authorReply r).encode.number16 4 = (r.data.take 65535).length :=
    read16_length_take _
  refine counted_of_lengths (front ++ lengths) (hparts.trans (List.append_assoc ..).symm) ?_ ?_ ?_
  · change 6 + (authorReply r).encode.number 1 = _
    rw [hcount, List.length_append]
    rfl
  · change (layout (authorReply r).encode .authorReply).lengths = _
    rw [lengths_authorReply, hcount, hslice, hmessage, hdata,
      Octets.toNat_sizes Authorization.length_of_mem_sent, written, List.map_append]
    rfl
  · intro place arguments h
    cases h
    rw [hcount, Octets.length_sizes]

theorem counted_accounting (octets : Octets) :
    Counted (accounting octets) (accounting octets).encode :=
  counted_of_lengths [] (List.append_nil octets).symm rfl rfl (count_of_none rfl)

theorem counted (b : Body) : Counted b b.encode := by
  cases b with
  | start s => exact counted_start s
  | «continue» c => exact counted_continue c
  | authenReply r => exact counted_authenReply r
  | authorRequest r => exact counted_authorRequest r
  | authorReply r => exact counted_authorReply r
  | accounting octets => exact counted_accounting octets

end Body

/-- **A form is written whole, or not at all.**  With room for it a header or a body, however
long its parts are, overwrites just the octets it takes, whatever they were, and every number
in it that tells a length or a count is the right one; without room the buffer is left as it
was.  Every buffer is of one of these two kinds, so no place outside the buffer is ever
named. -/
theorem whole_or_not_at_all :
    (∀ (h : Header) (length : UInt32), Fills (h.fill length) Header.size (h.encode length)
        ∧ Header.claimedLength? (h.encode length) = some length)
      ∧ ∀ b : Body, Fills b.fill b.wireSize b.encode ∧ Body.Counted b b.encode := by
  refine ⟨?_, ?_⟩
  · intro h length
    have hclaimed := h.claimedLength?_encode length []
    rw [List.append_nil] at hclaimed
    exact ⟨h.fills length, hclaimed⟩
  · intro b
    exact ⟨b.fills, b.counted⟩

/-- An answer of eight octets in a buffer of ten. -/
example : (Body.continue ⟨"no", [7], 0⟩).fill (.replicate 10 0xEE)
    = .ok 8 [0, 2, 0, 1, 0, 0x6E, 0x6F, 7, 0xEE, 0xEE] := by
  rfl

end Tacacs
