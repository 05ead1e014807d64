/-
# `Tacacs.Proofs.Body.Grammar` — which strings of octets are bodies

A body has a fixed part, in which codes, flags and the lengths of the fields stand,
and behind it the fields, one after the other.  `layout` says for each kind of body,
by nothing but the places of octets, where the fields begin, what they are and how
long:

    start            8          user, port, remote address, data      lengths at 4, 5, 6, 7
    continue         5          message, data                         at 0 and 2, two octets each
    authen. reply    6          message, data                         at 2 and 4, two octets each
    author. request  8 + count  user, port, remote address,           at 4, 5, 6, and from 8 on
                                as many arguments as 7 says
    author. reply    6 + count  message, data,                        at 2 and 4, two octets each,
                                as many arguments as 1 says           and from 6 on

A string is a body of a kind (`Grammatical`) if its fixed part is there, the lengths
account for every octet behind it, and every code is assigned.

`decode_grammar` says that reading accepts exactly these strings, that the fields of
the body that is read are the slices which the lengths name, and that all other
strings are corrupt packets and nothing worse.  Nothing of the readers is used in the
grammar.  What ties the two together is `Octets.cut_drop`: to cut a string by lengths
is to take its slices, if they reach just to the end.
-/
import Tacacs.Body

namespace Tacacs

/-! ## Assigned codes -/

namespace Coded

variable {α : Type} [Coded α] {octet : UInt8}

/-- An octet is the code of a member. -/
def Assigned (α : Type) [Coded α] (octet : UInt8) : Prop :=
  ∃ a : α, octet = code a

instance (α : Type) [Coded α] (octet : UInt8) : Decidable (Assigned α octet) :=
  decidable_of_iff (∃ a ∈ members, octet = code (a : α))
    ⟨fun ⟨a, _, h⟩ => ⟨a, h⟩, fun ⟨a, h⟩ => ⟨a, mem_members a, h⟩⟩

end Coded

/-! ## Places in a string -/

namespace Octets

/-- The octet at a place.  Behind the end of the string there is zero. -/
def octet (s : Octets) (i : Nat) : UInt8 :=
  s.getD i 0

/-- The number that the octet at a place spells. -/
def number (s : Octets) (i : Nat) : Nat :=
  (s.octet i).toNat

/-- The number that the two octets from a place on spell. -/
def number16 (s : Octets) (i : Nat) : Nat :=
  read16 (s.octet i) (s.octet (i + 1))

/-- So many octets from a place on. -/
def slice (s : Octets) (start length : Nat) : Octets :=
  (s.drop start).take length

/-- Slices of the given lengths from a place on, each beginning where the one before it
ends. -/
def slices (s : Octets) : Nat → List Nat → List Octets
  | _, [] => []
  | start, n :: ns => s.slice start n :: s.slices (start + n) ns

/-- What lengths come to together. -/
def total (ns : List Nat) : Nat :=
  ns.foldr (· + ·) 0

@[simp] theorem length_slices (s : Octets) (start : Nat) (ns : List Nat) :
    (s.slices start ns).length = ns.length := by
  induction ns generalizing start with
  | nil => rfl
  | cons n ns ih => exact congrArg Nat.succ (ih (start + n))

/-- To cut what stands behind a place is to take the slices from there on, if they reach
just to the end. -/
theorem cut_drop (ns : List Nat) {s : Octets} {start : Nat} (h : start ≤ s.length) :
    cut ns (s.drop start)
      = if s.length = start + total ns then some (s.slices start ns) else none := by
  induction ns generalizing start with
  | nil =>
    have hend : (s.drop start).isEmpty = true ↔ s.length = start + total [] := by
      rw [List.isEmpty_iff, List.drop_eq_nil_iff]
      exact ⟨fun hle => Nat.le_antisymm hle h, Nat.le_of_eq⟩
    rw [cut]
    split
    next hempty => rw [if_pos (hend.1 hempty), slices]
    next hmore => rw [if_neg (mt hend.2 hmore)]
  | cons n ns ih =>
    have htotal : start + total (n :: ns) = start + n + total ns := (Nat.add_assoc ..).symm
    have hlength : (s.slice start n).length = min n (s.length - start) := by
      rw [slice, List.length_take, List.length_drop]
    rw [cut, htotal, slices, List.drop_drop]
    change (if (s.slice start n).length = n then _ else _) = _
    split
    next hn =>
      rw [ih (by omega)]
      split <;> rfl
    next hn => rw [if_neg (by omega)]

/-- Slices that reach just to the end have the lengths that were asked for, and leave no
octet out. -/
theorem slices_cover {ns : List Nat} {s : Octets} {start : Nat}
    (h : s.length = start + total ns) :
    (s.slices start ns).map List.length = ns
      ∧ s.take start ++ (s.slices start ns).flatten = s := by
  have hcut := cut_drop ns (h ▸ Nat.le_add_right start (total ns) : start ≤ s.length)
  rw [if_pos h] at hcut
  obtain ⟨hlengths, hflatten⟩ := cut_eq_some_iff.1 hcut
  exact ⟨hlengths, by rw [hflatten, List.take_append_drop]⟩

theorem room_iff {front count : Nat} {rest : Octets} :
    front + count ≤ rest.length + front ↔ (rest.take count).length = count := by
  rw [List.length_take]
  omega

/-- So many octets, and a string behind them with which the whole has the property. -/
def Fronted : Nat → (Octets → Prop) → Prop
  | 0, p => ∃ rest, p rest
  | n + 1, p => ∃ x, Fronted n fun rest => p (x :: rest)

theorem fronted (n : Nat) {s : Octets} {p : Octets → Prop} (h : n ≤ s.length) (hp : p s) :
    Fronted n p := by
  induction n generalizing s p with
  | zero => exact ⟨s, hp⟩
  | succ n ih =>
    cases s with
    | nil => cases h
    | cons x rest => exact ⟨x, ih (Nat.le_of_succ_le_succ h) hp⟩

theorem exists_front (n : Nat) {s : Octets} (h : n ≤ s.length) : Fronted n (s = ·) :=
  fronted n h rfl

end Octets

/-! ## Fields -/

/-- What a field is. -/
inductive FieldForm
  | text
  | data
  | argument
deriving DecidableEq

/-- What is in a field, once it is read. -/
inductive Content
  | text (text : String)
  | data (octets : Octets)
  | argument (argument : Argument)
deriving DecidableEq

/-- Reads what is in a field. -/
def Content.read : FieldForm × Octets → Content
  | (.text, octets) => .text (Text.Utf8.decode octets)
  | (.data, octets) => .data octets
  | (.argument, octets) => .argument (Argument.decode octets)

/-- The fields of a body: where they begin, what they are, and how long. -/
structure Layout where
  /-- How many octets stand in front of the fields. -/
  fixed : Nat
  fields : List (FieldForm × Nat)

namespace Layout

/-- Fields for arguments of the given lengths. -/
def arguments (lengths : Octets) : List (FieldForm × Nat) :=
  lengths.map fun length => (.argument, length.toNat)

/-- How long the fields are. -/
def lengths (l : Layout) : List Nat :=
  l.fields.map Prod.snd

@[simp] theorem lengths_arguments (lengths : Octets) :
    (arguments lengths).map Prod.snd = lengths.map UInt8.toNat := by
  rw [arguments, List.map_map]
  rfl

theorem read_arguments {lengths : Octets} {pieces : List Octets}
    (h : pieces.length = lengths.length) :
    (((arguments lengths).map Prod.fst).zip pieces).map Content.read
      = (pieces.map Argument.decode).map Content.argument := by
  induction lengths generalizing pieces with
  | nil =>
    obtain rfl := List.eq_nil_of_length_eq_zero h
    rfl
  | cons n lengths ih =>
    match pieces, h with
    | piece :: pieces, h => exact congrArg _ (ih (Nat.succ.inj h))

end Layout

namespace Body

/-! ## The grammar -/

/-- The layout of a string, taken as a body of this kind. -/
def layout (b : Octets) : BodyKind → Layout
  | .start =>
    ⟨8, [(.text, b.number 4), (.text, b.number 5), (.text, b.number 6), (.data, b.number 7)]⟩
  | .continue => ⟨5, [(.text, b.number16 0), (.data, b.number16 2)]⟩
  | .authenReply => ⟨6, [(.text, b.number16 2), (.data, b.number16 4)]⟩
  | .authorRequest =>
    let count := b.number 7
    ⟨8 + count, [(.text, b.number 4), (.text, b.number 5), (.text, b.number 6)]
      ++ Layout.arguments (b.slice 8 count)⟩
  | .authorReply =>
    let count := b.number 1
    ⟨6 + count, [(.text, b.number16 2), (.data, b.number16 4)]
      ++ Layout.arguments (b.slice 6 count)⟩
  | .accounting => ⟨0, [(.data, b.length)]⟩

/-- The slices of a string that are the fields. -/
def pieces (b : Octets) (kind : BodyKind) : List Octets :=
  b.slices (layout b kind).fixed (layout b kind).lengths

/-- The fields, each with its slice. -/
def fields (b : Octets) (kind : BodyKind) : List (FieldForm × Octets) :=
  ((layout b kind).fields.map Prod.fst).zip (pieces b kind)

/-- The fields reach just to the end of the string. -/
def Exact (b : Octets) (kind : BodyKind) : Prop :=
  b.length = (layout b kind).fixed + Octets.total (layout b kind).lengths
deriving Decidable

/-- A level, a type of authentication and a service stand where an access has them. -/
def TellsAccess (b : Octets) : Prop :=
  b.number 1 ≤ 15 ∧ Coded.Assigned AuthenType (b.octet 2)
    ∧ Coded.Assigned AuthenService (b.octet 3)
deriving Decidable

/-- Every code is assigned.  In a start the type of authentication is set, too. -/
def Assigned (b : Octets) : BodyKind → Prop
  | .start =>
    Coded.Assigned Authentication.Action (b.octet 0) ∧ TellsAccess b
      ∧ b.octet 2 ≠ Coded.code AuthenType.notSet
  | .authorRequest => Coded.Assigned AuthenMethod (b.octet 0) ∧ TellsAccess b
  | .continue | .authenReply | .authorReply | .accounting => True

instance (b : Octets) : DecidablePred (Assigned b)
  | .start => inferInstanceAs (Decidable (_ ∧ _ ∧ _))
  | .authorRequest => inferInstanceAs (Decidable (_ ∧ _))
  | .continue | .authenReply | .authorReply | .accounting => isTrue trivial

/-- A string is a body of this kind. -/
structure Grammatical (b : Octets) (kind : BodyKind) : Prop where
  /-- The fixed part is there, and the lengths of the arguments with it. -/
  fixed : (layout b kind).fixed ≤ b.length
  exact : Exact b kind
  assigned : Assigned b kind

instance (b : Octets) (kind : BodyKind) : Decidable (Grammatical b kind) :=
  decidable_of_iff ((layout b kind).fixed ≤ b.length ∧ Exact b kind ∧ Assigned b kind)
    ⟨fun ⟨h₁, h₂, h₃⟩ => ⟨h₁, h₂, h₃⟩, fun ⟨h₁, h₂, h₃⟩ => ⟨h₁, h₂, h₃⟩⟩

/-! ## What a body says -/

/-- The codes and flags that stand in the fixed part. -/
def codesAt (b : Octets) : BodyKind → Octets
  | .start | .authorRequest => b.slice 0 4
  | .continue => b.slice 4 1
  | .authenReply => b.slice 0 2
  | .authorReply => b.slice 0 1
  | .accounting => []

/-- The codes and flags of a body. -/
def codes : Body → Octets
  | start s => Coded.code s.action :: s.access.encode
  | .continue c => [c.flags]
  | authenReply r => [r.status.code, r.flags]
  | authorRequest r => Coded.code r.method :: r.access.encode
  | authorReply r => [r.status.code]
  | accounting _ => []

/-- What is in the fields of a body. -/
def contents : Body → List Content
  | start s =>
    [.text s.origin.user, .text s.origin.port, .text s.origin.remoteAddress, .data s.data]
  | .continue c => [.text c.message, .data c.data]
  | authenReply r => [.text r.message, .data r.data]
  | authorRequest r =>
    [.text r.origin.user, .text r.origin.port, .text r.origin.remoteAddress]
      ++ r.arguments.map .argument
  | authorReply r => [.text r.message, .data r.data] ++ r.arguments.map .argument
  | accounting octets => [.data octets]

/-- A body says what stands in a string, and the string holds nothing else. -/
structure Spelt (b : Octets) (body : Body) : Prop where
  codes : body.codes = codesAt b body.kind
  contents : body.contents = (fields b body.kind).map Content.read
  /-- The slices are as long as they are said to be. -/
  lengths : (pieces b body.kind).map List.length = (layout b body.kind).lengths
  /-- They leave no octet behind the fixed part out, and none is in two of them. -/
  cover : b.take (layout b body.kind).fixed ++ (pieces b body.kind).flatten = b

/-! ## Reading, kind by kind -/

/-- What reading a string as a body of a kind may come to. -/
inductive Verdict (b : Octets) : BodyKind → Option Body → Prop
  | reads {kind : BodyKind} {body : Body} : body.kind = kind → Grammatical b kind →
      body.codes = codesAt b kind → body.contents = (fields b kind).map Content.read →
      Verdict b kind (some body)
  | refuses {kind : BodyKind} : ¬Grammatical b kind → Verdict b kind none

theorem cut_iff {kind : BodyKind} {b : Octets} (h : (layout b kind).fixed ≤ b.length)
    (found : List Octets) :
    Octets.cut (layout b kind).lengths (b.drop (layout b kind).fixed) = some found
      ↔ Exact b kind ∧ pieces b kind = found := by
  rw [Octets.cut_drop _ h]
  change (if Exact b kind then some (pieces b kind) else none) = _ ↔ _
  split
  next hexact => rw [Option.some.injEq, and_iff_right hexact]
  next hexact => simp [hexact]

theorem tellsAccess_iff {b : Octets} :
    TellsAccess b ↔ ∃ a, Access.decode? (b.octet 1) (b.octet 2) (b.octet 3) = some a := by
  simp only [Access.decode?_eq_some_iff, Access.encode, List.cons.injEq, and_true]
  constructor
  · rintro ⟨hlevel, ⟨type, htype⟩, service, hservice⟩
    exact ⟨⟨⟨b.octet 1, hlevel⟩, type, service⟩, rfl, htype, hservice⟩
  · rintro ⟨a, hlevel, htype, hservice⟩
    refine ⟨?_, ⟨_, htype⟩, _, hservice⟩
    rw [Octets.number, hlevel]
    exact a.privilege.level_le

theorem verdict_start (b : Octets) :
    Verdict b .start ((Authentication.Start.decode? b).map .start) := by
  unfold Authentication.Start.decode?
  split
  next action level type service user port remote data rest =>
    have hfixed : (layout (action :: level :: type :: service :: user :: port :: remote :: data
        :: rest) .start).fixed ≤ (action :: level :: type :: service :: user :: port :: remote
        :: data :: rest).length := by simp [layout]
    split
    next u p r d a access hcut haction haccess =>
      obtain ⟨hexact, hpieces⟩ := (cut_iff hfixed _).1 hcut
      have htells : TellsAccess (action :: level :: type :: service :: user :: port :: remote
          :: data :: rest) := tellsAccess_iff.2 ⟨access, haccess⟩
      obtain rfl := Coded.ofCode?_eq_some_iff.1 haction
      cases Access.decode?_eq_some_iff.1 haccess
      unfold Authentication.Start.new?
      split
      next hset =>
        refine .refuses ?_
        intro h
        exact h.assigned.2.2 (congrArg Coded.code hset)
      next hset =>
        refine .reads rfl ⟨hfixed, hexact, ⟨a, rfl⟩, htells, ?_⟩ rfl ?_
        · intro h
          exact hset (Coded.code_injective _ _ h)
        · rw [fields, hpieces]
          rfl
    next hnone =>
      refine .refuses ?_
      intro h
      obtain ⟨⟨a, haction⟩, htells, -⟩ := h.assigned
      obtain ⟨access, haccess⟩ := tellsAccess_iff.1 htells
      exact hnone _ _ _ _ a access ((cut_iff hfixed _).2 ⟨h.exact, rfl⟩)
        (Coded.ofCode?_eq_some_iff.2 haction) haccess
  next hshort =>
    refine .refuses ?_
    intro h
    obtain ⟨_, _, _, _, _, _, _, _, _, rfl⟩ := Octets.exists_front 8 h.fixed
    exact hshort _ _ _ _ _ _ _ _ _ rfl

theorem verdict_continue (b : Octets) :
    Verdict b .continue ((Authentication.Continue.decode? b).map .continue) := by
  unfold Authentication.Continue.decode?
  split
  next m₀ m₁ d₀ d₁ flags rest =>
    have hfixed : (layout (m₀ :: m₁ :: d₀ :: d₁ :: flags :: rest) .continue).fixed
        ≤ (m₀ :: m₁ :: d₀ :: d₁ :: flags :: rest).length := by simp [layout]
    split
    next message data hcut =>
      obtain ⟨hexact, hpieces⟩ := (cut_iff hfixed _).1 hcut
      refine .reads rfl ⟨hfixed, hexact, trivial⟩ rfl ?_
      rw [fields, hpieces]
      rfl
    next hnone =>
      refine .refuses ?_
      intro h
      exact hnone _ _ ((cut_iff hfixed _).2 ⟨h.exact, rfl⟩)
  next hshort =>
    refine .refuses ?_
    intro h
    obtain ⟨_, _, _, _, _, _, rfl⟩ := Octets.exists_front 5 h.fixed
    exact hshort _ _ _ _ _ _ rfl

theorem verdict_authenReply (b : Octets) :
    Verdict b .authenReply ((Authentication.Reply.decode? b).map .authenReply) := by
  unfold Authentication.Reply.decode?
  split
  next status flags m₀ m₁ d₀ d₁ rest =>
    have hfixed : (layout (status :: flags :: m₀ :: m₁ :: d₀ :: d₁ :: rest) .authenReply).fixed
        ≤ (status :: flags :: m₀ :: m₁ :: d₀ :: d₁ :: rest).length := by simp [layout]
    split
    next message data hcut =>
      obtain ⟨hexact, hpieces⟩ := (cut_iff hfixed _).1 hcut
      refine .reads rfl ⟨hfixed, hexact, trivial⟩ ?_ ?_
      · simp only [codes, Authentication.Status.code_ofCode]
        rfl
      · rw [fields, hpieces]
        rfl
    next hnone =>
      refine .refuses ?_
      intro h
      exact hnone _ _ ((cut_iff hfixed _).2 ⟨h.exact, rfl⟩)
  next hshort =>
    refine .refuses ?_
    intro h
    obtain ⟨_, _, _, _, _, _, _, rfl⟩ := Octets.exists_front 6 h.fixed
    exact hshort _ _ _ _ _ _ _ rfl

theorem lengths_authorRequest (b : Octets) :
    (layout b .authorRequest).lengths
      = [b.number 4, b.number 5, b.number 6] ++ (b.slice 8 (b.number 7)).map UInt8.toNat := by
  simp [layout, Layout.lengths]

theorem lengths_authorReply (b : Octets) :
    (layout b .authorReply).lengths
      = [b.number16 2, b.number16 4] ++ (b.slice 6 (b.number 1)).map UInt8.toNat := by
  simp [layout, Layout.lengths]

theorem length_arguments (front : List Octets) {b : Octets} {kind : BodyKind}
    {arguments : List Octets} {numbers : List Nat} {lengths : Octets}
    (hpieces : pieces b kind = front ++ arguments)
    (hlengths : (layout b kind).lengths = numbers ++ lengths.map UInt8.toNat)
    (hfront : front.length = numbers.length) : arguments.length = lengths.length := by
  have hcount := Octets.length_slices b (layout b kind).fixed (layout b kind).lengths
  rw [← pieces, hpieces, hlengths] at hcount
  simp only [List.length_append, List.length_map] at hcount
  omega

theorem verdict_authorRequest (b : Octets) :
    Verdict b .authorRequest ((Authorization.Request.decode? b).map .authorRequest) := by
  unfold Authorization.Request.decode?
  split
  next method level type service user port remote count rest =>
    have hfixed : (layout (method :: level :: type :: service :: user :: port :: remote :: count
          :: rest) .authorRequest).fixed
        ≤ (method :: level :: type :: service :: user :: port :: remote :: count :: rest).length ↔
          (rest.take count.toNat).length = count.toNat := Octets.room_iff
    dsimp only
    split
    next hfew => exact .refuses fun h => hfew (hfixed.1 h.fixed)
    next hcount =>
      have hfixed := hfixed.2 (Classical.not_not.1 hcount)
      have hcut := cut_iff hfixed
      simp only [lengths_authorRequest] at hcut
      simp only [layout, ← List.drop_drop] at hcut
      split
      next u p r arguments m access hfound hmethod haccess =>
        obtain ⟨hexact, hpieces⟩ := (hcut _).1 hfound
        have htells : TellsAccess (method :: level :: type :: service :: user :: port :: remote
            :: count :: rest) := tellsAccess_iff.2 ⟨access, haccess⟩
        obtain rfl := Coded.ofCode?_eq_some_iff.1 hmethod
        cases Access.decode?_eq_some_iff.1 haccess
        refine .reads rfl ⟨hfixed, hexact, ⟨m, rfl⟩, htells⟩ rfl ?_
        have harguments : arguments.length = _ :=
          length_arguments [u, p, r] hpieces (lengths_authorRequest _) rfl
        rw [fields, hpieces]
        exact congrArg (Content.text _ :: Content.text _ :: Content.text _ :: ·)
          (Layout.read_arguments harguments).symm
      next hnone =>
        refine .refuses ?_
        intro h
        obtain ⟨⟨m, hmethod⟩, htells⟩ := h.assigned
        obtain ⟨access, haccess⟩ := tellsAccess_iff.1 htells
        exact hnone _ _ _ _ m access ((hcut _).2 ⟨h.exact, rfl⟩)
          (Coded.ofCode?_eq_some_iff.2 hmethod) haccess
  next hshort =>
    refine .refuses ?_
    intro h
    obtain ⟨_, _, _, _, _, _, _, _, _, rfl⟩ :=
      Octets.exists_front 8 (Nat.le_of_add_right_le h.fixed)
    exact hshort _ _ _ _ _ _ _ _ _ rfl

theorem verdict_authorReply (b : Octets) :
    Verdict b .authorReply ((Authorization.Reply.decode? b).map .authorReply) := by
  unfold Authorization.Reply.decode?
  split
  next status count m₀ m₁ d₀ d₁ rest =>
    have hfixed : (layout (status :: count :: m₀ :: m₁ :: d₀ :: d₁ :: rest) .authorReply).fixed
        ≤ (status :: count :: m₀ :: m₁ :: d₀ :: d₁ :: rest).length ↔
          (rest.take count.toNat).length = count.toNat := Octets.room_iff
    dsimp only
    split
    next hfew => exact .refuses fun h => hfew (hfixed.1 h.fixed)
    next hcount =>
      have hfixed := hfixed.2 (Classical.not_not.1 hcount)
      have hcut := cut_iff hfixed
      simp only [lengths_authorReply] at hcut
      simp only [layout, ← List.drop_drop] at hcut
      split
      next message data arguments hfound =>
        obtain ⟨hexact, hpieces⟩ := (hcut _).1 hfound
        refine .reads rfl ⟨hfixed, hexact, trivial⟩ ?_ ?_
        · simp only [codes, Authorization.Status.code_ofCode]
          rfl
        · have harguments : arguments.length = _ :=
            length_arguments [message, data] hpieces (lengths_authorReply _) rfl
          rw [fields, hpieces]
          exact congrArg (Content.text _ :: Content.data _ :: ·)
            (Layout.read_arguments harguments).symm
      next hnone =>
        refine .refuses ?_
        intro h
        exact hnone _ _ _ ((hcut _).2 ⟨h.exact, rfl⟩)
  next hshort =>
    refine .refuses ?_
    intro h
    obtain ⟨_, _, _, _, _, _, _, rfl⟩ :=
      Octets.exists_front 6 (Nat.le_of_add_right_le h.fixed)
    exact hshort _ _ _ _ _ _ _ rfl

theorem verdict_accounting (b : Octets) : Verdict b .accounting (some (.accounting b)) := by
  refine .reads rfl ⟨Nat.zero_le _, (Nat.zero_add _).symm, trivial⟩ rfl ?_
  exact congrArg (fun octets => [Content.data octets]) List.take_length.symm

/-! ## Reading, whatever the kind -/

theorem exists_verdict (b : Octets) (kind : BodyKind) :
    ∃ read?, Verdict b kind read? ∧ decode kind b = match read? with
      | some body => .ok body
      | none => .error .corruptPacket := by
  cases kind with
  | start => exact ⟨_, verdict_start b, rfl⟩
  | «continue» => exact ⟨_, verdict_continue b, rfl⟩
  | authenReply => exact ⟨_, verdict_authenReply b, rfl⟩
  | authorRequest => exact ⟨_, verdict_authorRequest b, rfl⟩
  | authorReply => exact ⟨_, verdict_authorReply b, rfl⟩
  | accounting => exact ⟨_, verdict_accounting b, rfl⟩

/-- A body that is read is of the kind that was asked for, and says what stands in the
string. -/
theorem spelt_of_decode {b : Octets} {kind : BodyKind} {body : Body}
    (h : decode kind b = .ok body) : body.kind = kind ∧ Grammatical b kind ∧ Spelt b body := by
  obtain ⟨_, hverdict, hdecode⟩ := exists_verdict b kind
  rw [hdecode] at h
  cases hverdict with
  | reads hkind hgrammatical hcodes hcontents =>
    cases h
    subst hkind
    obtain ⟨hlengths, hcover⟩ := Octets.slices_cover hgrammatical.exact
    exact ⟨rfl, hgrammatical, hcodes, hcontents, hlengths, hcover⟩
  | refuses _ => cases h

theorem decode_of_not_grammatical {b : Octets} {kind : BodyKind} (h : ¬Grammatical b kind) :
    decode kind b = .error .corruptPacket := by
  obtain ⟨_, hverdict, hdecode⟩ := exists_verdict b kind
  cases hverdict with
  | reads _ hgrammatical _ _ => exact absurd hgrammatical h
  | refuses _ => exact hdecode

theorem exists_decode_of_grammatical {b : Octets} {kind : BodyKind} (h : Grammatical b kind) :
    ∃ body, decode kind b = .ok body := by
  obtain ⟨_, hverdict, hdecode⟩ := exists_verdict b kind
  cases hverdict with
  | reads _ _ _ _ => exact ⟨_, hdecode⟩
  | refuses hnot => exact absurd h hnot

/-- **Reading accepts exactly the grammar.**  A string is read as a body of a kind if it
is one; then the body says, field by field, what stands in the slices that the lengths
name, and they cover the string.  Any other string is a corrupt packet. -/
theorem decode_grammar (b : Octets) (kind : BodyKind) :
    ((∃ body, decode kind b = .ok body) ↔ Grammatical b kind)
      ∧ (∀ body, decode kind b = .ok body → body.kind = kind ∧ Spelt b body)
      ∧ (¬Grammatical b kind → decode kind b = .error .corruptPacket) := by
  refine ⟨⟨?_, exists_decode_of_grammatical⟩, ?_, decode_of_not_grammatical⟩
  · rintro ⟨body, h⟩
    exact (spelt_of_decode h).2.1
  · intro body h
    obtain ⟨hkind, -, hspelt⟩ := spelt_of_decode h
    exact ⟨hkind, hspelt⟩

/-- A grant with the message "OK", one octet of data and two arguments. -/
def grant : Octets :=
  [0x01, 2, 0, 2, 0, 1, 3, 4, 0x4F, 0x4B, 0xFF, 0x61, 0x3D, 0x31, 0x62, 0x2A, 0x32, 0x33]

theorem decode_grammar_grant :
    Grammatical grant .authorReply ∧ ∃ body, decode .authorReply grant = .ok body
      ∧ body.contents = [.text "OK", .data [0xFF], .argument (.parse "a=1"),
          .argument (.parse "b*23")] := by
  have hgrammatical : Grammatical grant .authorReply := by decide
  obtain ⟨haccepts, hspells, -⟩ := decode_grammar grant .authorReply
  obtain ⟨body, hread⟩ := haccepts.2 hgrammatical
  obtain ⟨hkind, hspelt⟩ := hspells body hread
  refine ⟨hgrammatical, body, hread, ?_⟩
  rw [hspelt.contents, hkind]
  decide

/-- A length that is one too great leaves no body. -/
example : ¬Grammatical [0x01, 0, 0, 3, 0, 0, 0x4F, 0x4B] .authenReply := by decide

end Body

end Tacacs
