/-
# `Tacacs.Access` — what every request says about itself

Requests of both families say the same things in the same way: at what
privilege level, by what kind of authentication and for what service access is
sought (`Access`), and which user asks, on which port and from where
(`Origin`).  A request for authorization adds the method by which the user was
authenticated.

A text field of one length octet is cut after 255 octets when it is written.
-/
import Tacacs.Header
import Tacacs.Text.Utf8

namespace Tacacs

/-! ## Codes -/

/-- How a user was authenticated before asking for authorization. -/
inductive AuthenMethod
  | notSet
  | none
  | kerberos5
  | line
  | enable
  | local
  | tacacsPlus
  | guest
  | radius
  | kerberos4
  | rCommand
deriving DecidableEq

instance : Coded AuthenMethod where
  members := [.notSet, .none, .kerberos5, .line, .enable, .local, .tacacsPlus, .guest, .radius,
    .kerberos4, .rCommand]
  code
    | .notSet => 0x00
    | .none => 0x01
    | .kerberos5 => 0x02
    | .line => 0x03
    | .enable => 0x04
    | .local => 0x05
    | .tacacsPlus => 0x06
    | .guest => 0x08
    | .radius => 0x10
    | .kerberos4 => 0x11
    | .rCommand => 0x20
  mem_members a := by cases a <;> decide
  code_injective a b := by cases a <;> cases b <;> decide

/-- The kinds of authentication. -/
inductive AuthenType
  /-- Not known.  Only requests for authorization may say so. -/
  | notSet
  | ascii
  | pap
  | chap
  | msChap
  | msChapV2
deriving DecidableEq

namespace AuthenType

instance : Coded AuthenType where
  members := [notSet, ascii, pap, chap, msChap, msChapV2]
  code
    | notSet => 0
    | ascii => 1
    | pap => 2
    | chap => 3
    | msChap => 5
    | msChapV2 => 6
  mem_members a := by cases a <;> decide
  code_injective a b := by cases a <;> cases b <;> decide

/-- The minor version in which authentication of this kind has to be asked for. -/
def requiredMinor? : AuthenType → Option MinorVersion
  | notSet => none
  | ascii => some .default
  | _ => some .one

end AuthenType

/-- The services that ask for authentication. -/
inductive AuthenService
  | none
  | login
  | enable
  | ppp
  | pt
  | rCommand
  | x25
  | nasi
  | fwProxy
deriving DecidableEq

namespace AuthenService

instance : Coded AuthenService where
  members := [none, login, enable, ppp, pt, rCommand, x25, nasi, fwProxy]
  code
    | none => 0
    | login => 1
    | enable => 2
    | ppp => 3
    | pt => 5
    | rCommand => 6
    | x25 => 7
    | nasi => 8
    | fwProxy => 9
  mem_members a := by cases a <;> decide
  code_injective a b := by cases a <;> cases b <;> decide

def name : AuthenService → String
  | none => "None"
  | login => "Login"
  | enable => "Enable"
  | ppp => "Ppp"
  | pt => "Pt"
  | rCommand => "RCommand"
  | x25 => "X25"
  | nasi => "Nasi"
  | fwProxy => "FwProxy"

end AuthenService

/-- A privilege level, from 0 to 15. -/
structure Privilege where
  level : UInt8
  level_le : level ≤ 15
deriving DecidableEq

namespace Privilege

/-- The least privilege. -/
def minimum : Privilege := ⟨0, by decide⟩

/-- The privilege of a normal user, which is assumed where none is named. -/
def user : Privilege := ⟨1, by decide⟩

/-- The greatest privilege. -/
def root : Privilege := ⟨15, by decide⟩

/-- The privilege of a level, if there is one. -/
def ofLevel? (level : UInt8) : Option Privilege :=
  if h : level ≤ 15 then some ⟨level, h⟩ else none

theorem ofLevel?_eq_some_iff {level : UInt8} {p : Privilege} :
    ofLevel? level = some p ↔ level = p.level := by
  unfold ofLevel?
  constructor
  · intro h
    split at h
    · exact congrArg Privilege.level (Option.some.inj h)
    · simp at h
  · rintro rfl
    simp [p.level_le]

end Privilege

/-! ## Access and origin -/

/-- At what level, by what kind of authentication and for what service access is sought. -/
structure Access where
  privilege : Privilege
  type : AuthenType
  service : AuthenService
deriving DecidableEq

namespace Access

def encode (a : Access) : Octets :=
  [a.privilege.level, Coded.code a.type, Coded.code a.service]

@[simp] theorem length_encode (a : Access) : a.encode.length = 3 := rfl

def fill (a : Access) : Filling Unit := do
  .put 0 [a.privilege.level]
  .put 1 [Coded.code a.type]
  .put 2 [Coded.code a.service]

def decode? (level type service : UInt8) : Option Access :=
  match Privilege.ofLevel? level, Coded.ofCode? type, Coded.ofCode? service with
  | some privilege, some type, some service => some ⟨privilege, type, service⟩
  | _, _, _ => none

theorem decode?_eq_some_iff {level type service : UInt8} {a : Access} :
    decode? level type service = some a ↔ [level, type, service] = a.encode := by
  unfold decode? encode
  constructor
  · intro h
    split at h
    · rename_i p t s hp ht hs
      obtain rfl := Option.some.inj h
      simp [Privilege.ofLevel?_eq_some_iff.1 hp, Coded.ofCode?_eq_some_iff.1 ht,
        Coded.ofCode?_eq_some_iff.1 hs]
    · simp at h
  · intro h
    simp only [List.cons.injEq, and_true] at h
    obtain ⟨hp, ht, hs⟩ := h
    rw [Privilege.ofLevel?_eq_some_iff.2 hp, Coded.ofCode?_eq_some_iff.2 ht,
      Coded.ofCode?_eq_some_iff.2 hs]

end Access

/-- Who asks, on which port, and from where. -/
structure Origin where
  user : String
  port : String
  remoteAddress : String
deriving DecidableEq

namespace Origin

/-- The three fields, each cut after its 255th octet. -/
def fields (o : Origin) : List Octets :=
  [o.user, o.port, o.remoteAddress].map fun text => (Text.Utf8.encode text).take 255

/-- Writes the lengths of the fields over the front of a buffer. -/
def fillLengths (o : Origin) : Filling Unit := do
  .put 0 [UInt8.ofNat ((Text.Utf8.encode o.user).take 255).length]
  .put 1 [UInt8.ofNat ((Text.Utf8.encode o.port).take 255).length]
  .put 2 [UInt8.ofNat ((Text.Utf8.encode o.remoteAddress).take 255).length]

/-- Writes the fields over the front of a buffer, and tells where they end. -/
def fillFields (o : Origin) : Filling Nat :=
  .putEach 0 o.fields

/-- Reads an origin from the octets of its fields. -/
def ofFields (user port remoteAddress : Octets) : Origin :=
  ⟨Text.Utf8.decode user, Text.Utf8.decode port, Text.Utf8.decode remoteAddress⟩

/-- How many octets the three fields have together. -/
def wireSize (o : Origin) : Nat :=
  min 255 o.user.utf8ByteSize + min 255 o.port.utf8ByteSize + min 255 o.remoteAddress.utf8ByteSize

@[simp] theorem length_fields (o : Origin) : o.fields.length = 3 := rfl

@[simp high] theorem length_flatten_fields (o : Origin) :
    o.fields.flatten.length = o.wireSize := by
  simp [fields, wireSize, Text.Utf8.length_encode]
  omega

end Origin

end Tacacs
