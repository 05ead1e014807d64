/-
# `Tacacs.Authentication` — the bodies of an authentication session

A session opens with a `Start`; the server answers with a `Reply`, which either
ends the session or asks for input; the input goes back in a `Continue`, and so
on.  Each body has a fixed part, in which the lengths of the fields stand, and
then the fields one after the other.

Writing never fails: a field too long for its length octets is cut.  Reading is
strict: the lengths have to account for every octet (`Octets.cut`), and every
code has to be assigned.  Statuses are the exception.  A status that is not
assigned is kept as it is, because a client only has to know that it is not a
pass.
-/
import Tacacs.Access

namespace Tacacs.Authentication

/-! ## Start -/

/-- What a client wants of an authentication session. -/
inductive Action
  | login
  | changePassword
  | sendAuth
deriving DecidableEq

instance : Coded Action where
  members := [.login, .changePassword, .sendAuth]
  code
    | .login => 1
    | .changePassword => 2
    | .sendAuth => 4
  mem_members a := by cases a <;> decide
  code_injective a b := by cases a <;> cases b <;> decide

/-- The body that opens a session. -/
structure Start where
  action : Action
  access : Access
  origin : Origin
  /-- A password, a CHAP answer, or whatever the type of authentication needs. -/
  data : Octets
  /-- The type of authentication is set. -/
  typed : access.type ≠ .notSet
deriving DecidableEq

namespace Start

/-- The start with the given parts, refused if the type of authentication is not set. -/
def new? (action : Action) (access : Access) (origin : Origin) (data : Octets) : Option Start :=
  if h : access.type = .notSet then none else some ⟨action, access, origin, data, h⟩

/-- The fields in their order, cut to what one length octet can tell. -/
def fields (s : Start) : List Octets :=
  s.origin.fields ++ [s.data.take 255]

def encode (s : Start) : Octets :=
  Coded.code s.action :: s.access.encode ++ Octets.sizes s.fields ++ s.fields.flatten

def wireSize (s : Start) : Nat :=
  8 + s.origin.wireSize + min 255 s.data.length

@[simp] theorem length_encode (s : Start) : s.encode.length = s.wireSize := by
  simp [encode, wireSize, fields]
  omega

def fill (s : Start) : Filling Nat := do
  .room s.wireSize
  .put 0 [Coded.code s.action]
  .within 1 3 s.access.fill
  .within 4 3 s.origin.fillLengths
  let data := s.data.take 255
  .put 7 [UInt8.ofNat data.length]
  let origin ← .behind 8 s.origin.fillFields
  .put (8 + origin) data
  return s.wireSize

def decode? : Octets → Option Start
  | action :: level :: type :: service :: user :: port :: remote :: data :: rest =>
    match Octets.cut [user.toNat, port.toNat, remote.toNat, data.toNat] rest,
        Coded.ofCode? action, Access.decode? level type service with
    | some [user, port, remote, data], some action, some access =>
      new? action access (.ofFields user port remote) data
    | _, _, _ => none
  | _ => none

end Start

/-! ## Continue -/

/-- The body that answers a request for input. -/
structure Continue where
  message : String
  data : Octets
  flags : UInt8
deriving DecidableEq

namespace Continue

/-- The client gives the session up. -/
def abort (c : Continue) : Bool :=
  c.flags &&& 0x01 != 0

/-- The message and the data, cut to what two length octets can tell. -/
def fields (c : Continue) : List Octets :=
  [(Text.Utf8.encode c.message).take 65535, c.data.take 65535]

def encode (c : Continue) : Octets :=
  Octets.sizes16 c.fields ++ [c.flags] ++ c.fields.flatten

def wireSize (c : Continue) : Nat :=
  5 + min 65535 c.message.utf8ByteSize + min 65535 c.data.length

@[simp] theorem length_encode (c : Continue) : c.encode.length = c.wireSize := by
  simp [encode, wireSize, fields, Text.Utf8.length_encode]
  omega

def fill (c : Continue) : Filling Nat := do
  .room c.wireSize
  let message := (Text.Utf8.encode c.message).take 65535
  let data := c.data.take 65535
  .put 0 (Octets.be16 message.length)
  .put 2 (Octets.be16 data.length)
  .put 4 [c.flags]
  .put 5 message
  .put (5 + message.length) data
  return c.wireSize

def decode? : Octets → Option Continue
  | m₀ :: m₁ :: d₀ :: d₁ :: flags :: rest =>
    match Octets.cut [Octets.read16 m₀ m₁, Octets.read16 d₀ d₁] rest with
    | some [message, data] => some ⟨Text.Utf8.decode message, data, flags⟩
    | _ => none
  | _ => none

end Continue

/-! ## Reply -/

/-- How a session stands, in the words of the server. -/
inductive Status
  | pass
  | fail
  | getData
  | getUser
  | getPassword
  | restart
  | error
  | follow
  | unknown (code : UInt8)
deriving DecidableEq

namespace Status

def code : Status → UInt8
  | pass => 0x01
  | fail => 0x02
  | getData => 0x03
  | getUser => 0x04
  | getPassword => 0x05
  | restart => 0x06
  | error => 0x07
  | follow => 0x21
  | unknown code => code

def ofCode (code : UInt8) : Status :=
  if code = 0x01 then pass
  else if code = 0x02 then fail
  else if code = 0x03 then getData
  else if code = 0x04 then getUser
  else if code = 0x05 then getPassword
  else if code = 0x06 then restart
  else if code = 0x07 then error
  else if code = 0x21 then follow
  else unknown code

@[simp] theorem code_ofCode (c : UInt8) : (ofCode c).code = c := by
  unfold ofCode
  repeat' split
  all_goals simp only [code, *]

def name : Status → String
  | pass => "Pass"
  | fail => "Fail"
  | getData => "GetData"
  | getUser => "GetUser"
  | getPassword => "GetPassword"
  | restart => "Restart"
  | error => "Error"
  | follow => "Follow"
  | unknown code => "Unknown(" ++ toString code.toNat ++ ")"

end Status

/-- The body of a server's answer. -/
structure Reply where
  status : Status
  flags : UInt8
  message : String
  data : Octets
deriving DecidableEq

namespace Reply

/-- Input must not be shown while it is typed. -/
def noEcho (r : Reply) : Bool :=
  r.flags &&& 0x01 != 0

/-- The message and the data, cut to what two length octets can tell. -/
def fields (r : Reply) : List Octets :=
  [(Text.Utf8.encode r.message).take 65535, r.data.take 65535]

def encode (r : Reply) : Octets :=
  r.status.code :: r.flags :: Octets.sizes16 r.fields ++ r.fields.flatten

def wireSize (r : Reply) : Nat :=
  6 + min 65535 r.message.utf8ByteSize + min 65535 r.data.length

@[simp] theorem length_encode (r : Reply) : r.encode.length = r.wireSize := by
  simp [encode, wireSize, fields, Text.Utf8.length_encode]
  omega

def fill (r : Reply) : Filling Nat := do
  .room r.wireSize
  let message := (Text.Utf8.encode r.message).take 65535
  let data := r.data.take 65535
  .put 0 [r.status.code]
  .put 1 [r.flags]
  .put 2 (Octets.be16 message.length)
  .put 4 (Octets.be16 data.length)
  .put 6 message
  .put (6 + message.length) data
  return r.wireSize

def decode? : Octets → Option Reply
  | status :: flags :: m₀ :: m₁ :: d₀ :: d₁ :: rest =>
    match Octets.cut [Octets.read16 m₀ m₁, Octets.read16 d₀ d₁] rest with
    | some [message, data] => some ⟨.ofCode status, flags, Text.Utf8.decode message, data⟩
    | _ => none
  | _ => none

end Reply

end Tacacs.Authentication
