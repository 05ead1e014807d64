/-
# `Tacacs.Authorization` — the bodies of an authorization session

A client asks once (`Request`) and is answered once (`Reply`).  Both carry
arguments, whose count stands in the fixed part and whose lengths follow it;
after that come the other fields and then the arguments.  At most 255 arguments
are sent, each cut after its 255th octet.

Reading is as strict as for authentication: the lengths, those of the arguments
with them, have to account for every octet.
-/
import Tacacs.Access
import Tacacs.Argument

namespace Tacacs.Authorization

/-- The octets of the arguments that are sent: the first 255. -/
def sent (arguments : List Argument) : List Octets :=
  (arguments.take 255).map Argument.encode

/-- How many octets the arguments that are sent have, their length octets with them. -/
def sentSize (arguments : List Argument) : Nat :=
  (arguments.take 255).foldr (fun a size => 1 + a.wireSize + size) 0

theorem length_flatten_sent (arguments : List Argument) :
    (sent arguments).length + (sent arguments).flatten.length = sentSize arguments := by
  unfold sent sentSize
  induction arguments.take 255 with
  | nil => rfl
  | cons a as ih =>
    rw [List.map_cons, List.length_cons, List.flatten_cons, List.length_append,
      Argument.length_encode, List.foldr_cons, ← ih]
    omega

/-- Writes the lengths of the arguments that are sent over the front of a buffer, and tells
how many there are. -/
def fillLengths (arguments : List Argument) : Filling Nat := do
  let arguments := arguments.take 255
  .cover (arguments.map fun a => UInt8.ofNat a.wireSize)
  return arguments.length

/-- Writes the arguments that are sent over the front of a buffer, and tells where they end. -/
def fillValues (arguments : List Argument) : Filling Nat :=
  .putEach 0 (sent arguments)

/-! ## Request -/

/-- The body that asks whether a user may do something. -/
structure Request where
  method : AuthenMethod
  access : Access
  origin : Origin
  arguments : List Argument
deriving DecidableEq

namespace Request

def encode (r : Request) : Octets :=
  let arguments := sent r.arguments
  Coded.code r.method :: r.access.encode ++ Octets.sizes r.origin.fields
    ++ [UInt8.ofNat arguments.length] ++ Octets.sizes arguments
    ++ r.origin.fields.flatten ++ arguments.flatten

def wireSize (r : Request) : Nat :=
  8 + r.origin.wireSize + sentSize r.arguments

@[simp] theorem length_encode (r : Request) : r.encode.length = r.wireSize := by
  have := length_flatten_sent r.arguments
  simp [encode, wireSize, -List.length_flatten] at this ⊢
  omega

def fill (r : Request) : Filling Nat := do
  .room r.wireSize
  .put 0 [Coded.code r.method]
  .within 1 3 r.access.fill
  .within 4 3 r.origin.fillLengths
  .put 7 [UInt8.ofNat (r.arguments.take 255).length]
  let lengths ← .behind 8 (fillLengths r.arguments)
  let origin ← .behind (8 + lengths) r.origin.fillFields
  let _ ← .behind (8 + lengths + origin) (fillValues r.arguments)
  return r.wireSize

def decode? : Octets → Option Request
  | method :: level :: type :: service :: user :: port :: remote :: count :: rest =>
    let lengths := rest.take count.toNat
    if lengths.length ≠ count.toNat then none
    else
      match Octets.cut ([user, port, remote] ++ lengths |>.map UInt8.toNat)
          (rest.drop count.toNat),
        Coded.ofCode? method, Access.decode? level type service with
      | some (user :: port :: remote :: arguments), some method, some access =>
        some ⟨method, access, .ofFields user port remote, arguments.map Argument.decode⟩
      | _, _, _ => none
  | _ => none

end Request

/-! ## Reply -/

/-- What a server decided. -/
inductive Status
  /-- Granted; the reply may bring arguments to add. -/
  | passAdd
  /-- Granted; the reply's arguments replace those asked for. -/
  | passReplace
  | fail
  | error
  | follow
  | unknown (code : UInt8)
deriving DecidableEq

namespace Status

def code : Status → UInt8
  | passAdd => 0x01
  | passReplace => 0x02
  | fail => 0x10
  | error => 0x11
  | follow => 0x21
  | unknown code => code

def ofCode (code : UInt8) : Status :=
  if code = 0x01 then passAdd
  else if code = 0x02 then passReplace
  else if code = 0x10 then fail
  else if code = 0x11 then error
  else if code = 0x21 then follow
  else unknown code

@[simp] theorem code_ofCode (c : UInt8) : (ofCode c).code = c := by
  unfold ofCode
  repeat' split
  all_goals simp only [code, *]

/-- What was asked for is granted. -/
def isPass : Status → Bool
  | passAdd | passReplace => true
  | _ => false

end Status

/-- The body of a server's answer. -/
structure Reply where
  status : Status
  message : String
  data : Octets
  arguments : List Argument
deriving DecidableEq

namespace Reply

/-- The message and the data, cut to what two length octets can tell. -/
def fields (r : Reply) : List Octets :=
  [(Text.Utf8.encode r.message).take 65535, r.data.take 65535]

def encode (r : Reply) : Octets :=
  let arguments := sent r.arguments
  r.status.code :: UInt8.ofNat arguments.length :: Octets.sizes16 r.fields
    ++ Octets.sizes arguments ++ r.fields.flatten ++ arguments.flatten

def wireSize (r : Reply) : Nat :=
  6 + min 65535 r.message.utf8ByteSize + min 65535 r.data.length + sentSize r.arguments

@[simp] theorem length_encode (r : Reply) : r.encode.length = r.wireSize := by
  have := length_flatten_sent r.arguments
  simp [encode, wireSize, fields, Text.Utf8.length_encode, -List.length_flatten] at this ⊢
  omega

def fill (r : Reply) : Filling Nat := do
  .room r.wireSize
  let message := (Text.Utf8.encode r.message).take 65535
  let data := r.data.take 65535
  .put 0 [r.status.code]
  .put 1 [UInt8.ofNat (r.arguments.take 255).length]
  .put 2 (Octets.be16 message.length)
  .put 4 (Octets.be16 data.length)
  let lengths ← .behind 6 (fillLengths r.arguments)
  let dataPlace := 6 + lengths + message.length
  .put (6 + lengths) message
  .put dataPlace data
  let _ ← .behind (dataPlace + data.length) (fillValues r.arguments)
  return r.wireSize

def decode? : Octets → Option Reply
  | status :: count :: m₀ :: m₁ :: d₀ :: d₁ :: rest =>
    let lengths := rest.take count.toNat
    if lengths.length ≠ count.toNat then none
    else
      match Octets.cut (Octets.read16 m₀ m₁ :: Octets.read16 d₀ d₁ :: lengths.map UInt8.toNat)
          (rest.drop count.toNat) with
      | some (message :: data :: arguments) =>
        some ⟨.ofCode status, Text.Utf8.decode message, data, arguments.map Argument.decode⟩
      | _ => none
  | _ => none

end Reply

end Tacacs.Authorization
