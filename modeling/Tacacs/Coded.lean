/-
# `Tacacs.Coded` — enumerations with a one-octet code

Many octets of a packet are codes: of a packet type, an action, a method.  Such
an enumeration lists its members and gives each a code of its own, and then
reading an octet is looking for the member that has it.  The two laws in the
class are what makes reading and writing inverse: `ofCode?_eq_some_iff` says
that an octet is read as a member exactly when it is that member's code.
-/
namespace Tacacs

/-- An enumeration whose members have codes of one octet each. -/
class Coded (α : Type) where
  /-- Every member, in the order of the codes. -/
  members : List α
  code : α → UInt8
  mem_members : ∀ a, a ∈ members
  code_injective : ∀ a b, code a = code b → a = b

namespace Coded

variable {α : Type} [Coded α]

/-- The member an octet stands for, if it is assigned. -/
def ofCode? (octet : UInt8) : Option α :=
  members.find? fun a => code a == octet

theorem ofCode?_eq_some_iff {octet : UInt8} {a : α} : ofCode? octet = some a ↔ octet = code a := by
  unfold ofCode?
  constructor
  · intro h
    have hc := List.find?_some h
    exact (beq_iff_eq.1 hc).symm
  · rintro rfl
    rcases h : members.find? (fun b => code b == code a) with _ | b
    · simpa using List.find?_eq_none.1 h a (mem_members a)
    · have hc := List.find?_some h
      rw [code_injective _ _ (beq_iff_eq.1 hc)]

@[simp] theorem ofCode?_code (a : α) : ofCode? (code a) = some a :=
  ofCode?_eq_some_iff.2 rfl

end Coded

end Tacacs
