/-
# `Tacacs.Proofs.Packet.Admission` — packets that are read, and packets that are made

A packet that is made passes `Packet.new?`, which asks two things: is the body of the family
that the header names, and does the header have the version that the body needs?  A packet
that is read does not pass it.  This file says what is left of the two.

The family is right in every packet that is read, because the body was looked for by it
(`type_of_bodyKind`).  The version is not looked at again.  Only starts need one, so it may
be wrong in a start and in nothing else (`Misversioned`), and every start in the wrong
version is read (`exists_read_of_misversioned`).  So `new?_of_read` leaves out just these:
any other packet that is read could have been made, and is what `new?` would make of its
parts.  `Misversioned` speaks of octets, and `requiredMinor?_of_start` is the bridge.
-/
import Tacacs.Proofs.Packet.InPlace
import Tacacs.Proofs.Packet.RoundTrip

namespace Tacacs

/-! ## Versions -/

/-- The version for the type of authentication with this code. -/
def MinorVersion.forCode (code : UInt8) : MinorVersion :=
  if code = 1 then .default else .one

theorem AuthenType.requiredMinor?_eq {type : AuthenType} (h : type ≠ .notSet) :
    type.requiredMinor? = some (.forCode (Coded.code type)) := by
  cases type with
  | notSet => exact absurd rfl h
  | _ => rfl

namespace Packet

variable {side : Side} {key body : Octets} {h : Header} {p : Packet}

/-- The header has the version that the body needs. -/
def Versioned (h : Header) (b : Body) : Prop :=
  ∀ minor, b.requiredMinor? = some minor → h.minor = minor

/-- What is made of a header and a body that go together is these two and nothing else. -/
theorem new?_eq_some_iff {b : Body} :
    new? h b = some p ↔ p = ⟨h, b⟩ ∧ h.type = b.type ∧ Versioned h b := by
  constructor
  · intro hnew
    unfold new? at hnew
    split at hnew
    next => cases hnew
    next htype =>
      have htype := Classical.not_not.1 htype
      split at hnew
      next needed hneeded =>
        split at hnew
        next hsame =>
          refine ⟨(Option.some.inj hnew).symm, htype, ?_⟩
          intro minor hminor
          rw [← hsame, Option.some.inj (hneeded.symm.trans hminor)]
        next => cases hnew
      next hnone =>
        refine ⟨(Option.some.inj hnew).symm, htype, ?_⟩
        intro minor hminor
        rw [hnone] at hminor
        cases hminor
  · rintro ⟨rfl, htype, hversioned⟩
    rw [new?, if_neg (not_not_intro htype)]
    cases hneeded : b.requiredMinor? with
    | none => rfl
    | some needed => exact if_pos (hversioned needed hneeded).symm

/-! ## Starts in the wrong version -/

/-- The version that a start needs can be told from its third octet. -/
theorem requiredMinor?_of_start {b : Octets} {start : Body}
    (hread : Body.decode .start b = .ok start) :
    start.requiredMinor? = some (.forCode (b.octet 2)) := by
  obtain ⟨hkind, -, hspelt⟩ := Body.spelt_of_decode hread
  cases start with
  | start s =>
    have htype : Coded.code s.access.type = b.octet 2 := by
      have hcodes : Coded.code s.action :: s.access.encode = b.slice 0 4 := hspelt.codes
      have hfront : (b.slice 0 4).take 4 = b.take 4 := List.take_take
      calc Coded.code s.access.type
          = (Coded.code s.action :: s.access.encode).getD 2 0 := rfl
        _ = b.octet 2 := by rw [hcodes, Octets.getD_congr hfront (by decide), Octets.octet]
    rw [← htype]
    exact AuthenType.requiredMinor?_eq s.typed
  | _ => cases hkind

/-- A start comes in another version than its type of authentication needs. -/
structure Misversioned (side : Side) (key : Octets) (h : Header) (body : Octets) : Prop where
  side : side = .request
  type : h.type = .authentication
  sequence : h.sequence = 1
  start : Body.Grammatical (Pad.toggle key h body) .start
  version : h.minor ≠ .forCode ((Pad.toggle key h body).octet 2)

/-- Nothing but a start can have the wrong version. -/
theorem versioned_iff (hread : ofReceived side key h body = .ok p) :
    Versioned h p.body ↔ ¬Misversioned side key h body := by
  obtain ⟨-, hkind, hbody⟩ := parts_of_read hread
  by_cases hstart : bodyKind side h = .ok .start
  · have hsame : p.body.kind = .start := Except.ok.inj (hkind.symm.trans hstart)
    rw [hsame] at hbody
    obtain ⟨hside, htype, hsequence⟩ := bodyKind_eq_start_iff.1 hstart
    obtain ⟨-, hgrammatical, -⟩ := Body.spelt_of_decode hbody
    have hneeded := requiredMinor?_of_start hbody
    constructor
    · intro hversioned hmis
      exact hmis.version (hversioned _ hneeded)
    · intro hright minor hminor
      obtain rfl := Option.some.inj (hneeded.symm.trans hminor)
      by_contra hother
      exact hright ⟨hside, htype, hsequence, hgrammatical, hother⟩
  · have hnone : p.body.requiredMinor? = none := by
      cases hb : p.body with
      | start s =>
        rw [hb] at hkind
        exact absurd hkind hstart
      | _ => rfl
    refine iff_of_true ?_ ?_
    · intro minor hminor
      rw [hnone] at hminor
      cases hminor
    · intro hmis
      exact hstart (bodyKind_eq_start_iff.2 ⟨hmis.side, hmis.type, hmis.sequence⟩)

/-- What the parts of a packet that was read come to when they are put together again. -/
structure Admission (side : Side) (key : Octets) (h : Header) (body : Octets) (p : Packet) :
    Prop where
  header : p.header = h
  type : p.header.type = p.body.type
  /-- They are this packet, and no other. -/
  admitted : ¬Misversioned side key h body → new? p.header p.body = some p
  refused : Misversioned side key h body → new? p.header p.body = none

theorem admission_of_read (hread : ofReceived side key h body = .ok p) :
    Admission side key h body p := by
  have hversioned := versioned_iff hread
  obtain ⟨hheader, hkind, -⟩ := parts_of_read hread
  have htype := type_of_bodyKind hkind
  obtain ⟨header, b⟩ := p
  obtain rfl : header = h := hheader
  refine ⟨rfl, htype, ?_, ?_⟩
  · intro hright
    exact new?_eq_some_iff.2 ⟨rfl, htype, hversioned.2 hright⟩
  · intro hmis
    refine Option.eq_none_iff_forall_ne_some.2 ?_
    intro q hq
    exact hversioned.1 (new?_eq_some_iff.1 hq).2.2 hmis

/-- Of a reply nothing more has to be asked. -/
theorem new?_of_reply (hread : ofReceived .reply key h body = .ok p) :
    new? p.header p.body = some p := by
  refine (admission_of_read hread).admitted ?_
  intro hmis
  cases hmis.side

/-- Every start in the wrong version is read. -/
theorem exists_read_of_misversioned (hmis : Misversioned side key h body) :
    ∃ p, ofReceived side key h body = .ok p := by
  have hkind : bodyKind side h = .ok .start :=
    bodyKind_eq_start_iff.2 ⟨hmis.side, hmis.type, hmis.sequence⟩
  exact exists_read_of_grammatical hkind hmis.start

theorem read_of_receive {buffer : Octets} (hread : (receive side key buffer).packet = .ok p) :
    ofReceived side key (front buffer) (buffer.slice 12 (claimed buffer)) = .ok p := by
  cases hrefusal : refusal? buffer with
  | some e =>
    rw [receive_of_refusal side key hrefusal] at hread
    cases hread
  | none =>
    rw [receive_of_whole side key hrefusal] at hread
    exact hread

/-- **A packet that is read could have been made, unless it is a start in the wrong
version**, be it read from a body or at the front of a buffer; and if it is such a start it
is read all the same. -/
theorem new?_of_read (side : Side) (key : Octets) :
    (∀ h body p, ofReceived side key h body = .ok p → Admission side key h body p)
      ∧ (∀ buffer p, (receive side key buffer).packet = .ok p →
          Admission side key (front buffer) (buffer.slice 12 (claimed buffer)) p)
      ∧ ∀ h body, Misversioned side key h body → ∃ p, ofReceived side key h body = .ok p := by
  refine ⟨?_, ?_, ?_⟩
  · intro h body p hread
    exact admission_of_read hread
  · intro buffer p hread
    exact admission_of_read (read_of_receive hread)
  · intro h body hmis
    exact exists_read_of_misversioned hmis

/-- A PAP login of the user "u" with the password "p", not hidden, in the given version. -/
def papLogin (minor : MinorVersion) : Octets :=
  [minor.octet, 1, 1, 1, 0, 0, 0, 7, 0, 0, 0, 10,
    1, 1, 2, 1, 1, 0, 0, 1, 0x75, 0x70]

theorem pap_ne_notSet : AuthenType.pap ≠ .notSet := by
  decide

/-- What such a login says. -/
def papPacket (minor : MinorVersion) : Packet :=
  ⟨⟨minor, .authentication, 1, ⟨1⟩, 7⟩,
    .start ⟨.login, ⟨.user, .pap, .login⟩, ⟨"u", "", ""⟩, [0x70], pap_ne_notSet⟩⟩

theorem new?_of_read_papLogin :
    (receive .request [] (papLogin .one)).packet = .ok (papPacket .one)
      ∧ new? (papPacket .one).header (papPacket .one).body = some (papPacket .one) := by
  have hread : (receive .request [] (papLogin .one)).packet = .ok (papPacket .one) := by decide
  refine ⟨hread, ((new?_of_read .request []).2.1 _ _ hread).admitted ?_⟩
  intro hmis
  exact hmis.version (by decide)

/-- A PAP login in the version of ASCII logins is read, but could not be made. -/
theorem papLogin_read_not_made :
    (receive .request [] (papLogin .default)).packet = .ok (papPacket .default)
      ∧ new? (papPacket .default).header (papPacket .default).body ≠ some (papPacket .default) := by
  decide

end Packet

end Tacacs
