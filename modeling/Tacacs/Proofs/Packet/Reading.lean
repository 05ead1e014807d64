/-
# `Tacacs.Proofs.Packet.Reading` — what comes of a header and a body

The header of a packet and its direction say of what form the body should be, and then the
body is one or it is not (`ComesTo`):

    a body of that form          the packet, with the header it came with
    no body of that form         a corrupt packet, and nothing worse
    an accounting reply          a type that does not come this way

There is no fourth clause, and `comesTo_ofReceived` is the only place where the reading of
a packet is looked into.  What is said of it elsewhere is read from these three.
-/
import Tacacs.Packet
import Tacacs.Proofs.Body.Grammar

namespace Tacacs.Packet

variable {side : Side} {key body : Octets} {h : Header} {p : Packet} {e : DecodeError}

/-! ## What the header says of the body -/

theorem bodyKind_eq_error_iff :
    bodyKind side h = .error e ↔
      side = .reply ∧ h.type = .accounting ∧ e = .unsupportedType .accounting := by
  unfold bodyKind
  cases side <;> cases h.type <;> simp [eq_comm]

theorem bodyKind_eq_start_iff :
    bodyKind side h = .ok .start ↔
      side = .request ∧ h.type = .authentication ∧ h.sequence = 1 := by
  unfold bodyKind
  cases side <;> cases h.type <;> simp

theorem type_of_bodyKind {b : Body} (hkind : bodyKind side h = .ok b.kind) : h.type = b.type := by
  unfold bodyKind at hkind
  cases side <;> cases htype : h.type <;> rw [htype] at hkind <;> cases b <;>
    grind [Body.kind, Body.type]

/-! ## What comes of the body -/

/-- What comes of a header and a body that was brought to light. -/
inductive ComesTo (side : Side) (h : Header) (plain : Octets) : Except DecodeError Packet → Prop
  | read {b : Body} : bodyKind side h = .ok b.kind → Body.decode b.kind plain = .ok b →
      ComesTo side h plain (.ok ⟨h, b⟩)
  | corrupt {kind : BodyKind} : bodyKind side h = .ok kind → ¬Body.Grammatical plain kind →
      ComesTo side h plain (.error .corruptPacket)
  | unsupported : side = .reply → h.type = .accounting →
      ComesTo side h plain (.error (.unsupportedType .accounting))

theorem comesTo_ofReceived (side : Side) (key : Octets) (h : Header) (body : Octets) :
    ComesTo side h (Pad.toggle key h body) (ofReceived side key h body) := by
  unfold ofReceived ofPlain
  cases hkind : bodyKind side h with
  | error e =>
    obtain ⟨hside, htype, rfl⟩ := bodyKind_eq_error_iff.1 hkind
    exact .unsupported hside htype
  | ok kind =>
    dsimp only
    by_cases hgrammatical : Body.Grammatical (Pad.toggle key h body) kind
    · obtain ⟨b, hbody⟩ := Body.exists_decode_of_grammatical hgrammatical
      obtain ⟨rfl, -, -⟩ := Body.spelt_of_decode hbody
      rw [hbody]
      exact .read hkind hbody
    · rw [Body.decode_of_not_grammatical hgrammatical]
      exact .corrupt hkind hgrammatical

theorem parts_of_read (hread : ofReceived side key h body = .ok p) :
    p.header = h ∧ bodyKind side h = .ok p.body.kind
      ∧ Body.decode p.body.kind (Pad.toggle key h body) = .ok p.body := by
  have hcomes := comesTo_ofReceived side key h body
  rw [hread] at hcomes
  cases hcomes with
  | read hkind hbody => exact ⟨rfl, hkind, hbody⟩

theorem exists_read_of_grammatical {kind : BodyKind} (hkind : bodyKind side h = .ok kind)
    (hgrammatical : Body.Grammatical (Pad.toggle key h body) kind) :
    ∃ p, ofReceived side key h body = .ok p := by
  have hcomes := comesTo_ofReceived side key h body
  generalize ofReceived side key h body = result at hcomes ⊢
  cases hcomes with
  | read _ _ => exact ⟨_, rfl⟩
  | corrupt hkind' hnot =>
    obtain rfl := Except.ok.inj (hkind.symm.trans hkind')
    exact absurd hgrammatical hnot
  | unsupported hside htype =>
    rw [bodyKind_eq_error_iff.2 ⟨hside, htype, rfl⟩] at hkind
    cases hkind

theorem ofReceived_accounting (htype : h.type = .accounting) (body : Octets) :
    ofReceived .reply key h body = .error (.unsupportedType .accounting) := by
  have hcomes := comesTo_ofReceived .reply key h body
  have hnone := bodyKind_eq_error_iff.2 ⟨rfl, htype, rfl⟩
  generalize ofReceived .reply key h body = result at hcomes ⊢
  cases hcomes with
  | read hkind _ => cases hnone.symm.trans hkind
  | corrupt hkind _ => cases hnone.symm.trans hkind
  | unsupported _ _ => rfl

theorem ofReceived_error (htype : h.type ≠ .accounting)
    (he : ofReceived side key h body = .error e) : e = .corruptPacket := by
  have hcomes := comesTo_ofReceived side key h body
  rw [he] at hcomes
  cases hcomes with
  | corrupt _ _ => rfl
  | unsupported _ haccounting => exact absurd haccounting htype

end Tacacs.Packet
