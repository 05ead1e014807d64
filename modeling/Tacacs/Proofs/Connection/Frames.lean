/-
# `Tacacs.Proofs.Connection.Frames` — what a received packet does

A packet that came off the stream has at most three effects, and what they are can be
told from the packet and the settings alone:

* it ends the connection, if it is an accounting packet that the dispatcher looks into
  (`Frame.stops`);
* otherwise the exchange of its session is settled with `Frame.outcome`, whatever else
  is registered,
* and it may say that the server keeps the connection (`Frame.confirms`).

`stepFrame_of_goesOn` and `stepFrame_of_stops` say that there is nothing else.  They rest
on one fact about bodies: a body that cannot be read is a corrupt packet and never
anything worse (`Packet.ofReceived_error`), so only the type of a packet can end the
connection.
-/
import Tacacs.Proofs.Connection.Delivery
import Tacacs.Proofs.Packet.Reading

namespace Tacacs

/-! ## One packet -/

namespace Frame

/-- The session that a packet belongs to. -/
def session (f : Frame) : SessionId :=
  f.header.session

/-- The body of a packet is hidden where this connection's packets are open, or the other
way round. -/
def mismatched (config : Config) (f : Frame) : Bool :=
  f.header.flags.unencrypted != config.unencrypted

/-- A packet ends the connection: an accounting packet that is hidden as it should be. -/
def stops (config : Config) (f : Frame) : Bool :=
  f.header.type == .accounting && !f.mismatched config

/-- What the exchange of its session comes to by a packet. -/
def outcome (config : Config) (f : Frame) : Outcome :=
  if f.mismatched config then .error .corruptPacket
  else (Packet.ofReceived .reply config.key f.header f.body).mapError fun _ => .corruptPacket

/-- A packet says that the server keeps the connection, and can be read. -/
def confirms (config : Config) (f : Frame) : Bool :=
  match f.outcome config with
  | .ok _ => Reception.agrees config f.header
  | .error _ => false

theorem mismatched_iff {config : Config} {f : Frame} :
    f.mismatched config = true ↔ f.header.flags.unencrypted ≠ config.unencrypted :=
  bne_iff_ne

theorem stops_iff {config : Config} {f : Frame} :
    f.stops config = true ↔
      f.header.type = .accounting ∧ f.header.flags.unencrypted = config.unencrypted := by
  simp [stops, mismatched]

/-- A packet whose body is hidden where it must not be, or open where it must not be, says
nothing with its body. -/
theorem outcome_of_mismatched {config : Config} {f : Frame} (h : f.mismatched config = true) :
    f.outcome config = .error .corruptPacket ∧ f.confirms config = false ∧
      f.stops config = false := by
  have ho : f.outcome config = .error .corruptPacket := if_pos h
  exact ⟨ho, by rw [confirms, ho], by rw [stops, h, Bool.not_true, Bool.and_false]⟩

theorem not_stops_of_type {config : Config} {f : Frame} (h : f.header.type ≠ .accounting) :
    f.stops config = false := by
  rw [stops, beq_eq_false_iff_ne.2 h, Bool.false_and]

end Frame

variable {config : Config} {f : Frame}

theorem Reception.ofFrame_of_goesOn (h : f.stops config = false) (r : Registry)
    (established : Bool) :
    (ofFrame config r established f).registry = r.settle f.session (f.outcome config) ∧
      (ofFrame config r established f).established = (established || f.confirms config) ∧
      (ofFrame config r established f).fatal = none := by
  by_cases hm : f.mismatched config = true
  · obtain ⟨ho, hc, -⟩ := Frame.outcome_of_mismatched hm
    rw [ho, hc, Bool.or_false, ofFrame, if_pos (Frame.mismatched_iff.1 hm)]
    exact ⟨rfl, rfl, rfl⟩
  · have htype : f.header.type ≠ .accounting := by
      rintro ht
      rw [Frame.stops, ht, Bool.eq_false_iff.2 hm] at h
      cases h
    have ho : f.outcome config = _ := if_neg hm
    rw [ofFrame, if_neg (mt Frame.mismatched_iff.2 hm), Frame.confirms, ho]
    cases hread : Packet.ofReceived .reply config.key f.header f.body with
    | ok p => exact ⟨rfl, rfl, rfl⟩
    | error e =>
      obtain rfl := Packet.ofReceived_error htype hread
      exact ⟨rfl, (Bool.or_false _).symm, rfl⟩

theorem Reception.ofFrame_of_stops (h : f.stops config = true) (r : Registry)
    (established : Bool) :
    (ofFrame config r established f).registry = r ∧
      (ofFrame config r established f).established = established ∧
      (ofFrame config r established f).fatal = some (.unexpectedType .accounting) := by
  obtain ⟨htype, hflag⟩ := Frame.stops_iff.1 h
  rw [ofFrame, if_neg (not_not_intro hflag), Packet.ofReceived_accounting htype]
  exact ⟨rfl, rfl, rfl⟩

namespace Connection

/-- **A packet that does not end the connection** settles the exchange of its session, may
say that the connection is kept, and leaves all else as it is. -/
theorem stepFrame_of_goesOn {c : Connection} (h : f.stops c.config = false) :
    (c.stepFrame f).1 =
      { c with
        registry := c.registry.settle f.session (f.outcome c.config)
        established := c.established || f.confirms c.config
        dispatcher := .reading .start } := by
  obtain ⟨hr, he, hf⟩ := Reception.ofFrame_of_goesOn h c.registry c.established
  unfold stepFrame
  simp only [hr, he, hf]

/-- **A packet that ends the connection** changes no exchange: all will fail. -/
theorem stepFrame_of_stops {c : Connection} (h : f.stops c.config = true) :
    (c.stepFrame f).1 =
      { c with
        dispatcher := .ending .mark (.unexpectedType .accounting)
          (.error (.unexpectedType .accounting)) } := by
  obtain ⟨hr, he, hf⟩ := Reception.ofFrame_of_stops h c.registry c.established
  unfold stepFrame
  simp only [hr, he, hf]
  rfl

/-- The dispatcher finds a packet that does not end the connection, and goes on behind it. -/
theorem apply_read_goesOn {c : Connection} {r : Reader} {rest : List Arrival}
    (hd : c.dispatcher = .reading r) (ha : c.arrivals ≠ [])
    (hnext : r.nextFrame c.config.maxBodyLength c.arrivals = (.frame f, rest))
    (h : f.stops c.config = false) :
    (c.apply (.step .dispatcher)).1 =
      { c with
        registry := c.registry.settle f.session (f.outcome c.config)
        established := c.established || f.confirms c.config
        dispatcher := .reading .start
        arrivals := rest } := by
  rw [apply_read_frame hd ha hnext]
  exact stepFrame_of_goesOn (c := { c with arrivals := rest }) h

/-- The dispatcher finds a packet that ends the connection. -/
theorem apply_read_stops {c : Connection} {r : Reader} {rest : List Arrival}
    (hd : c.dispatcher = .reading r) (ha : c.arrivals ≠ [])
    (hnext : r.nextFrame c.config.maxBodyLength c.arrivals = (.frame f, rest))
    (h : f.stops c.config = true) :
    (c.apply (.step .dispatcher)).1 =
      { c with
        dispatcher := .ending .mark (.unexpectedType .accounting)
          (.error (.unexpectedType .accounting))
        arrivals := rest } := by
  rw [apply_read_frame hd ha hnext]
  exact stepFrame_of_stops (c := { c with arrivals := rest }) h

theorem getElem?_stepFrame_of_ne {c : Connection} {t : Ticket} {e : Exchange}
    (he : c.registry.exchanges[t]? = some e) (hne : e.session ≠ f.session) :
    (c.stepFrame f).1.registry.exchanges[t]? = some e := by
  cases hs : f.stops c.config with
  | true =>
    rw [stepFrame_of_stops hs]
    exact he
  | false =>
    rw [stepFrame_of_goesOn hs, Registry.getElem?_settle, he, Option.map_some, if_neg hne]

end Connection

end Tacacs
