/-
# `Tacacs.Proofs.Connection.Negotiation` — when a connection counts as kept

A connection has one mark for all its sessions: the server keeps it for further ones.
What sets the mark can be read from the packets that the dispatcher took from the stream, and
from nothing else.  After every run the mark stands if one of these packets establishes it
(`established_after`), whatever sessions, timeouts and calls to close did in between:

    a packet is taken         the mark stands if it stood, or if the packet establishes it
    all else                  the mark is as it was

The second line holds of the steps of sessions and of closings because the mark is not among
what they can change (`BySession`, `ByClosing`).  In the first line, a packet that ends the
connection would be a third case, but it never establishes anything: its body cannot be read.
-/
import Tacacs.Proofs.Connection.Stopping
import Tacacs.Proofs.Connection.Unclaimed
import Tacacs.Proofs.Connection.Untouched

namespace Tacacs

variable {config : Config} {f : Frame}

theorem Frame.not_confirms_of_stops (h : f.stops config = true) : f.confirms config = false := by
  refine Bool.eq_false_iff.2 fun hconfirms => ?_
  obtain ⟨p, hp⟩ := (Frame.confirms_iff.1 hconfirms).reads
  rw [Packet.ofReceived_accounting (Frame.stops_iff.1 h).1] at hp
  cases hp

/-- What a packet can lack to establish that the connection is kept. -/
inductive Unfit (config : Config) (f : Frame) : Prop
  | unasked : config.singleConnect = false → Unfit config f
  | later : f.header.sequence ≠ 2 → Unfit config f
  | silent : f.header.flags.singleConnection = false → Unfit config f
  | mismatched : f.header.flags.unencrypted ≠ config.unencrypted → Unfit config f
  | corrupt {e : DecodeError} : Packet.ofReceived .reply config.key f.header f.body = .error e →
      Unfit config f

/-- A packet is unfit or establishes that the connection is kept. -/
theorem Frame.not_confirms_iff : f.confirms config = false ↔ Unfit config f := by
  rw [Bool.eq_false_iff, ne_eq, Frame.confirms_iff]
  constructor
  · intro h
    by_cases hasked : config.singleConnect = true
    · by_cases hfirst : f.header.sequence = 2
      · by_cases hgrants : f.header.flags.singleConnection = true
        · by_cases hflag : f.header.flags.unencrypted = config.unencrypted
          · cases hread : Packet.ofReceived .reply config.key f.header f.body with
            | ok p => exact absurd ⟨hasked, hfirst, hgrants, hflag, p, hread⟩ h
            | error e => exact .corrupt hread
          · exact .mismatched hflag
        · exact .silent (Bool.eq_false_iff.2 hgrants)
      · exact .later hfirst
    · exact .unasked (Bool.eq_false_iff.2 hasked)
  · rintro h ⟨hasked, hfirst, hgrants, hflag, p, hp⟩
    cases h with
    | unasked h => exact Bool.noConfusion (h.symm.trans hasked)
    | later h => exact h hfirst
    | silent h => exact Bool.noConfusion (h.symm.trans hgrants)
    | mismatched h => exact h hflag
    | corrupt h => cases h.symm.trans hp

namespace Connection

variable {c c' : Connection} {n : Nat} {es : List Effect}

/-! ## Those who carry the mark along -/

theorem established_session (h : c.step (.session n) = some (c', es)) :
    c'.established = c.established := by
  obtain ⟨_, _, _, _, _, rfl⟩ := bySession_step h
  rfl

theorem established_closing (h : c.step (.closing n) = some (c', es)) :
    c'.established = c.established := by
  obtain ⟨_, _, _, _, _, _, rfl⟩ := byClosing_step h
  rfl

/-! ## The dispatcher -/

/-- The dispatcher sets the mark with a packet that says that the server keeps the connection. -/
theorem established_dispatcher (c : Connection) :
    (c.apply (.step .dispatcher)).1.established
      = (c.established || c.nextFrame?.any (Frame.confirms c.config)) := by
  have untaken (h : c.nextFrame? = none)
      (hsame : (c.apply (.step .dispatcher)).1.established = c.established) :
      (c.apply (.step .dispatcher)).1.established
        = (c.established || c.nextFrame?.any (Frame.confirms c.config)) := by
    rw [h, Option.any_none, Bool.or_false, hsame]
  cases hd : c.dispatcher with
  | reading r =>
    by_cases ha : c.arrivals = []
    · refine untaken ?_ (by rw [apply_read_nothing hd ha])
      rw [nextFrame?, hd, ha]
      rfl
    have hframe := nextFrame?_of_reading hd ha
    cases hnext : r.nextFrame c.config.maxBodyLength c.arrivals with
    | mk progress rest =>
      rw [hnext] at hframe
      cases progress with
      | waiting r' => exact untaken hframe (by rw [apply_read_part hd ha hnext])
      | ended =>
        exact untaken hframe (by rw [apply_read_stop hd ha hnext (.inl ⟨rfl, rfl⟩)])
      | failed failure =>
        exact untaken hframe (by rw [apply_read_stop hd ha hnext (.inr ⟨failure, rfl, rfl⟩)])
      | frame f =>
        rw [hframe]
        dsimp only [Option.any_some]
        cases hs : f.stops c.config with
        | true =>
          rw [apply_read_stops hd ha hnext hs, Frame.not_confirms_of_stops hs, Bool.or_false]
        | false => rw [apply_read_goesOn hd ha hnext hs]
  | ending stage told result =>
    refine untaken (nextFrame?_of_not_reading fun r hr => by rw [hd] at hr; cases hr) ?_
    cases stage with
    | mark => rw [apply_mark hd]
    | collect => rw [apply_collect hd]
    | fail ids =>
      cases ids with
      | nil => rw [apply_through hd]
      | cons id ids => rw [apply_fail hd]
  | _ =>
    have hstep : c.step .dispatcher = none := by simp only [step, stepDispatcher, hd]
    refine untaken (nextFrame?_of_not_reading fun r hr => by rw [hd] at hr; cases hr) ?_
    rw [apply_step_of_none hstep]

/-! ## Moves and runs -/

theorem established_outside {m : Move} (h : Happening c m c' es) (hm : ∀ a, m ≠ .step a) :
    c'.established = c.established := by
  cases h with
  | session _ _ => exact absurd rfl (hm _)
  | dispatcher _ => exact absurd rfl (hm _)
  | closing _ _ => exact absurd rfl (hm _)
  | _ => rfl

/-- What a move does to the mark. -/
theorem established_apply (c : Connection) (m : Move) :
    (c.apply m).1.established
      = (c.established || (c.takes? m).any (Frame.confirms c.config)) := by
  by_cases hm : m = .step .dispatcher
  · rw [hm]
    exact established_dispatcher c
  · rw [takes?_of_ne hm, Option.any_none, Bool.or_false]
    by_cases houtside : ∀ a, m ≠ .step a
    · exact established_outside (apply_happening c m) houtside
    · obtain ⟨a, ha⟩ := not_forall.1 houtside
      obtain rfl := Classical.not_not.1 ha
      cases hstep : c.step a with
      | none => rw [apply_step_of_none hstep]
      | some p =>
        rw [apply_step_of_some hstep]
        cases a with
        | dispatcher => exact absurd rfl hm
        | session n => exact established_session hstep
        | closing n => exact established_closing hstep

theorem established_after (c : Connection) (ms : List Move) :
    (c.after ms).established
      = (c.established || (c.taken ms).any (Frame.confirms c.config)) := by
  induction ms using List.reverseRecOn with
  | nil => exact (Bool.or_false _).symm
  | append_singleton ms m ih =>
    have htaken : c.taken (ms ++ [m]) = c.taken ms ++ ((c.after ms).takes? m).toList :=
      gather_concat takes? c ms m
    rw [after_concat, established_apply, ih, config_after, htaken, List.any_append,
      Bool.or_assoc]
    cases (c.after ms).takes? m with
    | none => rfl
    | some f => rw [Option.any_some, Option.toList_some, List.any_cons, List.any_nil, Bool.or_false]

/-- How a connection learns in a run that the server keeps it. -/
structure Negotiated (config : Config) (identifiers : Chap.IdentifierSequence) (ms : List Move) :
    Prop where
  /-- It does not know at the beginning. -/
  begins : (fresh config identifiers).established = false
  /-- It knows if and only if the dispatcher took a packet that establishes it. -/
  learns : ((fresh config identifiers).after ms).established = true ↔
    ∃ f ∈ (fresh config identifiers).taken ms, Establishes config f
  /-- Such a packet goes to the exchange of its session, if there is one, and the connection
  knows from then on. -/
  routed : ∀ before later f, ms = before ++ .step .dispatcher :: later →
    ((fresh config identifiers).after before).nextFrame? = some f → Establishes config f →
      ((fresh config identifiers).after (before ++ [.step .dispatcher])).established = true ∧
      ((fresh config identifiers).after ms).established = true ∧
      ∃ p, Packet.ofReceived .reply config.key f.header f.body = .ok p ∧
        ((fresh config identifiers).after (before ++ [.step .dispatcher])).registry
          = ((fresh config identifiers).after before).registry.settle f.session (.ok p)
  /-- It never forgets. -/
  stays : ∀ before later, ms = before ++ later →
    ((fresh config identifiers).after before).established = true →
      ((fresh config identifiers).after ms).established = true
  /-- A packet that is unfit tells it nothing. -/
  unfit : ∀ f, ((fresh config identifiers).after ms).nextFrame? = some f → Unfit config f →
    ((fresh config identifiers).after (ms ++ [.step .dispatcher])).established
      = ((fresh config identifiers).after ms).established
  /-- Neither does anything that is not a packet from the server. -/
  unmoved : ∀ m, ((fresh config identifiers).after ms).takes? m = none →
    ((fresh config identifiers).after (ms ++ [m])).established
      = ((fresh config identifiers).after ms).established

/-- A packet that establishes the mark goes to the exchange of its session. -/
theorem routed_of_establishes (hnext : c.nextFrame? = some f) (h : Establishes c.config f) :
    (c.apply (.step .dispatcher)).1.established = true ∧
      ∃ p, Packet.ofReceived .reply c.config.key f.header f.body = .ok p ∧
        (c.apply (.step .dispatcher)).1.registry = c.registry.settle f.session (.ok p) := by
  have hconfirms := Frame.confirms_iff.2 h
  have hstops : f.stops c.config = false := by
    refine Bool.eq_false_iff.2 fun hstops => ?_
    rw [Frame.not_confirms_of_stops hstops] at hconfirms
    cases hconfirms
  have hmatch : ¬f.mismatched c.config = true := fun hm => Frame.mismatched_iff.1 hm h.flag
  obtain ⟨p, hp⟩ := h.reads
  have houtcome : f.outcome c.config = .ok p := by
    rw [Frame.outcome, if_neg hmatch, hp]
    rfl
  obtain ⟨r, rest, hd, ha, hread⟩ := nextFrame?_eq_some hnext
  rw [apply_read_goesOn hd ha hread hstops, houtcome, hconfirms, Bool.or_true]
  exact ⟨rfl, p, hp, rfl⟩

theorem established_stays (h : c.established = true) (ms : List Move) :
    (c.after ms).established = true := by
  rw [established_after, h, Bool.true_or]

/-- **A connection is kept if and only if a first reply said so, as it was asked to, with a body
that is hidden as it should be and can be read.** -/
theorem single_connect_negotiated (config : Config) (identifiers : Chap.IdentifierSequence)
    (ms : List Move) : Negotiated config identifiers ms := by
  have hconfig (ms : List Move) : ((fresh config identifiers).after ms).config = config :=
    config_after _ ms
  constructor
  case begins => rfl
  case learns =>
    have hbegin : (fresh config identifiers).established = false := rfl
    rw [established_after, hbegin, Bool.false_or, List.any_eq_true]
    exact exists_congr fun f => and_congr_right fun _ => Frame.confirms_iff
  case routed =>
    rintro before later f rfl hnext hf
    have hset := routed_of_establishes hnext ((hconfig before).symm ▸ hf)
    rw [hconfig before, ← after_concat] at hset
    refine ⟨hset.1, ?_, hset.2⟩
    rw [after_append_cons]
    exact established_stays hset.1 later
  case stays =>
    rintro before later rfl h
    rw [after_append]
    exact established_stays h later
  case unfit =>
    intro f hnext hunfit
    rw [after_concat, established_dispatcher, hnext, Option.any_some, hconfig,
      Frame.not_confirms_iff.2 hunfit, Bool.or_false]
  case unmoved =>
    intro m hm
    rw [after_concat, established_apply, hm, Option.any_none, Bool.or_false]

end Connection

end Tacacs
