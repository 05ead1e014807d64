/-
# `Tacacs.Proofs.Connection.Unmixed` — packets go out one after the other

Every octet that the stream takes is noted with the session it comes from (`accepted`).
Beside that four records are kept of a run: the packets in the order in which their
sessions took the writing side (`takings`), the sends that came to a good end
(`successes`), those that came to a bad one (`failures`), and the sessions that were cut
off in the middle of writing (`spoiled`).

In a run in which nobody is cut off the writing side is given back only when a packet is
completely out.  So the takings are the successes, in the same order, and perhaps one
more, which is under way; and the stream has taken the octets of the successes and what is
gone of the packet under way (`Carried`).  It is kept because there are only four things
that a move can do to the writing (`Carries`).

That nothing goes out twice is a matter of tickets: who has not yet taken the writing side
has a ticket that is not among the takings, and a send that fails takes its ticket with it
(`Apart`).
-/
import Tacacs.Proofs.Connection.WritingSide
import Tacacs.Proofs.Connection.Replies

namespace Tacacs

/-! ## What is picked from a move -/

/-- The packet a session is writing, and what is still to be written of it. -/
def SessionPhase.outgoing? : SessionPhase → Option (Sending × Octets)
  | .writing o rest => some (o, rest)
  | .flushing o => some (o, [])
  | .idle | .ready _ | .registered _ | .queued _ | .unsent _ _ | .awaiting _ _ | .finished _
  | .dropped => none

/-- The exchange of a packet of which nothing was written, if nobody is cut off. -/
def SessionPhase.unwritten? : SessionPhase → Option Ticket
  | .registered o | .queued o | .unsent o _ => some o.ticket
  | .idle | .ready _ | .writing _ _ | .flushing _ | .awaiting _ _ | .finished _ | .dropped => none

/-- Octets of a session. -/
def octetsFrom (n : Nat) (octets : Octets) : List (Nat × UInt8) :=
  octets.map fun x => (n, x)

/-- The octets of packets of sessions, one after the other. -/
def octetsOfAll (ws : List (Nat × Sending)) : List (Nat × UInt8) :=
  ws.flatMap fun w => octetsFrom w.1 w.2.octets

namespace Connection

/-- The session that has the writing side, its packet, and what is still to be written of
it. -/
def underway? (c : Connection) : Option (Nat × Sending × Octets) :=
  match c.writer with
  | some (.session n) => (c.phaseAt n).outgoing?.map fun out => (n, out)
  | _ => none

/-- The octets that the stream takes with a move, and the session they are from. -/
def takenFrom? (c : Connection) : Move → Option (Nat × Octets)
  | .step (.session n) =>
    ((c.apply (.step (.session n))).2.findSome? Effect.sent?).map fun octets => (n, octets)
  | _ => none

/-- The session that takes the writing side with a move, and the packet it is going to
write. -/
def takesWriter? (c : Connection) (m : Move) : Option (Nat × Sending) :=
  match c.writer with
  | none => (c.apply m).1.underway?.map fun out => (out.1, out.2.1)
  | some _ => none

/-- The session that comes to the good end of a send with a move: its packet is written and
flushed, and now it waits for the reply. -/
def succeeds? (c : Connection) : Move → Option (Nat × Sending)
  | .step (.session n) =>
    match c.phaseAt n, (c.apply (.step (.session n))).1.phaseAt n with
    | .flushing o, .awaiting _ _ => some (n, o)
    | _, _ => none
  | _ => none

/-- The session that comes to the bad end of a send with a move, and the exchange that it
had registered for the packet, if it had come so far. -/
def fails? (c : Connection) : Move → Option (Nat × Option Ticket)
  | .step (.session n) =>
    match c.phaseAt n, (c.apply (.step (.session n))).1.phaseAt n with
    | .ready _, .finished _ => some (n, none)
    | .unsent o _, .finished _ => some (n, some o.ticket)
    | _, _ => none
  | _ => none

/-- The session that is cut off with a move: it has the writing side, and writing fails, or
flushing does, or it is called off. -/
def spoils? (c : Connection) (m : Move) : Option Nat :=
  c.underway?.bind fun out =>
    match (c.apply m).1.phaseAt out.1 with
    | .unsent _ _ | .dropped => some out.1
    | _ => none

/-- The packets that are written in a run, in the order in which their sessions took the
writing side. -/
def takings (c : Connection) (ms : List Move) : List (Nat × Sending) :=
  gather takesWriter? c ms

/-- The sends that come to a good end in a run. -/
def successes (c : Connection) (ms : List Move) : List (Nat × Sending) :=
  gather succeeds? c ms

/-- The sends that come to a bad end in a run. -/
def failures (c : Connection) (ms : List Move) : List (Nat × Option Ticket) :=
  gather fails? c ms

/-- The sessions that are cut off in a run. -/
def spoiled (c : Connection) (ms : List Move) : List Nat :=
  gather spoils? c ms

/-- The octets that the stream takes in a run, and from whom. -/
def accepted (c : Connection) (ms : List Move) : List (Nat × UInt8) :=
  (gather takenFrom? c ms).flatMap fun taken => octetsFrom taken.1 taken.2

/-- The octets that the stream is seen to take in a run. -/
def streamed (c : Connection) (ms : List Move) : Octets :=
  ((c.run ms).2.filterMap Effect.sent?).flatten

variable {c : Connection} {n k : Nat} {s : Session} {o : Sending} {rest octets : Octets}
  {m : Move} {ms : List Move} {t : Ticket} {phase next : SessionPhase}

/-! ## What is under way -/

theorem writes_of_outgoing? (h : phase.outgoing? = some (o, rest)) : phase.writes = true := by
  cases phase with
  | writing _ _ => rfl
  | flushing _ => rfl
  | _ => cases h

theorem outgoing?_of_writes (h : phase.writes = true) :
    ∃ o rest, phase.outgoing? = some (o, rest) := by
  cases phase with
  | writing o rest => exact ⟨o, rest, rfl⟩
  | flushing o => exact ⟨o, [], rfl⟩
  | _ => cases h

theorem underway?_eq_some (h : OneWriter c) :
    c.underway? = some (n, o, rest) ↔ (c.phaseAt n).outgoing? = some (o, rest) := by
  constructor
  · intro hu
    unfold underway? at hu
    split at hu
    · obtain ⟨out, hout, he⟩ := Option.map_eq_some_iff.1 hu
      obtain ⟨rfl, rfl⟩ := Prod.mk.inj he
      exact hout
    · cases hu
  · intro hout
    have hw : c.writer = some (.session n) := (h (.session n)).1 (writes_of_outgoing? hout)
    simp only [underway?, hw, hout, Option.map_some]

theorem underway?_eq_none (h : OneWriter c) :
    c.underway? = none ↔ ∀ n, (c.phaseAt n).writes = false := by
  constructor
  · intro hnone n
    refine Bool.eq_false_iff.2 ?_
    intro hwrites
    obtain ⟨o, rest, hout⟩ := outgoing?_of_writes hwrites
    exact nomatch hnone.symm.trans ((underway?_eq_some h).2 hout)
  · intro hquiet
    refine Option.eq_none_iff_forall_ne_some.2 ?_
    rintro ⟨n, o, rest⟩ hu
    have hwrites := writes_of_outgoing? ((underway?_eq_some h).1 hu)
    exact nomatch (hquiet n).symm.trans hwrites

theorem eq_of_underway? (h : OneWriter c) (hu : c.underway? = some (n, o, rest))
    (hk : (c.phaseAt k).writes = true) : k = n := by
  have hn : c.Holds (.session n) := writes_of_outgoing? ((underway?_eq_some h).1 hu)
  exact Agent.session.inj (eq_of_holds h hk hn)

theorem writer_of_underway? (hu : c.underway? = some (n, o, rest)) :
    c.writer = some (.session n) := by
  unfold underway? at hu
  split at hu
  next hw =>
    obtain ⟨out, -, he⟩ := Option.map_eq_some_iff.1 hu
    rw [hw, (Prod.mk.inj he).1]
  next => cases hu

/-! ## What a move does to the writing -/

theorem takenFrom?_eq_none (h : ∀ octets, .sent octets ∉ (c.apply m).2) :
    c.takenFrom? m = none := by
  unfold takenFrom?
  split
  · rw [Option.map_eq_none_iff, List.findSome?_eq_none_iff]
    intro e he
    cases e with
    | sent octets => exact absurd he (h octets)
    | _ => rfl
  · rfl

theorem succeeds?_eq_some (h : c.succeeds? m = some (n, o)) :
    m = .step (.session n) ∧ c.phaseAt n = .flushing o ∧
      ∃ q w, (c.apply m).1.phaseAt n = .awaiting q w := by
  unfold succeeds? at h
  split at h
  · split at h
    · rename_i hphase hnext
      obtain ⟨rfl, rfl⟩ := Prod.mk.inj (Option.some.inj h)
      exact ⟨rfl, hphase, _, _, hnext⟩
    · cases h
  · cases h

theorem succeeds?_eq_none (h : ∀ n o, m = .step (.session n) → c.phaseAt n = .flushing o →
    ∀ q w, (c.apply m).1.phaseAt n ≠ .awaiting q w) : c.succeeds? m = none := by
  refine Option.eq_none_iff_forall_ne_some.2 ?_
  rintro ⟨n, o⟩ hs
  obtain ⟨hm, hphase, q, w, hnext⟩ := succeeds?_eq_some hs
  exact h n o hm hphase q w hnext

/-- What a move does to the writing: what is under way before and after it, and between
them who takes the writing side, who comes to a good end, and what the stream takes. -/
inductive Carries : Option (Nat × Sending × Octets) → Option (Nat × Sending) →
    Option (Nat × Sending) → Option (Nat × Octets) → Option (Nat × Sending × Octets) → Prop
  | rests {u : Option (Nat × Sending × Octets)} : Carries u none none none u
  | takes {n : Nat} {o : Sending} : Carries none (some (n, o)) none none (some (n, o, o.octets))
  | writes {n : Nat} {o : Sending} {octets left : Octets} :
      Carries (some (n, o, octets ++ left)) none none (some (n, octets)) (some (n, o, left))
  | gives {n : Nat} {o : Sending} : Carries (some (n, o, [])) none (some (n, o)) none none

/-- Who writes after a move and did not before was in line, and has everything still to
write. -/
theorem queued_of_not_writes (h : (c.phaseAt n).writes = false)
    (hwrites : ((c.apply m).1.phaseAt n).writes = true) :
    ∃ o, c.phaseAt n = .queued o ∧ (c.apply m).1.phaseAt n = .writing o o.octets := by
  cases hn : c.sessions[n]? with
  | none =>
    rw [phaseAt_new hn m] at hwrites
    cases hwrites
  | some s =>
    obtain ⟨s', hs', -, hturn⟩ := session_apply hn m
    rw [phaseAt_of_some hn] at h ⊢
    rw [phaseAt_of_some hs'] at hwrites ⊢
    generalize s'.phase = next at hturn hwrites
    cases hturn with
    | stays _ => exact nomatch h.symm.trans hwrites
    | called _ _ => cases hwrites
    | refused _ => cases hwrites
    | dropped _ => cases hwrites
    | passes hp =>
      rcases writes_passage hp h with hnext | htakes
      · exact nomatch hnext.symm.trans hwrites
      · exact htakes

theorem carries_idle (h : OneWriter c) (hu : c.underway? = none) (m : Move) :
    Carries none (c.takesWriter? m) (c.succeeds? m) (c.takenFrom? m) (c.apply m).1.underway? := by
  have hquiet := (underway?_eq_none h).1 hu
  have hone := oneWriter_hands h (hands_apply h m)
  have htaken : c.takenFrom? m = none := by
    refine takenFrom?_eq_none ?_
    intro octets hsent
    obtain ⟨n, s, o, left, -, hn, hs, -⟩ := sent_origin hsent
    have hnot := hquiet n
    rw [phaseAt_of_some hn, hs] at hnot
    cases hnot
  have hsucceeds : c.succeeds? m = none := by
    refine succeeds?_eq_none ?_
    rintro n o - hphase
    have hnot := hquiet n
    rw [hphase] at hnot
    cases hnot
  rw [htaken, hsucceeds]
  cases hu' : (c.apply m).1.underway? with
  | none =>
    have htakes : c.takesWriter? m = none := by
      unfold takesWriter?
      split
      · rw [hu', Option.map_none]
      · rfl
    rw [htakes]
    exact .rests
  | some out =>
    obtain ⟨n, o, rest⟩ := out
    have hout := (underway?_eq_some hone).1 hu'
    have hholds : (c.apply m).1.Holds (.session n) := writes_of_outgoing? hout
    obtain ⟨o', -, hnext⟩ := queued_of_not_writes (hquiet n) hholds
    rw [hnext] at hout
    cases hout
    cases hands_apply h m with
    | stays _ hsame => exact nomatch (hquiet n).symm.trans ((hsame (.session n)).1 hholds)
    | takes hnone _ _ =>
      have htakes : c.takesWriter? m = some (n, o) := by
        simp only [takesWriter?, hnone, hu', Option.map_some]
      rw [htakes]
      exact .takes
    | gives _ hnone _ => cases hnone.symm.trans (writer_of_underway? hu')

theorem outgoing?_eq_some (h : phase.outgoing? = some (o, rest)) :
    phase = .writing o rest ∨ phase = .flushing o ∧ rest = [] := by
  cases phase with
  | writing _ _ =>
    obtain ⟨rfl, rfl⟩ := Prod.mk.inj (Option.some.inj h)
    exact .inl rfl
  | flushing _ =>
    obtain ⟨rfl, rfl⟩ := Prod.mk.inj (Option.some.inj h)
    exact .inr ⟨rfl, rfl⟩
  | _ => cases h

theorem not_spoiled (hu : c.underway? = some (n, o, rest)) (hcalm : c.spoils? m = none) :
    (∀ o f, (c.apply m).1.phaseAt n ≠ .unsent o f) ∧ (c.apply m).1.phaseAt n ≠ .dropped := by
  refine ⟨?_, ?_⟩
  · intro o f hphase
    simp only [spoils?, hu, Option.bind_some, hphase] at hcalm
    cases hcalm
  · intro hphase
    simp only [spoils?, hu, Option.bind_some, hphase] at hcalm
    cases hcalm

theorem carries_rests (h : OneWriter c) (hu : c.underway? = some (n, o, rest))
    (hsame : (c.apply m).1.phaseAt n = c.phaseAt n)
    (hnot : ∀ octets, .sent octets ∉ (c.apply m).2) :
    Carries (some (n, o, rest)) none (c.succeeds? m) (c.takenFrom? m) (c.apply m).1.underway? := by
  have hone := oneWriter_hands h (hands_apply h m)
  have hsucceeds : c.succeeds? m = none := by
    refine succeeds?_eq_none ?_
    rintro k o' - hphase q w hnext
    obtain rfl := eq_of_underway? h hu (by rw [hphase]; rfl)
    cases hnext.symm.trans (hsame.trans hphase)
  have hu' : (c.apply m).1.underway? = some (n, o, rest) := by
    rw [underway?_eq_some hone, hsame]
    exact (underway?_eq_some h).1 hu
  rw [hsucceeds, takenFrom?_eq_none hnot, hu']
  exact .rests

theorem carries_writing (h : OneWriter c) (hu : c.underway? = some (n, o, rest))
    (hphase : c.phaseAt n = .writing o rest) (hcalm : c.spoils? (.step (.session n)) = none) :
    Carries (some (n, o, rest)) none (c.succeeds? (.step (.session n)))
      (c.takenFrom? (.step (.session n))) (c.apply (.step (.session n))).1.underway? := by
  have hone := oneWriter_hands h (hands_apply h (.step (.session n)))
  obtain ⟨s, hn, hs⟩ := session_of_phaseAt hphase nofun
  obtain ⟨s', hs', -, hwrote⟩ := step_writing hn hs
  have hnext := phaseAt_of_some hs'
  generalize hes : (c.apply (.step (.session n))).2 = es at hwrote
  generalize s'.phase = next at hnext hwrote
  cases hwrote with
  | @took octets left _ hrest =>
    subst hrest
    have htaken : c.takenFrom? (.step (.session n)) = some (n, octets) := by
      simp only [takenFrom?, hes]
      rfl
    have hsucceeds : c.succeeds? (.step (.session n)) = none := by
      refine succeeds?_eq_none ?_
      intro k o' hk hflushing
      cases hk
      cases hphase.symm.trans hflushing
    have hu' : (c.apply (.step (.session n))).1.underway? = some (n, o, left) := by
      rw [underway?_eq_some hone, hnext]
      cases left <;> rfl
    rw [htaken, hsucceeds, hu']
    exact .writes
  | broke _ => exact absurd hnext ((not_spoiled hu hcalm).1 _ _)
  | waits =>
    refine carries_rests h hu (hnext.trans hphase.symm) ?_
    rw [hes]
    exact fun _ => List.not_mem_nil

theorem carries_flushing (h : OneWriter c) (hu : c.underway? = some (n, o, []))
    (hphase : c.phaseAt n = .flushing o) (hcalm : c.spoils? (.step (.session n)) = none) :
    Carries (some (n, o, [])) none (c.succeeds? (.step (.session n)))
      (c.takenFrom? (.step (.session n))) (c.apply (.step (.session n))).1.underway? := by
  have hone := oneWriter_hands h (hands_apply h (.step (.session n)))
  obtain ⟨s, hn, hs⟩ := session_of_phaseAt hphase nofun
  obtain ⟨s', hs', -, hturn⟩ := session_apply hn (.step (.session n))
  have hnext := phaseAt_of_some hs'
  have hsent (octets : Octets) : .sent octets ∉ (c.apply (.step (.session n))).2 := by
    intro hmem
    obtain ⟨s₀, o', rest, hn₀, hwriting⟩ := sent_apply hmem
    obtain rfl := Option.some.inj (hn.symm.trans hn₀)
    cases hs.symm.trans hwriting
  generalize s'.phase = next at hnext hturn
  cases hturn with
  | stays _ => exact carries_rests h hu (hnext.trans (phaseAt_of_some hn).symm) hsent
  | passes hp =>
    rw [hs] at hp
    generalize (c.apply (.step (.session n))).1.registry = r at hp
    cases hp with
    | spills => exact absurd hnext ((not_spoiled hu hcalm).1 _ _)
    | sent =>
      have hsucceeds : c.succeeds? (.step (.session n)) = some (n, o) := by
        simp only [succeeds?, hphase, hnext]
      -- the writing side is given back, and nobody has taken it yet
      have hu' : (c.apply (.step (.session n))).1.underway? = none := by
        refine (underway?_eq_none hone).2 ?_
        intro k
        refine Bool.eq_false_iff.2 ?_
        intro hwrites
        cases hands_apply h (.step (.session n)) with
        | stays _ hsame =>
          obtain rfl := eq_of_underway? h hu ((hsame (.session k)).1 hwrites)
          rw [hnext] at hwrites
          cases hwrites
        | takes hnone _ _ => cases hnone.symm.trans (writer_of_underway? hu)
        | gives _ hnone _ => cases hnone.symm.trans ((hone (.session k)).1 hwrites)
      rw [takenFrom?_eq_none hsent, hsucceeds, hu']
      exact .gives

theorem carries_busy (h : OneWriter c) (hu : c.underway? = some (n, o, rest))
    (hcalm : c.spoils? m = none) :
    Carries (some (n, o, rest)) none (c.succeeds? m) (c.takenFrom? m)
      (c.apply m).1.underway? := by
  have hout := (underway?_eq_some h).1 hu
  by_cases hm : m = .step (.session n)
  · subst hm
    obtain hphase | ⟨hphase, rfl⟩ := outgoing?_eq_some hout
    · exact carries_writing h hu hphase hcalm
    · exact carries_flushing h hu hphase hcalm
  · have hwrites := writes_of_outgoing? hout
    have hbusy : c.phaseAt n ≠ .idle := by
      intro hidle
      rw [hidle] at hwrites
      cases hwrites
    obtain ⟨s, hn, hs⟩ := session_of_phaseAt rfl hbusy
    obtain ⟨s', hs', -, hturn⟩ := session_apply hn m
    have hnext := phaseAt_of_some hs'
    -- only the session that is under way sends
    have hsent (octets : Octets) : .sent octets ∉ (c.apply m).2 := by
      intro hmem
      obtain ⟨k, s₀, o', left, rfl, hk, hwriting, -⟩ := sent_origin hmem
      have hkwrites : (c.phaseAt k).writes = true := by
        rw [phaseAt_of_some hk, hwriting]
        rfl
      exact hm (eq_of_underway? h hu hkwrites ▸ rfl)
    generalize s'.phase = next at hnext hturn
    cases hturn with
    | stays _ => exact carries_rests h hu (hnext.trans hs) hsent
    | called hidle _ => exact absurd (hs.symm.trans hidle) hbusy
    | refused hidle => exact absurd (hs.symm.trans hidle) hbusy
    | dropped _ => exact absurd hnext (not_spoiled hu hcalm).2
    | passes _ => exact absurd rfl hm

/-- **There are four things that a move can do to the writing, if nobody is cut off.** -/
theorem carries_apply (h : OneWriter c) (hcalm : c.spoils? m = none) :
    Carries c.underway? (c.takesWriter? m) (c.succeeds? m) (c.takenFrom? m)
      (c.apply m).1.underway? := by
  cases hu : c.underway? with
  | none => exact carries_idle h hu m
  | some out =>
    obtain ⟨n, o, rest⟩ := out
    have htakes : c.takesWriter? m = none := by
      simp only [takesWriter?, writer_of_underway? hu]
    rw [htakes]
    exact carries_busy h hu hcalm

/-! ## What the stream has taken -/

/-- How the records fit what is under way: the packets were taken up in the order in which
they are out, and of the last one, if it is under way, a part may be missing. -/
def Carried (took ok : List (Nat × Sending)) (out : List (Nat × UInt8)) :
    Option (Nat × Sending × Octets) → Prop
  | none => took = ok ∧ out = octetsOfAll ok
  | some (n, o, rest) => took = ok ++ [(n, o)] ∧
    ∃ gone, o.octets = gone ++ rest ∧ out = octetsOfAll ok ++ octetsFrom n gone

variable {took ok : List (Nat × Sending)} {out : List (Nat × UInt8)}
  {failed : List (Nat × Option Ticket)} {u u' : Option (Nat × Sending × Octets)}

theorem octetsFrom_append (n : Nat) (octets left : Octets) :
    octetsFrom n (octets ++ left) = octetsFrom n octets ++ octetsFrom n left :=
  List.map_append

theorem map_snd_octetsFrom (n : Nat) (octets : Octets) :
    (octetsFrom n octets).map Prod.snd = octets := by
  rw [octetsFrom, List.map_map]
  exact List.map_id octets

theorem octetsOfAll_concat (ws : List (Nat × Sending)) (n : Nat) (o : Sending) :
    octetsOfAll (ws ++ [(n, o)]) = octetsOfAll ws ++ octetsFrom n o.octets := by
  rw [octetsOfAll, List.flatMap_append, List.flatMap_singleton]
  rfl

/-- Whatever a move does to the writing, the records fit it. -/
theorem carried_carries {tk sc : Option (Nat × Sending)} {tn : Option (Nat × Octets)}
    (h : Carried took ok out u) (hc : Carries u tk sc tn u') :
    Carried (took ++ tk.toList) (ok ++ sc.toList)
      (out ++ tn.toList.flatMap fun taken => octetsFrom taken.1 taken.2) u' := by
  cases hc with
  | rests => simpa only [Option.toList_none, List.flatMap_nil, List.append_nil] using h
  | @takes n o =>
    obtain ⟨rfl, rfl⟩ := h
    simp only [Option.toList_none, Option.toList_some, List.flatMap_nil, List.append_nil]
    exact ⟨rfl, [], rfl, (List.append_nil _).symm⟩
  | @writes n o octets left =>
    obtain ⟨rfl, gone, ho, rfl⟩ := h
    simp only [Option.toList_none, Option.toList_some, List.flatMap_singleton, List.append_nil]
    refine ⟨rfl, gone ++ octets, ?_, ?_⟩
    · rw [ho, List.append_assoc]
    · rw [octetsFrom_append, List.append_assoc]
  | @gives n o =>
    obtain ⟨rfl, gone, ho, rfl⟩ := h
    simp only [Option.toList_none, Option.toList_some, List.flatMap_nil, List.append_nil]
    rw [List.append_nil] at ho
    exact ⟨rfl, by rw [octetsOfAll_concat, ho]⟩

theorem spoiled_concat (h : spoiled c (ms ++ [m]) = []) :
    spoiled c ms = [] ∧ (c.after ms).spoils? m = none := by
  rw [spoiled, gather_concat] at h
  obtain ⟨hms, hm⟩ := List.append_eq_nil_iff.1 h
  exact ⟨hms, Option.toList_eq_nil_iff.1 hm⟩

/-- **In every run in which nobody is cut off the records fit what is under way.** -/
theorem carried_after (config : Config) (identifiers : Chap.IdentifierSequence)
    (h : spoiled (fresh config identifiers) ms = []) :
    Carried (takings (fresh config identifiers) ms) (successes (fresh config identifiers) ms)
      (accepted (fresh config identifiers) ms) ((fresh config identifiers).after ms).underway? := by
  induction ms using List.reverseRecOn with
  | nil => exact ⟨rfl, rfl⟩
  | append_singleton ms m ih =>
    obtain ⟨hms, hm⟩ := spoiled_concat h
    have hmove := carries_apply (oneWriter_after config identifiers ms) hm
    rw [takings, successes, accepted, gather_concat, gather_concat, gather_concat, after_concat,
      List.flatMap_append]
    exact carried_carries (ih hms) hmove

/-! ## What is seen of it -/

theorem sent_effects (c : Connection) (m : Move) :
    (c.apply m).2.filterMap Effect.sent? = (c.takenFrom? m).toList.map Prod.snd := by
  by_cases hsent : ∃ octets, .sent octets ∈ (c.apply m).2
  · obtain ⟨octets, hmem⟩ := hsent
    obtain ⟨n, s, o, left, rfl, hn, hs, -⟩ := sent_origin hmem
    obtain ⟨s', -, -, hwrote⟩ := step_writing hn hs
    generalize hes : (c.apply (.step (.session n))).2 = es at hwrote hmem ⊢
    generalize s'.phase = next at hwrote
    rw [takenFrom?, hes]
    cases hwrote with
    | took _ _ => rfl
    | broke hwoke => exact nomatch hwoke _ hmem
    | waits => cases hmem
  · have hnot (octets : Octets) (hmem : .sent octets ∈ (c.apply m).2) : False :=
      hsent ⟨octets, hmem⟩
    rw [takenFrom?_eq_none hnot, Option.toList_none, List.map_nil, List.filterMap_eq_nil_iff]
    intro e he
    cases e with
    | sent octets => exact absurd he (hnot octets)
    | _ => rfl

/-- **What the stream is seen to take are the octets that are noted.** -/
theorem streamed_eq (c : Connection) (ms : List Move) :
    streamed c ms = (accepted c ms).map Prod.snd := by
  induction ms using List.reverseRecOn with
  | nil => rfl
  | append_singleton ms m ih =>
    have hlast (taken : Option (Nat × Octets)) : (taken.toList.map Prod.snd).flatten
        = (taken.toList.flatMap fun taken => octetsFrom taken.1 taken.2).map Prod.snd := by
      cases taken with
      | none => rfl
      | some taken =>
        rw [Option.toList_some, List.map_singleton, List.flatten_singleton, List.flatMap_singleton,
          map_snd_octetsFrom]
    rw [streamed, effects_concat, List.filterMap_append, List.flatten_append, sent_effects,
      accepted, gather_concat, List.flatMap_append, List.map_append, hlast]
    exact congrArg (· ++ _) ih

/-! ## Tickets -/

theorem ticket?_of_unwritten? (h : phase.unwritten? = some t) : phase.ticket? = some t := by
  cases phase with
  | registered _ => exact h
  | queued _ => exact h
  | unsent _ _ => exact h
  | _ => cases h

theorem inFlight_of_ticket? (h : (c.phaseAt n).ticket? = some t) :
    ∃ id q, InFlight c n id q t := by
  have hbusy : c.phaseAt n ≠ .idle := by
    intro hidle
    rw [hidle] at h
    cases h
  obtain ⟨s, hn, hs⟩ := session_of_phaseAt rfl hbusy
  rw [← hs] at h
  obtain ⟨q, hq⟩ := inFlight?_of_ticket? h
  exact ⟨s.id, q, s, hn, rfl, hq⟩

theorem ticket?_of_inFlight {id : SessionId} {q : Packet} (h : InFlight c n id q t) :
    (c.phaseAt n).ticket? = some t := by
  obtain ⟨s, hn, -, hq⟩ := h
  rw [phaseAt_of_some hn]
  exact ticket?_of_inFlight? hq

/-- A ticket that a session has after a move it had before, or it is the next one. -/
theorem ticket?_apply (h : ((c.apply m).1.phaseAt n).ticket? = some t) :
    (c.phaseAt n).ticket? = some t ∨ t = c.registry.exchanges.length := by
  obtain ⟨id, q, hf⟩ := inFlight_of_ticket? h
  rcases inFlight_apply hf with hf | ⟨-, -, ht, -⟩
  · exact .inl (ticket?_of_inFlight hf)
  · exact .inr ht

/-- Every ticket that a session has is that of an exchange, and nobody else has it. -/
structure Ticketed (c : Connection) : Prop where
  lt : ∀ n t, (c.phaseAt n).ticket? = some t → t < c.registry.exchanges.length
  eq : ∀ n k t, (c.phaseAt n).ticket? = some t → (c.phaseAt k).ticket? = some t → n = k

theorem ticketed_after (config : Config) (identifiers : Chap.IdentifierSequence)
    (ms : List Move) : Ticketed ((fresh config identifiers).after ms) := by
  refine ⟨?_, ?_⟩
  · intro n t ht
    obtain ⟨id, q, hf⟩ := inFlight_of_ticket? ht
    obtain ⟨-, x, hx, -⟩ := inFlight_sound hf
    exact (List.getElem?_eq_some_iff.1 hx).1
  · intro n k t ht hk
    obtain ⟨id, q, hf⟩ := inFlight_of_ticket? ht
    obtain ⟨id', q', hf'⟩ := inFlight_of_ticket? hk
    exact inFlight_unique hf hf'

theorem lt_length_apply (m : Move) (h : t < c.registry.exchanges.length) :
    t < (c.apply m).1.registry.exchanges.length := by
  obtain ⟨x, hx, -⟩ := extends_apply c m t _ (List.getElem?_eq_getElem h)
  exact (List.getElem?_eq_some_iff.1 hx).1

theorem takesWriter?_eq_some (h : OneWriter c) (ht : c.takesWriter? m = some (n, o)) :
    c.phaseAt n = .queued o ∧ (c.apply m).1.phaseAt n = .writing o o.octets := by
  have hone := oneWriter_hands h (hands_apply h m)
  unfold takesWriter? at ht
  split at ht
  next hnone =>
    obtain ⟨⟨k, o', rest⟩, hu', he⟩ := Option.map_eq_some_iff.1 ht
    obtain ⟨rfl, rfl⟩ := Prod.mk.inj he
    have hout := (underway?_eq_some hone).1 hu'
    have hquiet : (c.phaseAt k).writes = false := by
      refine Bool.eq_false_iff.2 ?_
      intro hwrites
      cases hnone.symm.trans ((h (.session k)).1 hwrites)
    obtain ⟨o'', hphase, hnext⟩ := queued_of_not_writes hquiet (writes_of_outgoing? hout)
    rw [hnext] at hout
    cases hout
    exact ⟨hphase, hnext⟩
  next => cases ht

theorem unwritten?_of_takes (h : OneWriter c) (ht : c.takesWriter? m = some (n, o)) :
    (c.phaseAt n).unwritten? = some o.ticket := by
  rw [(takesWriter?_eq_some h ht).1]
  rfl

theorem fails?_eq_some {x : Option Ticket} (h : c.fails? m = some (n, x)) :
    (∃ result, (c.apply m).1.phaseAt n = .finished result) ∧
      ∀ t, x = some t → (c.phaseAt n).unwritten? = some t := by
  unfold fails? at h
  split at h
  · split at h
    · rename_i hnext
      obtain ⟨rfl, rfl⟩ := Prod.mk.inj (Option.some.inj h)
      exact ⟨⟨_, hnext⟩, nofun⟩
    · rename_i hphase hnext
      obtain ⟨rfl, rfl⟩ := Prod.mk.inj (Option.some.inj h)
      refine ⟨⟨_, hnext⟩, ?_⟩
      rintro t he
      rw [hphase]
      exact he
    · cases h
  · cases h

/-- Who has written nothing of its packet had written nothing before, or has just
registered its exchange. -/
theorem unwritten?_apply (h : OneWriter c) (hcalm : c.spoils? m = none)
    (ht : ((c.apply m).1.phaseAt n).unwritten? = some t) :
    (c.phaseAt n).unwritten? = some t ∨ t = c.registry.exchanges.length := by
  rcases ticket?_apply (ticket?_of_unwritten? ht) with hticket | hlast
  · left
    -- who writes is not cut off
    have hwrites (hw : (c.phaseAt n).writes = true) (o : Sending) (f : Failure) :
        (c.apply m).1.phaseAt n ≠ .unsent o f := by
      obtain ⟨o', rest, hout⟩ := outgoing?_of_writes hw
      exact (not_spoiled ((underway?_eq_some h).2 hout) hcalm).1 o f
    have hbusy : c.phaseAt n ≠ .idle := by
      intro hidle
      rw [hidle] at hticket
      cases hticket
    obtain ⟨s, hn, hs⟩ := session_of_phaseAt rfl hbusy
    obtain ⟨s', hs', -, hturn⟩ := session_apply hn m
    rw [phaseAt_of_some hs'] at ht hwrites
    rw [← hs] at hticket hwrites ⊢
    generalize s'.phase = next at hturn ht hwrites
    cases hturn with
    | stays _ => exact ht
    | called _ _ => cases ht
    | refused _ => cases ht
    | dropped _ => cases ht
    | passes hp =>
      generalize s.phase = phase at hp hticket hwrites
      generalize (c.apply (.step (.session n))).1.registry = r at hp
      cases hp with
      | registers _ _ => cases hticket
      | refused _ => exact hticket
      | admitted _ => exact hticket
      | stands => exact hticket
      | breaks => exact absurd rfl (hwrites rfl _ _)
      | spills => exact absurd rfl (hwrites rfl _ _)
      | _ => cases ht
  · exact .inr hlast

/-! ## No packet goes out twice -/

/-- How the tickets of the packets that are written keep apart from all others. -/
structure Apart (c : Connection) (took : List (Nat × Sending))
    (failed : List (Nat × Option Ticket)) : Prop where
  /-- They are in the registry. -/
  old : ∀ w ∈ took, w.2.ticket < c.registry.exchanges.length
  /-- Nobody has one of them who has written nothing. -/
  unwritten : ∀ n t, (c.phaseAt n).unwritten? = some t → ∀ w ∈ took, w.2.ticket ≠ t
  /-- No send has failed with one of them. -/
  lost : ∀ n t, (n, some t) ∈ failed → t < c.registry.exchanges.length ∧
    (∀ k, (c.phaseAt k).ticket? ≠ some t) ∧ ∀ w ∈ took, w.2.ticket ≠ t
  /-- No two of them are the same. -/
  once : (took.map fun w => w.2.ticket).Nodup

theorem mem_concat_toList {α : Type} {xs : List α} {x : Option α} {y : α} :
    y ∈ xs ++ x.toList ↔ y ∈ xs ∨ x = some y := by
  rw [List.mem_append, Option.mem_toList]

section Step

variable {took : List (Nat × Sending)} {failed : List (Nat × Option Ticket)} {w : Nat × Sending}

variable (hone : OneWriter c) (h : Apart c took failed)

include hone h

theorem lost_apply (hfailed : (n, some t) ∈ failed) :
    t < (c.apply m).1.registry.exchanges.length ∧
      (∀ k, ((c.apply m).1.phaseAt k).ticket? ≠ some t) ∧
      ∀ w ∈ took ++ (c.takesWriter? m).toList, w.2.ticket ≠ t := by
  obtain ⟨hold, hnobody, hnone⟩ := h.lost n t hfailed
  refine ⟨lt_length_apply m hold, ?_, ?_⟩
  · intro k hk
    rcases ticket?_apply hk with hk | rfl
    · exact hnobody k hk
    · exact Nat.lt_irrefl _ hold
  · intro w hw
    rcases mem_concat_toList.1 hw with hw | hw
    · exact hnone w hw
    · rintro rfl
      exact hnobody _ (ticket?_of_unwritten? (unwritten?_of_takes hone hw))

/-- No packet is begun that was begun before. -/
theorem once_apply : ((took ++ (c.takesWriter? m).toList).map fun w => w.2.ticket).Nodup := by
  cases htakes : c.takesWriter? m with
  | none =>
    rw [Option.toList_none, List.append_nil]
    exact h.once
  | some w =>
    obtain ⟨n, o⟩ := w
    rw [Option.toList_some, List.map_append, List.map_singleton]
    refine List.nodup_append.2 ⟨h.once, List.pairwise_singleton _ _, ?_⟩
    rintro _ hold _ hnew rfl
    obtain ⟨w, hw, he⟩ := List.mem_map.1 hold
    have hunwritten := unwritten?_of_takes hone htakes
    exact h.unwritten n o.ticket hunwritten w hw (he.trans (List.mem_singleton.1 hnew))

variable (hticketed : Ticketed c)

include hticketed

theorem lt_of_written (hw : w ∈ took ++ (c.takesWriter? m).toList) :
    w.2.ticket < c.registry.exchanges.length := by
  rcases mem_concat_toList.1 hw with hw | hw
  · exact h.old w hw
  · exact hticketed.lt _ _ (ticket?_of_unwritten? (unwritten?_of_takes hone hw))

/-- Who has written nothing before the move, and has not taken the writing side with it, has
none of the tickets that are written. -/
theorem ne_of_unwritten (ht : (c.phaseAt n).unwritten? = some t)
    (htakes : ∀ o, (c.apply m).1.phaseAt n ≠ .writing o o.octets)
    (hw : w ∈ took ++ (c.takesWriter? m).toList) : w.2.ticket ≠ t := by
  rcases mem_concat_toList.1 hw with hw | hw
  · exact h.unwritten n t ht w hw
  · rintro rfl
    obtain rfl := hticketed.eq _ _ _ (ticket?_of_unwritten? ht)
      (ticket?_of_unwritten? (unwritten?_of_takes hone hw))
    exact htakes _ (takesWriter?_eq_some hone hw).2

theorem lost_of_fails (hfails : c.fails? m = some (n, some t)) :
    t < (c.apply m).1.registry.exchanges.length ∧
      (∀ k, ((c.apply m).1.phaseAt k).ticket? ≠ some t) ∧
      ∀ w ∈ took ++ (c.takesWriter? m).toList, w.2.ticket ≠ t := by
  obtain ⟨⟨result, hnext⟩, hunwritten⟩ := fails?_eq_some hfails
  have hbefore := hunwritten t rfl
  have hticket := ticket?_of_unwritten? hbefore
  have hold := hticketed.lt n t hticket
  refine ⟨lt_length_apply m hold, ?_, ?_⟩
  · intro k hk
    rcases ticket?_apply hk with hk' | rfl
    · obtain rfl := hticketed.eq n k t hticket hk'
      rw [hnext] at hk
      cases hk
    · exact Nat.lt_irrefl _ hold
  · intro w hw
    refine ne_of_unwritten hone h hticketed hbefore ?_ hw
    intro o hwriting
    cases hnext.symm.trans hwriting

/-- Every move keeps the tickets apart, if nobody is cut off. -/
theorem apart_apply (hcalm : c.spoils? m = none) :
    Apart (c.apply m).1 (took ++ (c.takesWriter? m).toList) (failed ++ (c.fails? m).toList) := by
  refine ⟨?_, ?_, ?_, once_apply hone h⟩
  · intro w hw
    exact lt_length_apply m (lt_of_written hone h hticketed hw)
  · intro n t ht w hw
    rcases unwritten?_apply hone hcalm ht with hbefore | rfl
    · refine ne_of_unwritten hone h hticketed hbefore ?_ hw
      intro o hwriting
      rw [hwriting] at ht
      cases ht
    · exact Nat.ne_of_lt (lt_of_written hone h hticketed hw)
  · intro n t hfailed
    rcases mem_concat_toList.1 hfailed with hfailed | hfails
    · exact lost_apply hone h hfailed
    · exact lost_of_fails hone h hticketed hfails

end Step

section Run

variable {config : Config} {identifiers : Chap.IdentifierSequence}

theorem apart_after (h : spoiled (fresh config identifiers) ms = []) :
    Apart ((fresh config identifiers).after ms) (takings (fresh config identifiers) ms)
      (failures (fresh config identifiers) ms) := by
  induction ms using List.reverseRecOn with
  | nil =>
    refine ⟨?_, ?_, ?_, List.Pairwise.nil⟩
    · intro w hw
      exact absurd hw List.not_mem_nil
    · intro n t _ w hw
      exact absurd hw List.not_mem_nil
    · intro n t hfailed
      exact absurd hfailed List.not_mem_nil
  | append_singleton ms m ih =>
    obtain ⟨hms, hm⟩ := spoiled_concat h
    rw [takings, failures, gather_concat, gather_concat, after_concat]
    exact apart_apply (oneWriter_after config identifiers ms) (ih hms)
      (ticketed_after config identifiers ms) hm

theorem takings_prepared {w : Nat × Sending} (hw : w ∈ takings (fresh config identifiers) ms) :
    config.wire w.2.request = .ok w.2.octets := by
  obtain ⟨n, o⟩ := w
  obtain ⟨before, m, later, rfl, htakes⟩ := mem_gather.1 hw
  obtain ⟨hphase, -⟩ := takesWriter?_eq_some (oneWriter_after config identifiers before) htakes
  obtain ⟨s, hn, hs⟩ := session_of_phaseAt hphase nofun
  have hprepared := prepared_after hn
  rw [hs] at hprepared
  exact hprepared

theorem isOver_of_failure {x : Option Ticket} (h : (n, x) ∈ failures c ms) :
    ((c.after ms).phaseAt n).IsOver := by
  induction ms using List.reverseRecOn with
  | nil => cases h
  | append_singleton ms m ih =>
    rw [failures, gather_concat] at h
    rw [after_concat]
    rcases mem_concat_toList.1 h with h | h
    · exact isOver_apply (ih h) m
    · obtain ⟨⟨result, hnext⟩, -⟩ := fails?_eq_some h
      rw [hnext]
      trivial

end Run

/-! ## The whole run -/

theorem filter_octetsFrom (n k : Nat) (octets : Octets) :
    (octetsFrom n octets).filter (fun x => x.1 == k)
      = if n == k then octetsFrom n octets else [] := by
  rw [octetsFrom, List.filter_map]
  split
  next he =>
    exact congrArg _ (List.filter_eq_self.2 fun _ _ => he)
  next hne =>
    rw [List.map_eq_nil_iff, List.filter_eq_nil_iff]
    exact fun _ _ => hne

theorem filter_octetsOfAll (ws : List (Nat × Sending)) (k : Nat) :
    (octetsOfAll ws).filter (fun x => x.1 == k) = octetsOfAll (ws.filter fun w => w.1 == k) := by
  induction ws with
  | nil => rfl
  | cons w ws ih =>
    have hcons (v : Nat × Sending) (vs : List (Nat × Sending)) :
        octetsOfAll (v :: vs) = octetsFrom v.1 v.2.octets ++ octetsOfAll vs := rfl
    rw [hcons, List.filter_append, ih, filter_octetsFrom, List.filter_cons]
    split
    · exact (hcons _ _).symm
    · exact List.nil_append _

/-- What holds of the writing in a run: nothing is mixed up. -/
structure Unmixed (c : Connection) (ms : List Move) : Prop where
  /-- The stream has taken one packet after the other, in the order in which their sessions
  took the writing side, and of the last one, if its session still has it, what is gone. -/
  stream : Carried (takings c ms) (successes c ms) (accepted c ms) (c.after ms).underway?
  /-- This is what is seen. -/
  seen : streamed c ms = (accepted c ms).map Prod.snd
  /-- These are packets as the settings have them written. -/
  packets : ∀ w ∈ takings c ms, c.config.wire w.2.request = .ok w.2.octets
  /-- No packet goes out twice. -/
  once : ((takings c ms).map fun w => w.2.ticket).Nodup
  /-- A packet whose send fails does not go out. -/
  unsent : ∀ n t, (n, some t) ∈ failures c ms → ∀ w ∈ takings c ms, w.2.ticket ≠ t
  /-- All octets of its session are those of the packets it has sent before. -/
  silent : ∀ n x, (n, x) ∈ failures c ms →
    (accepted c ms).filter (fun x => x.1 == n)
      = octetsOfAll ((successes c ms).filter fun w => w.1 == n)

/-- **Sessions that send over one connection never mix their octets**, in whatever pieces the
stream takes them and wherever they have to wait, as long as nobody is cut off in the middle
of writing. -/
theorem packets_unmixed (config : Config) (identifiers : Chap.IdentifierSequence) (ms : List Move)
    (h : spoiled (fresh config identifiers) ms = []) : Unmixed (fresh config identifiers) ms := by
  have hcarried := carried_after config identifiers h
  have hapart := apart_after h
  refine ⟨hcarried, streamed_eq _ ms, fun w hw => takings_prepared hw, hapart.once, ?_, ?_⟩
  · intro n t hfailed
    exact (hapart.lost n t hfailed).2.2
  · intro n x hfailed
    have hover := isOver_of_failure hfailed
    cases hu : ((fresh config identifiers).after ms).underway? with
    | none =>
      rw [hu] at hcarried
      rw [hcarried.2, filter_octetsOfAll]
    | some out =>
      obtain ⟨k, o, rest⟩ := out
      rw [hu] at hcarried
      obtain ⟨-, gone, -, hout⟩ := hcarried
      -- who is under way has not failed
      have hne : (k == n) = false := by
        refine beq_eq_false_iff_ne.2 ?_
        rintro rfl
        have hwriting := (underway?_eq_some (oneWriter_after config identifiers ms)).1 hu
        rcases outgoing?_eq_some hwriting with hphase | ⟨hphase, -⟩
        · rw [hphase] at hover
          exact hover
        · rw [hphase] at hover
          exact hover
      rw [hout, List.filter_append, filter_octetsOfAll, filter_octetsFrom, hne]
      exact List.append_nil _

/-- Two sessions send at once, over a stream that takes twenty octets at a time, and a third
finds the connection closed. -/
def sendingAtOnce : List Move :=
  [.openSession [7] {} none, .openSession [8] {} none, .openSession [9] {} none,
    .callSession 0 (.pap "alice" "sesame"), .callSession 1 (.pap "bob" "pass"),
    .callSession 2 (.pap "carol" "word"), .changeRules { chunk := some 20 }]
  ++ List.replicate 3 (.step (.session 0)) ++ List.replicate 3 (.step (.session 1))
  ++ List.replicate 4 (.step (.session 0)) ++ List.replicate 2 (.step (.session 1))
  ++ [.startClosing, .step (.closing 0)] ++ List.replicate 3 (.step (.session 2))

/-- The second has waited in line until the packet of the first was out, and a part of its own
is out now; the third has sent nothing. -/
theorem packets_unmixed_at_once :
    (takings (fresh {} ⟨0⟩) sendingAtOnce).map Prod.fst = [0, 1] ∧
      (successes (fresh {} ⟨0⟩) sendingAtOnce).map Prod.fst = [0] ∧
      failures (fresh {} ⟨0⟩) sendingAtOnce = [(2, some 2)] ∧
      (accepted (fresh {} ⟨0⟩) sendingAtOnce).map Prod.fst
        = List.replicate 56 0 ++ List.replicate 20 1 ∧
      Unmixed (fresh {} ⟨0⟩) sendingAtOnce :=
  ⟨by decide +kernel, by decide +kernel, by decide +kernel, by decide +kernel,
    packets_unmixed {} ⟨0⟩ sendingAtOnce (by decide +kernel)⟩

end Connection

end Tacacs
