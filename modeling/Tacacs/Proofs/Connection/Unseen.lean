/-
# `Tacacs.Proofs.Connection.Unseen` — bodies that are not looked into

A packet whose body is open where it must be hidden, or hidden where it must be open, fails
the exchange of its session, and its body has no other effect.

That no octet of such a body has any influence is a statement about two runs
(`mismatched_bodies_unseen`).  Two servers send streams that differ only in bodies of this
kind, of any contents and any length.  Everything else that happens is the same: the same
calls, the same steps of the sessions, the same time, the same ways of the stream
(`Alongside`).  The streams may arrive in different pieces, and the dispatchers need
different numbers of steps to read them.  Then the connections are twins all the while, and
what can be seen of the runs is the same (`indistinct_run`).
-/
import Tacacs.Proofs.Connection.Twins
import Tacacs.Proofs.Connection.Writing

namespace Tacacs

namespace Connection

variable {c c' : Connection} {config : Config}

/-! ## Two runs -/

/-- Two runs in which everything goes on in the same way but for the receiving side.  There
the streams arrive by themselves, and the dispatchers read by themselves, until both have
come to something. -/
inductive Alongside (c : Connection) : List Move → List Move → Prop
  | begins : Alongside c [] []
  | both {ms ms' : List Move} {m : Move} : Alongside c ms ms' → (∀ a, m ≠ .arrive a) →
      m ≠ .step .dispatcher → Alongside c (ms ++ [m]) (ms' ++ [m])
  | arrives {ms ms' : List Move} (a : List Arrival) : Alongside c ms ms' →
      Alongside c (ms ++ [.arrive a]) ms'
  | arrives' {ms ms' : List Move} (a : List Arrival) : Alongside c ms ms' →
      Alongside c ms (ms' ++ [.arrive a])
  | reads {ms ms' : List Move} : Alongside c ms ms' → (c.after ms).reads = true →
      Alongside c (ms ++ [.step .dispatcher]) ms'
  | reads' {ms ms' : List Move} : Alongside c ms ms' → (c.after ms').reads = true →
      Alongside c ms (ms' ++ [.step .dispatcher])
  | goesOn {ms ms' : List Move} : Alongside c ms ms' → (c.after ms).reads = false →
      (c.after ms').reads = false →
      Alongside c (ms ++ [.step .dispatcher]) (ms' ++ [.step .dispatcher])

/-- What can be seen of a run. -/
def seen (c : Connection) (ms : List Move) : List Effect :=
  (c.run ms).2.filter Effect.isSeen

theorem seen_concat (c : Connection) (ms : List Move) (m : Move) :
    c.seen (ms ++ [m]) = c.seen ms ++ ((c.after ms).apply m).2.filter Effect.isSeen := by
  rw [seen, effects_concat, List.filter_append]
  rfl

/-- The runs come to twins that have taken as many packets, and look the same. -/
structure Indistinct (c : Connection) (ms ms' : List Move) : Prop where
  twin : Twin (c.after ms) (c.after ms')
  seen : c.seen ms = c.seen ms'
  taken : (c.taken ms).length = (c.taken ms').length

theorem indistinct_symm {ms ms' : List Move} (h : Indistinct c ms ms') : Indistinct c ms' ms :=
  ⟨twin_symm h.twin, h.seen.symm, h.taken.symm⟩

theorem indistinct_both {ms ms' : List Move} {m : Move} (h : Indistinct c ms ms')
    (ha : ∀ a, m ≠ .arrive a) (hm : m ≠ .step .dispatcher) :
    Indistinct c (ms ++ [m]) (ms' ++ [m]) := by
  have htaken : (c.taken (ms ++ [m])).length = (c.taken (ms' ++ [m])).length := by
    rw [Connection.taken, Connection.taken, gather_concat, gather_concat, takes?_of_ne hm,
      takes?_of_ne hm, List.length_append, List.length_append]
    exact congrArg (· + 0) h.taken
  cases hi : m.isInbound with
  | false =>
    obtain ⟨htwin, heffects⟩ := twin_apply h.twin hi
    rw [← after_concat, ← after_concat] at htwin
    exact ⟨htwin, by rw [seen_concat, seen_concat, h.seen, heffects], htaken⟩
  | true =>
    -- nothing is seen of starting a dispatcher, or of calling it off
    have quiet : (∀ c : Connection, (c.apply m).2.filter Effect.isSeen = []) →
        c.seen (ms ++ [m]) = c.seen (ms' ++ [m]) := by
      intro hnone
      rw [seen_concat, seen_concat, h.seen, hnone, hnone]
    rcases Move.inbound_cases hi with rfl | rfl | ⟨arrivals, rfl⟩ | rfl
    · have htwin := twin_start h.twin
      rw [← after_concat, ← after_concat] at htwin
      refine ⟨htwin, quiet fun c => ?_, htaken⟩
      cases hd : c.dispatcher with
      | _ =>
        simp only [apply, hd]
        rfl
    · have htwin := twin_drop h.twin
      rw [← after_concat, ← after_concat] at htwin
      refine ⟨htwin, quiet fun c => ?_, htaken⟩
      show (c.dropAgent .dispatcher).2.filter Effect.isSeen = []
      unfold dropAgent
      split
      · rfl
      · rfl
    · exact absurd rfl (ha arrivals)
    · exact absurd rfl hm

theorem indistinct_arrives {ms ms' : List Move} (h : Indistinct c ms ms') (a : List Arrival) :
    Indistinct c (ms ++ [.arrive a]) ms' := by
  refine ⟨?_, ?_, ?_⟩
  · rw [after_concat]
    exact ⟨h.twin.same, h.twin.level⟩
  · rw [seen_concat, ← h.seen]
    exact List.append_nil _
  · have htakes : takes? (c.after ms) (.arrive a) = none :=
      takes?_of_ne fun he => Move.noConfusion he
    rw [Connection.taken, gather_concat, htakes, ← h.taken]
    exact congrArg List.length (List.append_nil _)

theorem indistinct_reads {ms ms' : List Move} (h : Indistinct c ms ms')
    (hr : (c.after ms).reads = true) : Indistinct c (ms ++ [.step .dispatcher]) ms' := by
  obtain ⟨hnone, _, _, _, -, happly⟩ := apply_reads hr
  refine ⟨?_, ?_, ?_⟩
  · rw [after_concat]
    exact twin_of_reads h.twin hr
  · rw [seen_concat, ← h.seen, happly]
    exact List.append_nil _
  · rw [Connection.taken, gather_concat, takes?, hnone, ← h.taken]
    exact congrArg List.length (List.append_nil _)

/-- **Nothing but such bodies differs.**  Where the streams can be told apart only by bodies
that are not looked into, the runs cannot be told apart. -/
theorem indistinct_run {identifiers : Chap.IdentifierSequence} {fs fs' : List Frame}
    {tail : Octets} {e : StreamEnd} {pieces pieces' : List Octets} {more more' : List Arrival}
    {ms ms' : List Move} (hlike : List.Forall₂ (Frame.Like config) fs fs')
    (hfit : ∀ f ∈ fs, f.body.length ≤ config.maxBodyLength.toNat)
    (hfit' : ∀ f ∈ fs', f.body.length ≤ config.maxBodyLength.toNat)
    (hpieces : pieces.flatten = streamOfFrames fs tail)
    (hpieces' : pieces'.flatten = streamOfFrames fs' tail)
    (hall : arrived ms ++ more = pieces.map .octets ++ [e.arrival])
    (hall' : arrived ms' ++ more' = pieces'.map .octets ++ [e.arrival])
    (h : Alongside (fresh config identifiers) ms ms') :
    Indistinct (fresh config identifiers) ms ms' := by
  have hcourses := course_like hlike hfit hfit' tail e
  -- what arrives with a move was still to come before
  have sooner : ∀ {ms : List Move} {m more} {pieces : List Octets},
      arrived (ms ++ [m]) ++ more = pieces.map .octets ++ [e.arrival] →
      arrived ms ++ (m.arrivals ++ more) = pieces.map .octets ++ [e.arrival] := by
    intro ms m more pieces hall
    rwa [arrived_concat, List.append_assoc] at hall
  induction h generalizing more more' with
  | begins => exact ⟨⟨rfl, .inl rfl⟩, rfl, rfl⟩
  | both _ ha hm ih => exact indistinct_both (ih (sooner hall) (sooner hall')) ha hm
  | arrives a _ ih => exact indistinct_arrives (ih (sooner hall) hall') a
  | arrives' a _ ih =>
    exact indistinct_symm (indistinct_arrives (indistinct_symm (ih hall (sooner hall'))) a)
  | reads _ hr ih => exact indistinct_reads (ih (sooner hall) hall') hr
  | reads' _ hr ih =>
    exact indistinct_symm (indistinct_reads (indistinct_symm (ih hall (sooner hall'))) hr)
  | @goesOn ms ms' _ hr hr' ih =>
    have hbefore := ih (sooner hall) (sooner hall')
    have hconfig : ((fresh config identifiers).after ms).config = config := config_after _ ms
    obtain ⟨htwin, hseen, htaken⟩ := twin_goesOn hbefore.twin hconfig hcourses
      (position_after config identifiers hpieces (sooner hall))
      (position_after config identifiers hpieces' (sooner hall')) hbefore.taken hr hr'
    rw [← after_concat, ← after_concat] at htwin
    refine ⟨htwin, by rw [seen_concat, seen_concat, hbefore.seen, hseen], ?_⟩
    rw [Connection.taken, Connection.taken, gather_concat, gather_concat, List.length_append,
      List.length_append]
    exact congrArg₂ (· + ·) hbefore.taken htaken

theorem reads_of_arrived {identifiers : Chap.IdentifierSequence} {e : StreamEnd}
    {pieces : List Octets} {ms : List Move}
    (h : arrived ms ++ [] = pieces.map .octets ++ [e.arrival]) :
    ((fresh config identifiers).after ms).reads = false := by
  have hconfig : ((fresh config identifiers).after ms).config = config := config_after _ ms
  have hp := position_after config identifiers rfl h
  generalize (fresh config identifiers).after ms = c at hconfig hp ⊢
  subst hconfig
  unfold reads
  split
  · rename_i r hd
    rw [hd] at hp
    generalize hleft : c.arrivals ++ [] = left at hp
    cases hp with
    | reading hheld _ =>
      have hfound := Reader.nextFrame_found hheld hleft
      generalize r.nextFrame c.config.maxBodyLength c.arrivals = next at hfound ⊢
      cases hfound with
      | waits _ _ hmore _ => cases (List.append_eq_nil_iff.1 hmore.symm).2
      | packet _ _ => rfl
      | ended _ => rfl
      | failed _ => rfl
  · rfl

/-- Every run has another one beside it, in which this stream arrives. -/
theorem alongside_exists (config : Config) (identifiers : Chap.IdentifierSequence)
    (e : StreamEnd) (pieces : List Octets) (ms : List Move) :
    ∃ ms', Alongside (fresh config identifiers) ms ms' ∧
      arrived ms' = pieces.map .octets ++ [e.arrival] := by
  induction ms using List.reverseRecOn with
  | nil =>
    exact ⟨[.arrive (pieces.map .octets ++ [e.arrival])], .arrives' _ .begins, List.append_nil _⟩
  | append_singleton ms m ih =>
    obtain ⟨ms', h, hall⟩ := ih
    have more : ∀ {m : Move}, m.arrivals = [] →
        arrived (ms' ++ [m]) = pieces.map .octets ++ [e.arrival] := by
      intro m hm
      rw [arrived_concat, hm, List.append_nil, hall]
    by_cases ha : ∃ a, m = .arrive a
    · obtain ⟨a, rfl⟩ := ha
      exact ⟨ms', .arrives a h, hall⟩
    · have hnone : m.arrivals = [] := by
        unfold Move.arrivals
        split
        · exact absurd ⟨_, rfl⟩ ha
        · rfl
      by_cases hm : m = .step .dispatcher
      · subst hm
        cases hr : ((fresh config identifiers).after ms).reads with
        | true => exact ⟨ms', .reads h hr, hall⟩
        | false =>
          have hr' : ((fresh config identifiers).after ms').reads = false :=
            reads_of_arrived ((List.append_nil _).trans hall)
          exact ⟨ms' ++ [.step .dispatcher], .goesOn h hr hr', more rfl⟩
      · exact ⟨ms' ++ [m], .both h (fun a he => ha ⟨a, he⟩) hm, more hnone⟩

/-! ## Bodies that are not looked into -/

/-- What a packet does whose body is not looked into, when this is behind it in the
stream. -/
structure OnlyFails (c : Connection) (id : SessionId) (rest : Octets) (c' : Connection) :
    Prop where
  /-- The dispatcher goes on behind it, and what stands under the id is settled. -/
  state : ∃ pieces : List Octets, pieces.flatten = rest ∧ c' =
    { c with
      registry := c.registry.settle id (.error .corruptPacket)
      dispatcher := .reading .start
      arrivals := pieces.map .octets }
  /-- An exchange of the session that is awaited has failed. -/
  fails : ∀ t : Ticket, c.registry.exchanges[t]? = some ⟨id, .awaited⟩ →
    c'.registry.exchanges[t]? = some ⟨id, .settled (.error .corruptPacket)⟩
  /-- All others are as they were. -/
  others : ∀ (t : Ticket) x, c.registry.exchanges[t]? = some x → x.session ≠ id →
    c'.registry.exchanges[t]? = some x

/-- Octets that go out in the course of a run are the next ones of a packet that a session
writes, and the packet is put into octets as the settings have it. -/
def WritesProperly (config : Config) (identifiers : Chap.IdentifierSequence) (ms : List Move)
    (octets : Octets) : Prop :=
  ∃ before n later s o left, ms = before ++ .step (.session n) :: later ∧
    ((fresh config identifiers).after before).sessions[n]? = some s ∧
    s.phase = .writing o (octets ++ left) ∧ octets ++ left <:+ o.octets ∧
    GoesOut config o.request o.octets

/-- **Bodies that are not looked into have no influence, and no packet goes out open that is
to be hidden.**  A packet that is hidden where it must not be, or open where it must not be,
fails the exchange of its session and does nothing else, whatever its type and its body
are.  Runs beside each other, in which streams arrive that differ in such bodies only,
cannot be told apart; and there is such a run beside every run.  Whatever goes out is
hidden under the secret and says so, or is open and says so, as the settings have it. -/
theorem mismatched_bodies_unseen (config : Config) (identifiers : Chap.IdentifierSequence) :
    (∀ (ms : List Move) (r : Reader) (held rest : Octets) (pieces : List Octets) (f : Frame),
      ((fresh config identifiers).after ms).dispatcher = .reading r →
      Reader.start.absorb config.maxBodyLength held = (.waiting r, []) →
      ((fresh config identifiers).after ms).arrivals = pieces.map .octets →
      held ++ pieces.flatten = f.octets ++ rest →
      f.body.length ≤ config.maxBodyLength.toNat →
      f.header.flags.unencrypted ≠ config.unencrypted →
      OnlyFails ((fresh config identifiers).after ms) f.header.session rest
        ((fresh config identifiers).after (ms ++ [.step .dispatcher]))) ∧
    (∀ (fs fs' : List Frame) (tail : Octets) (e : StreamEnd) (pieces pieces' : List Octets),
      List.Forall₂ (Frame.Like config) fs fs' →
      (∀ f ∈ fs, f.body.length ≤ config.maxBodyLength.toNat) →
      (∀ f ∈ fs', f.body.length ≤ config.maxBodyLength.toNat) →
      pieces.flatten = streamOfFrames fs tail → pieces'.flatten = streamOfFrames fs' tail →
      ∀ ms more, arrived ms ++ more = pieces.map .octets ++ [e.arrival] →
        (∀ ms' more', arrived ms' ++ more' = pieces'.map .octets ++ [e.arrival] →
          Alongside (fresh config identifiers) ms ms' →
          Indistinct (fresh config identifiers) ms ms') ∧
        ∃ ms', arrived ms' = pieces'.map .octets ++ [e.arrival] ∧
          Alongside (fresh config identifiers) ms ms') ∧
    ∀ ms octets, .sent octets ∈ ((fresh config identifiers).run ms).2 →
      WritesProperly config identifiers ms octets := by
  refine ⟨?_, ?_, ?_⟩
  · intro ms r held rest pieces f hd hheld ha hs hfit hflag
    have hconfig : ((fresh config identifiers).after ms).config = config := config_after _ ms
    rw [← hconfig] at hheld hfit hflag
    obtain ⟨pieces', hpieces', hstate⟩ := apply_read_mismatched hd hheld ha hs hfit hflag
    rw [after_concat, hstate]
    refine ⟨⟨pieces', hpieces', rfl⟩, ?_, ?_⟩
    · intro t ht
      rw [Registry.getElem?_settle, ht]
      exact congrArg some (if_pos rfl)
    · intro t x hx hne
      rw [Registry.getElem?_settle, hx, Option.map_some, if_neg hne]
  · intro fs fs' tail e pieces pieces' hlike hfit hfit' hpieces hpieces' ms more hall
    refine ⟨?_, ?_⟩
    · intro ms' more' hall' h
      exact indistinct_run hlike hfit hfit' hpieces hpieces' hall hall' h
    · obtain ⟨ms', h, hall'⟩ := alongside_exists config identifiers e pieces' ms
      exact ⟨ms', hall', h⟩
  · intro ms octets h
    obtain ⟨before, m, later, rfl, hm⟩ := mem_effects_run.1 h
    obtain ⟨n, s, o, left, rfl, hn, hs, -⟩ := sent_origin hm
    have hprepared := prepared_after hn
    rw [hs] at hprepared
    exact ⟨before, n, later, s, o, left, rfl, hn, hs, hprepared.2, goesOut_of_wire hprepared.1⟩

/-- A reply that is open although there is a secret. -/
def openly (body : Octets) : Frame :=
  ⟨⟨.one, .authentication, 2, ⟨0x01⟩, 7⟩, body⟩

/-- A session under the secret "key" is asked for a password, openly. -/
def askedOpenly : List Move :=
  [.openSession [7] {} none, .callSession 0 (.pap "alice" "sesame"), .startDispatcher]
    ++ List.replicate 5 (.step (.session 0))
    ++ [.arrive [.octets (openly [5, 0, 0, 0, 0, 0]).octets, .ended], .step .dispatcher,
      .step (.session 0)]

/-- A body that is no reply, and has another length, would have done the same: the session
fails, and nobody is asked for anything. -/
theorem mismatched_bodies_unseen_password :
    ∃ ms', arrived ms' = [.octets (openly [1, 2, 3]).octets, .ended] ∧
      Indistinct (fresh { secret := some [0x6B, 0x65, 0x79] } ⟨0⟩) askedOpenly ms' ∧
      .sessionOver 0 (.error .corruptPacket)
        ∈ (fresh { secret := some [0x6B, 0x65, 0x79] } ⟨0⟩).seen ms' := by
  obtain ⟨-, htwo, -⟩ := mismatched_bodies_unseen { secret := some [0x6B, 0x65, 0x79] } ⟨0⟩
  obtain ⟨hsame, ms', hall', h⟩ := htwo [openly [5, 0, 0, 0, 0, 0]] [openly [1, 2, 3]] [] .ended
    [(openly [5, 0, 0, 0, 0, 0]).octets] [(openly [1, 2, 3]).octets]
    (.cons ⟨rfl, .inr (by decide)⟩ .nil) (by decide) (by decide) rfl rfl askedOpenly []
    (by decide +kernel)
  have hindistinct := hsame ms' [] ((List.append_nil _).trans hall') h
  refine ⟨ms', hall', hindistinct, ?_⟩
  rw [← hindistinct.seen]
  decide +kernel

end Connection

end Tacacs
