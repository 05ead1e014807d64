/-
# `Tacacs.Proofs.Connection.Withdrawal` — what a failing send takes back

A send registers its exchange before it writes, and takes it back when the connection turns
out to be closed, or writing or flushing fails.  It takes back what stands under the id of its
session then.  In between it may have waited for the writing side for as long as you like, and
what stands under the id need not be what it has registered:

    the send registers                its own exchange stands
    a reply comes, an ending fails it nothing stands
    another session registers         the exchange of the other stands
    the send takes back               nothing stands

In the third line the exchange of the other is lost.  `Withdraws` says that there is no other
way: what stands under other ids is not touched (`standing`), and so all exchanges of others
survive exactly if the session has its id to itself (`spares`).  The exchange that is lost is
younger (`younger_of_inFlight`), so it has replaced that of the send before.
-/
import Tacacs.Proofs.Connection.Crossing

namespace Tacacs

theorem Registry.settled_of_awaited {r : Registry} {id : SessionId} {t : Ticket}
    (h : r.exchanges[t]? = some ⟨id, .awaited⟩) (o : Outcome) :
    (r.settle id o).exchanges[t]? = some ⟨id, .settled o⟩ := by
  rw [getElem?_settle, h, Option.map_some]
  exact congrArg some (if_pos rfl)

namespace Connection

variable {c : Connection} {ms later : List Move} {n k : Nat} {s : Session} {o : Sending}
  {q : Packet} {id : SessionId} {t t' : Ticket} {failure : Failure} {f : Frame}

/-! ## Sends that fail -/

theorem apply_unsent (hn : c.sessions[n]? = some s) (hs : s.phase = .unsent o failure) :
    (c.apply (.step (.session n))).1.registry = c.registry.settle s.id (.error .closed) ∧
      .sessionOver n (.error failure) ∈ (c.apply (.step (.session n))).2 := by
  have hstep : c.step (.session n) = some (c.stepUnsent n s failure) := by
    rw [step_session_eq hn, stepSession, hs]
  rw [apply_step_of_some hstep]
  exact ⟨rfl, List.mem_append_right _ List.mem_cons_self⟩

theorem apply_unwritable {e : EncodeError} (hn : c.sessions[n]? = some s)
    (hs : s.phase = .ready q) (hwire : c.config.wire q = .error e) :
    (c.apply (.step (.session n))).1.registry = c.registry := by
  have hstep : c.step (.session n) = some (c.stepReady n s q) := by
    rw [step_session_eq hn, stepSession, hs]
  have happly : c.apply (.step (.session n)) = c.stepReady n s q :=
    congrArg (Option.getD · (c, [])) hstep
  rw [happly]
  unfold stepReady
  split
  · rfl
  · rw [hwire]
    rfl

/-- What stands stands on, as long as nothing settles what stands under its id. -/
theorem under_later (h : c.registry.Under id t) (hclear : id ∉ cleared c later) :
    (c.after later).registry.Under id t := by
  induction later generalizing c with
  | nil => exact h
  | cons m later ih =>
    rw [cleared, gather, List.mem_append, not_or] at hclear
    refine ih (under_apply.2 (.inl ⟨h, ?_⟩)) hclear.2
    exact fun hsettles => hclear.1 (Option.mem_toList.2 hsettles)

theorem apply_routed (hnext : c.nextFrame? = some f) (hstops : f.stops c.config = false) :
    (c.apply (.step .dispatcher)).1.registry
      = c.registry.settle f.session (f.outcome c.config) := by
  obtain ⟨r, rest, hd, ha, hread⟩ := nextFrame?_eq_some hnext
  rw [apply_read_goesOn hd ha hread hstops]

section Run

variable {config : Config} {identifiers : Chap.IdentifierSequence}

/-- What stands under the id of a session with a request in flight is the exchange of that
request, or younger. -/
theorem younger_of_inFlight (h : InFlight ((fresh config identifiers).after ms) n id q t)
    (hu : ((fresh config identifiers).after ms).registry.Under id t') : t ≤ t' := by
  induction ms using List.reverseRecOn with
  | nil =>
    obtain ⟨x, hx, -⟩ := hu
    cases hx
  | append_singleton ms m ih =>
    rw [after_concat] at h hu
    rcases inFlight_apply h with hbefore | ⟨-, -, rfl, hr⟩
    · rcases under_apply.1 hu with ⟨hu, -⟩ | ⟨k, s, o, -, -, ho, rfl⟩
      · exact ih hbefore hu
      · obtain ⟨-, x, hx, -⟩ := inFlight_sound hbefore
        rw [registers?_ticket ho]
        exact Nat.le_of_lt (List.getElem?_eq_some_iff.1 hx).1
    · rw [hr] at hu
      rcases Registry.under_register.1 hu with ⟨-, hne⟩ | ⟨rfl, -⟩
      · exact absurd rfl hne
      · exact Nat.le_refl _

/-- What stands under the id of a session with a request in flight is the exchange of that
request, or belongs to another session. -/
theorem other_of_inFlight (h : InFlight ((fresh config identifiers).after ms) n id q t)
    (hu : ((fresh config identifiers).after ms).registry.Under id t') (ht : t' ≠ t) :
    ∃ k o', k ≠ n ∧ Outstanding (fresh config identifiers) ms id k o' ∧ o'.ticket = t' := by
  obtain ⟨k, o', hout, rfl⟩ := under_after.1 hu
  refine ⟨k, o', ?_, hout, rfl⟩
  rintro rfl
  have hyounger := Nat.lt_of_le_of_ne (younger_of_inFlight h hu) ht.symm
  -- the session would have registered the younger one with the older one in flight
  obtain ⟨before, m, later, s, rfl, -, -, ho, -⟩ := hout
  rw [registers?_ticket ho] at hyounger
  rw [after_append] at h
  exact not_inFlight_of_registers ho (inFlight_before hyounger h)

end Run

/-! ## What becomes of the exchanges of others -/

/-- What a session does to exchanges when its send fails and it takes its exchange back. -/
structure Withdraws (c : Connection) (ms : List Move) (n : Nat) (s : Session) (o : Sending)
    (failure : Failure) : Prop where
  /-- The session returns why the send has failed. -/
  told : .sessionOver n (.error failure) ∈ ((c.after ms).apply (.step (.session n))).2
  /-- What stood under its id stands no more, and all else stands. -/
  standing (id : SessionId) (t : Ticket) :
    (c.after (ms ++ [.step (.session n)])).registry.Under id t ↔
      (c.after ms).registry.Under id t ∧ id ≠ s.id
  /-- All exchanges but its own are spared exactly if nothing but its own stands under its id. -/
  spares : (∀ id t, t ≠ o.ticket → (c.after ms).registry.Under id t →
      (c.after (ms ++ [.step (.session n)])).registry.Under id t) ↔
    ∀ t, (c.after ms).registry.Under s.id t → t = o.ticket
  /-- One that is not spared belongs to another session, which has registered it later. -/
  younger {t : Ticket} : (c.after ms).registry.Under s.id t → t ≠ o.ticket → o.ticket < t ∧
    ∃ k o', k ≠ n ∧ Outstanding c ms s.id k o' ∧ o'.ticket = t
  /-- That session finds the connection closed, whether it is or not. -/
  lost {t : Ticket} : (c.after ms).registry.exchanges[t]? = some ⟨s.id, .awaited⟩ →
    (c.after (ms ++ [.step (.session n)])).registry.exchanges[t]?
      = some ⟨s.id, .settled (.error .closed)⟩
  /-- One that is spared gets what the next packet for its id amounts to, if nothing else settles
  it before. -/
  reached {id : SessionId} {t : Ticket} {later : List Move} {f : Frame} :
    (c.after ms).registry.Under id t → id ≠ s.id →
    id ∉ cleared (c.after (ms ++ [.step (.session n)])) later →
    (c.after (ms ++ .step (.session n) :: later)).nextFrame? = some f → f.session = id →
    f.stops c.config = false →
    (c.after (ms ++ .step (.session n) :: later)).registry.Under id t ∧
      (c.after (ms ++ .step (.session n) :: (later ++ [.step .dispatcher]))).registry
        = (c.after (ms ++ .step (.session n) :: later)).registry.settle id (f.outcome c.config)
  /-- Where sessions that were called have distinct ids, all exchanges but its own are spared. -/
  distinct : (c.after ms).idsCalled.Nodup → ∀ id t, t ≠ o.ticket →
    (c.after ms).registry.Under id t →
    (c.after (ms ++ [.step (.session n)])).registry.Under id t

/-- What failing sends do to exchanges. -/
structure Withdrawals (c : Connection) (ms : List Move) : Prop where
  /-- A session whose packet is not going to be sent takes its exchange back. -/
  unsent {n : Nat} {s : Session} {o : Sending} {failure : Failure} :
    (c.after ms).sessions[n]? = some s → s.phase = .unsent o failure →
      Withdraws c ms n s o failure
  /-- A session whose packet cannot be written down changes no exchange. -/
  unwritable {n : Nat} {s : Session} {q : Packet} {e : EncodeError} :
    (c.after ms).sessions[n]? = some s → s.phase = .ready q → c.config.wire q = .error e →
      (c.after (ms ++ [.step (.session n)])).registry = (c.after ms).registry

section Run

variable {config : Config} {identifiers : Chap.IdentifierSequence}

theorem withdraws_unsent (hn : ((fresh config identifiers).after ms).sessions[n]? = some s)
    (hs : s.phase = .unsent o failure) :
    Withdraws (fresh config identifiers) ms n s o failure := by
  obtain ⟨hreg, htold⟩ := apply_unsent hn hs
  rw [← after_concat] at hreg
  have hflight : InFlight ((fresh config identifiers).after ms) n s.id o.request o.ticket :=
    ⟨s, hn, rfl, by rw [hs]; rfl⟩
  have hstanding (id : SessionId) (t : Ticket) :
      ((fresh config identifiers).after (ms ++ [.step (.session n)])).registry.Under id t ↔
        ((fresh config identifiers).after ms).registry.Under id t ∧ id ≠ s.id := by
    rw [hreg, Registry.under_settle]
  have hspares : (∀ id t, t ≠ o.ticket → ((fresh config identifiers).after ms).registry.Under id t →
      ((fresh config identifiers).after (ms ++ [.step (.session n)])).registry.Under id t) ↔
      ∀ t, ((fresh config identifiers).after ms).registry.Under s.id t → t = o.ticket := by
    constructor
    · intro hall t hu
      by_contra ht
      exact ((hstanding s.id t).1 (hall s.id t ht hu)).2 rfl
    · intro hown id t ht hu
      refine (hstanding id t).2 ⟨hu, ?_⟩
      rintro rfl
      exact ht (hown t hu)
  refine ⟨htold, hstanding, hspares, ?_, ?_, ?_, ?_⟩
  · intro t hu ht
    exact ⟨Nat.lt_of_le_of_ne (younger_of_inFlight hflight hu) ht.symm,
      other_of_inFlight hflight hu ht⟩
  · intro t hx
    rw [hreg]
    exact Registry.settled_of_awaited hx _
  · rintro id t later f hu hne hclear hnext rfl hstops
    have hconfig : ((fresh config identifiers).after (ms ++ .step (.session n) :: later)).config
        = (fresh config identifiers).config := config_after _ _
    rw [← List.cons_append, ← List.append_assoc, after_concat,
      apply_routed hnext (hconfig.symm ▸ hstops), hconfig]
    refine ⟨?_, rfl⟩
    rw [after_append_cons]
    exact under_later ((hstanding _ t).2 ⟨hu, hne⟩) hclear
  · intro hd
    refine hspares.2 fun t hu => ?_
    by_contra ht
    obtain ⟨k, o', hk, hout, -⟩ := other_of_inFlight hflight hu ht
    obtain ⟨s', hk', hid⟩ := session_of_outstanding hout
    have hcalled : s.phase ≠ .idle := by
      rw [hs]
      exact SessionPhase.noConfusion
    exact hk (eq_of_called hd (List.append_nil ms).symm (List.append_nil ms).symm hk' hn
      (busy_of_outstanding hout hk') hcalled hid)

/-- **A failing send takes back what stands under the id of its session**: its own exchange, or
that of a session which has registered one under the same id since. -/
theorem withdrawals (config : Config) (identifiers : Chap.IdentifierSequence) (ms : List Move) :
    Withdrawals (fresh config identifiers) ms where
  unsent := withdraws_unsent
  unwritable hn hs hwire := by
    have hconfig : ((fresh config identifiers).after ms).config = config := config_after _ ms
    rw [after_concat]
    exact apply_unwritable hn hs (hconfig.symm ▸ hwire)

end Run

/-- The packet that a session is not going to send, and why. -/
def unsent? (c : Connection) (n : Nat) : Option (Sending × Failure) :=
  match c.phaseAt n with
  | .unsent o failure => some (o, failure)
  | _ => none

theorem unsent?_eq_some (h : c.unsent? n = some (o, failure)) :
    ∃ s, c.sessions[n]? = some s ∧ s.phase = .unsent o failure := by
  unfold unsent? at h
  split at h
  · rename_i o' failure' hphase
    cases h
    exact session_of_phaseAt hphase SessionPhase.noConfusion
  · cases h

/-- Two sessions are opened under the same id, since nothing stands under it yet.  When the first
has written its packet, the second registers an exchange and stands in line.  Then flushing
fails. -/
def failedFlush : List Move :=
  [.startDispatcher, .openSession [7] {} none, .openSession [7] {} none,
    .callSession 0 (.pap "alice" "sesame")] ++ List.replicate 4 (.step (.session 0))
  ++ [.callSession 1 (.pap "bob" "pass")] ++ List.replicate 2 (.step (.session 1))
  ++ [.changeRules { flushFault := some ⟨.brokenPipe, "flush failed"⟩ }, .step (.session 0)]

/-- **A failing send does not always take back its own exchange and no other**: nobody has ended
the connection, and the exchange of another session stands no more. -/
theorem withdraws_another :
    ¬∀ (ms : List Move) (n : Nat) (s : Session) (o : Sending) (failure : Failure) (id : SessionId)
      (t : Ticket), ((fresh {} ⟨0⟩).after ms).closed = false →
      ((fresh {} ⟨0⟩).after ms).sessions[n]? = some s → s.phase = .unsent o failure →
      t ≠ o.ticket → ((fresh {} ⟨0⟩).after ms).registry.Under id t →
      ((fresh {} ⟨0⟩).after (ms ++ [.step (.session n)])).registry.Under id t := by
  intro hall
  have hunsent : (((fresh {} ⟨0⟩).after failedFlush).unsent? 0).any (fun x => x.1.ticket = 0)
      = true := by
    decide +kernel
  have hopen : ((fresh {} ⟨0⟩).after failedFlush).closed = false := by decide +kernel
  have hawaited : ((fresh {} ⟨0⟩).after failedFlush).registry.exchanges[1]?
      = some ⟨7, .awaited⟩ := by
    decide +kernel
  have hgone : ((fresh {} ⟨0⟩).after (failedFlush ++ [.step (.session 0)])).registry.contains 7
      = false := by
    decide +kernel
  obtain ⟨⟨o, failure⟩, h, hticket⟩ := (Option.any_eq_true _ _).1 hunsent
  obtain ⟨s, hn, hs⟩ := unsent?_eq_some h
  have hother : 1 ≠ o.ticket := by
    have hzero : o.ticket = 0 := of_decide_eq_true hticket
    rw [hzero]
    decide
  have hunder := hall failedFlush 0 s o failure 7 1 hopen hn hs hother ⟨_, hawaited, rfl, rfl⟩
  rw [Registry.contains_iff_under.2 ⟨1, hunder⟩] at hgone
  cases hgone

/-- The other session returns that the connection is closed as soon as it has sent its packet, and
the connection is open. -/
example :
    let ms := failedFlush ++ [.step (.session 0), .changeRules {}]
      ++ List.replicate 5 (.step (.session 1))
    .sessionOver 1 (.error .closed) ∈ ((fresh {} ⟨0⟩).run ms).2 ∧
      (sentBy (fresh {} ⟨0⟩) 1 ms).length = 52 ∧ ((fresh {} ⟨0⟩).after ms).closed = false := by
  decide +kernel

end Connection

end Tacacs
