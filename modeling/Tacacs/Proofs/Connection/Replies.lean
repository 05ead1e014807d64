/-
# `Tacacs.Proofs.Connection.Replies` — where a reply comes from, and whose it is

Two questions about an exchange that was settled with a reply.

*Where does the reply come from?*  From the dispatcher: `reply_origin` finds the
one step in which it was routed, with the packet it was cut out of.  No other
move makes a reply of anything, because all others settle exchanges with
failures.

*Whose is the exchange?*  It belongs to the session in whose phase its ticket
stands (`InFlight`).  A ticket gets into a phase only when its exchange is
registered, so a session whose exchange is in flight now had the very same one in
flight ever since there was such a ticket (`inFlight_before`), and for the same
request.  What is in flight stands under the id of its session, and its request
does not have the last sequence number (`inFlight_sound`).
-/
import Tacacs.Proofs.Connection.Moves
import Mathlib.Data.List.Induction

namespace Tacacs.Registry

variable {r : Registry} {t : Ticket} {id id' : SessionId} {p : Packet} {o o' : Outcome}

/-! ## Outcomes in the registry -/

theorem settled_of_settle (h : (r.settle id' o).exchanges[t]? = some ⟨id, .settled o'⟩) :
    r.exchanges[t]? = some ⟨id, .settled o'⟩ ∨
      o = o' ∧ id' = id ∧ r.exchanges[t]? = some ⟨id, .awaited⟩ := by
  rw [getElem?_settle] at h
  obtain ⟨⟨i, status⟩, hx, he⟩ := Option.map_eq_some_iff.1 h
  by_cases hi : i = id'
  · subst hi
    rw [if_pos rfl] at he
    cases status with
    | awaited =>
      cases he
      exact .inr ⟨rfl, rfl, hx⟩
    | abandoned => cases he
    | settled o'' =>
      cases he
      exact .inl hx
    | forgotten => cases he
  · rw [if_neg hi] at he
    exact .inl (he ▸ hx)

theorem settled_of_register (h : (r.register id').2.exchanges[t]? = some ⟨id, .settled o'⟩) :
    r.exchanges[t]? = some ⟨id, .settled o'⟩ ∨
      .error .replaced = o' ∧ id' = id ∧ r.exchanges[t]? = some ⟨id, .awaited⟩ := by
  by_cases ht : t = r.exchanges.length
  · subst ht
    rw [getElem?_register_self] at h
    cases h
  · rw [getElem?_register_of_ne _ _ ht, ← getElem?_settle] at h
    exact settled_of_settle h

theorem settled_of_giveUp {t' : Ticket}
    (h : (r.giveUp t').exchanges[t]? = some ⟨id, .settled o'⟩) :
    r.exchanges[t]? = some ⟨id, .settled o'⟩ := by
  rw [getElem?_giveUp] at h
  obtain ⟨⟨i, status⟩, hx, he⟩ := Option.map_eq_some_iff.1 h
  split at he
  · cases status with
    | settled o'' =>
      cases he
      exact hx
    | awaited => cases he
    | abandoned => cases he
    | forgotten => cases he
  · exact he ▸ hx

theorem reply_of_settle_error {f : Failure}
    (h : (r.settle id' (.error f)).exchanges[t]? = some ⟨id, .settled (.ok p)⟩) :
    r.exchanges[t]? = some ⟨id, .settled (.ok p)⟩ :=
  (settled_of_settle h).resolve_right fun hn => nomatch hn.1

theorem reply_of_register (h : (r.register id').2.exchanges[t]? = some ⟨id, .settled (.ok p)⟩) :
    r.exchanges[t]? = some ⟨id, .settled (.ok p)⟩ :=
  (settled_of_register h).resolve_right fun hn => nomatch hn.1

/-- Registries in which every exchange of another one is found under its ticket,
with the id it had. -/
def Extends (r' r : Registry) : Prop :=
  ∀ (t : Ticket) x, r.exchanges[t]? = some x →
    ∃ x', r'.exchanges[t]? = some x' ∧ x'.session = x.session

theorem extends_refl (r : Registry) : r.Extends r :=
  fun _ x hx => ⟨x, hx, rfl⟩

theorem extends_settle (r : Registry) (id : SessionId) (o : Outcome) :
    (r.settle id o).Extends r := by
  intro t x hx
  refine ⟨if x.session = id then x.settle o else x, by rw [getElem?_settle, hx]; rfl, ?_⟩
  split
  · exact Exchange.session_settle o x
  · rfl

theorem extends_register (r : Registry) (id : SessionId) : (r.register id).2.Extends r := by
  intro t x hx
  have ht : t ≠ r.exchanges.length := Nat.ne_of_lt (List.getElem?_eq_some_iff.1 hx).1
  rw [getElem?_register_of_ne _ _ ht, ← getElem?_settle]
  exact extends_settle r id _ t x hx

theorem extends_giveUp (r : Registry) (t : Ticket) : (r.giveUp t).Extends r := by
  intro t' x hx
  refine ⟨if t = t' then x.abandon else x, by rw [getElem?_giveUp, hx]; rfl, ?_⟩
  split
  · exact Exchange.session_abandon x
  · rfl

end Tacacs.Registry

namespace Tacacs

/-- The request a session has in flight, and the exchange that is registered for it. -/
def SessionPhase.inFlight? : SessionPhase → Option (Packet × Ticket)
  | .registered o | .queued o | .writing o _ | .flushing o | .unsent o _ =>
    some (o.request, o.ticket)
  | .awaiting request w => some (request, w.ticket)
  | .idle | .ready _ | .finished _ | .dropped => none

end Tacacs

namespace Tacacs.Connection

variable {c : Connection} {m : Move} {n : Nat} {t : Ticket} {id : SessionId} {p q : Packet}

/-! ## Where a reply comes from -/

/-- With its next step the dispatcher routes this packet to the exchange with a
ticket, and the exchange is settled with the reply that is read from it. -/
structure Routes (c : Connection) (f : Frame) (t : Ticket) (reply : Packet) : Prop where
  next : c.nextFrame? = some f
  awaited : c.registry.exchanges[t]? = some ⟨f.header.session, .awaited⟩
  flag : f.header.flags.unencrypted = c.config.unencrypted
  reads : Packet.ofReceived .reply c.config.key f.header f.body = .ok reply
  settled : (c.apply (.step .dispatcher)).1.registry.exchanges[t]?
    = some ⟨f.header.session, .settled (.ok reply)⟩

/-- What a received packet makes of the registry: nothing, or it settles what
stands under its id, with a reply only if the packet passed all examinations. -/
theorem ofFrame_registry (config : Config) (r : Registry) (established : Bool) (f : Frame) :
    (Reception.ofFrame config r established f).registry = r ∨
      ∃ o : Outcome,
        (Reception.ofFrame config r established f).registry = r.settle f.header.session o ∧
        ∀ reply, o = .ok reply → f.header.flags.unencrypted = config.unencrypted ∧
          Packet.ofReceived .reply config.key f.header f.body = .ok reply := by
  have corrupt : ∀ reply, (.error .corruptPacket : Outcome) = .ok reply →
      f.header.flags.unencrypted = config.unencrypted ∧
        Packet.ofReceived .reply config.key f.header f.body = .ok reply := by
    intro reply he
    cases he
  unfold Reception.ofFrame
  split
  · exact Or.inr ⟨.error .corruptPacket, rfl, corrupt⟩
  · rename_i hflag
    split
    · rename_i packet hread
      refine Or.inr ⟨.ok packet, rfl, ?_⟩
      intro reply he
      cases he
      exact ⟨Classical.not_not.1 hflag, hread⟩
    · exact Or.inr ⟨.error .corruptPacket, rfl, corrupt⟩
    · exact Or.inl rfl

theorem passage_registry {s s' : SessionPhase} {r : Registry} (h : Passage c id s s' r) :
    r = c.registry ∨ r = (c.registry.register id).2 ∨
      r = c.registry.settle id (.error .closed) ∨ ∃ t, r = c.registry.giveUp t := by
  cases h with
  | registers _ _ => exact Or.inr (Or.inl rfl)
  | withdraws => exact Or.inr (Or.inr (Or.inl rfl))
  | fails _ => exact Or.inr (Or.inr (Or.inr ⟨_, rfl⟩))
  | answered _ _ => exact Or.inr (Or.inr (Or.inr ⟨_, rfl⟩))
  | asked _ _ _ => exact Or.inr (Or.inr (Or.inr ⟨_, rfl⟩))
  | _ => exact Or.inl rfl

/-- Only the dispatcher makes replies. -/
theorem reply_apply
    (h : (c.apply m).1.registry.exchanges[t]? = some ⟨id, .settled (.ok p)⟩) :
    c.registry.exchanges[t]? = some ⟨id, .settled (.ok p)⟩ ∨
      m = .step .dispatcher ∧ ∃ f, Routes c f t p ∧ f.header.session = id := by
  have hchange := change_apply c m
  generalize hc' : (c.apply m).1 = c' at hchange h
  cases hchange with
  | stays hr => exact Or.inl (hr ▸ h)
  | goesOn hn hs =>
    rcases passage_registry hs.passage with hr | hr | hr | ⟨t', hr⟩
    · exact Or.inl (hr ▸ h)
    · exact Or.inl (Registry.reply_of_register (hr ▸ h))
    · exact Or.inl (Registry.reply_of_settle_error (hr ▸ h))
    · exact Or.inl (Registry.settled_of_giveUp (hr ▸ h))
  | @routes f hf hr =>
    rcases ofFrame_registry c.config c.registry c.established f with he | ⟨o, he, ho⟩
    · exact Or.inl (hr.trans he ▸ h)
    · rcases Registry.settled_of_settle (hr.trans he ▸ h) with h' | ⟨hop, rfl, h'⟩
      · exact Or.inl h'
      · obtain ⟨hflag, hread⟩ := ho p hop
        exact Or.inr ⟨rfl, f, ⟨hf, h', hflag, hread, hc' ▸ h⟩, rfl⟩
  | fails hr => exact Or.inl (Registry.reply_of_settle_error (hr ▸ h))
  | givesUp _ _ _ hr => exact Or.inl (Registry.settled_of_giveUp (hr ▸ h))

/-- **Every reply was routed by the dispatcher.** -/
theorem reply_origin {ms : List Move} (hnone : c.registry.exchanges[t]? = none)
    (h : (c.after ms).registry.exchanges[t]? = some ⟨id, .settled (.ok p)⟩) :
    ∃ before later f, ms = before ++ .step .dispatcher :: later ∧
      Routes (c.after before) f t p ∧ f.header.session = id := by
  induction ms using List.reverseRecOn with
  | nil => exact nomatch hnone.symm.trans h
  | append_singleton ms m ih =>
    rw [after_concat] at h
    rcases reply_apply h with h | ⟨rfl, f, hr, hid⟩
    · obtain ⟨before, later, f, rfl, hr, hid⟩ := ih h
      exact ⟨before, later ++ [m], f, by simp, hr, hid⟩
    · exact ⟨ms, [], f, rfl, hr, hid⟩

/-! ## Whose an exchange is -/

theorem extends_apply (c : Connection) (m : Move) : (c.apply m).1.registry.Extends c.registry := by
  have hchange := change_apply c m
  generalize (c.apply m).1 = c' at hchange
  cases hchange with
  | stays hr => exact hr ▸ Registry.extends_refl _
  | goesOn hn hs =>
    rcases passage_registry hs.passage with hr | hr | hr | ⟨t', hr⟩
    · exact hr ▸ Registry.extends_refl _
    · exact hr ▸ Registry.extends_register _ _
    · exact hr ▸ Registry.extends_settle _ _ _
    · exact hr ▸ Registry.extends_giveUp _ _
  | @routes f hf hr =>
    rcases ofFrame_registry c.config c.registry c.established f with he | ⟨o, he, -⟩
    · exact hr.trans he ▸ Registry.extends_refl _
    · exact hr.trans he ▸ Registry.extends_settle _ _ _
  | fails hr => exact hr ▸ Registry.extends_settle _ _ _
  | givesUp _ _ _ hr => exact hr ▸ Registry.extends_giveUp _ _

theorem extends_after (c : Connection) (ms : List Move) :
    (c.after ms).registry.Extends c.registry := by
  induction ms generalizing c with
  | nil => exact Registry.extends_refl _
  | cons m ms ih =>
    intro t x hx
    obtain ⟨x₁, hx₁, h₁⟩ := extends_apply c m t x hx
    obtain ⟨x₂, hx₂, h₂⟩ := ih (c.apply m).1 t x₁ hx₁
    exact ⟨x₂, hx₂, h₂.trans h₁⟩

/-- A session with this id has a request in flight, for which the exchange with this
ticket is registered. -/
def InFlight (c : Connection) (n : Nat) (id : SessionId) (request : Packet) (t : Ticket) : Prop :=
  ∃ s, c.sessions[n]? = some s ∧ s.id = id ∧ s.phase.inFlight? = some (request, t)

theorem inFlight_passage {s s' : SessionPhase} {r : Registry} (h : Passage c id s s' r)
    (hf : s'.inFlight? = some (q, t)) :
    s.inFlight? = some (q, t) ∨ q.header.sequence ≠ 255 ∧ t = (c.registry.register id).1 ∧
      r = (c.registry.register id).2 := by
  cases h with
  | registers h255 _ =>
    cases hf
    exact Or.inr ⟨h255, rfl, rfl⟩
  | exhausted _ => cases hf
  | unwritable _ => cases hf
  | withdraws => cases hf
  | fails _ => cases hf
  | answered _ _ => cases hf
  | asked _ _ _ => cases hf
  | refused _ => exact Or.inl hf
  | admitted _ => exact Or.inl hf
  | stands => exact Or.inl hf
  | takes => exact Or.inl hf
  | writes => exact Or.inl hf
  | written => exact Or.inl hf
  | breaks => exact Or.inl hf
  | spills => exact Or.inl hf
  | sent => exact Or.inl hf

/-- What is in flight after a move was so before, or its session has just registered
the exchange. -/
theorem inFlight_apply (h : InFlight (c.apply m).1 n id q t) :
    InFlight c n id q t ∨ m = .step (.session n) ∧ q.header.sequence ≠ 255 ∧
      t = (c.registry.register id).1 ∧ (c.apply m).1.registry = (c.registry.register id).2 := by
  obtain ⟨s', hs', rfl, hf⟩ := h
  cases hn : c.sessions[n]? with
  | none =>
    rw [session_new hn hs'] at hf
    cases hf
  | some s =>
    obtain ⟨s'', hs'', hid, hturn⟩ := session_apply hn m
    obtain rfl := Option.some.inj (hs'.symm.trans hs'')
    generalize s'.phase = next at hturn hf
    rw [hid]
    cases hturn with
    | stays _ => exact Or.inl ⟨s, hn, rfl, hf⟩
    | called _ _ => cases hf
    | refused _ => cases hf
    | dropped _ => cases hf
    | passes hp =>
      rcases inFlight_passage hp hf with h | h
      · exact Or.inl ⟨s, hn, rfl, h⟩
      · exact Or.inr ⟨rfl, h⟩

/-- **What is in flight now was in flight ever since its exchange was registered.** -/
theorem inFlight_before {ms : List Move} (ht : t < c.registry.exchanges.length)
    (h : InFlight (c.after ms) n id q t) : InFlight c n id q t := by
  induction ms generalizing c with
  | nil => exact h
  | cons m ms ih =>
    obtain ⟨x, hx, -⟩ := extends_apply c m t _ (List.getElem?_eq_getElem ht)
    rcases inFlight_apply (ih (List.getElem?_eq_some_iff.1 hx).1 h) with h | ⟨-, -, rfl, -⟩
    · exact h
    · exact absurd ht (Nat.lt_irrefl _)

/-- What is in flight stands under the id of its session, and its request does not
have the last sequence number. -/
theorem inFlight_sound {config : Config} {identifiers : Chap.IdentifierSequence} {ms : List Move}
    (h : InFlight ((fresh config identifiers).after ms) n id q t) :
    q.header.sequence ≠ 255 ∧
      ∃ x, ((fresh config identifiers).after ms).registry.exchanges[t]? = some x ∧
        x.session = id := by
  induction ms using List.reverseRecOn with
  | nil =>
    obtain ⟨s, hs, -⟩ := h
    cases hs
  | append_singleton ms m ih =>
    rw [after_concat] at h ⊢
    rcases inFlight_apply h with h | ⟨-, h255, rfl, hr⟩
    · obtain ⟨h255, x, hx, hid⟩ := ih h
      obtain ⟨x', hx', hid'⟩ := extends_apply _ m t x hx
      exact ⟨h255, x', hx', hid'.trans hid⟩
    · refine ⟨h255, ⟨id, .awaited⟩, ?_, rfl⟩
      rw [hr]
      exact Registry.getElem?_register_self _ _

theorem inFlight_unique {config : Config} {identifiers : Chap.IdentifierSequence} {ms : List Move}
    {n' : Nat} {id' : SessionId} {q' : Packet}
    (h : InFlight ((fresh config identifiers).after ms) n id q t)
    (h' : InFlight ((fresh config identifiers).after ms) n' id' q' t) : n = n' := by
  induction ms using List.reverseRecOn with
  | nil =>
    obtain ⟨s, hs, -⟩ := h
    cases hs
  | append_singleton ms m ih =>
    rw [after_concat] at h h'
    -- an exchange that is in flight already is no new one
    have old : ∀ {n id q}, InFlight ((fresh config identifiers).after ms) n id q t →
        t ≠ ((fresh config identifiers).after ms).registry.exchanges.length := by
      intro n id q h
      obtain ⟨-, x, hx, -⟩ := inFlight_sound h
      exact Nat.ne_of_lt (List.getElem?_eq_some_iff.1 hx).1
    rcases inFlight_apply h with h | ⟨hm, -, ht, -⟩
    · rcases inFlight_apply h' with h' | ⟨-, -, ht', -⟩
      · exact ih h h'
      · exact absurd ht' (old h)
    · rcases inFlight_apply h' with h' | ⟨hm', -, -, -⟩
      · exact absurd ht (old h')
      · cases hm.symm.trans hm'
        rfl

/-- The exchange with this ticket was not given up: it is awaited, or it has its
outcome. -/
def Heeded (r : Registry) (t : Ticket) : Prop :=
  ∃ id, r.exchanges[t]? = some ⟨id, .awaited⟩ ∨ ∃ o, r.exchanges[t]? = some ⟨id, .settled o⟩

theorem heeded_settle {r : Registry} (h : Heeded r t) (id : SessionId) (o : Outcome) :
    Heeded (r.settle id o) t := by
  obtain ⟨i, hx | ⟨o', hx⟩⟩ := h
  · refine ⟨i, ?_⟩
    rw [Registry.getElem?_settle, hx]
    by_cases hi : i = id
    · exact Or.inr ⟨o, congrArg some (if_pos hi)⟩
    · exact Or.inl (congrArg some (if_neg hi))
  · refine ⟨i, Or.inr ⟨o', ?_⟩⟩
    rw [Registry.getElem?_settle, hx]
    exact congrArg some (ite_self _)

theorem heeded_register {r : Registry} (h : Heeded r t) (id : SessionId) :
    Heeded (r.register id).2 t := by
  have ht : t ≠ r.exchanges.length := by
    obtain ⟨i, hx | ⟨o, hx⟩⟩ := h
    · exact Nat.ne_of_lt (List.getElem?_eq_some_iff.1 hx).1
    · exact Nat.ne_of_lt (List.getElem?_eq_some_iff.1 hx).1
  have hs := heeded_settle h id (.error .replaced)
  unfold Heeded at hs ⊢
  rwa [Registry.getElem?_register_of_ne _ _ ht, ← Registry.getElem?_settle]

theorem heeded_giveUp {r : Registry} {t' : Ticket} (h : Heeded r t) (hne : t' ≠ t) :
    Heeded (r.giveUp t') t := by
  have he : (r.giveUp t').exchanges[t]? = r.exchanges[t]? := by
    rw [Registry.getElem?_giveUp]
    simp only [if_neg hne, Option.map_id']
  unfold Heeded at h ⊢
  rwa [he]

/-- A passage of a session gives up no exchange but one that was in flight for it. -/
theorem heeded_passage {phase next : SessionPhase} {r : Registry} (hp : Passage c id phase next r)
    (h : Heeded c.registry t)
    (hne : ∀ q w, phase = .awaiting q w → next.inFlight? = none → w.ticket ≠ t) : Heeded r t := by
  cases hp with
  | registers _ _ => exact heeded_register h _
  | withdraws => exact heeded_settle h _ _
  | fails _ => exact heeded_giveUp h (hne _ _ rfl rfl)
  | answered _ _ => exact heeded_giveUp h (hne _ _ rfl rfl)
  | asked _ _ _ => exact heeded_giveUp h (hne _ _ rfl rfl)
  | _ => exact h

theorem inFlight?_of_ticket? {phase : SessionPhase} (h : phase.ticket? = some t) :
    ∃ q, phase.inFlight? = some (q, t) := by
  cases phase with
  | idle => cases h
  | ready _ => cases h
  | finished _ => cases h
  | dropped => cases h
  | _ =>
    cases h
    exact ⟨_, rfl⟩

theorem ticket?_of_inFlight? {phase : SessionPhase} (h : phase.inFlight? = some (q, t)) :
    phase.ticket? = some t := by
  cases phase with
  | idle => cases h
  | ready _ => cases h
  | finished _ => cases h
  | dropped => cases h
  | _ => exact congrArg (Option.map Prod.snd) h

/-- **What is in flight is heeded**: nobody gives up an exchange but the session it is
in flight for, and then it is no more. -/
theorem inFlight_heeded {config : Config} {identifiers : Chap.IdentifierSequence} {ms : List Move}
    (h : InFlight ((fresh config identifiers).after ms) n id q t) :
    Heeded ((fresh config identifiers).after ms).registry t := by
  induction ms using List.reverseRecOn with
  | nil =>
    obtain ⟨s, hs, -⟩ := h
    cases hs
  | append_singleton ms m ih =>
    rw [after_concat] at h ⊢
    rcases inFlight_apply h with h₀ | ⟨-, -, rfl, hr⟩
    · have hheeded := ih h₀
      -- where another session gives up an exchange, it is another one
      have other : ∀ {k : Nat} {s : Session} {q' : Packet} {t' : Ticket}, k ≠ n →
          ((fresh config identifiers).after ms).sessions[k]? = some s →
          s.phase.inFlight? = some (q', t') → t' ≠ t := by
        rintro k s q' t' hk hs hf rfl
        exact hk (inFlight_unique ⟨s, hs, rfl, hf⟩ h₀)
      have hchange := change_apply ((fresh config identifiers).after ms) m
      generalize (((fresh config identifiers).after ms).apply m).1 = c' at h hchange
      cases hchange with
      | stays hr => exact hr ▸ hheeded
      | @goesOn k s next es hk hs =>
        refine heeded_passage hs.passage hheeded ?_
        intro q' w hphase hnone
        by_cases hkn : k = n
        · -- the session itself would not have the exchange in flight any more
          subst hkn
          obtain ⟨s', hs', -, hf⟩ := h
          obtain ⟨s'', hs'', -, rfl⟩ := getElem?_step_self hk hs
          obtain rfl := Option.some.inj (hs'.symm.trans hs'')
          exact nomatch hnone.symm.trans hf
        · exact other hkn hk (hphase ▸ rfl : s.phase.inFlight? = some (q', w.ticket))
      | @routes f _ hr =>
        rcases ofFrame_registry _ _ _ f with he | ⟨o, he, -⟩
        · exact hr.trans he ▸ hheeded
        · exact hr.trans he ▸ heeded_settle hheeded _ _
      | fails hr => exact hr ▸ heeded_settle hheeded _ _
      | @givesUp k s t' hk ht hdropped hr =>
        refine hr ▸ heeded_giveUp hheeded ?_
        by_cases hkn : k = n
        · subst hkn
          obtain ⟨s', hs', -, hf⟩ := h
          obtain rfl := Option.some.inj (hs'.symm.trans hdropped)
          cases hf
        · obtain ⟨q', hf⟩ := inFlight?_of_ticket? ht
          exact other hkn hk hf
    · rw [hr]
      exact ⟨id, Or.inl (Registry.getElem?_register_self _ _)⟩

/-- **A reply that a session finds for its request was routed to it while that
request was in flight, and no other was in flight since.** -/
theorem inFlight_reply {config : Config} {identifiers : Chap.IdentifierSequence} {ms : List Move}
    (h : InFlight ((fresh config identifiers).after ms) n id q t)
    (hreply : ((fresh config identifiers).after ms).registry.outcome? t = some (.ok p)) :
    ∃ before later f, ms = before ++ .step .dispatcher :: later ∧
      Routes ((fresh config identifiers).after before) f t p ∧ f.header.session = id ∧
      ∀ mid rest, .step .dispatcher :: later = mid ++ rest →
        InFlight ((fresh config identifiers).after (before ++ mid)) n id q t := by
  obtain ⟨-, ⟨id', status⟩, hx, rfl⟩ := inFlight_sound h
  have hstatus : status = .settled (.ok p) := by
    simp only [Registry.outcome?, hx] at hreply
    cases status with
    | settled o => rw [Option.some.inj hreply]
    | awaited => cases hreply
    | abandoned => cases hreply
    | forgotten => cases hreply
  subst hstatus
  obtain ⟨before, later, f, rfl, hroutes, hid⟩ := reply_origin rfl hx
  refine ⟨before, later, f, rfl, hroutes, hid, ?_⟩
  intro mid rest hsplit
  obtain ⟨x, hx', -⟩ := extends_after _ mid t _ hroutes.awaited
  rw [hsplit, ← List.append_assoc, after_append] at h
  rw [after_append] at h ⊢
  exact inFlight_before (List.getElem?_eq_some_iff.1 hx').1 h

end Tacacs.Connection
