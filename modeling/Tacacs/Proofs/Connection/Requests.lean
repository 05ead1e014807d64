/-
# `Tacacs.Proofs.Connection.Requests` — the packets that a session makes

A session puts its packets together through the same examinations as anybody else: a start
is refused if its type of authentication is not set, a packet if its header and body do not go
together, and writing fails if the header says "open" of a packet that is to be hidden, or if
the body is too long for the header.  A session makes its packets in two places, and what it
makes passes all of them (`Made`):

    made by          header                                        body
    `firstPacket?`   the version that the call needs, number 1     start / request
    `followUp`       the version of the request before, and        continue
                     the number after that of the reply

Flags and id are those of the session in both, whatever the server has sent.  So `Made` holds
of everything a session has in hands in the course of a run (`made_after`), and a call is never
refused (`firstPacket?_made`).
-/
import Tacacs.Proofs.Connection.Numbering

namespace Tacacs

/-- A packet passes every examination that is made of it before it goes out. -/
structure Packet.Accepted (config : Config) (p : Packet) : Prop where
  /-- The type of authentication is set in a start. -/
  start (b : Authentication.Start) : p.body = .start b →
    Authentication.Start.new? b.action b.access b.origin b.data = some b
  /-- The header and the body go together. -/
  parts : Packet.new? p.header p.body = some p
  /-- The header can tell the length of the body. -/
  size : p.body.wireSize < 0x100000000
  /-- It can be written, hidden or open as the settings say. -/
  wire : config.wire p = .ok (p.octets config.key)

/-- A packet of a session with this id. -/
structure Made (config : Config) (id : SessionId) (p : Packet) : Prop where
  flags : p.header.flags = config.flags
  session : p.header.session = id
  accepted : p.Accepted config

variable {config : Config} {id : SessionId} {p q reply : Packet} {settings : SessionSettings}

/-- A packet with the flags of a connection can be written there, if it is none of accounting. -/
theorem made_of_new? (hnew : Packet.new? p.header p.body = some p)
    (hflags : p.header.flags = config.flags) (hsession : p.header.session = id)
    (hbody : ∀ octets, p.body ≠ .accounting octets) : Made config id p := by
  have hsize : p.body.wireSize < 0x100000000 :=
    Body.wireSize_lt fun octets he => absurd he (hbody octets)
  have hopen : p.header.flags.unencrypted = config.unencrypted := by
    rw [hflags, Config.flags, Flags.unencrypted_make]
  exact ⟨hflags, hsession, ⟨fun b _ => dif_neg b.typed, hnew, hsize, wire_of_flag hopen hsize⟩⟩

/-- **Every call has a first packet**, and it can be sent. -/
theorem firstPacket?_made (settings : SessionSettings) (identifier : UInt8) (call : Call) :
    ∃ q, settings.firstPacket? identifier call = some q ∧
      Made settings.config settings.id q := by
  cases call with
  | ascii => exact ⟨_, rfl, made_of_new? rfl rfl rfl fun _ => Body.noConfusion⟩
  | pap user password => exact ⟨_, rfl, made_of_new? rfl rfl rfl fun _ => Body.noConfusion⟩
  | chap user password challenge =>
    exact ⟨_, rfl, made_of_new? rfl rfl rfl fun _ => Body.noConfusion⟩
  | authorize user method type service arguments =>
    exact ⟨_, rfl, made_of_new? rfl rfl rfl fun _ => Body.noConfusion⟩

/-- An answer to a login's reply can be put together and be sent, whatever the header of the
reply says, unless the numbers are used up. -/
theorem followUp_cases (settings : SessionSettings) (q : Packet) (input : String)
    (htype : reply.header.type = .authentication) :
    reply.header.sequence = 255 ∧ settings.followUp q reply input = .error .sequenceExhausted ∨
      ∃ next, settings.followUp q reply input = .ok next ∧
        Made settings.config settings.id next := by
  unfold SessionSettings.followUp Header.next?
  by_cases h255 : reply.header.sequence = 255
  · rw [if_pos h255]
    exact .inl ⟨h255, rfl⟩
  · rw [if_neg h255, htype]
    exact .inr ⟨_, rfl, made_of_new? rfl rfl rfl fun _ => Body.noConfusion⟩

theorem afterOutcome_made {answers : Option (List (Option String))} {outcome : Outcome}
    (h : (afterOutcome settings answers q outcome).request? = some p) :
    Made settings.config settings.id p := by
  cases outcome with
  | error e => cases h
  | ok reply =>
    simp only [afterOutcome] at h
    split at h
    · cases h
    · rename_i hjudge
      split at h
      · cases h
      · rename_i input _
        rcases followUp_cases settings q input (Connection.judge_asks hjudge).2 with
          ⟨-, he⟩ | ⟨next, hnext, hmade⟩
        · rw [he] at h
          cases h
        · rw [hnext] at h
          cases h
          exact hmade

namespace Connection

variable {c : Connection} {m : Move} {ms : List Move} {n : Nat} {s s' : Session}
  {identifiers : Chap.IdentifierSequence}

theorem ready_apply (hn : c.sessions[n]? = some s) (hidle : s.phase = .idle) (call : Call) :
    ∃ q, (c.apply (.callSession n call)).1.phaseAt n = .ready q ∧
      (c.settings s).firstPacket? (call.draw c.identifiers).1 call = some q := by
  obtain ⟨q, hq, -⟩ := firstPacket?_made (c.settings s) (call.draw c.identifiers).1 call
  obtain ⟨s', hs', -, hready⟩ := ready_of_call hn hidle hq
  exact ⟨q, (phaseAt_of_some hs').trans hready, hq⟩

theorem request?_passage {phase next : SessionPhase} {r : Registry} (hp : Passage c id phase next r)
    (hwaits : ∀ q w, phase ≠ .awaiting q w) (h : next.request? = some p) :
    phase.request? = some p := by
  cases hp with
  | exhausted _ => cases h
  | unwritable _ => cases h
  | withdraws => cases h
  | fails _ => cases h
  | answered _ _ => cases h
  | asked _ _ _ => exact absurd rfl (hwaits _ _)
  | _ => exact h

/-- A move leaves a session with the packet it had, or with one that it has just made. -/
theorem request?_apply (hn : c.sessions[n]? = some s) (hs' : (c.apply m).1.sessions[n]? = some s')
    (h : s'.phase.request? = some p) : s.phase.request? = some p ∨ Made c.config s.id p := by
  obtain ⟨s'', hs'', -, hturn⟩ := session_apply hn m
  obtain rfl := Option.some.inj (hs'.symm.trans hs'')
  by_cases hwaits : m = .step (.session n) ∧ ∃ q w, s.phase = .awaiting q w
  · obtain ⟨rfl, q, w, hs⟩ := hwaits
    obtain ⟨s₁, hs₁, -, houtcome⟩ := step_awaiting hn hs
    obtain rfl := Option.some.inj (hs'.symm.trans hs₁)
    rcases houtcome with ⟨-, hstays⟩ | ⟨outcome, -, hnext⟩
    · exact .inl (hstays ▸ h)
    · rw [hnext] at h
      exact .inr (afterOutcome_made h)
  · generalize s'.phase = next at hturn h
    cases hturn with
    | stays _ => exact .inl h
    | called _ hq =>
      cases h
      obtain ⟨q', hq', hmade⟩ := firstPacket?_made (c.settings s) _ _
      obtain rfl := Option.some.inj (hq.symm.trans hq')
      exact .inr hmade
    | refused _ => cases h
    | dropped _ => cases h
    | passes hp => exact .inl (request?_passage hp (fun q w hs => hwaits ⟨rfl, q, w, hs⟩) h)

/-- **Whatever the server sends, a session has only packets that can be sent.** -/
theorem made_after (hn : ((fresh config identifiers).after ms).sessions[n]? = some s)
    (h : s.phase.request? = some p) : Made config s.id p := by
  induction ms using List.reverseRecOn generalizing s p with
  | nil => cases hn
  | append_singleton ms m ih =>
    rw [after_concat] at hn
    cases hn₀ : ((fresh config identifiers).after ms).sessions[n]? with
    | none =>
      rw [session_new hn₀ hn] at h
      cases h
    | some s₀ =>
      obtain ⟨s', hs', hid, -⟩ := session_apply hn₀ m
      obtain rfl := Option.some.inj (hn.symm.trans hs')
      rw [hid]
      rcases request?_apply hn₀ hn h with h | hmade
      · exact ih hn₀ h
      · rwa [config_after] at hmade

end Connection

end Tacacs
