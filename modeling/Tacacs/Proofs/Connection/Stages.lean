/-
# `Tacacs.Proofs.Connection.Stages` — replies, answers and packets of a login

Three streams run through a login: the replies that it accepts, the answers of its user and the
packets that it makes.  Their places tie them to each other:

    reply      0   1   …   k
    answer     0   1   …   k         if the reply asks for input, and there is an answer
    packet   0   1   …   k   k + 1   carries the answer

`Led` says so of the replies that lie behind a login; it grows by one reply, one answer and one
packet at a time.  `Stage` says where the login stands then: it has the last packet to send, it is
busy with it, or it is over, and that for one of four reasons (`Closes`).  Two kinds of steps lead
from one stage to another.  Most leave the replies alone, and at most register the packet
(`Stage.passage`); a step with which the login takes the outcome of its exchange adds a reply, and
goes on with the answer or is the last (`Stage.outcome`).
-/
import Tacacs.Proofs.Connection.Prompts

namespace Tacacs

/-! ## Answers and packets -/

/-- The answer with this place, if there is somebody to give it and it is given. -/
def given (answers : Option (List (Option String))) (i : Nat) : Option String :=
  answers.bind fun answers => answers[i]?.join

/-- A packet carries the answer to a reply. -/
structure CarriesAnswer (reply : Packet) (answer : String) (next : Packet) : Prop where
  body : next.body = .continue ⟨answer, [], 0⟩
  sequence : next.header.sequence = reply.header.sequence + 1

variable {answers : Option (List (Option String))} {rs : List Round} {r : Round}
  {p q next reply : Packet} {qs : List Packet} {i : Nat} {phase phase' : SessionPhase}
  {result : Except Failure Response} {heard : Except Failure Response → Prop} {t : Ticket}

theorem given_eq (answers : Option (List (Option String))) (i : Nat) :
    given answers i = (answers.map (List.drop i)).bind fun left => left.head?.join := by
  cases answers with
  | none => rfl
  | some answers => simp only [given, Option.map_some, Option.bind_some, List.head?_drop]

/-- The replies that a login has accepted have led it to this packet: each of them asked for
input, and the packet after it carries the answer. -/
inductive Led (answers : Option (List (Option String))) : List Round → Packet → Prop
  | opens {q : Packet} : Led answers [] q
  | goesOn {rs : List Round} {r : Round} {answer : String} {next : Packet} :
      Led answers rs r.request → r.prompt?.isSome = true →
      given answers rs.length = some answer → CarriesAnswer r.reply answer next →
      Led answers (rs ++ [r]) next

namespace Led

theorem asks (h : Led answers rs q) (hr : r ∈ rs) : r.prompt?.isSome = true := by
  induction h with
  | opens => cases hr
  | goesOn _ hasks _ _ ih =>
    rcases List.mem_append.1 hr with hr | hr
    · exact ih hr
    · rw [List.mem_singleton.1 hr]
      exact hasks

/-- **Each packet but the first carries the answer to the reply before it.** -/
theorem carries (h : Led answers rs q)
    (hp : (rs.map Round.request ++ [q])[i + 1]? = some p) :
    ∃ r answer, rs[i]? = some r ∧ given answers i = some answer ∧
      CarriesAnswer r.reply answer p := by
  induction h with
  | opens => cases hp
  | @goesOn rs r answer next _ _ hgiven hcarries ih =>
    rw [List.map_append] at hp
    rcases getElem?_concat hp with hp | ⟨hi, rfl⟩
    · obtain ⟨r', answer', hr', h⟩ := ih hp
      exact ⟨r', answer', getElem?_of_grown (List.prefix_append _ _) hr', h⟩
    · have hlength : i = rs.length := by
        rw [List.length_append, List.length_map] at hi
        exact Nat.succ.inj hi
      subst hlength
      exact ⟨r, answer, List.getElem?_concat_length, hgiven, hcarries⟩

theorem exists_carries (h : Led answers rs q) (hr : rs[i]? = some r) :
    ∃ p answer, (rs.map Round.request ++ [q])[i + 1]? = some p ∧
      given answers i = some answer ∧ CarriesAnswer r.reply answer p := by
  have hlt : i + 1 < (rs.map Round.request ++ [q]).length := by
    rw [List.length_append, List.length_map]
    exact Nat.succ_lt_succ (List.getElem?_eq_some_iff.1 hr).1
  obtain ⟨r', answer, hr', hgiven, hcarries⟩ := h.carries (List.getElem?_eq_getElem hlt)
  obtain rfl := Option.some.inj (hr.symm.trans hr')
  exact ⟨_, answer, List.getElem?_eq_getElem hlt, hgiven, hcarries⟩

theorem find?_eq_none (h : Led answers rs q) :
    rs.find? (fun r => r.prompt?.isNone) = none := by
  refine List.find?_eq_none.2 fun r hr hnone => ?_
  have hasks := h.asks hr
  rw [Option.isNone_iff_eq_none.1 hnone] at hasks
  cases hasks

/-- Who has answered the reply with number 254 comes to the packet with number 255, and has
registered none that has it. -/
theorem last_of_254 (h : Led answers rs q) (hr : rs[i]? = some r)
    (hlast : r.reply.header.sequence = 254)
    (hpast : ∀ p ∈ rs.map Round.request, p.header.sequence ≠ 255) :
    i + 1 = rs.length ∧ q.header.sequence = 255 := by
  obtain ⟨p, answer, hp, -, hcarries⟩ := h.exists_carries hr
  have h255 : p.header.sequence = 255 := by
    rw [hcarries.sequence, hlast]
    rfl
  rcases getElem?_concat hp with hp | ⟨hi, rfl⟩
  · exact absurd h255 (hpast p (List.mem_of_getElem? hp))
  · rw [List.length_map] at hi
    exact ⟨hi, h255⟩

end Led

/-! ## Where a login stands -/

/-- A login that has registered these packets is over, and this is what it came to. -/
inductive Closes (answers : Option (List (Option String))) :
    List Round → List Packet → Except Failure Response → Prop
  /-- There is no number left for the reply to the next packet. -/
  | exhausted {rs : List Round} {q : Packet} : Led answers rs q → q.header.sequence = 255 →
      Closes answers rs (rs.map Round.request) (.error .sequenceExhausted)
  /-- The last packet cannot be sent, or no reply to it is accepted. -/
  | fails {rs : List Round} {q : Packet} {f : Failure} : Led answers rs q →
      Closes answers rs (rs.map Round.request ++ [q]) (.error f)
  /-- The last reply asks for input, and there is no answer. -/
  | unanswered {rs : List Round} {r : Round} : Led answers rs r.request →
      r.prompt?.isSome = true → given answers rs.length = none →
      Closes answers (rs ++ [r]) (rs.map Round.request ++ [r.request]) (.error .noInput)
  /-- The last reply asks for nothing. -/
  | answered {rs : List Round} {r : Round} {b : Authentication.Reply} :
      Led answers rs r.request → r.prompt? = none → r.reply.body = .authenReply b →
      Closes answers (rs ++ [r]) (rs.map Round.request ++ [r.request])
        (.ok (.authentication ⟨b.status, b.message, b.data, b.noEcho⟩))

/-- Where a login stands that has registered these packets, and what was heard of its end. -/
inductive Stage (answers : Option (List (Option String))) (heard : Except Failure Response → Prop) :
    List Round → List Packet → SessionPhase → Prop
  | ready {rs : List Round} {q : Packet} : (∀ result, ¬heard result) → Led answers rs q →
      Stage answers heard rs (rs.map Round.request) (.ready q)
  | busy {rs : List Round} {phase : SessionPhase} {q : Packet} {t : Ticket} :
      (∀ result, ¬heard result) → phase.inFlight? = some (q, t) → Led answers rs q →
      Stage answers heard rs (rs.map Round.request ++ [q]) phase
  | finished {rs : List Round} {qs : List Packet} {result : Except Failure Response} :
      (∀ other, heard other ↔ other = result) → Closes answers rs qs result →
      Stage answers heard rs qs (.finished result)
  | dropped {rs : List Round} {qs : List Packet} {phase : SessionPhase} :
      Stage answers heard rs qs phase → Stage answers heard rs qs .dropped

/-- A login has this packet to send next, or would have it if it were not over. -/
structure ToSend (heard : Except Failure Response → Prop) (q : Packet) (phase : SessionPhase) :
    Prop where
  /-- It ends for want of numbers only. -/
  ends : ∀ result, heard result → result = .error .sequenceExhausted ∧ q.header.sequence = 255
  stands : phase = .ready q ∨ heard (.error .sequenceExhausted) ∨ phase = .dropped

namespace Stage

theorem of_ready (h : Stage answers heard rs qs (.ready q)) :
    (∀ result, ¬heard result) ∧ qs = rs.map Round.request ∧ Led answers rs q := by
  cases h with
  | ready hnone hled => exact ⟨hnone, rfl, hled⟩
  | busy _ hf _ => cases hf

theorem of_inFlight (h : Stage answers heard rs qs phase) (hf : phase.inFlight? = some (q, t)) :
    (∀ result, ¬heard result) ∧ qs = rs.map Round.request ++ [q] ∧ Led answers rs q := by
  cases h with
  | ready _ _ => cases hf
  | busy hnone hf' hled =>
    cases hf.symm.trans hf'
    exact ⟨hnone, rfl, hled⟩
  | finished _ _ => cases hf
  | dropped _ => cases hf

theorem asks_of_not_over (h : Stage answers heard rs qs phase) (hnot : ¬phase.IsOver)
    (hr : r ∈ rs) : r.prompt?.isSome = true := by
  cases h with
  | ready _ hled => exact hled.asks hr
  | busy _ _ hled => exact hled.asks hr
  | finished _ _ => exact absurd trivial hnot
  | dropped _ => exact absurd trivial hnot

/-! ### What follows of the streams -/

/-- Every reply that is accepted answers the packet with its place. -/
theorem requests (h : Stage answers heard rs qs phase) : rs.map Round.request <+: qs := by
  induction h with
  | ready _ _ => exact List.prefix_rfl
  | busy _ _ _ => exact List.prefix_append _ _
  | finished _ hcloses =>
    cases hcloses with
    | exhausted _ _ => exact List.prefix_rfl
    | fails _ => exact List.prefix_append _ _
    | unanswered _ _ _ =>
      rw [List.map_append]
      exact List.prefix_rfl
    | answered _ _ _ =>
      rw [List.map_append]
      exact List.prefix_rfl
  | dropped _ ih => exact ih

/-- The replies lead to all packets, except for the last reply perhaps. -/
theorem led (h : Stage answers heard rs qs phase) :
    ∃ past q, Led answers past q ∧ past <+: rs ∧ rs.length ≤ past.length + 1 ∧
      qs <+: past.map Round.request ++ [q] := by
  induction h with
  | ready _ hled =>
    exact ⟨_, _, hled, List.prefix_rfl, Nat.le_succ _, List.prefix_append _ _⟩
  | busy _ _ hled => exact ⟨_, _, hled, List.prefix_rfl, Nat.le_succ _, List.prefix_rfl⟩
  | finished _ hcloses =>
    cases hcloses with
    | exhausted hled _ =>
      exact ⟨_, _, hled, List.prefix_rfl, Nat.le_succ _, List.prefix_append _ _⟩
    | fails hled => exact ⟨_, _, hled, List.prefix_rfl, Nat.le_succ _, List.prefix_rfl⟩
    | unanswered hled _ _ =>
      exact ⟨_, _, hled, List.prefix_append _ _, Nat.le_of_eq List.length_append, List.prefix_rfl⟩
    | answered hled _ _ =>
      exact ⟨_, _, hled, List.prefix_append _ _, Nat.le_of_eq List.length_append, List.prefix_rfl⟩
  | dropped _ ih => exact ih

/-- After a reply that is answered there is a packet, and it is registered, or is the one to be
sent next. -/
theorem answered (h : Stage answers heard rs qs phase) {answer : String}
    (hr : rs[i]? = some r) (hasks : r.prompt?.isSome = true)
    (hgiven : given answers i = some answer) :
    ∃ past q, Led answers past q ∧ past[i]? = some r ∧
      (qs = past.map Round.request ++ [q] ∨
        qs = past.map Round.request ∧ ToSend heard q phase) := by
  induction h with
  | ready hnone hled =>
    exact ⟨_, _, hled, hr, .inr ⟨rfl, fun result hh => absurd hh (hnone result), .inl rfl⟩⟩
  | busy _ _ hled => exact ⟨_, _, hled, hr, .inl rfl⟩
  | finished hheard hcloses =>
    cases hcloses with
    | exhausted hled h255 =>
      exact ⟨_, _, hled, hr, .inr ⟨rfl, fun result hh => ⟨(hheard result).1 hh, h255⟩,
        .inr (.inl ((hheard _).2 rfl))⟩⟩
    | fails hled => exact ⟨_, _, hled, hr, .inl rfl⟩
    | unanswered hled _ hnone =>
      rcases getElem?_concat hr with hr | ⟨rfl, rfl⟩
      · exact ⟨_, _, hled, hr, .inl rfl⟩
      · cases hgiven.symm.trans hnone
    | answered hled hnone _ =>
      rcases getElem?_concat hr with hr | ⟨rfl, rfl⟩
      · exact ⟨_, _, hled, hr, .inl rfl⟩
      · rw [hnone] at hasks
        cases hasks
  | dropped _ ih =>
    obtain ⟨past, q, hled, hr', hqs | ⟨hqs, hheard, -⟩⟩ := ih
    · exact ⟨past, q, hled, hr', .inl hqs⟩
    · exact ⟨past, q, hled, hr', .inr ⟨hqs, hheard, .inr (.inr rfl)⟩⟩

/-- **The answer to the reply with number 254 is not sent, and the login ends for want of
numbers.** -/
theorem exhausted (h : Stage answers heard rs qs phase) {answer : String}
    (hr : rs[i]? = some r) (hasks : r.prompt?.isSome = true)
    (hgiven : given answers i = some answer) (hlast : r.reply.header.sequence = 254)
    (hqs : ∀ p ∈ qs, p.header.sequence ≠ 255) :
    qs.length = i + 1 ∧ ∃ q, q.header.sequence = 255 ∧ ToSend heard q phase := by
  obtain ⟨past, q, hled, hr', rfl | ⟨rfl, hsend⟩⟩ := h.answered hr hasks hgiven
  · obtain ⟨-, h255⟩ := hled.last_of_254 hr' hlast fun p hp => hqs p (List.mem_append_left _ hp)
    exact absurd h255 (hqs q (List.mem_append_right _ (List.mem_singleton_self q)))
  · obtain ⟨hi, h255⟩ := hled.last_of_254 hr' hlast hqs
    exact ⟨(List.length_map _).trans hi.symm, q, h255, hsend⟩

/-- **An answer that can be sent is taken up**: the packet that carries it is registered, or is
the one to be sent next, unless the login was called off. -/
theorem takes_up (h : Stage answers heard rs qs phase) {answer : String}
    (hr : rs[i]? = some r) (hasks : r.prompt?.isSome = true)
    (hgiven : given answers i = some answer) (hnot : r.reply.header.sequence ≠ 254) :
    (∃ p, qs[i + 1]? = some p ∧ CarriesAnswer r.reply answer p) ∨
      (∃ q, phase = .ready q ∧ CarriesAnswer r.reply answer q) ∨ phase = .dropped := by
  obtain ⟨past, q, hled, hr', hqs⟩ := h.answered hr hasks hgiven
  obtain ⟨p, answer', hp, hgiven', hcarries⟩ := hled.exists_carries hr'
  obtain rfl := Option.some.inj (hgiven.symm.trans hgiven')
  rcases hqs with rfl | ⟨rfl, hsend⟩
  · exact .inl ⟨p, hp, hcarries⟩
  · rcases getElem?_concat hp with hp | ⟨-, rfl⟩
    · exact .inl ⟨p, hp, hcarries⟩
    · rcases hsend.stands with hready | hheard | hdropped
      · exact .inr (.inl ⟨p, hready, hcarries⟩)
      · have hsame : r.reply.header.sequence + 1 = 254 + 1 :=
          hcarries.sequence.symm.trans (hsend.ends _ hheard).2
        exact absurd ((UInt8.add_left_inj 1).1 hsame) hnot
      · exact .inr (.inr hdropped)

/-- **For want of an answer a login ends**, with the packet that it has written last. -/
theorem silent (h : Stage answers heard rs qs phase) (hr : rs[i]? = some r)
    (hasks : r.prompt?.isSome = true) (hgiven : given answers i = none) :
    qs.length = i + 1 ∧ ∀ result, heard result ↔ result = .error .noInput := by
  have answered {rs : List Round} {q : Packet} (hled : Led answers rs q)
      (hr : rs[i]? = some r) : False := by
    obtain ⟨-, answer, -, hsome, -⟩ := hled.exists_carries hr
    cases hgiven.symm.trans hsome
  induction h with
  | ready _ hled => exact (answered hled hr).elim
  | busy _ _ hled => exact (answered hled hr).elim
  | finished hheard hcloses =>
    cases hcloses with
    | exhausted hled _ => exact (answered hled hr).elim
    | fails hled => exact (answered hled hr).elim
    | unanswered hled _ _ =>
      rcases getElem?_concat hr with hr | ⟨rfl, rfl⟩
      · exact (answered hled hr).elim
      · refine ⟨?_, hheard⟩
        rw [List.length_append, List.length_map]
        rfl
    | answered hled hnone _ =>
      rcases getElem?_concat hr with hr | ⟨rfl, rfl⟩
      · exact (answered hled hr).elim
      · rw [hnone] at hasks
        cases hasks
  | dropped _ ih => exact ih

/-- **A login comes to a response with the first reply that asks for nothing, and reports it.** -/
theorem responds (h : Stage answers heard rs qs phase) (response : Response) :
    heard (.ok response) ↔
      ∃ r b, rs.find? (fun r => r.prompt?.isNone) = some r ∧ r.reply.body = .authenReply b ∧
        response = .authentication ⟨b.status, b.message, b.data, b.noEcho⟩ := by
  have asks {rs : List Round} (hnot : ¬heard (.ok response))
      (hnone : rs.find? (fun r => r.prompt?.isNone) = none) :
      heard (.ok response) ↔
        ∃ r b, rs.find? (fun r => r.prompt?.isNone) = some r ∧ r.reply.body = .authenReply b ∧
          response = .authentication ⟨b.status, b.message, b.data, b.noEcho⟩ := by
    constructor
    · intro hh
      exact absurd hh hnot
    · rintro ⟨r, b, hr, -⟩
      cases hnone.symm.trans hr
  induction h with
  | ready hnone hled => exact asks (hnone _) hled.find?_eq_none
  | busy hnone _ hled => exact asks (hnone _) hled.find?_eq_none
  | finished hheard hcloses =>
    have failed {f : Failure} (hheard : ∀ other, heard other ↔ other = .error f) :
        ¬heard (.ok response) := by
      intro hh
      cases (hheard _).1 hh
    cases hcloses with
    | exhausted hled _ => exact asks (failed hheard) hled.find?_eq_none
    | fails hled => exact asks (failed hheard) hled.find?_eq_none
    | unanswered hled hasks _ =>
      obtain ⟨prompt, hprompt⟩ := Option.isSome_iff_exists.1 hasks
      refine asks (failed hheard) ?_
      rw [List.find?_append, hled.find?_eq_none, Option.none_or, List.find?_singleton, hprompt]
      rfl
    | @answered rs r b hled hnone hbody =>
      have hfirst : (rs ++ [r]).find? (fun r => r.prompt?.isNone) = some r := by
        rw [List.find?_append, hled.find?_eq_none, Option.none_or, List.find?_singleton, hnone]
        rfl
      rw [hheard, hfirst]
      constructor
      · intro he
        exact ⟨r, b, rfl, hbody, Except.ok.inj he⟩
      · rintro ⟨r', b', hr', hbody', rfl⟩
        obtain rfl := Option.some.inj hr'
        rw [Body.authenReply.inj (hbody'.symm.trans hbody)]
  | dropped _ ih => exact ih

end Stage

/-! ## Steps -/

theorem afterOutcome_of_not_accepts (settings : SessionSettings)
    (left : Option (List (Option String))) (h : ¬Accepts q reply) :
    ∃ e, afterOutcome settings left q (.ok reply) = .finished (.error e) := by
  obtain ⟨e, hjudge⟩ := judge_of_not_accepts h
  exact ⟨e, by simp only [afterOutcome, hjudge]⟩

theorem afterOutcome_of_not_prompt (settings : SessionSettings)
    (left : Option (List (Option String))) (htype : q.header.type = .authentication)
    (h : Accepts q reply) (hprompt : reply.prompt? = none) {b : Authentication.Reply}
    (hb : reply.body = .authenReply b) :
    afterOutcome settings left q (.ok reply)
      = .finished (.ok (.authentication ⟨b.status, b.message, b.data, b.noEcho⟩)) := by
  obtain ⟨result, hjudge, hresult⟩ := judge_of_not_prompt htype h hprompt
  simp only [afterOutcome, hjudge, hresult b hb]

theorem afterOutcome_of_unanswered (settings : SessionSettings)
    {left : Option (List (Option String))} (htype : q.header.type = .authentication)
    (h : Accepts q reply) {prompt : Prompt} (hprompt : reply.prompt? = some prompt)
    (hleft : (left.bind fun left => left.head?.join) = none) :
    afterOutcome settings left q (.ok reply) = .finished (.error .noInput) := by
  simp only [afterOutcome, judge_of_prompt htype h hprompt, hleft]

theorem afterOutcome_of_answered (settings : SessionSettings)
    {left : Option (List (Option String))} (htype : q.header.type = .authentication)
    (h254 : q.header.sequence ≠ 254) (h : Accepts q reply) {prompt : Prompt}
    (hprompt : reply.prompt? = some prompt) {answer : String}
    (hleft : (left.bind fun left => left.head?.join) = some answer) :
    ∃ next, afterOutcome settings left q (.ok reply) = .ready next ∧
      CarriesAnswer reply answer next := by
  have h255 : reply.header.sequence ≠ 255 := by
    intro he
    have hsame : q.header.sequence + 1 = 254 + 1 := h.sequence.symm.trans he
    exact h254 ((UInt8.add_left_inj 1).1 hsame)
  obtain ⟨next, hnext, hcarries⟩ : ∃ next, settings.followUp q reply answer = .ok next ∧
      CarriesAnswer reply answer next :=
    ⟨_, followUp_eq settings q answer (h.type.trans htype) h255, rfl, rfl⟩
  refine ⟨next, ?_, hcarries⟩
  simp only [afterOutcome, judge_of_prompt htype h hprompt, hleft, hnext]

/-- What was heard of the end of a login when it has passed from a phase to the next. -/
def Hears (heard : Except Failure Response → Prop) (phase next : SessionPhase)
    (result : Except Failure Response) : Prop :=
  heard result ∨ phase ≠ .finished result ∧ next = .finished result

theorem hears_self : Hears heard phase phase = heard := by
  funext result
  refine propext ⟨?_, .inl⟩
  rintro (h | ⟨hne, he⟩)
  · exact h
  · exact absurd he hne

theorem hears_of_not_finished (hnext : ∀ result, phase' ≠ .finished result) :
    Hears heard phase phase' = heard := by
  funext result
  refine propext ⟨?_, .inl⟩
  rintro (h | ⟨-, he⟩)
  · exact h
  · exact absurd he (hnext result)

theorem hears_finished (hnone : ∀ result, ¬heard result) (hphase : ∀ other, phase ≠ .finished other)
    (other : Except Failure Response) :
    Hears heard phase (.finished result) other ↔ other = result := by
  constructor
  · rintro (h | ⟨-, he⟩)
    · exact absurd h (hnone other)
    · exact (SessionPhase.finished.inj he).symm
  · rintro rfl
    exact .inr ⟨hphase _, rfl⟩

namespace Stage

theorem goesOn {t' : Ticket} (h : Stage answers heard rs qs phase)
    (hf : phase.inFlight? = some (q, t)) (hf' : phase'.inFlight? = some (q, t'))
    (hnext : ∀ result, phase' ≠ .finished result) :
    Stage answers (Hears heard phase phase') rs qs phase' := by
  obtain ⟨hnone, rfl, hled⟩ := h.of_inFlight hf
  rw [hears_of_not_finished hnext]
  exact .busy hnone hf' hled

/-- A login that does not wait for a reply passes on, and registers a packet if it does. -/
theorem passage {c : Connection} {id : SessionId} {registry : Registry}
    (h : Stage answers heard rs qs phase) (hp : Connection.Passage c id phase phase' registry)
    (hwaits : ∀ q w, phase ≠ .awaiting q w)
    (hwire : ∀ q e, phase = .ready q → c.config.wire q ≠ .error e) :
    Stage answers (Hears heard phase phase') rs
      (qs ++ (registration phase phase').toList.map Sending.request) phase' := by
  have same : qs ++ (none : Option Sending).toList.map Sending.request = qs := List.append_nil qs
  cases hp with
  | exhausted h255 =>
    obtain ⟨hnone, rfl, hled⟩ := h.of_ready
    exact same.symm ▸ .finished (hears_finished hnone fun _ => SessionPhase.noConfusion)
      (.exhausted hled h255)
  | unwritable he => exact absurd he (hwire _ _ rfl)
  | registers _ _ =>
    obtain ⟨hnone, rfl, hled⟩ := h.of_ready
    rw [hears_of_not_finished fun _ => SessionPhase.noConfusion]
    exact .busy hnone rfl hled
  | refused _ => exact same.symm ▸ h.goesOn rfl rfl fun _ => SessionPhase.noConfusion
  | admitted _ => exact same.symm ▸ h.goesOn rfl rfl fun _ => SessionPhase.noConfusion
  | stands => exact same.symm ▸ h.goesOn rfl rfl fun _ => SessionPhase.noConfusion
  | takes => exact same.symm ▸ h.goesOn rfl rfl fun _ => SessionPhase.noConfusion
  | writes => exact same.symm ▸ h.goesOn rfl rfl fun _ => SessionPhase.noConfusion
  | written => exact same.symm ▸ h.goesOn rfl rfl fun _ => SessionPhase.noConfusion
  | breaks => exact same.symm ▸ h.goesOn rfl rfl fun _ => SessionPhase.noConfusion
  | spills => exact same.symm ▸ h.goesOn rfl rfl fun _ => SessionPhase.noConfusion
  | sent => exact same.symm ▸ h.goesOn rfl rfl fun _ => SessionPhase.noConfusion
  | withdraws =>
    obtain ⟨hnone, rfl, hled⟩ := h.of_inFlight rfl
    exact same.symm ▸ .finished (hears_finished hnone fun _ => SessionPhase.noConfusion)
      (.fails hled)
  | fails _ => exact absurd rfl (hwaits _ _)
  | answered _ _ => exact absurd rfl (hwaits _ _)
  | asked _ _ _ => exact absurd rfl (hwaits _ _)

/-- **A login that takes the outcome of its exchange goes on with the answer, or is over.** -/
theorem outcome {w : Wait} {left : Option (List (Option String))} {outcome : Outcome}
    (settings : SessionSettings) (h : Stage answers heard rs qs (.awaiting q w))
    (htype : q.header.type = .authentication) (h254 : q.header.sequence ≠ 254)
    (hleft : left = answers.map (List.drop rs.length))
    (hbody : ∀ reply, outcome = .ok reply → reply.header.type = .authentication →
      ∃ b, reply.body = .authenReply b) :
    Stage answers (Hears heard (.awaiting q w) (afterOutcome settings left q outcome))
      (rs ++ (round? q outcome).toList) qs (afterOutcome settings left q outcome) := by
  obtain ⟨hnone, rfl, hled⟩ := h.of_inFlight rfl
  have ends {rs' : List Round} {result : Except Failure Response}
      (hafter : afterOutcome settings left q outcome = .finished result)
      (hcloses : Closes answers rs' (rs.map Round.request ++ [q]) result) :
      Stage answers (Hears heard (.awaiting q w) (afterOutcome settings left q outcome)) rs'
        (rs.map Round.request ++ [q]) (afterOutcome settings left q outcome) := by
    rw [hafter]
    exact .finished (hears_finished hnone fun _ => SessionPhase.noConfusion) hcloses
  have untaken : rs ++ (none : Option Round).toList = rs := List.append_nil rs
  cases outcome with
  | error e => exact untaken.symm ▸ ends rfl (.fails hled)
  | ok reply =>
    by_cases haccepts : Accepts q reply
    case neg =>
      obtain ⟨e, hafter⟩ := afterOutcome_of_not_accepts settings left haccepts
      rw [round?, if_neg haccepts, untaken]
      exact ends hafter (.fails hled)
    case pos =>
      rw [round?, if_pos haccepts]
      cases hprompt : reply.prompt? with
      | none =>
        obtain ⟨b, hb⟩ := hbody reply rfl (haccepts.type.trans htype)
        exact ends (afterOutcome_of_not_prompt settings left htype haccepts hprompt hb)
          (.answered (r := ⟨q, reply⟩) hled hprompt hb)
      | some prompt =>
        have hasks : (⟨q, reply⟩ : Round).prompt?.isSome = true := congrArg Option.isSome hprompt
        have hgiven := given_eq answers rs.length
        rw [← hleft] at hgiven
        cases hanswer : given answers rs.length with
        | none =>
          exact ends
            (afterOutcome_of_unanswered settings htype haccepts hprompt (hgiven.symm.trans hanswer))
            (.unanswered (r := ⟨q, reply⟩) hled hasks hanswer)
        | some answer =>
          obtain ⟨next, hafter, hcarries⟩ := afterOutcome_of_answered settings htype h254 haccepts
            hprompt (hgiven.symm.trans hanswer)
          have hpast : rs.map Round.request ++ [q]
              = (rs ++ [(⟨q, reply⟩ : Round)]).map Round.request := by
            rw [List.map_append]
            rfl
          rw [hafter, hpast, hears_of_not_finished fun _ => SessionPhase.noConfusion]
          exact .ready hnone (.goesOn (r := ⟨q, reply⟩) hled hasks hanswer hcarries)

end Stage

end Tacacs
