/-
# `Tacacs.Proofs.Connection.ArrivalOrder` — in what order replies come does not matter

Packets of different sessions reach the dispatcher in whatever order the server and the
stream bring them.  As long as the packets of each session keep their order, the
dispatcher ends in the same state: every exchange has the same outcome, and the
connection is known to be kept in the same cases (`arrival_order`).

The reason is `receive_eq`.  What many packets do is told exchange by exchange, and for
each exchange by the first packet of its session; all later ones find nothing that
stands.  The first packet of a session is the same in every order that is allowed, and
whether any packet confirms that the connection is kept does not depend on an order at
all.

Packets of types that are not looked into end the connection, and what comes behind them
is never read; so the packets here are those of logins and of requests for authorization,
sound or not.
-/
import Tacacs.Proofs.Connection.Frames

namespace Tacacs

/-! ## Many packets -/

/-- The packets of one list in the order of another, in which those of each session keep
their order. -/
structure Reordering (fs fs' : List Frame) : Prop where
  perm : fs.Perm fs'
  order : ∀ id, fs.filter (·.session == id) = fs'.filter (·.session == id)

/-- The first packet of each session is the same in both orders. -/
theorem Reordering.find?_eq {fs fs' : List Frame} (h : Reordering fs fs') (id : SessionId) :
    fs.find? (·.session == id) = fs'.find? (·.session == id) := by
  rw [← List.head?_filter, h.order, List.head?_filter]

namespace Exchange

/-- An exchange after the first of these packets for its session has settled it. -/
def settleByFirst (config : Config) (fs : List Frame) (e : Exchange) : Exchange :=
  match fs.find? (·.session == e.session) with
  | some f => e.settle (f.outcome config)
  | none => e

theorem settleByFirst_cons (config : Config) (f : Frame) (fs : List Frame) (e : Exchange) :
    e.settleByFirst config (f :: fs)
      = (if e.session = f.session then e.settle (f.outcome config) else e).settleByFirst config
          fs := by
  unfold settleByFirst
  by_cases h : e.session = f.session
  · have hfirst : (f :: fs).find? (·.session == e.session) = some f :=
      List.find?_cons_of_pos (beq_iff_eq.2 h.symm)
    simp only [hfirst, if_pos h]
    split
    · rw [settle_settle]
    · rfl
  · have hlater : (f :: fs).find? (·.session == e.session) = fs.find? (·.session == e.session) :=
      List.find?_cons_of_neg fun hf => h (beq_iff_eq.1 hf).symm
    simp only [hlater, if_neg h]

end Exchange

namespace Registry

/-- A registry after the first of these packets for each session has settled the session's
exchange. -/
def settleAll (r : Registry) (config : Config) (fs : List Frame) : Registry :=
  ⟨r.exchanges.map (Exchange.settleByFirst config fs)⟩

theorem settleAll_nil (r : Registry) (config : Config) : r.settleAll config [] = r :=
  congrArg Registry.mk (List.map_id _)

theorem settleAll_cons (r : Registry) (config : Config) (f : Frame) (fs : List Frame) :
    r.settleAll config (f :: fs) = (r.settle f.session (f.outcome config)).settleAll config fs := by
  unfold settleAll settle
  rw [List.map_map]
  exact congrArg Registry.mk (List.map_congr_left fun e _ => Exchange.settleByFirst_cons ..)

end Registry

namespace Connection

/-- The dispatcher takes these packets, one after the other. -/
def receive (c : Connection) (fs : List Frame) : Connection :=
  fs.foldl (fun c f => (c.stepFrame f).1) c

/-- **What many packets do**, if none of them ends the connection. -/
theorem receive_eq {c : Connection} {fs : List Frame}
    (h : ∀ f ∈ fs, f.stops c.config = false) :
    c.receive fs =
      { c with
        registry := c.registry.settleAll c.config fs
        established := c.established || fs.any (·.confirms c.config)
        dispatcher := if fs.isEmpty then c.dispatcher else .reading .start } := by
  induction fs generalizing c with
  | nil =>
    rw [Registry.settleAll_nil, List.any_nil, Bool.or_false]
    rfl
  | cons f fs ih =>
    have hf := stepFrame_of_goesOn (h f List.mem_cons_self)
    have hfs : ∀ f' ∈ fs, f'.stops (c.stepFrame f).1.config = false := by
      rw [hf]
      exact fun f' hf' => h f' (List.mem_cons_of_mem _ hf')
    have hrest := ih hfs
    show (c.stepFrame f).1.receive fs = _
    rw [hrest, hf, Registry.settleAll_cons, List.any_cons, Bool.or_assoc]
    simp only [ite_self, List.isEmpty_cons, Bool.false_eq_true, if_false]

theorem receive_arrivals {c : Connection} {fs : List Frame} {a : List Arrival}
    (h : ∀ f ∈ fs, f.stops c.config = false) :
    ({ c with arrivals := a }).receive fs = { c.receive fs with arrivals := a } := by
  rw [receive_eq h, receive_eq (c := { c with arrivals := a }) h]

/-- Orders that agree on each session lead to the same state. -/
theorem receive_reordering {c : Connection} {fs fs' : List Frame} (h : Reordering fs fs')
    (hgoesOn : ∀ f ∈ fs, f.stops c.config = false) : c.receive fs = c.receive fs' := by
  have hgoesOn' : ∀ f ∈ fs', f.stops c.config = false :=
    fun f hf => hgoesOn f (h.perm.mem_iff.2 hf)
  have hregistry : c.registry.settleAll c.config fs = c.registry.settleAll c.config fs' := by
    refine congrArg Registry.mk (List.map_congr_left fun e _ => ?_)
    rw [Exchange.settleByFirst, Exchange.settleByFirst, h.find?_eq]
  have hany : fs.any (·.confirms c.config) = fs'.any (·.confirms c.config) := h.perm.any_eq
  have hempty : fs.isEmpty = fs'.isEmpty := h.perm.isEmpty_eq
  rw [receive_eq hgoesOn, receive_eq hgoesOn', hregistry, hany, hempty]

end Connection

/-! ## Many packets in the stream -/

/-- The octets of a packet that came off the stream. -/
def Frame.octets (f : Frame) : Octets :=
  f.header.encode (UInt32.ofNat f.body.length) ++ f.body

theorem absorb_frame {limit : UInt32} {f : Frame} (h : f.body.length ≤ limit.toNat)
    (rest : Octets) : Reader.start.absorb limit (f.octets ++ rest) = (.frame f, rest) := by
  have hlength : (UInt32.ofNat f.body.length).toNat = f.body.length := by
    have hlimit := limit.toNat_lt
    rw [UInt32.toNat_ofNat', Nat.mod_eq_of_lt (by omega)]
  refine Reader.absorb_packet hlength.symm ?_ rest
  rw [UInt32.le_iff_toNat_le, hlength]
  exact h

namespace Connection

variable {c : Connection} {fs fs' : List Frame} {ps : List Octets}

/-- The octets of these packets stand in the stream, in pieces of any size: so many steps
of the dispatcher later it has taken the packets, and nothing but empty pieces is left. -/
theorem after_frames (hd : c.dispatcher = .reading .start) (ha : c.arrivals = ps.map .octets)
    (hps : ps.flatten = (fs.map Frame.octets).flatten)
    (hfit : ∀ f ∈ fs, f.body.length ≤ c.config.maxBodyLength.toNat)
    (hgoesOn : ∀ f ∈ fs, f.stops c.config = false) :
    ∃ rest : List Octets, rest.flatten = [] ∧
      c.after (List.replicate fs.length (.step .dispatcher))
        = { c.receive fs with arrivals := rest.map .octets } := by
  induction fs generalizing c ps with
  | nil => exact ⟨ps, hps, by rw [← ha]; rfl⟩
  | cons f fs ih =>
    have hfound : Reader.start.absorb c.config.maxBodyLength ps.flatten
        = (.frame f, (fs.map Frame.octets).flatten) := by
      rw [hps]
      exact absorb_frame (hfit f List.mem_cons_self) _
    obtain ⟨ps', hps', hnext⟩ := Reader.nextFrame_done Reader.partial_start hfound nofun []
    rw [List.append_nil, List.append_nil, ← ha] at hnext
    have hne : c.arrivals ≠ [] := by
      intro hnil
      rw [hnil] at hnext
      cases hnext
    have hf := hgoesOn f List.mem_cons_self
    have hframe : (c.apply (.step .dispatcher)).1
        = { (c.stepFrame f).1 with arrivals := ps'.map .octets } := by
      rw [apply_read_goesOn hd hne hnext hf, stepFrame_of_goesOn hf]
    have hconfig : (c.stepFrame f).1.config = c.config := by rw [stepFrame_of_goesOn hf]
    have hreading : (c.stepFrame f).1.dispatcher = .reading .start := by
      rw [stepFrame_of_goesOn hf]
    have hgoesOn' : ∀ f' ∈ fs, f'.stops (c.stepFrame f).1.config = false := by
      rw [hconfig]
      exact fun f' hf' => hgoesOn f' (List.mem_cons_of_mem _ hf')
    have hfit' : ∀ f' ∈ fs, f'.body.length ≤ (c.stepFrame f).1.config.maxBodyLength.toNat := by
      rw [hconfig]
      exact fun f' hf' => hfit f' (List.mem_cons_of_mem _ hf')
    obtain ⟨rest, hrest, hafter⟩ :=
      ih (c := { (c.stepFrame f).1 with arrivals := ps'.map .octets }) hreading rfl hps' hfit'
        hgoesOn'
    refine ⟨rest, hrest, ?_⟩
    show (c.apply (.step .dispatcher)).1.after (List.replicate fs.length (.step .dispatcher)) = _
    rw [hframe, hafter, receive_arrivals hgoesOn']
    rfl

theorem after_frames_end (hd : c.dispatcher = .reading .start) (ha : c.arrivals = ps.map .octets)
    (hps : ps.flatten = (fs.map Frame.octets).flatten)
    (hfit : ∀ f ∈ fs, f.body.length ≤ c.config.maxBodyLength.toNat)
    (hgoesOn : ∀ f ∈ fs, f.stops c.config = false) :
    c.after (List.replicate (fs.length + 1) (.step .dispatcher))
      = { c.receive fs with arrivals := [] } := by
  obtain ⟨rest, hrest, hafter⟩ := after_frames hd ha hps hfit hgoesOn
  have hreading : (c.receive fs).dispatcher = .reading .start := by
    rw [receive_eq hgoesOn, hd]
    exact ite_self _
  rw [List.replicate_succ', after_concat, hafter]
  by_cases hnil : rest = []
  · rw [hnil]
    exact apply_read_nothing hreading rfl
  · have hempty : Reader.start.absorb (c.receive fs).config.maxBodyLength rest.flatten
        = (.waiting .start, []) := by
      rw [hrest]
      exact Reader.absorb_nil Reader.partial_start
    have hnext := Reader.nextFrame_waiting Reader.partial_start hempty []
    rw [List.append_nil] at hnext
    have harrivals : rest.map Arrival.octets ≠ [] := mt List.map_eq_nil_iff.1 hnil
    have hstill : ({ c.receive fs with arrivals := rest.map .octets } : Connection).dispatcher
        = .reading .start := hreading
    rw [apply_read_part hstill harrivals hnext, ← hreading]

theorem after_arrival (hd : c.dispatcher = .reading .start) (ha : c.arrivals = [])
    (hps : ps.flatten = (fs.map Frame.octets).flatten)
    (hfit : ∀ f ∈ fs, f.body.length ≤ c.config.maxBodyLength.toNat)
    (hgoesOn : ∀ f ∈ fs, f.stops c.config = false) :
    c.after (.arrive (ps.map .octets) :: List.replicate (fs.length + 1) (.step .dispatcher))
      = c.receive fs := by
  have harrive :
      (c.apply (.arrive (ps.map .octets))).1 = { c with arrivals := ps.map .octets } := by
    show { c with arrivals := c.arrivals ++ ps.map Arrival.octets } = _
    rw [ha, List.nil_append]
  have hself : { c with arrivals := [] } = c := by rw [← ha]
  calc c.after (.arrive (ps.map .octets) :: List.replicate (fs.length + 1) (.step .dispatcher))
    _ = (c.apply (.arrive (ps.map .octets))).1.after
          (List.replicate (fs.length + 1) (.step .dispatcher)) := rfl
    _ = { ({ c with arrivals := ps.map .octets }).receive fs with arrivals := [] } := by
      rw [harrive]
      exact after_frames_end (c := { c with arrivals := ps.map .octets }) hd rfl hps hfit hgoesOn
    _ = ({ c with arrivals := [] }).receive fs := by
      rw [receive_arrivals (a := []) hgoesOn, receive_arrivals (a := ps.map .octets) hgoesOn]
    _ = c.receive fs := by rw [hself]

/-! ## The order in which replies come -/

/-- **In what order packets of different sessions come does not matter.**  However packets
are reordered, as long as those of each session keep their order, the dispatcher ends in
the same state, whether they are given to it one by one or stand in the stream and are cut
into any pieces.  And no packet changes an exchange of another session. -/
theorem arrival_order {c : Connection} {fs fs' : List Frame}
    (htypes : ∀ f ∈ fs, f.header.type ≠ .accounting) (h : Reordering fs fs') :
    c.receive fs = c.receive fs' ∧
      (∀ f ∈ fs, ∀ (c' : Connection) (t : Ticket) e, c'.registry.exchanges[t]? = some e →
        e.session ≠ f.session → (c'.stepFrame f).1.registry.exchanges[t]? = some e) ∧
      ∀ ps ps' : List Octets, c.dispatcher = .reading .start → c.arrivals = [] →
        (∀ f ∈ fs, f.body.length ≤ c.config.maxBodyLength.toNat) →
        ps.flatten = (fs.map Frame.octets).flatten →
        ps'.flatten = (fs'.map Frame.octets).flatten →
        c.after (.arrive (ps.map .octets) :: List.replicate (fs.length + 1) (.step .dispatcher))
          = c.receive fs ∧
        c.after (.arrive (ps'.map .octets) :: List.replicate (fs'.length + 1) (.step .dispatcher))
          = c.receive fs := by
  have hgoesOn : ∀ f ∈ fs, f.stops c.config = false :=
    fun f hf => Frame.not_stops_of_type (htypes f hf)
  have hgoesOn' : ∀ f ∈ fs', f.stops c.config = false :=
    fun f hf => hgoesOn f (h.perm.mem_iff.2 hf)
  have hsame := receive_reordering h hgoesOn
  refine ⟨hsame, fun f _ c' t e he hne => getElem?_stepFrame_of_ne he hne, ?_⟩
  intro ps ps' hd ha hfit hps hps'
  have hfit' : ∀ f ∈ fs', f.body.length ≤ c.config.maxBodyLength.toNat :=
    fun f hf => hfit f (h.perm.mem_iff.2 hf)
  exact ⟨after_arrival hd ha hps hfit hgoesOn,
    (after_arrival hd ha hps' hfit' hgoesOn').trans hsame.symm⟩

/-- A reply to the first of two sessions, as it comes off the stream. -/
def admission : Frame :=
  (admits 7).frame twoWaiting.config.key

/-- A packet that is no reply, under the header of one. -/
def garbled : Frame :=
  ⟨admission.header, [1, 2, 3]⟩

/-- A reply to the second session, whose body is open. -/
def openReply : Frame :=
  ⟨⟨.default, .authentication, 2, ⟨0x05⟩, 8⟩, [1, 0, 0, 0, 0, 0]⟩

/-- Two sessions wait.  The first is sent a reply and then a packet that is none; what the
second is sent, before or after, is open although there is a secret. -/
theorem arrival_order_crossing :
    Reordering [admission, garbled, openReply] [openReply, admission, garbled] ∧
      twoWaiting.receive [admission, garbled, openReply]
        = twoWaiting.receive [openReply, admission, garbled] ∧
      (twoWaiting.receive [openReply, admission, garbled]).registry.exchanges
        = [⟨7, .settled (.ok (admits 7))⟩, ⟨8, .settled (.error .corruptPacket)⟩] := by
  have htypes : ∀ f ∈ [admission, garbled, openReply], f.header.type ≠ .accounting := by decide
  have horder : Reordering [admission, garbled, openReply] [openReply, admission, garbled] := by
    refine ⟨(List.perm_append_comm : ([admission, garbled] ++ [openReply]).Perm _), ?_⟩
    intro id
    by_cases h : (8 : SessionId) = id
    · subst h
      rfl
    · have hnot : (openReply.session == id) = false := beq_eq_false_iff_ne.2 h
      simp only [List.filter_cons, List.filter_nil, hnot, Bool.false_eq_true, if_false]
  exact ⟨horder, (arrival_order htypes horder).1, by decide +kernel⟩

end Connection

end Tacacs
