/-
# `Tacacs.Proofs.Connection.Delivery` — each reply reaches its own session

Many sessions wait for replies over one stream, and the replies come in any order.  The
octets of all replies stand in the stream one after the other, and arrive in pieces that
have nothing to do with them.  Still every session gets its reply and no other: when all
that has arrived is read, the exchange of each reply is settled with just this reply, all
other exchanges are as they were, and the dispatcher is between two packets
(`delivery_exact`).

What the dispatcher has of the stream is in two places: octets that its reader holds, and
octets that have arrived and were not read.  Both together, and those that are still to
come, are the replies that were not delivered yet (`Midway`).  To read on moves octets
from one place to the other, until a reply is complete; then one reply less is left, and
one more is in the registry (`midway_part`, `midway_reply`).

The other agents may go on meanwhile, as long as they leave the registry and the
dispatcher alone (`Aside`): a session that takes its reply does.
-/
import Tacacs.Proofs.Connection.Replies
import Tacacs.Proofs.Stream.Pieces

namespace Tacacs

/-! ## What is settled stays so -/

namespace Registry

variable {r : Registry} {t : Ticket} {id : SessionId} {o : Outcome}

theorem settled_settle (h : r.exchanges[t]? = some ⟨id, .settled o⟩) (id' : SessionId)
    (o' : Outcome) : (r.settle id' o').exchanges[t]? = some ⟨id, .settled o⟩ := by
  rw [getElem?_settle, h, Option.map_some]
  split
  · rfl
  · rfl

theorem settled_register (h : r.exchanges[t]? = some ⟨id, .settled o⟩) (id' : SessionId) :
    (r.register id').2.exchanges[t]? = some ⟨id, .settled o⟩ := by
  have ht : t ≠ r.exchanges.length := Nat.ne_of_lt (List.getElem?_eq_some_iff.1 h).1
  rw [getElem?_register_of_ne _ _ ht, ← getElem?_settle]
  exact settled_settle h _ _

theorem settled_giveUp (h : r.exchanges[t]? = some ⟨id, .settled o⟩) (t' : Ticket) :
    (r.giveUp t').exchanges[t]? = some ⟨id, .settled o⟩ := by
  rw [getElem?_giveUp, h, Option.map_some]
  split
  · rfl
  · rfl

/-- The exchange with a ticket has come to this outcome, and so does every wait for it, at
whatever time. -/
structure Tells (r : Registry) (t : Ticket) (id : SessionId) (o : Outcome) : Prop where
  settled : r.exchanges[t]? = some ⟨id, .settled o⟩
  waits : ∀ w : Wait, w.ticket = t → ∀ now, w.result? r now = some o

theorem tells_of_settled (h : r.exchanges[t]? = some ⟨id, .settled o⟩) : r.Tells t id o where
  settled := h
  waits := by
    rintro w rfl now
    have houtcome : r.outcome? w.ticket = some o := by rw [outcome?, h]
    rw [Wait.result?, houtcome]

end Registry

namespace Connection

/-- No move takes an outcome back, or changes it. -/
theorem settled_apply {c : Connection} {t : Ticket} {id : SessionId} {o : Outcome}
    (h : c.registry.exchanges[t]? = some ⟨id, .settled o⟩) (m : Move) :
    (c.apply m).1.registry.exchanges[t]? = some ⟨id, .settled o⟩ := by
  have hchange := change_apply c m
  generalize (c.apply m).1 = c' at hchange
  cases hchange with
  | stays hr => rwa [hr]
  | goesOn _ hs =>
    rcases passage_registry hs.passage with hr | hr | hr | ⟨t', hr⟩
    · rwa [hr]
    · rw [hr]
      exact Registry.settled_register h _
    · rw [hr]
      exact Registry.settled_settle h _ _
    · rw [hr]
      exact Registry.settled_giveUp h _
  | @routes f _ hr =>
    rw [hr]
    rcases ofFrame_registry c.config c.registry c.established f with he | ⟨o, he, -⟩
    · rwa [he]
    · rw [he]
      exact Registry.settled_settle h _ _
  | fails hr =>
    rw [hr]
    exact Registry.settled_settle h _ _
  | givesUp _ _ _ hr =>
    rw [hr]
    exact Registry.settled_giveUp h _

theorem settled_after {c : Connection} {t : Ticket} {id : SessionId} {o : Outcome}
    (h : c.registry.exchanges[t]? = some ⟨id, .settled o⟩) (ms : List Move) :
    (c.after ms).registry.exchanges[t]? = some ⟨id, .settled o⟩ := by
  induction ms using List.reverseRecOn with
  | nil => exact h
  | append_singleton ms m ih =>
    rw [after_concat]
    exact settled_apply ih m

end Connection

/-! ## Replies -/

/-- A reply that the server may send over a connection with these settings. -/
structure Config.MayReceive (config : Config) (p : Packet) : Prop where
  made : Packet.new? p.header p.body = some p
  reply : p.Travels .reply
  flag : p.header.flags.unencrypted = config.unencrypted
  size : p.body.encode.length ≤ config.maxBodyLength.toNat

namespace Packet

/-- The session that a packet belongs to. -/
def session (p : Packet) : SessionId :=
  p.header.session

/-- What the exchange of a reply comes to. -/
def outcome (p : Packet) : Outcome :=
  .ok ⟨p.header, p.body.normal⟩

/-- A packet as it comes off the stream. -/
def frame (key : Octets) (p : Packet) : Frame :=
  ⟨p.header, Pad.toggle key p.header p.body.encode⟩

end Packet

variable {config : Config} {p : Packet}

theorem wire_of_flag (hflag : p.header.flags.unencrypted = config.unencrypted)
    (hsize : p.body.wireSize < 0x100000000) : config.wire p = .ok (p.octets config.key) := by
  have hencode := Packet.encode_eq hsize config.key
  unfold Packet.encode at hencode
  unfold Config.wire
  split
  next key hkey =>
    have hsame : config.key = key := by rw [Config.key, hkey, Option.getD_some]
    rw [hflag, hsame] at hencode
    rw [hsame]
    exact hencode
  next hnone =>
    have hopen : p.header.flags.unencrypted = true := by
      rw [hflag, Config.unencrypted, hnone, Option.isNone_none, Bool.or_true]
    rwa [if_pos hopen] at hencode

/-- The octets of a reply, hidden under the secret unless it is open, are what the stream
carries. -/
theorem wire_eq (h : config.MayReceive p) : config.wire p = .ok (p.octets config.key) :=
  wire_of_flag h.flag (Packet.wireSize_lt_of_travels h.reply)

theorem absorb_reply (h : config.MayReceive p) (rest : Octets) :
    Reader.start.absorb config.maxBodyLength (p.octets config.key ++ rest)
      = (.frame (p.frame config.key), rest) := by
  have hsize := Packet.toNat_lengthField (Packet.wireSize_lt_of_travels h.reply)
  refine Reader.absorb_packet ?_ ?_ rest
  · rw [Pad.length_toggle, Body.length_encode, hsize]
  · rw [UInt32.le_iff_toNat_le, hsize, ← Body.length_encode]
    exact h.size

theorem ofFrame_reply (h : config.MayReceive p) (r : Registry) (established : Bool) :
    (Reception.ofFrame config r established (p.frame config.key)).registry
        = r.settle p.session p.outcome
      ∧ (Reception.ofFrame config r established (p.frame config.key)).fatal = none := by
  have hread : Packet.ofReceived .reply config.key (p.frame config.key).header
      (p.frame config.key).body = .ok ⟨p.header, p.body.normal⟩ := by
    rw [Packet.ofReceived, Packet.frame, Pad.toggle_toggle, Packet.ofPlain,
      Packet.bodyKind_of_travels (Packet.type_of_new? h.made) h.reply]
    dsimp only
    rw [Body.decode_encode]
    rfl
  have hflag : ¬(p.frame config.key).header.flags.unencrypted ≠ config.unencrypted :=
    not_not_intro h.flag
  unfold Reception.ofFrame
  rw [if_neg hflag]
  simp only [hread]
  exact ⟨rfl, rfl⟩

/-! ## A registry with many replies -/

namespace Registry

/-- A registry after these replies were delivered, one after the other. -/
def deliver (r : Registry) (ps : List Packet) : Registry :=
  ps.foldl (fun r p => r.settle p.session p.outcome) r

theorem deliver_concat (r : Registry) (ps : List Packet) (p : Packet) :
    r.deliver (ps ++ [p]) = (r.deliver ps).settle p.session p.outcome := by
  rw [deliver, List.foldl_append]
  rfl

theorem length_deliver (r : Registry) (ps : List Packet) :
    (r.deliver ps).exchanges.length = r.exchanges.length := by
  induction ps using List.reverseRecOn with
  | nil => rfl
  | append_singleton ps p ih => rw [deliver_concat, length_settle, ih]

theorem ids_deliver (r : Registry) (ps : List Packet) :
    (r.deliver ps).ids = r.ids.filter (· ∉ ps.map Packet.session) := by
  induction ps using List.reverseRecOn with
  | nil => exact (List.filter_eq_self.2 fun id _ => decide_eq_true List.not_mem_nil).symm
  | append_singleton ps p ih =>
    rw [deliver_concat, ids_settle, ih, List.filter_filter, List.map_append]
    refine List.filter_congr ?_
    intro id _
    simp [not_or, and_comm]

theorem getElem?_deliver_of_not_mem {r : Registry} {ps : List Packet} {t : Ticket} {e : Exchange}
    (he : r.exchanges[t]? = some e) (hnot : e.session ∉ ps.map Packet.session) :
    (r.deliver ps).exchanges[t]? = some e := by
  induction ps using List.reverseRecOn with
  | nil => exact he
  | append_singleton ps p ih =>
    rw [List.map_append, List.mem_append, not_or] at hnot
    obtain ⟨hbefore, hother⟩ := hnot
    rw [deliver_concat, getElem?_settle, ih hbefore, Option.map_some,
      if_neg fun hsame => hother (List.mem_singleton.2 hsame)]

theorem getElem?_deliver_of_mem {r : Registry} {ps : List Packet} {p : Packet} {t : Ticket}
    (hids : (ps.map Packet.session).Nodup) (hp : p ∈ ps)
    (ht : r.exchanges[t]? = some ⟨p.session, .awaited⟩) :
    (r.deliver ps).exchanges[t]? = some ⟨p.session, .settled p.outcome⟩ := by
  induction ps using List.reverseRecOn with
  | nil => cases hp
  | append_singleton ps q ih =>
    rw [List.map_append, List.nodup_append] at hids
    obtain ⟨hbefore, -, hapart⟩ := hids
    rw [deliver_concat]
    rcases List.mem_append.1 hp with hp | hp
    · exact settled_settle (ih hbefore hp) _ _
    · obtain rfl := List.mem_singleton.1 hp
      have hnot : p.session ∉ ps.map Packet.session := by
        intro hmem
        exact hapart _ hmem _ (List.mem_singleton.2 rfl) rfl
      rw [getElem?_settle, getElem?_deliver_of_not_mem ht hnot, Option.map_some]
      exact congrArg some (if_pos rfl)

end Registry

namespace Connection

/-! ## Deliveries -/

/-- Something happened that is no concern of the dispatcher's. -/
structure Aside (c c' : Connection) : Prop where
  registry : c'.registry = c.registry
  dispatcher : c'.dispatcher = c.dispatcher
  arrivals : c'.arrivals = c.arrivals

/-- Runs in which these octets arrive, in pieces of any size and any number at a time, and
the dispatcher goes on between them as it likes. -/
inductive Delivery (c : Connection) : List Move → Octets → Prop
  | begins : Delivery c [] []
  | arrives {ms : List Move} {s : Octets} (pieces : List Octets) : Delivery c ms s →
      Delivery c (ms ++ [.arrive (pieces.map .octets)]) (s ++ pieces.flatten)
  | reads {ms : List Move} {s : Octets} : Delivery c ms s →
      Delivery c (ms ++ [.step .dispatcher]) s
  | aside {ms : List Move} {s : Octets} {m : Move} : Delivery c ms s →
      Aside (c.after ms) ((c.after ms).apply m).1 → Delivery c (ms ++ [m]) s

/-- What comes of a connection on which these replies were delivered. -/
structure Delivered (c : Connection) (ps : List Packet) (c' : Connection) : Prop where
  /-- Whoever waited for one of the replies has it: its header, and its body as it is read.
  Nothing that may happen later gives another outcome. -/
  received : ∀ p ∈ ps, ∃ body, Body.decode p.body.kind p.body.encode = .ok body ∧
    ∀ t : Ticket, c.registry.exchanges[t]? = some ⟨p.session, .awaited⟩ →
      ∀ later, (c'.after later).registry.Tells t p.session (.ok ⟨p.header, body⟩)
  /-- The exchanges of other sessions are as they were. -/
  others : ∀ (t : Ticket) e, c.registry.exchanges[t]? = some e → e.session ∉ ps.map Packet.session →
    c'.registry.exchanges[t]? = some e
  /-- There are no further exchanges. -/
  noMore : c'.registry.exchanges.length = c.registry.exchanges.length
  /-- The exchanges of the replies, and only these, stand no longer. -/
  ids : c'.registry.ids = c.registry.ids.filter (· ∉ ps.map Packet.session)
  /-- The dispatcher is between two packets. -/
  running : c'.dispatcher = .reading .start

theorem delivered_deliver {c c' : Connection} {ps : List Packet}
    (hids : (ps.map Packet.session).Nodup) (hregistry : c'.registry = c.registry.deliver ps)
    (hrunning : c'.dispatcher = .reading .start) : Delivered c ps c' where
  received := by
    intro p hp
    refine ⟨p.body.normal, p.body.decode_encode, ?_⟩
    intro t ht later
    refine Registry.tells_of_settled (settled_after ?_ later)
    rw [hregistry]
    exact Registry.getElem?_deliver_of_mem hids hp ht
  others := by
    intro t e he hnot
    rw [hregistry]
    exact Registry.getElem?_deliver_of_not_mem he hnot
  noMore := by rw [hregistry, Registry.length_deliver]
  ids := by rw [hregistry, Registry.ids_deliver]
  running := hrunning

/-! ## In the middle of a delivery -/

/-- The octets of replies, one after the other. -/
def streamOf (config : Config) (ps : List Packet) : Octets :=
  (ps.map (Packet.octets config.key)).flatten

/-- Some replies were delivered.  What the reader holds, what has arrived, and what is
still to come make up the others. -/
structure Midway (c : Connection) (delivered left : List Packet) (r : Reader) (held : Octets)
    (pieces : List Octets) (more : Octets) (c' : Connection) : Prop where
  config : c'.config = c.config
  registry : c'.registry = c.registry.deliver delivered
  dispatcher : c'.dispatcher = .reading r
  arrivals : c'.arrivals = pieces.map .octets
  reader : Reader.start.absorb c.config.maxBodyLength held = (.waiting r, [])
  stream : held ++ pieces.flatten ++ more = streamOf c.config left

variable {c c' : Connection} {delivered left : List Packet} {r : Reader} {held more : Octets}
  {pieces : List Octets}

theorem midway_arrive {new : List Octets}
    (h : Midway c delivered left r held pieces (new.flatten ++ more) c') :
    Midway c delivered left r held (pieces ++ new) more
      (c'.apply (.arrive (new.map .octets))).1 where
  config := h.config
  registry := h.registry
  dispatcher := h.dispatcher
  arrivals := by
    show c'.arrivals ++ new.map .octets = _
    rw [h.arrivals, List.map_append]
  reader := h.reader
  stream := by
    rw [← h.stream, List.flatten_append]
    simp only [List.append_assoc]

theorem midway_aside {m : Move} (h : Midway c delivered left r held pieces more c')
    (haside : Aside c' (c'.apply m).1) :
    Midway c delivered left r held pieces more (c'.apply m).1 where
  config := by rw [config_apply, h.config]
  registry := by rw [haside.registry, h.registry]
  dispatcher := by rw [haside.dispatcher, h.dispatcher]
  arrivals := by rw [haside.arrivals, h.arrivals]
  reader := h.reader
  stream := h.stream

/-! ## The dispatcher reads on -/

theorem apply_read_nothing (hd : c'.dispatcher = .reading r) (ha : c'.arrivals = []) :
    (c'.apply (.step .dispatcher)).1 = c' := by
  have hstep : c'.step .dispatcher = none := by
    simp [step, stepDispatcher, hd, ha]
  rw [apply_step_of_none hstep]

theorem apply_read_part {r' : Reader} {rest : List Arrival} (hd : c'.dispatcher = .reading r)
    (ha : c'.arrivals ≠ [])
    (hnext : r.nextFrame c'.config.maxBodyLength c'.arrivals = (.waiting r', rest)) :
    (c'.apply (.step .dispatcher)).1
      = { c' with arrivals := rest, dispatcher := .reading r' } := by
  have hstep : c'.step .dispatcher
      = some ({ c' with arrivals := rest, dispatcher := .reading r' }, []) := by
    simp [step, stepDispatcher, hd, ha, hnext]
  rw [apply_step_of_some hstep]

theorem apply_read_frame {f : Frame} {rest : List Arrival} (hd : c'.dispatcher = .reading r)
    (ha : c'.arrivals ≠ [])
    (hnext : r.nextFrame c'.config.maxBodyLength c'.arrivals = (.frame f, rest)) :
    c'.apply (.step .dispatcher) = ({ c' with arrivals := rest }).stepFrame f := by
  have hstep : c'.step .dispatcher = some (({ c' with arrivals := rest }).stepFrame f) := by
    simp [step, stepDispatcher, hd, ha, hnext]
  exact congrArg (Option.getD · (c', [])) hstep

/-- What the dispatcher finds depends on what its reader holds and on what has arrived,
as if both had arrived together. -/
theorem absorb_held (h : Midway c delivered left r held pieces more c') :
    r.absorb c.config.maxBodyLength pieces.flatten
      = Reader.start.absorb c.config.maxBodyLength (held ++ pieces.flatten) := by
  rw [Reader.absorb_append, h.reader]
  rfl

theorem midway_part {r' : Reader} (h : Midway c delivered left r held pieces more c')
    (hpieces : pieces ≠ [])
    (hpart : Reader.start.absorb c.config.maxBodyLength (held ++ pieces.flatten)
      = (.waiting r', [])) :
    Midway c delivered left r' (held ++ pieces.flatten) [] more
      (c'.apply (.step .dispatcher)).1 := by
  have hr := (Reader.waiting_absorb h.reader).2
  have hnext : r.nextFrame c'.config.maxBodyLength c'.arrivals = (.waiting r', []) := by
    have hwaiting := Reader.nextFrame_waiting hr ((absorb_held h).trans hpart) []
    rw [List.append_nil, ← h.arrivals] at hwaiting
    rw [h.config, hwaiting]
    rfl
  have ha : c'.arrivals ≠ [] := by
    rw [h.arrivals]
    exact mt List.map_eq_nil_iff.1 hpieces
  rw [apply_read_part h.dispatcher ha hnext]
  refine ⟨h.config, h.registry, rfl, rfl, hpart, ?_⟩
  rw [List.flatten_nil, List.append_nil, h.stream]

theorem midway_reply {p : Packet} {rest : Octets} (hmay : c.config.MayReceive p)
    (h : Midway c delivered (p :: left) r held pieces more c') (hpieces : pieces ≠ [])
    (hwhole : Reader.start.absorb c.config.maxBodyLength (held ++ pieces.flatten)
      = (.frame (p.frame c.config.key), rest))
    (hrest : rest ++ more = streamOf c.config left) :
    ∃ pieces', Midway c (delivered ++ [p]) left .start [] pieces' more
      (c'.apply (.step .dispatcher)).1 := by
  have hr := (Reader.waiting_absorb h.reader).2
  obtain ⟨pieces', rfl, hnext⟩ :=
    Reader.nextFrame_done hr ((absorb_held h).trans hwhole) nofun []
  rw [List.append_nil, List.append_nil, ← h.arrivals, ← h.config] at hnext
  have ha : c'.arrivals ≠ [] := by
    rw [h.arrivals]
    exact mt List.map_eq_nil_iff.1 hpieces
  obtain ⟨hregistry, hfatal⟩ := ofFrame_reply (h.config ▸ hmay) c'.registry c'.established
  rw [apply_read_frame h.dispatcher ha hnext, stepFrame]
  simp only [hregistry, hfatal]
  refine ⟨pieces', h.config, ?_, rfl, rfl, Reader.absorb_nil Reader.partial_start, ?_⟩
  · rw [h.registry, Registry.deliver_concat]
  · rw [List.nil_append]
    exact hrest

/-- Of these replies some were delivered, and those that are left are in the stream. -/
def Remaining (c : Connection) (ps left : List Packet) (more : Octets) (c' : Connection) : Prop :=
  ∃ delivered r held pieces, delivered ++ left = ps ∧ Midway c delivered left r held pieces more c'

variable {ps : List Packet}

/-- A step of the dispatcher reads everything that has arrived, or delivers a reply. -/
theorem remaining_read (hmay : ∀ p ∈ ps, c.config.MayReceive p) (h : Remaining c ps left more c') :
    ∃ left', Remaining c ps left' more (c'.apply (.step .dispatcher)).1
      ∧ ((c'.apply (.step .dispatcher)).1.arrivals = [] ∨ left'.length < left.length) := by
  obtain ⟨delivered, r, held, pieces, rfl, h⟩ := h
  by_cases hpieces : pieces = []
  · have ha : c'.arrivals = [] := by rw [h.arrivals, hpieces, List.map_nil]
    rw [apply_read_nothing h.dispatcher ha]
    exact ⟨left, ⟨delivered, r, held, pieces, rfl, h⟩, .inl ha⟩
  · cases left with
    | nil =>
      have hnone : held ++ pieces.flatten = [] := (List.append_eq_nil_iff.1 h.stream).1
      have hpart : Reader.start.absorb c.config.maxBodyLength (held ++ pieces.flatten)
          = (.waiting .start, []) := by
        rw [hnone, Reader.absorb_nil Reader.partial_start]
      have hnext := midway_part h hpieces hpart
      exact ⟨[], ⟨_, _, _, _, rfl, hnext⟩, .inl hnext.arrivals⟩
    | cons p left =>
      have hp : c.config.MayReceive p := hmay p (List.mem_append_right _ List.mem_cons_self)
      rcases Reader.absorb_part (absorb_reply hp) h.stream with ⟨r', hpart⟩ | ⟨rest, hwhole, hrest⟩
      · have hnext := midway_part h hpieces hpart
        exact ⟨p :: left, ⟨_, _, _, _, rfl, hnext⟩, .inl hnext.arrivals⟩
      · obtain ⟨pieces', hnext⟩ := midway_reply hp h hpieces hwhole hrest
        refine ⟨left, ⟨_, _, _, _, ?_, hnext⟩, .inr (Nat.lt_succ_self _)⟩
        rw [List.append_assoc, List.singleton_append]

/-- All along a delivery, the replies that were not delivered yet are in the stream. -/
theorem remaining_run {ms : List Move} {s : Octets} (hstart : c.dispatcher = .reading .start)
    (hnothing : c.arrivals = []) (hmay : ∀ p ∈ ps, c.config.MayReceive p) (h : Delivery c ms s)
    (hstream : s ++ more = streamOf c.config ps) :
    ∃ left, Remaining c ps left more (c.after ms) := by
  induction h generalizing more with
  | begins =>
    exact ⟨ps, [], .start, [], [], rfl, rfl, rfl, hstart, hnothing,
      Reader.absorb_nil Reader.partial_start, hstream⟩
  | arrives pieces _ ih =>
    rw [List.append_assoc] at hstream
    obtain ⟨left, delivered, r, held, pieces', rfl, hmidway⟩ := ih hstream
    rw [after_concat]
    exact ⟨left, delivered, r, held, pieces' ++ pieces, rfl, midway_arrive hmidway⟩
  | reads _ ih =>
    obtain ⟨left, hleft⟩ := ih hstream
    obtain ⟨left', hleft', -⟩ := remaining_read hmay hleft
    rw [after_concat]
    exact ⟨left', hleft'⟩
  | aside _ haside ih =>
    obtain ⟨left, delivered, r, held, pieces, rfl, hmidway⟩ := ih hstream
    rw [after_concat]
    exact ⟨left, delivered, r, held, pieces, rfl, midway_aside hmidway haside⟩

theorem reads_nothing (hd : c'.dispatcher = .reading r) (ha : c'.arrivals = []) (n : Nat) :
    c'.after (List.replicate n (.step .dispatcher)) = c' := by
  induction n with
  | zero => rfl
  | succ n ih =>
    show (c'.apply (.step .dispatcher)).1.after (List.replicate n (.step .dispatcher)) = c'
    rw [apply_read_nothing hd ha, ih]

theorem arrivals_after_reads (hmay : ∀ p ∈ ps, c.config.MayReceive p) {n : Nat}
    (h : Remaining c ps left more c') (hn : left.length < n) :
    (c'.after (List.replicate n (.step .dispatcher))).arrivals = [] := by
  induction n generalizing left c' with
  | zero => exact absurd hn (Nat.not_lt_zero _)
  | succ n ih =>
    show ((c'.apply (.step .dispatcher)).1.after
      (List.replicate n (.step .dispatcher))).arrivals = []
    obtain ⟨left', hleft', hall | hless⟩ := remaining_read hmay h
    · obtain ⟨_, _, _, _, -, hmidway⟩ := hleft'
      rw [reads_nothing hmidway.dispatcher hall, hall]
    · exact ih hleft' (Nat.lt_of_lt_of_le hless (Nat.le_of_lt_succ hn))

theorem delivered_of_remaining (hmay : ∀ p ∈ ps, c.config.MayReceive p)
    (hids : (ps.map Packet.session).Nodup) (h : Remaining c ps left [] c')
    (hall : c'.arrivals = []) : Delivered c ps c' := by
  obtain ⟨delivered, r, held, pieces, rfl, h⟩ := h
  have hpieces : pieces = [] := List.map_eq_nil_iff.1 (h.arrivals.symm.trans hall)
  have hheld : held = streamOf c.config left := by
    have hstream := h.stream
    rwa [hpieces, List.flatten_nil, List.append_nil, List.append_nil] at hstream
  have hreader := h.reader
  cases left with
  | nil =>
    rw [hheld, streamOf, List.map_nil, List.flatten_nil, Reader.absorb_nil Reader.partial_start]
      at hreader
    cases hreader
    refine delivered_deliver hids ?_ h.dispatcher
    rw [List.append_nil, h.registry]
  | cons p left =>
    have hp : c.config.MayReceive p := hmay p (List.mem_append_right _ List.mem_cons_self)
    rw [hheld, streamOf, List.map_cons, List.flatten_cons, absorb_reply hp] at hreader
    cases hreader

/-- **Each reply reaches its own session.**  Replies to different sessions, such as the
server may send, are written one after the other in any order, and their octets arrive in
pieces of any size while the dispatcher reads.  It gets through what has arrived, and when
everything has arrived and was read, all replies are delivered and nothing else has
changed. -/
theorem delivery_exact {c : Connection} {ps : List Packet}
    (hstart : c.dispatcher = .reading .start) (hnothing : c.arrivals = [])
    (hmay : ∀ p ∈ ps, c.config.MayReceive p) (hids : (ps.map Packet.session).Nodup) :
    ∃ written : List Octets, ps.map c.config.wire = written.map .ok ∧
      ∀ ms, Delivery c ms written.flatten →
        (c.after (ms ++ List.replicate (ps.length + 1) (.step .dispatcher))).arrivals = []
          ∧ ((c.after ms).arrivals = [] → Delivered c ps (c.after ms)) := by
  refine ⟨ps.map (Packet.octets c.config.key), ?_, ?_⟩
  · rw [List.map_map]
    exact List.map_congr_left fun p hp => wire_eq (hmay p hp)
  · intro ms hms
    obtain ⟨left, hleft⟩ := remaining_run hstart hnothing hmay hms (List.append_nil _)
    refine ⟨?_, delivered_of_remaining hmay hids hleft⟩
    rw [after_append]
    refine arrivals_after_reads hmay hleft ?_
    obtain ⟨_, _, _, _, rfl, -⟩ := hleft
    rw [List.length_append]
    omega

/-- Two sessions wait for their replies. -/
def twoWaiting : Connection :=
  { config := { secret := some [0x6B, 0x65, 0x79] }
    registry := ⟨[⟨7, .awaited⟩, ⟨8, .awaited⟩]⟩
    dispatcher := .reading .start }

/-- A session is told that the user may come in. -/
def admits (id : SessionId) : Packet :=
  ⟨⟨.default, .authentication, 2, ⟨0x04⟩, id⟩, .authenReply ⟨.pass, 0, "welcome", []⟩⟩

/-- The reply to the second session comes first, and the first octets that arrive end
within the other reply's header. -/
theorem delivery_exact_crossing :
    ∃ stream : Octets,
      let c := twoWaiting.after ([.arrive [.octets (stream.take 30)], .step .dispatcher,
        .arrive [.octets (stream.drop 30)]] ++ List.replicate 3 (.step .dispatcher))
      c.dispatcher = .reading .start ∧ c.registry.ids = []
        ∧ c.registry.exchanges[0]? = some ⟨7, .settled (.ok (admits 7))⟩
        ∧ c.registry.exchanges[1]? = some ⟨8, .settled (.ok (admits 8))⟩ := by
  have h₇ : twoWaiting.config.MayReceive (admits 7) := ⟨by decide, trivial, by decide, by decide⟩
  have h₈ : twoWaiting.config.MayReceive (admits 8) := ⟨by decide, trivial, by decide, by decide⟩
  have hmay : ∀ p ∈ [admits 8, admits 7], twoWaiting.config.MayReceive p := by
    rintro p (_ | ⟨_, _ | ⟨_, hp⟩⟩)
    · exact h₈
    · exact h₇
    · cases hp
  have hplain (id : SessionId) : Body.decode (admits id).body.kind (admits id).body.encode
      = .ok (admits id).body :=
    (Body.decode_encode _).trans
      (congrArg Except.ok (Body.normal_of_fits (by decide : (admits 0).body.Fits)))
  obtain ⟨written, -, hall⟩ := delivery_exact (c := twoWaiting) rfl rfl hmay (by decide)
  have hcut : Delivery twoWaiting [.arrive [.octets (written.flatten.take 30)], .step .dispatcher,
      .arrive [.octets (written.flatten.drop 30)]]
      ([written.flatten.take 30].flatten ++ [written.flatten.drop 30].flatten) :=
    .arrives [written.flatten.drop 30] (.reads (.arrives [written.flatten.take 30] .begins))
  rw [List.flatten_singleton, List.flatten_singleton, List.take_append_drop] at hcut
  obtain ⟨hread, -⟩ := hall _ hcut
  obtain ⟨-, hdelivered⟩ := hall _ (.reads (.reads (.reads hcut)))
  have hdone := hdelivered hread
  obtain ⟨body₇, hbody₇, htells₇⟩ := hdone.received (admits 7) (by simp)
  obtain ⟨body₈, hbody₈, htells₈⟩ := hdone.received (admits 8) (by simp)
  rw [hplain] at hbody₇ hbody₈
  cases hbody₇
  cases hbody₈
  exact ⟨written.flatten, hdone.running, hdone.ids, (htells₇ 0 rfl []).settled,
    (htells₈ 1 rfl []).settled⟩

end Connection

end Tacacs
