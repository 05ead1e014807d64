/-
# `Tacacs.Registry` — exchanges and their outcomes

An exchange is a request that awaits its reply.  It is registered under the id
of its session before the request is written, and whoever sent the request holds
a ticket for it.  The registry remembers every exchange there ever was; a ticket
is its number.  An exchange *stands* in the registry until something settles it:

* a reply or a failure for its session id (`resolve`),
* another exchange registered under the same id (`register`),
* its withdrawal (`withdraw`), or the failure of all (`failAll`).

All of these go by the session id, not by the ticket.  Whoever waits may give up
first (`giveUp`); the exchange stands nevertheless, and what settles it later
reaches nobody.

What happens to one exchange is `Exchange.settle`: the first outcome stays, and
all later ones change nothing.
-/
import Tacacs.Failure

namespace Tacacs

/-- What an exchange comes to. -/
abbrev Outcome := Except Failure Packet

namespace Exchange

/-- How an exchange stands. -/
inductive Status
  | awaited
  /-- Registered, and nobody waits for it any more. -/
  | abandoned
  /-- Settled while its outcome was awaited. -/
  | settled (outcome : Outcome)
  /-- Settled after nobody waited any more. -/
  | forgotten
deriving DecidableEq

end Exchange

/-- A request that awaits its reply, or did so once. -/
structure Exchange where
  session : SessionId
  status : Exchange.Status
deriving DecidableEq

namespace Exchange

/-- The exchange stands in the registry. -/
def stands (e : Exchange) : Bool :=
  match e.status with
  | .awaited | .abandoned => true
  | .settled _ | .forgotten => false

/-- Somebody waits for the exchange. -/
def isAwaited (e : Exchange) : Bool :=
  match e.status with
  | .awaited => true
  | _ => false

/-- Settles an exchange that stands; one that does not stays as it is. -/
def settle (outcome : Outcome) (e : Exchange) : Exchange :=
  match e.status with
  | .awaited => { e with status := .settled outcome }
  | .abandoned => { e with status := .forgotten }
  | .settled _ | .forgotten => e

/-- Nobody waits for the exchange any more. -/
def abandon (e : Exchange) : Exchange :=
  match e.status with
  | .awaited => { e with status := .abandoned }
  | _ => e

@[simp] theorem session_settle (o : Outcome) (e : Exchange) :
    (e.settle o).session = e.session := by
  rcases e with ⟨id, _ | _ | _ | _⟩ <;> rfl

@[simp] theorem session_abandon (e : Exchange) : e.abandon.session = e.session := by
  rcases e with ⟨id, _ | _ | _ | _⟩ <;> rfl

@[simp] theorem stands_settle (o : Outcome) (e : Exchange) : (e.settle o).stands = false := by
  rcases e with ⟨id, _ | _ | _ | _⟩ <;> rfl

@[simp] theorem stands_abandon (e : Exchange) : e.abandon.stands = e.stands := by
  rcases e with ⟨id, _ | _ | _ | _⟩ <;> rfl

theorem settle_of_not_stands {e : Exchange} (h : e.stands = false) (o : Outcome) :
    e.settle o = e := by
  rcases e with ⟨id, _ | _ | _ | _⟩
  · exact Bool.noConfusion h
  · exact Bool.noConfusion h
  · rfl
  · rfl

/-- The first outcome stays. -/
@[simp] theorem settle_settle (o o' : Outcome) (e : Exchange) :
    (e.settle o).settle o' = e.settle o :=
  settle_of_not_stands (stands_settle o e) o'

end Exchange

/-- The number of an exchange in its registry. -/
abbrev Ticket := Nat

/-- All exchanges there ever were, the oldest first. -/
structure Registry where
  exchanges : List Exchange := []
deriving DecidableEq

namespace Registry

/-! ## Looking -/

/-- An exchange stands under a session id. -/
def contains (r : Registry) (id : SessionId) : Bool :=
  r.exchanges.any fun e => e.session == id && e.stands

/-- How many exchanges stand. -/
def size (r : Registry) : Nat :=
  r.exchanges.countP Exchange.stands

/-- The ids under which exchanges stand, the oldest first. -/
def ids (r : Registry) : List SessionId :=
  (r.exchanges.filter Exchange.stands).map Exchange.session

/-- The ticket of the exchange that is awaited under an id. -/
def awaited? (r : Registry) (id : SessionId) : Option Ticket :=
  r.exchanges.findIdx? fun e => e.session == id && e.isAwaited

/-- The outcome of an exchange, once it has one. -/
def outcome? (r : Registry) (t : Ticket) : Option Outcome :=
  match r.exchanges[t]? with
  | some ⟨_, .settled outcome⟩ => some outcome
  | _ => none

/-! ## Changing -/

/-- Settles what stands under an id. -/
def settle (r : Registry) (id : SessionId) (outcome : Outcome) : Registry :=
  ⟨r.exchanges.map fun e => if e.session = id then e.settle outcome else e⟩

/-- Registers an exchange.  One that stands under the same id is replaced. -/
def register (r : Registry) (id : SessionId) : Ticket × Registry :=
  (r.exchanges.length, ⟨(r.settle id (.error .replaced)).exchanges ++ [⟨id, .awaited⟩]⟩)

/-- Gives an outcome to what stands under an id.  Says whether it reached anybody. -/
def resolve (r : Registry) (id : SessionId) (outcome : Outcome) : Bool × Registry :=
  ((r.awaited? id).isSome, r.settle id outcome)

/-- Takes back what stands under an id.  Whoever waits for it finds the connection closed. -/
def withdraw (r : Registry) (id : SessionId) : Registry :=
  r.settle id (.error .closed)

/-- Fails everything that stands, id by id. -/
def failAll (r : Registry) (failure : Failure) : Registry :=
  r.ids.foldl (fun r id => r.settle id (.error failure)) r

/-- Gives up waiting for an exchange.  It stands as before. -/
def giveUp (r : Registry) (t : Ticket) : Registry :=
  ⟨r.exchanges.modify t Exchange.abandon⟩

/-! ## What each change makes of one exchange

No change looks at more of an exchange than its session id, its status and its
ticket, so each has its effect exchange by exchange. -/

@[simp] theorem length_settle (r : Registry) (id : SessionId) (o : Outcome) :
    (r.settle id o).exchanges.length = r.exchanges.length :=
  List.length_map _

@[simp] theorem length_giveUp (r : Registry) (t : Ticket) :
    (r.giveUp t).exchanges.length = r.exchanges.length :=
  List.length_modify ..

@[simp] theorem length_register (r : Registry) (id : SessionId) :
    (r.register id).2.exchanges.length = r.exchanges.length + 1 := by
  simp [register]

theorem getElem?_settle (r : Registry) (id : SessionId) (o : Outcome) (t : Ticket) :
    (r.settle id o).exchanges[t]?
      = r.exchanges[t]?.map fun e => if e.session = id then e.settle o else e :=
  List.getElem?_map ..

theorem getElem?_giveUp (r : Registry) (t t' : Ticket) :
    (r.giveUp t).exchanges[t']?
      = r.exchanges[t']?.map fun e => if t = t' then e.abandon else e := by
  rw [giveUp, List.getElem?_modify]
  rfl

theorem getElem?_register_self (r : Registry) (id : SessionId) :
    (r.register id).2.exchanges[r.exchanges.length]? = some ⟨id, .awaited⟩ := by
  have hl := length_settle r id (.error .replaced)
  show ((r.settle id (.error .replaced)).exchanges ++ [⟨id, .awaited⟩])[r.exchanges.length]? = _
  rw [← hl]
  exact List.getElem?_concat_length

theorem getElem?_register_of_ne (r : Registry) (id : SessionId) {t : Ticket}
    (h : t ≠ r.exchanges.length) :
    (r.register id).2.exchanges[t]?
      = r.exchanges[t]?.map fun e => if e.session = id then e.settle (.error .replaced) else e := by
  rw [← getElem?_settle]
  show ((r.settle id (.error .replaced)).exchanges ++ [⟨id, .awaited⟩])[t]? = _
  rcases Nat.lt_or_gt_of_ne h with h | h
  · exact List.getElem?_append_left (by rw [length_settle]; exact h)
  · rw [List.getElem?_eq_none (by simp; omega), List.getElem?_eq_none (by simp; omega)]

theorem mem_ids {r : Registry} {t : Ticket} {e : Exchange} (he : r.exchanges[t]? = some e)
    (hs : e.stands = true) : e.session ∈ r.ids :=
  List.mem_map.2 ⟨e, List.mem_filter.2 ⟨List.mem_of_getElem? he, hs⟩, rfl⟩

/-- To fail everything that stands, id by id, is to settle every exchange: those
that do not stand stay as they are. -/
theorem getElem?_failAll (r : Registry) (f : Failure) (t : Ticket) :
    (r.failAll f).exchanges[t]? = r.exchanges[t]?.map (Exchange.settle (.error f)) := by
  have fold : ∀ (ids : List SessionId) (r : Registry),
      (ids.foldl (fun r id => r.settle id (.error f)) r).exchanges[t]?
        = r.exchanges[t]?.map fun e => if e.session ∈ ids then e.settle (.error f) else e := by
    intro ids
    induction ids with
    | nil => intro r; simp
    | cons id ids ih =>
      intro r
      rw [List.foldl_cons, ih, getElem?_settle, Option.map_map]
      congr 1
      funext e
      by_cases h : e.session = id
      · have hmem : e.session ∈ id :: ids := h ▸ List.mem_cons_self
        simp only [Function.comp_apply, if_pos h, if_pos hmem, Exchange.settle_settle, ite_self]
      · have hmem : e.session ∈ id :: ids ↔ e.session ∈ ids := by simp [h]
        simp only [Function.comp_apply, if_neg h, hmem]
  rw [failAll, fold]
  cases he : r.exchanges[t]? with
  | none => rfl
  | some e =>
    simp only [Option.map_some, Option.some.injEq, ite_eq_left_iff]
    intro hn
    have hs : e.stands = false := Bool.eq_false_iff.2 fun hs => hn (mem_ids he hs)
    exact (Exchange.settle_of_not_stands hs _).symm

/-! ## What each change makes of the ids

To everybody who looks, the registry is the set of the ids under which something
stands. -/

theorem contains_iff_mem_ids {r : Registry} {id : SessionId} :
    r.contains id = true ↔ id ∈ r.ids := by
  simp only [contains, ids, List.any_eq_true, List.mem_map, List.mem_filter, Bool.and_eq_true,
    beq_iff_eq]
  exact ⟨fun ⟨e, he, hid, hs⟩ => ⟨e, ⟨he, hs⟩, hid⟩, fun ⟨e, ⟨he, hs⟩, hid⟩ => ⟨e, he, hid, hs⟩⟩

theorem size_eq_length_ids (r : Registry) : r.size = r.ids.length := by
  rw [size, ids, List.length_map, List.countP_eq_length_filter]

/-- Where no name is twice among those of certain entries of a list, a name belongs to one of
these entries. -/
theorem index_unique {α β : Type} {p : α → Bool} {name : α → β} {l : List α}
    (hl : ((l.filter p).map name).Nodup) {i j : Nat} {a b : α} (hi : l[i]? = some a)
    (hj : l[j]? = some b) (ha : p a = true) (hb : p b = true) (hname : name a = name b) :
    i = j := by
  have hp : l.Pairwise fun a b => p a = true → p b = true → name a ≠ name b := by
    simpa [List.Nodup, List.pairwise_map, List.pairwise_filter] using hl
  obtain ⟨hlt, rfl⟩ := List.getElem?_eq_some_iff.1 hi
  obtain ⟨hlt', rfl⟩ := List.getElem?_eq_some_iff.1 hj
  rcases Nat.lt_trichotomy i j with h | h | h
  · exact absurd hname (List.pairwise_iff_getElem.1 hp i j hlt hlt' h ha hb)
  · exact h
  · exact absurd hname.symm (List.pairwise_iff_getElem.1 hp j i hlt' hlt h hb ha)

theorem eq_of_stands {r : Registry} (hr : r.ids.Nodup) {t t' : Ticket} {e e' : Exchange}
    (he : r.exchanges[t]? = some e) (he' : r.exchanges[t']? = some e') (hs : e.stands = true)
    (hs' : e'.stands = true) (hid : e.session = e'.session) : t = t' :=
  index_unique hr he he' hs hs' hid

theorem ids_settle (r : Registry) (id : SessionId) (o : Outcome) :
    (r.settle id o).ids = r.ids.filter (· ≠ id) := by
  rw [ids, ids, settle]
  induction r.exchanges with
  | nil => rfl
  | cons e es ih =>
    by_cases h : e.session = id <;> cases hs : e.stands <;> simp_all

theorem ids_register (r : Registry) (id : SessionId) :
    (r.register id).2.ids = r.ids.filter (· ≠ id) ++ [id] := by
  rw [← ids_settle r id (.error .replaced)]
  show (List.filter Exchange.stands (_ ++ [⟨id, .awaited⟩])).map Exchange.session = _
  rw [List.filter_append, List.map_append]
  rfl

theorem ids_giveUp (r : Registry) (t : Ticket) : (r.giveUp t).ids = r.ids := by
  rw [ids, ids, giveUp]
  induction r.exchanges generalizing t with
  | nil => cases t <;> rfl
  | cons e es ih =>
    cases t with
    | zero => cases hs : e.stands <;> simp [hs]
    | succ t =>
      have := ih t
      cases hs : e.stands <;> simp_all [List.modify_succ_cons]

theorem ids_failAll (r : Registry) (f : Failure) : (r.failAll f).ids = [] := by
  rw [ids, List.map_eq_nil_iff, List.filter_eq_nil_iff]
  intro e he
  obtain ⟨t, ht⟩ := List.mem_iff_getElem?.1 he
  rw [getElem?_failAll] at ht
  obtain ⟨e', -, rfl⟩ := Option.map_eq_some_iff.1 ht
  rw [Exchange.stands_settle]
  exact Bool.false_ne_true

end Registry

end Tacacs
