import HubPublisher.Pool.Semaphore

/-!
Connection slots: how many requests may run at once, in all and to one route.

A checkout first asks for a slot of its route and, once it has that, for one of the slots of all, so
whoever queues for a full route holds none of the latter. Both waits end at one deadline. A slot
that is given back goes to whoever came first; the slot of all is given back before that of the
route.
-/
namespace HubPublisher.Pool

/-- The most slots that a semaphore can count. -/
def slotLimit : Nat := 0x1FFFFFFFFFFFFFFF

structure Limits where
  total : Nat
  perRoute : Nat
  /-- How long a checkout waits, in milliseconds. -/
  timeout : Nat
  deriving DecidableEq, Repr

/-- The name of a checkout, which is the caller's to choose. -/
abbrev Ticket := Nat

structure Checkout where
  ticket : Ticket
  route : String
  /-- When it gives up. -/
  deadline : Nat
  deriving DecidableEq, Repr

/-- What becomes of a checkout. -/
inductive Ending where
  | granted
  /-- There was no slot in time. -/
  | unavailable
  /-- There are to be more slots for the route than can be counted. -/
  | uncountable
  deriving DecidableEq, Repr

/-- The news that a checkout came to its end. -/
structure Notice where
  checkout : Checkout
  ending : Ending
  deriving DecidableEq, Repr

/-- The slots, and who has or awaits one. -/
structure Slots where
  limits : Limits
  /-- Milliseconds since the start. -/
  clock : Nat
  total : Semaphore Checkout
  routes : String → Semaphore Checkout
  /-- The checkouts that wait, in the order in which they were started. -/
  waiting : List Checkout
  /-- The checkouts that hold a slot of each kind, in the order in which they were granted. -/
  granted : List Checkout

namespace Slots

/-- All slots free. -/
def start (limits : Limits) : Slots where
  limits := limits
  clock := 0
  total := Semaphore.start limits.total
  routes := fun _ => Semaphore.start limits.perRoute
  waiting := []
  granted := []

/-- All slots free, unless they cannot be counted. -/
def start? (limits : Limits) : Option Slots :=
  if slotLimit < limits.total then none else some (start limits)

/-- The free slots of all. -/
def available (p : Slots) : Nat := p.total.free

def setRoute (p : Slots) (route : String) (s : Semaphore Checkout) : Slots :=
  { p with routes := fun r => if r = route then s else p.routes r }

/-- Whether a ticket names a checkout that waits or holds slots. -/
def isUsed (p : Slots) (t : Ticket) : Bool :=
  p.waiting.any (·.ticket == t) || p.granted.any (·.ticket == t)

/-! ## Moving on -/

/-- A checkout that waited has its slots. -/
def grant (p : Slots) (c : Checkout) : Slots × List Notice :=
  ({ p with waiting := p.waiting.erase c, granted := p.granted ++ [c] }, [⟨c, .granted⟩])

/-- A checkout that has a slot of its route asks for one of all. -/
def askTotal (p : Slots) (c : Checkout) : Slots × List Notice :=
  match p.total.acquire c with
  | (s, true) => { p with total := s }.grant c
  | (s, false) => ({ p with total := s }, [])

/-- Asks for a slot of the route. -/
def askRoute (p : Slots) (c : Checkout) : Slots × List Notice :=
  match (p.routes c.route).acquire c with
  | (s, true) => (p.setRoute c.route s).askTotal c
  | (s, false) => (p.setRoute c.route s, [])

/-- A slot of all is given back. -/
def releaseTotal (p : Slots) : Slots × List Notice :=
  match p.total.release with
  | (s, none) => ({ p with total := s }, [])
  | (s, some c) => { p with total := s }.grant c

/-- A slot of a route is given back. -/
def releaseRoute (p : Slots) (route : String) : Slots × List Notice :=
  match (p.routes route).release with
  | (s, none) => (p.setRoute route s, [])
  | (s, some c) => (p.setRoute route s).askTotal c

/-- A checkout begins to wait and asks for its slots. -/
def enter (p : Slots) (c : Checkout) : Slots × List Notice :=
  { p with waiting := p.waiting ++ [c] }.askRoute c

/-- A checkout stops waiting: it leaves the queue it is in, and one that waited for a slot of all
gives back that of its route. -/
def withdraw (p : Slots) (c : Checkout) : Slots × List Notice :=
  let p := { p with waiting := p.waiting.erase c }
  if c ∈ p.total.queue then { p with total := p.total.withdraw c }.releaseRoute c.route
  else (p.setRoute c.route ((p.routes c.route).withdraw c), [])

/-- A checkout gives back its slots. -/
def giveBack (p : Slots) (c : Checkout) : Slots × List Notice :=
  let (p, first) := { p with granted := p.granted.erase c }.releaseTotal
  let (p, second) := p.releaseRoute c.route
  (p, first ++ second)

/-- A checkout that still waits gives up. -/
def giveUp (p : Slots) (c : Checkout) : Slots × List Notice :=
  if c ∈ p.waiting then
    let (p, notices) := p.withdraw c
    (p, ⟨c, .unavailable⟩ :: notices)
  else (p, [])

/-- Several checkouts give up, one after the other. -/
def giveUpAll (p : Slots) : List Checkout → Slots × List Notice
  | [] => (p, [])
  | c :: cs =>
    let (p, first) := p.giveUp c
    let (p, rest) := p.giveUpAll cs
    (p, first ++ rest)

/-- The checkouts whose deadline has come. -/
def expired (p : Slots) : List Checkout := p.waiting.filter (·.deadline ≤ p.clock)

/-- Every checkout whose deadline has come gives up. -/
def expire (p : Slots) : Slots × List Notice := p.giveUpAll p.expired

/-! ## Operations -/

/-- What a ticket asks for now. -/
def request (p : Slots) (t : Ticket) (route : String) : Checkout :=
  ⟨t, route, p.clock + p.limits.timeout⟩

/-- Starts a checkout. A ticket that is in use names its checkout already. -/
def checkout (p : Slots) (t : Ticket) (route : String) : Slots × List Notice :=
  let c := p.request t route
  if p.isUsed t then (p, [])
  else if slotLimit < p.limits.perRoute then (p, [⟨c, .uncountable⟩])
  else
    let (p, asked) := p.enter c
    let (p, expired) := p.expire
    (p, asked ++ expired)

/-- Gives back the slots of a ticket; the flag tells whether it held any. -/
def release (p : Slots) (t : Ticket) : Slots × Bool × List Notice :=
  match p.granted.find? (·.ticket == t) with
  | none => (p, false, [])
  | some c =>
    let (p, notices) := p.giveBack c
    (p, true, notices)

/-- Ends the wait of a ticket; the flag tells whether it waited. -/
def cancel (p : Slots) (t : Ticket) : Slots × Bool × List Notice :=
  match p.waiting.find? (·.ticket == t) with
  | none => (p, false, [])
  | some c =>
    let (p, notices) := p.withdraw c
    (p, true, notices)

/-- Time passes. -/
def advance (p : Slots) (ms : Nat) : Slots × List Notice :=
  { p with clock := p.clock + ms }.expire

end Slots

end HubPublisher.Pool
