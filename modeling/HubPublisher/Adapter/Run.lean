import HubPublisher.Adapter.Basic

/-!
How requests go on after they were submitted.

A task begins by asking for a slot. Once it has one its request is sent, and what comes back ends
it. A task may also give up waiting, or be dropped at any time. Whatever ends a task, the slot that
it held goes to whoever waits for it.
-/
namespace HubPublisher.Adapter

open Event (Context CorrelationId Payload)
open Hub (Connections Exchange Operation Request)
open Pool (Slots Ticket)
open Telemetry (Signal)

/-- A task that came to its end. -/
structure Ended where
  task : Task
  outcome : Outcome

/-- What a step shows and which tasks it ends. -/
structure Effect where
  signals : List Signal
  ended : List Ended

namespace Effect

def none : Effect := ⟨[], []⟩

def ofSignals (signals : List Signal) : Effect := ⟨signals, []⟩

/-- The end of a task. -/
def ofEnd (t : Task) (e : List Signal × Outcome) : Effect := ⟨e.1, [⟨t, e.2⟩]⟩

def append (a b : Effect) : Effect := ⟨a.signals ++ b.signals, a.ended ++ b.ended⟩

instance : Append Effect := ⟨append⟩

end Effect

/-! ## Tasks and slots -/

def task? (a : Adapter) (t : Ticket) : Option Task := a.tasks.find? (·.ticket == t)

def remove (a : Adapter) (t : Ticket) : Adapter :=
  { a with tasks := a.tasks.filter (·.ticket != t) }

def setPhase (a : Adapter) (t : Ticket) (phase : Phase) : Adapter :=
  { a with tasks := a.tasks.map fun task =>
      if task.ticket = t then { task with phase := phase } else task }

def setSlots (a : Adapter) (slots : Slots) : Adapter :=
  { a with connections := { a.connections with slots := slots } }

/-- A checkout came to its end: the task goes on or ends without having been sent. -/
def notice (a : Adapter) (n : Pool.Notice) : Adapter × Effect :=
  match a.task? n.checkout.ticket with
  | .none => (a, .none)
  | some task =>
    match n.ending with
    | .granted => (a.setPhase task.ticket .active, .none)
    | .unavailable =>
      (a.remove task.ticket, .ofEnd task (task.failed (.connectionUnavailable n.checkout.route)))
    | .uncountable => (a.remove task.ticket, .ofEnd task task.dropped)

def notices (a : Adapter) : List Pool.Notice → Adapter × Effect
  | [] => (a, .none)
  | n :: ns =>
    let (a, first) := a.notice n
    let (a, rest) := a.notices ns
    (a, first ++ rest)

/-! ## Steps of a task -/

/-- A submitted task begins. -/
def begin (a : Adapter) (t : Ticket) : Adapter × Effect :=
  match a.task? t with
  | some task =>
    match task.phase with
    | .submitted =>
      let (slots, ns) :=
        a.connections.slots.checkout t (Connections.routeOf task.request.url)
      ((a.setPhase t .waiting).setSlots slots).notices ns
    | _ => (a, .none)
  | .none => (a, .none)

/-- The slot of a task goes to whoever waits for it. -/
def freeSlot (a : Adapter) (t : Ticket) : Adapter × Effect :=
  let (slots, _, ns) := a.connections.slots.release t
  (a.setSlots slots).notices ns

/-- The request of an active task has been sent, and this is what came back. -/
def finish (a : Adapter) (t : Ticket) (x : Exchange) : Adapter × Effect :=
  match a.task? t with
  | some task =>
    match task.phase with
    | .active =>
      let seen : List Signal := if task.request.isSeen x then [.sent task.request] else []
      let ending :=
        match task.request.exchange x with
        | .ok reply => task.answered reply
        | .error e => task.failed (.transport e)
      let (a, freed) := (a.remove t).freeSlot t
      (a, .ofSignals seen ++ .ofEnd task ending ++ freed)
    | _ => (a, .none)
  | .none => (a, .none)

/-- A task is dropped, however far it has come. -/
def drop (a : Adapter) (t : Ticket) : Adapter × Effect :=
  match a.task? t with
  | .none => (a, .none)
  | some task =>
    let ended := Effect.ofEnd task task.dropped
    match task.phase with
    | .submitted => (a.remove t, ended)
    | .waiting =>
      let (slots, _, ns) := a.connections.slots.cancel t
      let (a, freed) := ((a.remove t).setSlots slots).notices ns
      (a, ended ++ freed)
    | .active =>
      let (a, freed) := (a.remove t).freeSlot t
      (a, ended ++ freed)

/-- Time passes. -/
def advance (a : Adapter) (ms : Nat) : Adapter × Effect :=
  let (slots, ns) := a.connections.slots.advance ms
  (a.setSlots slots).notices ns

/-! ## Runs -/

/-- What can happen to an adapter. -/
inductive Step where
  | dispatch (payload : Payload) (context : Context) (fresh : CorrelationId)
  | publish (payload : Payload) (context : Context) (fresh : CorrelationId)
  | manage (eventUri tenant : String) (operation : Operation) (correlation : Option CorrelationId)
    (fresh : CorrelationId)
  | begin (t : Ticket)
  | finish (t : Ticket) (x : Exchange)
  | drop (t : Ticket)
  | advance (ms : Nat)
  | stop

def step (a : Adapter) : Step → Adapter × Effect
  | .dispatch payload context fresh =>
    let s := a.dispatch payload context fresh
    (s.adapter, .ofSignals s.signals)
  | .publish payload context fresh =>
    let s := a.publish payload context fresh
    (s.adapter, .ofSignals s.signals)
  | .manage eventUri tenant operation correlation fresh =>
    let s := a.manage eventUri tenant operation correlation fresh
    (s.adapter, .ofSignals s.signals)
  | .begin t => a.begin t
  | .finish t x => a.finish t x
  | .drop t => a.drop t
  | .advance ms => a.advance ms
  | .stop =>
    let (a, signals) := a.stop
    (a, .ofSignals signals)

def run (a : Adapter) : List Step → Adapter × Effect
  | [] => (a, .none)
  | s :: ss =>
    let (a, first) := a.step s
    let (a, rest) := a.run ss
    (a, first ++ rest)

/-! ## To the end -/

/-- What can happen next without waiting: a task begins, or the hub's answer ends one. -/
def next? (network : Request → Exchange) (a : Adapter) : Option Step :=
  match a.tasks.find? (·.phase == .submitted) with
  | some task => some (.begin task.ticket)
  | .none =>
    match a.tasks.find? (·.phase == .active) with
    | some task => some (.finish task.ticket (network task.request))
    | .none => .none

/-- Goes on for so many steps at most. -/
def settleWithin (network : Request → Exchange) : Nat → Adapter → Adapter × Effect
  | 0, a => (a, .none)
  | n + 1, a =>
    match a.next? network with
    | .none => (a, .none)
    | some s =>
      let (a, first) := a.step s
      let (a, rest) := settleWithin network n a
      (a, first ++ rest)

/-- Goes on until every task has ended: each begins once and ends once. -/
def settle (network : Request → Exchange) (a : Adapter) : Adapter × Effect :=
  settleWithin network (2 * a.tasks.length) a

end HubPublisher.Adapter
