import HubPublisher.Adapter.Run
import HubPublisher.Proofs.Pool.Runs
import HubPublisher.Proofs.Text.Trim

/-!
What an adapter is set up with, and that nothing that happens to it changes this.

Steps touch the tasks, the slots and whether the client runs. The configuration and the certificates
are those of the start (`Kept`), and the base URL, once it is remembered, is the configured one. So
of every state that an adapter comes to, the setup is known (`Reachable.setUp`): it depends neither
on the calls that were made before nor on how they ended.
-/
namespace HubPublisher.Hub.Connections

variable {c d : Connections} {config : Settings.Configuration} {trust : Trust.Store}
  {logs : List Log.Event}

theorem eq_of_start (h : start config trust = .ok (c, logs)) :
    c = ⟨config, trust, true, Pool.Slots.start (limitsOf config)⟩ := by
  unfold start Pool.Slots.start? at h
  split_ifs at h
  simp only at h
  split at h
  · cases h
  · simp only [Except.ok.injEq, Prod.mk.injEq] at h
    exact h.1.symm

theorem trust_of_stop (c : Connections) : c.stop.1.trust = c.trust := by
  unfold stop
  split
  · rfl
  · rfl

theorem trust_of_ensureRunning (h : c.ensureRunning = (.ok d, logs)) : d.trust = c.trust := by
  unfold ensureRunning at h
  split at h
  · cases h
    rfl
  · split at h
    · cases h
    · cases h
      rfl

theorem trust_of_step (c : Connections) (s : Step) : (c.step s).1.trust = c.trust := by
  cases s with
  | checkout t url => rfl
  | channelCheckout t url =>
    simp only [step]
    split
    · rfl
    · rename_i d logs running
      exact trust_of_ensureRunning (d := d) running
  | release t => rfl
  | cancel t => rfl
  | advance ms => rfl
  | stop => exact trust_of_stop c
  | client =>
    simp only [step]
    split
    · rfl
    · rename_i d logs running
      exact trust_of_ensureRunning (d := d) running
  | spawn => rfl

end HubPublisher.Hub.Connections

namespace HubPublisher.Adapter

open Event (Context CorrelationId Payload Topic)
open Hub (Connections Operation Request)
open Pool (Notice Ticket)
open Settings (Configuration)

/-- A publish is a dispatch that logs why it was refused. -/
theorem publish_eq (a : Adapter) (payload : Payload) (context : Context) (fresh : CorrelationId) :
    ∃ logs : List Log.Event, a.publish payload context fresh
      = { a.dispatch payload context fresh with
          signals := (a.dispatch payload context fresh).signals ++ logs.map .log } := by
  unfold publish
  obtain ⟨adapter, signals, result⟩ := a.dispatch payload context fresh
  cases result with
  | ok task => exact ⟨[], by simp⟩
  | error e => exact ⟨[refusedEvent context e], rfl⟩

/-! ## What is kept -/

/-- What `b` has from `a`, however many steps are between them. -/
structure Kept (a b : Adapter) : Prop where
  config : b.config = a.config
  trust : b.connections.trust = a.connections.trust
  /-- The base URL is as it was or as the configuration has it. -/
  baseUrl : b.baseUrl = a.baseUrl ∨ b.baseUrl = configuredBaseUrl a.config

namespace Kept

variable {a b c : Adapter}

theorem refl (a : Adapter) : Kept a a := ⟨rfl, rfl, .inl rfl⟩

theorem trans (h : Kept a b) (h' : Kept b c) : Kept a c := by
  refine ⟨h'.config.trans h.config, h'.trust.trans h.trust, ?_⟩
  rcases h'.baseUrl with same | configured
  · rw [same]
    exact h.baseUrl
  · rw [configured, h.config]
    exact .inr rfl

theorem setPhase (a : Adapter) (t : Ticket) (phase : Phase) : Kept a (a.setPhase t phase) :=
  ⟨rfl, rfl, .inl rfl⟩

theorem remove (a : Adapter) (t : Ticket) : Kept a (a.remove t) := ⟨rfl, rfl, .inl rfl⟩

theorem setSlots (a : Adapter) (slots : Pool.Slots) : Kept a (a.setSlots slots) :=
  ⟨rfl, rfl, .inl rfl⟩

theorem notice (a : Adapter) (n : Notice) : Kept a (a.notice n).1 := by
  unfold Adapter.notice
  split
  · exact .refl a
  · split
    · exact .setPhase a _ .active
    · exact .remove a _
    · exact .remove a _

theorem notices (a : Adapter) (ns : List Notice) : Kept a (a.notices ns).1 := by
  induction ns generalizing a with
  | nil => exact .refl a
  | cons n ns ih => exact (notice a n).trans (ih _)

theorem begin (a : Adapter) (t : Ticket) : Kept a (a.begin t).1 := by
  unfold Adapter.begin
  split
  · split
    · exact ((setPhase a t .waiting).trans (setSlots _ _)).trans (notices _ _)
    · exact .refl a
  · exact .refl a

theorem freeSlot (a : Adapter) (t : Ticket) : Kept a (a.freeSlot t).1 :=
  (setSlots a _).trans (notices _ _)

theorem finish (a : Adapter) (t : Ticket) (x : Hub.Exchange) : Kept a (a.finish t x).1 := by
  unfold Adapter.finish
  split
  · split
    · exact (remove a t).trans (freeSlot _ t)
    · exact .refl a
  · exact .refl a

theorem drop (a : Adapter) (t : Ticket) : Kept a (a.drop t).1 := by
  unfold Adapter.drop
  split
  · exact .refl a
  · split
    · exact .remove a t
    · exact ((remove a t).trans (setSlots _ _)).trans (notices _ _)
    · exact (remove a t).trans (freeSlot _ t)

theorem advance (a : Adapter) (ms : Nat) : Kept a (a.advance ms).1 :=
  (setSlots a _).trans (notices _ _)

theorem stop (a : Adapter) : Kept a a.stop.1 :=
  ⟨rfl, Connections.trust_of_stop a.connections, .inl rfl⟩

/-- The base URL that is looked up is the configured one, or it was remembered. -/
theorem resolve (a : Adapter) : Kept a a.resolve.1 := by
  unfold Adapter.resolve
  split
  · exact .refl a
  · split
    · exact .refl a
    · rename_i url configured
      exact ⟨rfl, rfl, .inr configured.symm⟩

theorem submit (a : Adapter) (topic : Topic) (operation : Operation) (purpose : Purpose)
    (request : Url → Request) : Kept a (a.submit topic operation purpose request).adapter := by
  have resolved := resolve a
  unfold Adapter.submit
  split
  · exact .refl a
  · split
    · rename_i b signals found
      rw [found] at resolved
      exact resolved
    · rename_i b signals baseUrl found
      rw [found] at resolved
      split
      · exact resolved
      · split
        · exact resolved
        · rename_i running
          have trust := Connections.trust_of_ensureRunning running
          exact resolved.trans ⟨rfl, trust, .inl rfl⟩

theorem publish (a : Adapter) (payload : Payload) (context : Context) (fresh : CorrelationId) :
    Kept a (a.publish payload context fresh).adapter := by
  obtain ⟨logs, same⟩ := publish_eq a payload context fresh
  rw [same]
  exact submit a _ _ _ _

/-- Every step of the adapter keeps its setup. -/
theorem step (a : Adapter) (s : Step) : Kept a (a.step s).1 := by
  cases s with
  | dispatch payload context fresh => exact submit a _ _ _ _
  | publish payload context fresh => exact publish a payload context fresh
  | manage eventUri tenant operation correlation fresh => exact submit a _ _ _ _
  | begin t => exact begin a t
  | finish t x => exact finish a t x
  | drop t => exact drop a t
  | advance ms => exact advance a ms
  | stop => exact stop a

/-- So does whatever else is done with its connections. -/
theorem connections (a : Adapter) (s : Connections.Step) :
    Kept a { a with connections := (a.connections.step s).1 } :=
  ⟨rfl, Connections.trust_of_step a.connections s, .inl rfl⟩

end Kept

/-! ## Reachable states -/

/-- The states that an adapter comes to which was started on a configuration and certificates: by
steps of its own and by others that use its connections. -/
inductive Reachable (config : Configuration) (trust : Trust.Store) : Adapter → Prop
  | start {a : Adapter} {logs : List Log.Event} (started : startWith config trust = .ok (a, logs)) :
      Reachable config trust a
  | step {a : Adapter} (h : Reachable config trust a) (s : Step) :
      Reachable config trust (a.step s).1
  | connections {a : Adapter} (h : Reachable config trust a) (s : Connections.Step) :
      Reachable config trust { a with connections := (a.connections.step s).1 }

/-- What an adapter has in every state. -/
structure SetUp (config : Configuration) (trust : Trust.Store) (a : Adapter) : Prop where
  config_eq : a.config = config
  trust_eq : a.connections.trust = trust
  /-- The client can be built again. -/
  buildable : a.connections.Buildable
  baseUrl : a.baseUrl = none ∨ a.baseUrl = configuredBaseUrl config

variable {config : Configuration} {trust : Trust.Store} {a b : Adapter} {logs : List Log.Event}

theorem SetUp.kept (h : SetUp config trust a) (kept : Kept a b) : SetUp config trust b := by
  obtain ⟨built, builds⟩ := h.buildable
  -- what the client is built from are the certificates, so it can be built again
  refine ⟨kept.config.trans h.config_eq, kept.trust.trans h.trust_eq,
    ⟨built, by rw [kept.trust, builds]⟩, ?_⟩
  rcases kept.baseUrl with same | configured
  · rw [same]
    exact h.baseUrl
  · rw [configured, h.config_eq]
    exact .inr rfl

/-- An adapter starts on connections that were started, and with nothing on its way. -/
theorem eq_of_startWith (started : startWith config trust = .ok (a, logs)) :
    ∃ c logs', Connections.start config trust = .ok (c, logs') ∧ a = ⟨config, c, none, [], 0⟩ := by
  unfold startWith at started
  split at started
  · cases started
  · rename_i connections logs' opened
    simp only [Except.ok.injEq, Prod.mk.injEq] at started
    exact ⟨connections, logs', opened, started.1.symm⟩

theorem SetUp.start (started : startWith config trust = .ok (a, logs)) :
    SetUp config trust a := by
  obtain ⟨c, logs', opened, rfl⟩ := eq_of_startWith started
  have trusted : c.trust = trust := by rw [Connections.eq_of_start opened]
  exact ⟨rfl, trusted, (Connections.start_eq opened).2, .inl rfl⟩

/-- Wherever an adapter comes to, it is set up as it was at the start. -/
theorem Reachable.setUp (h : Reachable config trust b) : SetUp config trust b := by
  induction h with
  | start started => exact .start started
  | step _ s ih => exact ih.kept (.step _ s)
  | connections _ s ih => exact ih.kept (.connections _ s)

/-- A run of steps goes from one such state to another. -/
theorem Reachable.run (h : Reachable config trust b) (steps : List Step) :
    Reachable config trust (b.run steps).1 := by
  induction steps generalizing b with
  | nil => exact h
  | cons s ss ih => exact ih (h.step s)

/-! ## The base URL -/

theorem configuredBaseUrl_eq_none :
    configuredBaseUrl config = none ↔
      ∀ text, config.baseUrl = some text → Text.trim text = "" := by
  unfold configuredBaseUrl
  cases config.baseUrl with
  | none => simp
  | some text => simp [Text.isBlank_iff_trim]

theorem configuredBaseUrl_eq_some {base : String} :
    configuredBaseUrl config = some base ↔
      ∃ text, config.baseUrl = some text ∧ Text.trim text = base ∧ base ≠ "" := by
  unfold configuredBaseUrl
  cases config.baseUrl with
  | none => simp
  | some text =>
    simp only [Text.isBlank_iff_trim, Option.ite_none_left_eq_some, Option.some.injEq,
      exists_eq_left', and_comm (a := ¬Text.trim text = "")]
    exact and_congr_right fun trimmed => by rw [trimmed]

end HubPublisher.Adapter
