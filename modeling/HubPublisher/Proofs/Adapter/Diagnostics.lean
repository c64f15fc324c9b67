import HubPublisher.Adapter.Assembly
import HubPublisher.Adapter.Run
import HubPublisher.Proofs.Settings.Switches
import HubPublisher.Sample

/-!
The switch of the diagnostics.

An adapter looks at the switch nowhere: with it set otherwise, it takes every step as before and
shows the same (`run_withDiagnostics`). Only the log reads it, and leaves out diagnostics; as the
events that are logged directly belong to no stream (`plain_run`), nothing else is missing there.
Settings that differ in the switch alone give one adapter with the switch set in two ways
(`ofSettings_alike`).
-/
namespace HubPublisher.Telemetry

/-! ## The log with and without diagnostics -/

/-- An event that is logged directly belongs to no stream of its own. -/
def Signal.Plain : Signal → Prop
  | .log e => e.target = none
  | _ => True

/-- Every signal of a list is plain. -/
def Plain (signals : List Signal) : Prop := ∀ s ∈ signals, s.Plain

theorem plain_nil : Plain [] := List.forall_mem_nil _

theorem plain_cons {s : Signal} {signals : List Signal} :
    Plain (s :: signals) ↔ s.Plain ∧ Plain signals := List.forall_mem_cons

theorem plain_append {s s' : List Signal} : Plain (s ++ s') ↔ Plain s ∧ Plain s' :=
  List.forall_mem_append

theorem plain_logs {logs : List Log.Event} (h : ∀ e ∈ logs, e.target = none) :
    Plain (logs.map .log) := by
  intro s member
  obtain ⟨e, logged, rfl⟩ := List.mem_map.1 member
  exact h e logged

/-- Whether an event belongs to the stream of the diagnostics. -/
def isDiagnostic (e : Log.Event) : Bool := e.target == some diagnosticTarget

def isCorrelation (e : Log.Event) : Bool := e.target == some correlationTarget

/-- Without diagnostics, the log lacks the events of their stream and no others. -/
theorem events_without_diagnostics {signals : List Signal} (plain : Plain signals) :
    events false signals = (events true signals).filter (!isDiagnostic ·) := by
  induction signals with
  | nil => rfl
  | cons s signals ih =>
    obtain ⟨here, rest⟩ := plain_cons.1 plain
    have head : s.events false = (s.events true).filter (!isDiagnostic ·) := by
      cases s with
      | log e =>
        have outside : isDiagnostic e = false := by
          rw [isDiagnostic, show e.target = none from here]
          rfl
        simp [Signal.events, outside]
      | diagnostic d => simp [Signal.events, isDiagnostic, Diagnostic.event]
      | correlation c =>
        simp [Signal.events, isDiagnostic, Correlation.event, correlationTarget, diagnosticTarget]
      | sent r => rfl
    calc events false (s :: signals)
        = s.events false ++ events false signals := rfl
      _ = (s.events true ++ events true signals).filter (!isDiagnostic ·) := by
        rw [head, ih rest, List.filter_append]

/-- The events of the correlations' stream are those of all correlations, with diagnostics or
without. -/
theorem correlations_in_events {signals : List Signal} (plain : Plain signals) (on : Bool) :
    (events on signals).filter isCorrelation
      = (signals.filterMap correlationOf?).map Correlation.event := by
  induction signals with
  | nil => rfl
  | cons s signals ih =>
    obtain ⟨here, rest⟩ := plain_cons.1 plain
    have split : events on (s :: signals) = s.events on ++ events on signals := rfl
    rw [split, List.filter_append, ih rest]
    cases s with
    | log e =>
      have outside : isCorrelation e = false := by
        rw [isCorrelation, show e.target = none from here]
        rfl
      show [e].filter isCorrelation ++ _ = _
      rw [List.filter_cons_of_neg (by rw [outside]; exact Bool.false_ne_true)]
      rfl
    | diagnostic d =>
      cases on with
      | false => rfl
      | true => rfl
    | correlation c => rfl
    | sent r => rfl

end HubPublisher.Telemetry

namespace HubPublisher.Hub.Connections

def withDiagnostics (c : Connections) (on : Bool) : Connections :=
  { c with config := c.config.withDiagnosticLogs on }

theorem ensureRunning_withDiagnostics (c : Connections) (on : Bool) :
    (c.withDiagnostics on).ensureRunning
      = (c.ensureRunning.1.map (·.withDiagnostics on), c.ensureRunning.2) := by
  have running : (c.withDiagnostics on).running = c.running := rfl
  have trust : (c.withDiagnostics on).trust = c.trust := rfl
  unfold ensureRunning
  rw [running, trust]
  cases c.running with
  | true => rfl
  | false => cases buildClient c.trust <;> rfl

theorem target_buildClient {trust : Trust.Store} {logs : List Log.Event}
    (built : buildClient trust = .ok logs) : ∀ e ∈ logs, e.target = none := by
  unfold buildClient at built
  split at built
  · cases built
  · cases built
    exact nofun
  · cases built
    simp [trusting, Log.event]

theorem target_ensureRunning (c : Connections) : ∀ e ∈ c.ensureRunning.2, e.target = none := by
  unfold ensureRunning
  split
  · exact nofun
  · split
    · simp [restarting, Log.event]
    · rename_i logs built
      exact List.forall_mem_cons.2 ⟨rfl, target_buildClient built⟩

end HubPublisher.Hub.Connections

namespace HubPublisher.Adapter

open Event (Context CorrelationId Payload Topic)
open Hub (Connections Exchange Operation Request)
open Pool (Notice Slots Ticket)
open Settings (Configuration Properties SettingsFile)
open Settings.Configuration (Alike Spelt diagnosticLogsKey diagnosticLogs_of_ofProperties
  ofProperties_alike wantsDiagnostics wantsDiagnostics_eq_false)
open Telemetry (Correlation Plain Signal correlationOf? correlations_in_events
  events_without_diagnostics isCorrelation isDiagnostic plain_append plain_cons plain_logs
  plain_nil)

variable {a : Adapter}

/-! ## Steps do not look at the switch -/

/-- The same adapter with the switch set. -/
def withDiagnostics (a : Adapter) (on : Bool) : Adapter :=
  { a with
    config := a.config.withDiagnosticLogs on
    connections := a.connections.withDiagnostics on }

/-- What the adapter comes to with the switch set, and what is shown on the way. -/
def switched {α : Type} (on : Bool) (r : Adapter × α) : Adapter × α :=
  (r.1.withDiagnostics on, r.2)

@[simp]
theorem task?_withDiagnostics (a : Adapter) (on : Bool) (t : Ticket) :
    (a.withDiagnostics on).task? t = a.task? t := rfl

@[simp]
theorem remove_withDiagnostics (a : Adapter) (on : Bool) (t : Ticket) :
    (a.withDiagnostics on).remove t = (a.remove t).withDiagnostics on := rfl

@[simp]
theorem setPhase_withDiagnostics (a : Adapter) (on : Bool) (t : Ticket) (phase : Phase) :
    (a.withDiagnostics on).setPhase t phase = (a.setPhase t phase).withDiagnostics on := rfl

@[simp]
theorem setSlots_withDiagnostics (a : Adapter) (on : Bool) (slots : Slots) :
    (a.withDiagnostics on).setSlots slots = (a.setSlots slots).withDiagnostics on := rfl

@[simp]
theorem slots_withDiagnostics (a : Adapter) (on : Bool) :
    (a.withDiagnostics on).connections.slots = a.connections.slots := rfl

theorem notice_withDiagnostics (a : Adapter) (on : Bool) (n : Notice) :
    (a.withDiagnostics on).notice n = switched on (a.notice n) := by
  unfold notice
  rw [task?_withDiagnostics]
  cases a.task? n.checkout.ticket with
  | none => rfl
  | some task => cases n.ending <;> rfl

theorem notices_withDiagnostics (a : Adapter) (on : Bool) (ns : List Notice) :
    (a.withDiagnostics on).notices ns = switched on (a.notices ns) := by
  induction ns generalizing a with
  | nil => rfl
  | cons n ns ih =>
    -- `switched` is opened once the first notice stands there as a whole
    simp only [notices, notice_withDiagnostics]
    simp only [switched, ih]

theorem begin_withDiagnostics (a : Adapter) (on : Bool) (t : Ticket) :
    (a.withDiagnostics on).begin t = switched on (a.begin t) := by
  unfold begin
  simp only [task?_withDiagnostics, setPhase_withDiagnostics, slots_withDiagnostics,
    setSlots_withDiagnostics, notices_withDiagnostics]
  cases a.task? t with
  | none => rfl
  | some task =>
    simp only
    cases task.phase <;> rfl

theorem freeSlot_withDiagnostics (a : Adapter) (on : Bool) (t : Ticket) :
    (a.withDiagnostics on).freeSlot t = switched on (a.freeSlot t) :=
  notices_withDiagnostics (a.setSlots (a.connections.slots.release t).1) on _

theorem finish_withDiagnostics (a : Adapter) (on : Bool) (t : Ticket) (x : Exchange) :
    (a.withDiagnostics on).finish t x = switched on (a.finish t x) := by
  unfold finish
  rw [task?_withDiagnostics, remove_withDiagnostics, freeSlot_withDiagnostics]
  cases a.task? t with
  | none => rfl
  | some task =>
    simp only
    cases task.phase <;> rfl

theorem drop_withDiagnostics (a : Adapter) (on : Bool) (t : Ticket) :
    (a.withDiagnostics on).drop t = switched on (a.drop t) := by
  unfold drop
  simp only [task?_withDiagnostics, remove_withDiagnostics, slots_withDiagnostics,
    setSlots_withDiagnostics, notices_withDiagnostics, freeSlot_withDiagnostics]
  cases a.task? t with
  | none => rfl
  | some task =>
    simp only
    cases task.phase <;> rfl

theorem advance_withDiagnostics (a : Adapter) (on : Bool) (ms : Nat) :
    (a.withDiagnostics on).advance ms = switched on (a.advance ms) :=
  notices_withDiagnostics (a.setSlots (a.connections.slots.advance ms).1) on _

theorem stop_withDiagnostics (a : Adapter) (on : Bool) :
    (a.withDiagnostics on).stop = switched on a.stop := by
  have running : (a.withDiagnostics on).connections.running = a.connections.running := rfl
  unfold stop Connections.stop
  rw [running]
  cases a.connections.running <;> rfl

/-- What comes of a call with the switch set. -/
def Submission.withDiagnostics (s : Submission) (on : Bool) : Submission :=
  { s with adapter := s.adapter.withDiagnostics on }

theorem resolve_withDiagnostics (a : Adapter) (on : Bool) :
    (a.withDiagnostics on).resolve = switched on a.resolve := by
  have remembered : (a.withDiagnostics on).baseUrl = a.baseUrl := rfl
  have configured : configuredBaseUrl (a.withDiagnostics on).config
      = configuredBaseUrl a.config := rfl
  unfold resolve
  rw [remembered, configured]
  cases a.baseUrl with
  | some url => rfl
  | none => cases configuredBaseUrl a.config <;> rfl

theorem submit_withDiagnostics (a : Adapter) (on : Bool) (topic : Topic) (operation : Operation)
    (purpose : Purpose) (request : Url → Request) :
    (a.withDiagnostics on).submit topic operation purpose request
      = (a.submit topic operation purpose request).withDiagnostics on := by
  have enabled : (a.withDiagnostics on).config.enabled = a.config.enabled := rfl
  unfold submit
  rw [enabled, resolve_withDiagnostics]
  cases a.config.enabled with
  | false => rfl
  | true =>
    obtain ⟨a', signals, url?⟩ := a.resolve
    cases url? with
    | none => rfl
    | some baseUrl =>
      simp only [switched]
      cases Hub.topicUrl topic baseUrl operation with
      | error e => rfl
      | ok url =>
        have client : (a'.withDiagnostics on).connections.ensureRunning
            = _ := Connections.ensureRunning_withDiagnostics a'.connections on
        simp only [client]
        obtain ⟨result, logs⟩ := a'.connections.ensureRunning
        cases result <;> rfl

theorem publish_withDiagnostics (a : Adapter) (on : Bool) (payload : Payload) (context : Context)
    (fresh : CorrelationId) :
    (a.withDiagnostics on).publish payload context fresh
      = (a.publish payload context fresh).withDiagnostics on := by
  have dispatched : (a.withDiagnostics on).dispatch payload context fresh
      = (a.dispatch payload context fresh).withDiagnostics on := submit_withDiagnostics a on _ _ _ _
  unfold publish
  rw [dispatched]
  obtain ⟨a', signals, result⟩ := a.dispatch payload context fresh
  cases result <;> rfl

/-- A step does with the switch set what it does without, and shows the same. -/
theorem step_withDiagnostics (a : Adapter) (on : Bool) (s : Step) :
    (a.withDiagnostics on).step s = switched on (a.step s) := by
  have called {s s' : Submission} (same : s' = s.withDiagnostics on) :
      (s'.adapter, Effect.ofSignals s'.signals)
        = switched on (s.adapter, Effect.ofSignals s.signals) := by
    rw [same]
    rfl
  cases s with
  | dispatch payload context fresh => exact called (submit_withDiagnostics a on _ _ _ _)
  | publish payload context fresh => exact called (publish_withDiagnostics a on _ _ _)
  | manage eventUri tenant operation correlation fresh =>
    exact called (submit_withDiagnostics a on _ _ _ _)
  | begin t => exact begin_withDiagnostics a on t
  | finish t x => exact finish_withDiagnostics a on t x
  | drop t => exact drop_withDiagnostics a on t
  | advance ms => exact advance_withDiagnostics a on ms
  | stop =>
    show ((a.withDiagnostics on).stop.1, Effect.ofSignals (a.withDiagnostics on).stop.2) = _
    rw [stop_withDiagnostics]
    rfl

/-- And so does a run. -/
theorem run_withDiagnostics (a : Adapter) (on : Bool) (steps : List Step) :
    (a.withDiagnostics on).run steps = switched on (a.run steps) := by
  induction steps generalizing a with
  | nil => rfl
  | cons s steps ih =>
    simp only [run, step_withDiagnostics]
    simp only [switched, ih]

/-! ## Answers -/

/-- What a call tells its caller at once: the task that it submitted, or why it was refused. -/
def answer? (a : Adapter) : Step → Option (Except AdapterError Task)
  | .dispatch payload context fresh => some (a.dispatch payload context fresh).result
  | .publish payload context fresh => some (a.publish payload context fresh).result
  | .manage eventUri tenant operation correlation fresh =>
    some (a.manage eventUri tenant operation correlation fresh).result
  | _ => none

/-- What each step of a run answers, shows and ends. -/
def transcript (a : Adapter) : List Step → List (Option (Except AdapterError Task) × Effect)
  | [] => []
  | s :: ss => (a.answer? s, (a.step s).2) :: (a.step s).1.transcript ss

theorem answer?_withDiagnostics (a : Adapter) (on : Bool) (s : Step) :
    (a.withDiagnostics on).answer? s = a.answer? s := by
  have called {s s' : Submission} (same : s' = s.withDiagnostics on) :
      some s'.result = some s.result := by
    rw [same]
    rfl
  cases s with
  | dispatch payload context fresh => exact called (submit_withDiagnostics a on _ _ _ _)
  | publish payload context fresh => exact called (publish_withDiagnostics a on _ _ _)
  | manage eventUri tenant operation correlation fresh =>
    exact called (submit_withDiagnostics a on _ _ _ _)
  | begin t => rfl
  | finish t x => rfl
  | drop t => rfl
  | advance ms => rfl
  | stop => rfl

theorem transcript_withDiagnostics (a : Adapter) (on : Bool) (steps : List Step) :
    (a.withDiagnostics on).transcript steps = a.transcript steps := by
  induction steps generalizing a with
  | nil => rfl
  | cons s steps ih =>
    simp only [transcript, answer?_withDiagnostics, step_withDiagnostics]
    simp only [switched, ih]

/-! ## What is logged directly -/

theorem Task.plain_announcement (t : Task) : Plain t.announcement := by
  unfold announcement
  cases t.purpose with
  | publish tenant => exact plain_cons.2 ⟨trivial, plain_cons.2 ⟨rfl, plain_nil⟩⟩
  | manage => exact plain_cons.2 ⟨rfl, plain_nil⟩

theorem Task.target_verdictEvent (t : Task) (r : Hub.Reply)
    (verdict : Except AdapterError Hub.TopicOutcome) :
    (t.verdictEvent r verdict).target = none := by
  unfold verdictEvent
  split <;> rfl

theorem Task.plain_answered (t : Task) (r : Hub.Reply) : Plain (t.answered r).1 := by
  unfold answered
  cases t.purpose with
  | publish tenant =>
    show Plain (ite _ _ _ : List Signal × Outcome).1
    split
    · simp [Plain, Signal.Plain, hubResponded, responded, diagnostic, Log.event]
    · simp [Plain, Signal.Plain, hubResponded, responded, diagnostic, Log.event]
  | manage =>
    simp [Plain, Signal.Plain, hubResponded, responded, Log.event, target_verdictEvent]

theorem Task.plain_failed (t : Task) (e : ServerError) : Plain (t.failed e).1 := by
  unfold failed
  cases t.purpose with
  | publish tenant => simp [Plain, Signal.Plain, unanswered, diagnostic, Log.event]
  | manage => simp [Plain, Signal.Plain, unanswered, Log.event]

theorem Task.plain_dropped (t : Task) : Plain t.dropped.1 := by
  unfold dropped
  cases t.phase with
  | submitted => exact plain_nil
  | waiting => exact plain_cons.2 ⟨trivial, plain_nil⟩
  | active => exact plain_cons.2 ⟨trivial, plain_nil⟩

theorem plain_notice (a : Adapter) (n : Notice) : Plain (a.notice n).2.signals := by
  unfold notice
  cases a.task? n.checkout.ticket with
  | none => exact plain_nil
  | some task =>
    cases n.ending with
    | granted => exact plain_nil
    | unavailable => exact task.plain_failed _
    | uncountable => exact task.plain_dropped

theorem plain_notices (a : Adapter) (ns : List Notice) : Plain (a.notices ns).2.signals := by
  induction ns generalizing a with
  | nil => exact plain_nil
  | cons n ns ih => exact plain_append.2 ⟨plain_notice a n, ih (a.notice n).1⟩

theorem plain_begin (a : Adapter) (t : Ticket) : Plain (a.begin t).2.signals := by
  unfold begin
  split
  · split
    · exact plain_notices _ _
    · exact plain_nil
  · exact plain_nil

theorem plain_freeSlot (a : Adapter) (t : Ticket) : Plain (a.freeSlot t).2.signals :=
  plain_notices _ _

theorem plain_finish (a : Adapter) (t : Ticket) (x : Exchange) :
    Plain (a.finish t x).2.signals := by
  unfold finish
  split
  · rename_i task _
    split
    · have seen : Plain (if task.request.isSeen x then [.sent task.request] else []) := by
        split
        · exact plain_cons.2 ⟨trivial, plain_nil⟩
        · exact plain_nil
      refine plain_append.2 ⟨plain_append.2 ⟨seen, ?_⟩, plain_freeSlot _ _⟩
      cases task.request.exchange x with
      | ok reply => exact task.plain_answered reply
      | error e => exact task.plain_failed _
    · exact plain_nil
  · exact plain_nil

theorem plain_drop (a : Adapter) (t : Ticket) : Plain (a.drop t).2.signals := by
  unfold drop
  split
  · exact plain_nil
  · rename_i task _
    cases phase : task.phase with
    | submitted => exact task.plain_dropped
    | waiting => exact plain_append.2 ⟨task.plain_dropped, plain_notices _ _⟩
    | active => exact plain_append.2 ⟨task.plain_dropped, plain_freeSlot _ _⟩

theorem plain_stop (a : Adapter) : Plain a.stop.2 := by
  unfold stop Connections.stop
  cases a.connections.running with
  | false => exact plain_nil
  | true => exact plain_cons.2 ⟨rfl, plain_nil⟩

theorem plain_resolve (a : Adapter) : Plain a.resolve.2.1 := by
  unfold resolve
  split
  · exact plain_nil
  · split
    · exact plain_nil
    · exact plain_cons.2 ⟨rfl, plain_nil⟩

theorem plain_submit (a : Adapter) (topic : Topic) (operation : Operation) (purpose : Purpose)
    (request : Url → Request) : Plain (a.submit topic operation purpose request).signals := by
  unfold submit
  split
  · exact plain_nil
  · rcases resolved : a.resolve with ⟨a', signals, url?⟩
    have resolving : Plain signals := by simpa only [resolved] using plain_resolve a
    cases url? with
    | none => exact resolving
    | some baseUrl =>
      simp only
      split
      · exact resolving
      · -- the client may have to be started first, and that is logged directly as well
        have starting := Connections.target_ensureRunning a'.connections
        split
        · rename_i e logs running
          rw [running] at starting
          exact plain_append.2 ⟨resolving, plain_logs starting⟩
        · rename_i connections logs running
          rw [running] at starting
          exact plain_append.2 ⟨plain_append.2 ⟨resolving, plain_logs starting⟩,
            Task.plain_announcement _⟩

theorem plain_publish (a : Adapter) (payload : Payload) (context : Context)
    (fresh : CorrelationId) : Plain (a.publish payload context fresh).signals := by
  have dispatched : Plain (a.dispatch payload context fresh).signals := plain_submit a _ _ _ _
  unfold publish
  simp only
  split
  · exact dispatched
  · exact plain_append.2 ⟨dispatched, plain_cons.2 ⟨rfl, plain_nil⟩⟩

/-- Whatever a step logs directly belongs to no stream. -/
theorem plain_step (a : Adapter) (s : Step) : Plain (a.step s).2.signals := by
  cases s with
  | dispatch payload context fresh => exact plain_submit a _ _ _ _
  | publish payload context fresh => exact plain_publish a payload context fresh
  | manage eventUri tenant operation correlation fresh => exact plain_submit a _ _ _ _
  | begin t => exact plain_begin a t
  | finish t x => exact plain_finish a t x
  | drop t => exact plain_drop a t
  | advance ms => exact plain_notices _ _
  | stop => exact plain_stop a

theorem plain_run (a : Adapter) (steps : List Step) : Plain (a.run steps).2.signals := by
  induction steps generalizing a with
  | nil => exact plain_nil
  | cons s steps ih => exact plain_append.2 ⟨plain_step a s, ih (a.step s).1⟩

/-! ## Settings -/

theorem start_withDiagnostics (files : Files) (config : Configuration) (on : Bool) :
    start files (config.withDiagnosticLogs on)
      = (start files config).map fun r => (r.1.withDiagnostics on, r.2) := by
  have trusted : trustOf files (config.withDiagnosticLogs on) = trustOf files config := rfl
  have limits : Connections.limitsOf (config.withDiagnosticLogs on) = Connections.limitsOf config :=
    rfl
  unfold start startWith Connections.start
  rw [trusted, limits]
  cases trustOf files config with
  | error e => rfl
  | ok trust =>
    simp only
    cases Pool.Slots.start? (Connections.limitsOf config) with
    | none => rfl
    | some slots => cases Connections.buildClient trust <;> rfl

variable {f g : SettingsFile} {b : Adapter} {logs logs' : List Log.Event}

/-- Settings that agree but for the switch give one adapter but for the switch, and log the same on
the way. -/
theorem ofSettings_alike (files : Files)
    (alike : Alike diagnosticLogsKey f.properties g.properties) :
    ofSettings files g
      = ((ofSettings files f).1.map (·.withDiagnostics (wantsDiagnostics g.properties)),
          (ofSettings files f).2) := by
  have described : g.configuration = f.configuration.map fun r =>
      (r.1.withDiagnosticLogs (wantsDiagnostics g.properties), r.2) := ofProperties_alike alike
  unfold ofSettings
  rw [described]
  cases f.configuration with
  | error e => rfl
  | ok r =>
    obtain ⟨config, warnings⟩ := r
    simp only [Except.map, start_withDiagnostics]
    cases start files config <;> rfl

theorem config_of_start {files : Files} {config : Configuration}
    (h : start files config = .ok (a, logs)) : a.config = config := by
  unfold start at h
  split at h
  · cases h
  · unfold startWith at h
    split at h
    · cases h
    · cases h
      rfl

/-- The switch of an adapter is as its settings have it. -/
theorem diagnosticLogs_of_ofSettings {files : Files} (h : ofSettings files f = (.ok a, logs)) :
    a.config.diagnosticLogs = wantsDiagnostics f.properties := by
  unfold ofSettings at h
  split at h
  · cases h
  · rename_i config warnings described
    have switch := diagnosticLogs_of_ofProperties described
    split at h
    · cases h
    · rename_i adapter started running
      cases h
      rw [config_of_start running, switch]

/-- The log of a run. -/
def runLog (a : Adapter) (steps : List Step) : List Log.Event := a.log (a.run steps).2.signals

/-- Adapters whose settings agree on all but the switch of the diagnostics give the same answers and
show and end the same in every step, requests among it, and what is logged when they are built is
the same. So are their logs, up to the events of the diagnostics' stream, which are all that a log
without diagnostics lacks; those of the correlations' stream are all there. The diagnostics are left
out when the property is set, and to the word `false`. -/
theorem switch_silences_diagnostics {files : Files}
    (alike : Alike diagnosticLogsKey f.properties g.properties)
    (built : ofSettings files f = (.ok a, logs)) (built' : ofSettings files g = (.ok b, logs'))
    (steps : List Step) :
    (b.transcript steps = a.transcript steps ∧ (b.run steps).2 = (a.run steps).2 ∧ logs' = logs) ∧
    (b.config.diagnosticLogs = a.config.diagnosticLogs → b.runLog steps = a.runLog steps) ∧
    (a.config.diagnosticLogs = true → b.config.diagnosticLogs = false →
      b.runLog steps = (a.runLog steps).filter (!isDiagnostic ·)) ∧
    ((b.runLog steps).filter isCorrelation
        = ((a.run steps).2.signals.filterMap correlationOf?).map Correlation.event ∧
      (a.runLog steps).filter isCorrelation
        = ((a.run steps).2.signals.filterMap correlationOf?).map Correlation.event) ∧
    (a.config.diagnosticLogs = false ↔
      ∃ raw, f.properties.values.get? diagnosticLogsKey = some raw ∧
        Text.isBlank raw = false ∧ Spelt "false".toList (Text.trim raw).toList) := by
  have same : b = a.withDiagnostics (wantsDiagnostics g.properties) ∧ logs' = logs := by
    rw [ofSettings_alike files alike, built] at built'
    cases built'
    exact ⟨rfl, rfl⟩
  have shown : (b.run steps).2 = (a.run steps).2 := by
    rw [same.1, run_withDiagnostics]
    rfl
  have plain := plain_run a steps
  -- both logs are made of the same signals, so only what the log does with them is left
  refine ⟨⟨?_, shown, same.2⟩, ?_, ?_, ⟨?_, correlations_in_events plain _⟩, ?_⟩
  · rw [same.1, transcript_withDiagnostics]
  · intro switch
    rw [runLog, runLog, log, log, shown, switch]
  · intro on off
    rw [runLog, runLog, log, log, shown, on, off]
    exact events_without_diagnostics plain
  · rw [runLog, shown]
    exact correlations_in_events plain _
  · rw [diagnosticLogs_of_ofSettings built]
    exact wantsDiagnostics_eq_false

/-! ## A sample -/

/-- Settings that say nothing about diagnostics. -/
def loud : SettingsFile where
  logging := Settings.Logging.standard
  properties := (Properties.empty.insert Settings.Configuration.enabledKey "true").insert
    Settings.Configuration.baseUrlKey "http://[::1]/hub"

def quiet : SettingsFile :=
  { loud with properties := loud.properties.insert diagnosticLogsKey " False " }

/-- A publish that the hub accepts. -/
def acceptedPublish : List Step :=
  [.dispatch Sample.payload (Sample.context Sample.sessionRevoked) ⟨"fresh"⟩, .begin 0,
    .finish 0 (.answered 202 [])]

theorem loud_alike_quiet : Alike diagnosticLogsKey loud.properties quiet.properties := by
  intro k other
  show (loud.properties.insert diagnosticLogsKey " False ").get? k = _
  unfold Properties.get? Properties.insert
  rw [Keyed.get?_insert, if_neg other]

theorem exists_of_any {r : Except AssemblyFault Adapter × List Log.Event} {p : Adapter → Bool}
    (found : r.1.toOption.any p = true) : ∃ a, r = (.ok a, r.2) ∧ p a = true := by
  obtain ⟨result, logs⟩ := r
  cases result with
  | error e => cases found
  | ok a => exact ⟨a, rfl, found⟩

/-- Of the log of a publish, the two diagnostics are missing and no more. -/
theorem switch_silences_diagnostics_sample : ∃ a b logs,
    ofSettings Files.empty loud = (.ok a, logs) ∧ ofSettings Files.empty quiet = (.ok b, logs) ∧
    b.transcript acceptedPublish = a.transcript acceptedPublish ∧
    b.runLog acceptedPublish = (a.runLog acceptedPublish).filter (!isDiagnostic ·) ∧
    (a.runLog acceptedPublish).countP isDiagnostic = 2 := by
  obtain ⟨a, built, counted⟩ := exists_of_any (r := ofSettings Files.empty loud)
    (p := fun a => a.config.diagnosticLogs && (a.runLog acceptedPublish).countP isDiagnostic == 2)
    (by decide +kernel)
  obtain ⟨b, built', off⟩ := exists_of_any (r := ofSettings Files.empty quiet)
    (p := fun b => !b.config.diagnosticLogs) (by decide +kernel)
  obtain ⟨on, two⟩ := Bool.and_eq_true_iff.1 counted
  obtain ⟨⟨same, -, logged⟩, -, silenced, -, -⟩ :=
    switch_silences_diagnostics loud_alike_quiet built built' acceptedPublish
  exact ⟨a, b, _, built, logged ▸ built', same, silenced on (Bool.not_eq_eq_eq_not.1 off),
    beq_iff_eq.1 two⟩

end HubPublisher.Adapter
