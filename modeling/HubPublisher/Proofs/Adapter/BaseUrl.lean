import HubPublisher.Proofs.Adapter.Diagnostics
import HubPublisher.Proofs.Adapter.FirstCall
import HubPublisher.Proofs.Settings.Usable

/-!
Where the URLs of an adapter's requests come from.

While nobody calls, an adapter works on the tasks that it has: no other task comes up, and what the
hub sees are their requests (`Carried`). So over a run every request that the hub sees is that of a
task which a call submitted (`requests_of_run`), and such a task is made for the configured base URL
(`Submission.Ruled`). A configuration that is usable has one if it is enabled, so that no call ends
for want of it.
-/
namespace HubPublisher.Adapter

open Event (Context CorrelationId Payload Topic)
open Hub (Connections Operation Request)
open Pool (Notice Ticket)
open Settings (Configuration)
open Telemetry (Signal)

variable {a b c : Adapter} {s s' : List Signal}

/-! ## Between calls -/

/-- The tasks of `b` were those of `a`, perhaps in another phase, and the requests that the hub saw
in between are theirs. -/
structure Carried (a : Adapter) (signals : List Signal) (b : Adapter) : Prop where
  tasks : ∀ t ∈ b.tasks, ∃ t' ∈ a.tasks, t'.asSubmitted = t.asSubmitted
  sent : ∀ r ∈ requests signals, ∃ t ∈ a.tasks, t.request = r

namespace Carried

theorem of_unseen (tasks : ∀ t ∈ b.tasks, ∃ t' ∈ a.tasks, t'.asSubmitted = t.asSubmitted)
    (unseen : requests s = []) : Carried a s b := by
  refine ⟨tasks, fun r seen => ?_⟩
  rw [unseen] at seen
  cases seen

theorem refl (a : Adapter) : Carried a [] a := of_unseen (fun t there => ⟨t, there, rfl⟩) rfl

theorem trans (h : Carried a s b) (h' : Carried b s' c) : Carried a (s ++ s') c := by
  constructor
  · intro t there
    obtain ⟨t', between, same⟩ := h'.tasks t there
    obtain ⟨t'', first, same'⟩ := h.tasks t' between
    exact ⟨t'', first, same'.trans same⟩
  · intro r seen
    rw [requests_append] at seen
    rcases List.mem_append.1 seen with early | late
    · exact h.sent r early
    · obtain ⟨t, between, rfl⟩ := h'.sent r late
      obtain ⟨t', first, same⟩ := h.tasks t between
      have request : t'.asSubmitted.request = t.asSubmitted.request := by rw [same]
      exact ⟨t', first, request⟩

theorem remove (a : Adapter) (t : Ticket) (unseen : requests s = []) : Carried a s (a.remove t) :=
  of_unseen (fun task there => ⟨task, (List.mem_filter.1 there).1, rfl⟩) unseen

theorem setPhase (a : Adapter) (t : Ticket) (phase : Phase) :
    Carried a [] (a.setPhase t phase) := by
  refine of_unseen (fun task there => ?_) rfl
  obtain ⟨before, was, rfl⟩ := List.mem_map.1 there
  refine ⟨before, was, ?_⟩
  split <;> rfl

theorem setSlots (a : Adapter) (slots : Pool.Slots) : Carried a [] (a.setSlots slots) :=
  of_unseen (refl a).tasks rfl

theorem notice (a : Adapter) (n : Notice) :
    Carried a (a.notice n).2.signals (a.notice n).1 := by
  unfold Adapter.notice
  split
  · exact refl a
  · rename_i task _
    split
    · exact setPhase a task.ticket .active
    · exact remove a task.ticket (task.requests_failed _)
    · exact remove a task.ticket task.requests_dropped

theorem notices (a : Adapter) (ns : List Notice) :
    Carried a (a.notices ns).2.signals (a.notices ns).1 := by
  induction ns generalizing a with
  | nil => exact refl a
  | cons n ns ih => exact (notice a n).trans (ih _)

theorem begin (a : Adapter) (t : Ticket) : Carried a (a.begin t).2.signals (a.begin t).1 := by
  unfold Adapter.begin
  split
  · split
    · exact ((setPhase a t .waiting).trans (setSlots _ _)).trans (notices _ _)
    · exact refl a
  · exact refl a

theorem freeSlot (a : Adapter) (t : Ticket) :
    Carried a (a.freeSlot t).2.signals (a.freeSlot t).1 :=
  (setSlots a _).trans (notices _ _)

/-- The task whose request was sent has been there. -/
theorem sends {task : Task} {t : Ticket} (there : task ∈ a.tasks) (x : Hub.Exchange) :
    Carried a (task.seen x ++ (task.ending x).1) (a.remove t) := by
  refine ⟨(remove a t (s := []) rfl).tasks, fun r seen => ?_⟩
  rw [requests_append, task.requests_ending, List.append_nil, Task.seen] at seen
  split at seen
  · exact ⟨task, there, (List.mem_singleton.1 seen).symm⟩
  · cases seen

theorem finish (a : Adapter) (t : Ticket) (x : Hub.Exchange) :
    Carried a (a.finish t x).2.signals (a.finish t x).1 := by
  unfold Adapter.finish
  split
  · rename_i task found
    split
    · exact (sends (mem_of_task? found) x).trans (freeSlot _ t)
    · exact refl a
  · exact refl a

theorem drop (a : Adapter) (t : Ticket) : Carried a (a.drop t).2.signals (a.drop t).1 := by
  unfold Adapter.drop
  split
  · exact refl a
  · rename_i task _
    have ended : Carried a task.dropped.1 (a.remove t) := remove a t task.requests_dropped
    split
    · exact ended
    · exact ended.trans ((setSlots _ _).trans (notices _ _))
    · exact ended.trans (freeSlot _ t)

theorem advance (a : Adapter) (ms : Nat) :
    Carried a (a.advance ms).2.signals (a.advance ms).1 :=
  (setSlots a _).trans (notices _ _)

theorem stop (a : Adapter) : Carried a a.stop.2 a.stop.1 :=
  of_unseen (refl a).tasks (requests_logs _)

end Carried

/-! ## Over a run -/

variable {P : Request → Prop} {config : Configuration} {trust : Trust.Store}

theorem Carried.requests (h : Carried a s b) (before : ∀ t ∈ a.tasks, P t.request) :
    (∀ t ∈ b.tasks, P t.request) ∧ ∀ r ∈ requests s, P r := by
  constructor
  · intro t there
    obtain ⟨t', first, same⟩ := h.tasks t there
    have request : t'.asSubmitted.request = t.asSubmitted.request := by rw [same]
    exact request ▸ before t' first
  · intro r seen
    obtain ⟨t, first, rfl⟩ := h.sent r seen
    exact before t first

/-- A call shows no request, and the task that comes up is the one that it answers with. -/
theorem Submission.Fair.requests {call : Submission} {purpose : Purpose} {operation : Operation}
    (h : call.Fair a purpose operation) (before : ∀ t ∈ a.tasks, P t.request)
    (called : ∀ t, call.result = .ok t → P t.request) :
    (∀ t ∈ call.adapter.tasks, P t.request) ∧ ∀ r ∈ requests call.signals, P r := by
  rw [h.unseen]
  refine ⟨fun t there => ?_, List.forall_mem_nil _⟩
  cases h with
  | refused result quiet tasks => exact before t (tasks ▸ there)
  | submitted result announced tasks =>
    rcases List.mem_append.1 (tasks ▸ there) with old | new
    · exact before t old
    · obtain rfl := List.mem_singleton.1 new
      exact called t result

theorem step_requests (before : ∀ t ∈ a.tasks, P t.request) (step : Step)
    (called : ∀ t, a.answer? step = some (.ok t) → P t.request) :
    (∀ t ∈ (a.step step).1.tasks, P t.request) ∧
      ∀ r ∈ requests (a.step step).2.signals, P r := by
  cases step with
  | dispatch payload context fresh =>
    exact (dispatch_fair a payload context fresh).requests before
      fun t result => called t (congrArg some result)
  | publish payload context fresh =>
    exact (publish_fair a payload context fresh).requests before
      fun t result => called t (congrArg some result)
  | manage eventUri tenant operation correlation fresh =>
    exact (manage_fair a eventUri tenant operation correlation fresh).requests before
      fun t result => called t (congrArg some result)
  | begin t => exact (Carried.begin a t).requests before
  | finish t x => exact (Carried.finish a t x).requests before
  | drop t => exact (Carried.drop a t).requests before
  | advance ms => exact (Carried.advance a ms).requests before
  | stop => exact (Carried.stop a).requests before

/-- Whatever holds of the requests at hand, and of those of the tasks that calls submit on the way,
holds of every request that the hub sees. -/
theorem requests_of_run (before : ∀ t ∈ a.tasks, P t.request) (steps : List Step)
    (called : ∀ entry ∈ a.transcript steps, ∀ t, entry.1 = some (.ok t) → P t.request) :
    ∀ r ∈ requests (a.run steps).2.signals, P r := by
  induction steps generalizing a with
  | nil => exact List.forall_mem_nil _
  | cons step steps ih =>
    obtain ⟨answered, later⟩ := List.forall_mem_cons.1 called
    obtain ⟨after, shown⟩ := step_requests before step answered
    intro r seen
    rcases List.mem_append.1 (requests_append _ _ ▸ seen) with early | late
    · exact shown r early
    · exact ih after later r late

/-- A property of every reachable state's answers is one of all answers of a run. -/
theorem Reachable.transcript {Q : Option (Except AdapterError Task) → Prop}
    (each : ∀ {b}, Reachable config trust b → ∀ step, Q (b.answer? step))
    (h : Reachable config trust a) (steps : List Step) :
    ∀ entry ∈ a.transcript steps, Q entry.1 := by
  induction steps generalizing a with
  | nil => exact List.forall_mem_nil _
  | cons step steps ih => exact List.forall_mem_cons.2 ⟨each h step, ih (h.step step)⟩

/-! ## The configured base URL -/

/-- The URL of a task's request is the configured base URL with the operation and the topic behind
it. -/
def Task.Addressed (config : Configuration) (t : Task) : Prop :=
  ∃ base, config.baseUrl = some base ∧
    Hub.topicUrl t.topic base t.request.operation = .ok t.request.url

/-- No call misses the base URL, and what it submits is for that one. -/
structure Grounded (config : Configuration) (answer : Option (Except AdapterError Task)) :
    Prop where
  based : answer ≠ some (.error (.client .baseUrlNotConfigured))
  addressed : ∀ t, answer = some (.ok t) → t.Addressed config

/-- The base URL of a usable configuration is looked up as it is. -/
theorem configuredBaseUrl_of_usable (usable : config.Usable) :
    configuredBaseUrl config = config.baseUrl := by
  cases given : config.baseUrl with
  | none =>
    refine configuredBaseUrl_eq_none.2 fun text found => ?_
    rw [given] at found
    cases found
  | some url =>
    obtain ⟨present, trimmed⟩ := usable.trimmed url given
    exact configuredBaseUrl_eq_some.2
      ⟨url, given, Text.trim_of_trimmed trimmed present, present⟩

theorem Submission.Ruled.grounded {topic : Topic} {operation : Operation} {purpose : Purpose}
    {request : Url → Request} {call : Submission} (usable : config.Usable)
    (h : call.Ruled config a topic operation purpose request)
    (asked : ∀ url, (request url).operation = operation) (sent : ∀ url, (request url).url = url) :
    Grounded config (some call.result) := by
  cases h with
  | refused result why =>
    rw [result]
    refine ⟨fun unbased => ?_, fun t answered => (by cases answered)⟩
    cases unbased
    -- an enabled adapter has a base URL, and something is left of it when it is trimmed
    cases why with
    | noBaseUrl on blank =>
      obtain ⟨url, given⟩ := usable.baseUrl_iff.2 on
      obtain ⟨present, trimmed⟩ := usable.trimmed url given
      exact present (Text.trim_of_trimmed trimmed present ▸ blank url given)
  | submitted on configured parsed result made =>
    rw [result]
    refine ⟨fun unbased => (by cases unbased), ?_⟩
    rintro _ ⟨⟩
    rw [configuredBaseUrl_of_usable usable] at configured
    refine ⟨_, configured, ?_⟩
    rw [made]
    simp only [asked, sent]
    exact Hub.topicUrl_of_ok parsed topic operation

theorem answer?_grounded (usable : config.Usable) (setUp : SetUp config trust a) (step : Step) :
    Grounded config (a.answer? step) := by
  have silent : Grounded config none :=
    ⟨(Option.some_ne_none _).symm, fun t answered => absurd answered.symm (Option.some_ne_none _)⟩
  have dispatched (payload : Payload) (context : Context) (fresh : CorrelationId) :
      Grounded config (some (a.dispatch payload context fresh).result) :=
    (submit_ruled setUp _ _ _ _).grounded usable (fun _ => rfl) fun _ => rfl
  cases step with
  | dispatch payload context fresh => exact dispatched payload context fresh
  | publish payload context fresh =>
    obtain ⟨logs, same⟩ := publish_eq a payload context fresh
    show Grounded config (some (a.publish payload context fresh).result)
    rw [same]
    exact dispatched payload context fresh
  | manage eventUri tenant operation correlation fresh =>
    exact (submit_ruled setUp _ _ _ _).grounded usable (fun _ => rfl) fun _ => rfl
  | begin t => exact silent
  | finish t x => exact silent
  | drop t => exact silent
  | advance ms => exact silent
  | stop => exact silent

/-- Properties are refused just when they turn the adapter on and name no hub. Every configuration
that they describe, changed or not, is usable; and on an adapter that starts with it no call misses
the base URL, whatever was called before, every request that the hub sees is that of a task which a
call submitted for just this base URL, and no other is ever remembered. -/
theorem base_url_settled_by_settings :
    (∀ (p : Settings.Properties) (e : ClientError), Configuration.ofProperties p = .error e ↔
      e = .baseUrlNotConfigured ∧ Configuration.TurnedOn p ∧ Configuration.NamesNoHub p) ∧
    ∀ config, Configuration.Derived config → config.Usable ∧
      ∀ files a logs, start files config = .ok (a, logs) → ∀ steps,
        (∀ entry ∈ a.transcript steps, Grounded config entry.1) ∧
        (∀ r ∈ requests (a.run steps).2.signals, ∃ entry ∈ a.transcript steps, ∃ t : Task,
          entry.1 = some (.ok t) ∧ t.request = r) ∧
        ∀ url, (a.run steps).1.baseUrl = some url → config.baseUrl = some url := by
  refine ⟨fun p e => Configuration.ofProperties_eq_error, fun config derived => ?_⟩
  have usable := derived.usable
  refine ⟨usable, fun files a logs started steps => ?_⟩
  obtain ⟨trust, startedWith⟩ := exists_startWith started
  have reachable : Reachable config trust a := .start startedWith
  refine ⟨?_, ?_, ?_⟩
  · exact reachable.transcript (fun h step => answer?_grounded usable h.setUp step) steps
  · obtain ⟨c, logs', -, rfl⟩ := eq_of_startWith startedWith
    exact requests_of_run (List.forall_mem_nil _) steps
      fun entry there t answered => ⟨entry, there, t, answered, rfl⟩
  · intro url remembered
    have configured := (reachable.run steps).setUp.baseUrl
    rw [remembered, configuredBaseUrl_of_usable usable] at configured
    rcases configured with forgotten | same
    · cases forgotten
    · exact same.symm

/-- An adapter turned on in capitals, with white space around the base URL. -/
def spacedProperties : Settings.Properties :=
  (Settings.Properties.empty.insert Configuration.enabledKey " TRUE\t").insert
    Configuration.baseUrlKey "\u2003http://[::1]/hub\n"

/-- What they describe, with other times and without a limit that could be met. -/
def spacedConfig : Configuration :=
  ((Configuration.enabledOn "http://[::1]/hub").withTimeouts 1 2 3).withPoolLimits 0 0

theorem spacedConfig_derived : Configuration.Derived spacedConfig := by
  have described : Configuration.ofProperties spacedProperties
      = .ok (.enabledOn "http://[::1]/hub", []) := by decide +kernel
  exact ((Configuration.Derived.described described).withTimeouts (by decide) (by decide)
    (by decide)).withPoolLimits 0 0

/-- The hub sees the one publish, after the client was stopped and was started again. -/
theorem base_url_settled_by_settings_sample : Configuration.Derived spacedConfig ∧
    ∃ a logs, start Files.empty spacedConfig = .ok (a, logs) ∧
      (∀ entry ∈ a.transcript (.stop :: acceptedPublish), Grounded spacedConfig entry.1) ∧
      (requests (a.run (.stop :: acceptedPublish)).2.signals).length = 1 ∧
      ∀ url, (a.run (.stop :: acceptedPublish)).1.baseUrl = some url →
        url = "http://[::1]/hub" := by
  refine ⟨spacedConfig_derived, ?_⟩
  have counted : (start Files.empty spacedConfig).toOption.any (fun started =>
      (requests (started.1.run (.stop :: acceptedPublish)).2.signals).length == 1) = true := by
    decide +kernel
  cases started : start Files.empty spacedConfig with
  | error e =>
    rw [started] at counted
    cases counted
  | ok result =>
    obtain ⟨a, logs⟩ := result
    rw [started] at counted
    obtain ⟨grounded, -, remembered⟩ := (base_url_settled_by_settings.2 spacedConfig
      spacedConfig_derived).2 Files.empty a logs started (.stop :: acceptedPublish)
    refine ⟨a, logs, rfl, grounded, beq_iff_eq.1 counted, fun url found => ?_⟩
    cases remembered url found
    rfl

end HubPublisher.Adapter
