import HubPublisher.Adapter.Assembly
import HubPublisher.Proofs.Adapter.History
import HubPublisher.Proofs.Adapter.Setup
import HubPublisher.Proofs.Hub.TopicUrl
import HubPublisher.Sample

/-!
When a call is refused, and what a refused call leaves behind.

A publish and a request about a topic are refused for the same reasons, and all of these are in the
configuration (`Refuses`): the adapter is disabled, or it has no base URL, or it has one that is no
URL. What was called before, and whether the client runs, has no say in it. A refused call may
remember the base URL and log that it did; else the adapter is as it was (`refused_alike`).
-/
namespace HubPublisher.Adapter

open Event (Context CorrelationId Payload Topic)
open Hub (Connections Operation Request)
open Settings (Configuration)
open Telemetry (Signal)

/-! ## Reasons -/

/-- Why calls are refused under a configuration. -/
inductive Refuses (config : Configuration) : AdapterError → Prop
  | disabled (off : config.enabled = false) : Refuses config (.client .adapterDisabled)
  /-- There is no base URL, or nothing is left of it when it is trimmed. -/
  | noBaseUrl (on : config.enabled = true)
      (blank : ∀ text, config.baseUrl = some text → Text.trim text = "") :
      Refuses config (.client .baseUrlNotConfigured)
  | badBaseUrl (on : config.enabled = true) {text : String} (given : config.baseUrl = some text)
      (nonempty : Text.trim text ≠ "") {e : Url.UrlError}
      (unread : Url.parse (Text.trim text) = .error e) :
      Refuses config (.server (.invalidBaseUrl (Text.trim text) e))

variable {config : Configuration} {trust : Trust.Store}

/-- There is one reason at most. -/
theorem Refuses.unique {e e' : AdapterError} (h : Refuses config e) (h' : Refuses config e') :
    e = e' := by
  cases h with
  | disabled off =>
    cases h' with
    | disabled => rfl
    | noBaseUrl on => simp [off] at on
    | badBaseUrl on => simp [off] at on
  | noBaseUrl on blank =>
    cases h' with
    | disabled off => simp [off] at on
    | noBaseUrl => rfl
    | badBaseUrl _ given nonempty => exact absurd (blank _ given) nonempty
  | badBaseUrl on given nonempty unread =>
    cases h' with
    | disabled off => simp [off] at on
    | noBaseUrl _ blank => exact absurd (blank _ given) nonempty
    | badBaseUrl _ given' _ unread' =>
      cases given.symm.trans given'
      cases unread.symm.trans unread'
      rfl

/-- An enabled adapter whose base URL is one refuses nothing. -/
theorem Refuses.elim {e : AdapterError} {base : String} {u : Url} (h : Refuses config e)
    (on : config.enabled = true) (configured : configuredBaseUrl config = some base)
    (parsed : Url.parse base = .ok u) : False := by
  obtain ⟨text, given, rfl, nonempty⟩ := configuredBaseUrl_eq_some.1 configured
  cases h with
  | disabled off => simp [off] at on
  | noBaseUrl _ blank => exact nonempty (blank text given)
  | badBaseUrl _ given' _ unread =>
    cases given.symm.trans given'
    cases parsed.symm.trans unread

/-! ## What comes of a submission -/

/-- A call left the adapter as it was, but for the base URL, and showed nothing beside the log. -/
structure Submission.Traceless (a : Adapter) (s : Submission) : Prop where
  quiet : records s.signals = []
  tasks : s.adapter.tasks = a.tasks
  next : s.adapter.next = a.next
  /-- The slots, whoever has or awaits one, and whether the client runs. -/
  connections : s.adapter.connections = a.connections

/-- What comes of submitting a task on an adapter with this configuration: the configuration refuses
it, or the task is made for the base URL with the operation and the topic behind it. -/
inductive Submission.Ruled (config : Configuration) (a : Adapter) (topic : Topic)
    (operation : Operation) (purpose : Purpose) (request : Url → Request) (s : Submission) : Prop
  | refused {e : AdapterError} (result : s.result = .error e) (why : Refuses config e)
      (traceless : s.Traceless a)
  | submitted {base : String} {u : Url} {running : Bool} {task : Task}
      (on : config.enabled = true) (configured : configuredBaseUrl config = some base)
      (parsed : Url.parse base = .ok u) (result : s.result = .ok task)
      (made : task = ⟨a.next, topic, purpose,
        request (u.withPairs (Hub.topicPairs topic operation)), .submitted⟩)
      (adapter : s.adapter = { a with
        baseUrl := some base
        connections := { a.connections with running := running }
        tasks := a.tasks ++ [task]
        next := a.next + 1 })

variable {a b : Adapter}

/-- The base URL that is found is the configured one, whether it was remembered or not. -/
theorem resolve_of_setUp (h : SetUp config trust a) :
    ∃ signals, a.resolve = ({ a with baseUrl := configuredBaseUrl config }, signals,
      configuredBaseUrl config) ∧ records signals = [] := by
  have as_is : ∀ base, a.baseUrl = base → { a with baseUrl := base } = a := by
    rintro base rfl
    rfl
  obtain ⟨rfl, -, -, base⟩ := h
  unfold resolve
  -- either the configuration is asked now, or it was asked before and gave the same
  rcases base with forgotten | remembered
  · cases configured : configuredBaseUrl a.config with
    | none => exact ⟨[], by rw [forgotten, as_is none forgotten], rfl⟩
    | some url => exact ⟨_, by rw [forgotten], rfl⟩
  · rw [as_is _ remembered, remembered]
    cases configured : configuredBaseUrl a.config with
    | none => exact ⟨[], rfl, rfl⟩
    | some url => exact ⟨[], rfl, rfl⟩

theorem submit_ruled (h : SetUp config trust a) (topic : Topic) (operation : Operation)
    (purpose : Purpose) (request : Url → Request) :
    (a.submit topic operation purpose request).Ruled config a topic operation purpose request := by
  obtain ⟨signals, resolved, quiet⟩ := resolve_of_setUp h
  unfold submit
  rw [h.config_eq]
  cases on : config.enabled with
  | false => exact .refused rfl (.disabled on) ⟨rfl, rfl, rfl, rfl⟩
  | true =>
    -- the checks come in the order of the reasons, and the client is started after the last one
    simp only [Bool.not_true, Bool.false_eq_true, if_false, resolved]
    cases configured : configuredBaseUrl config with
    | none =>
      have blank := configuredBaseUrl_eq_none.1 configured
      exact .refused rfl (.noBaseUrl on blank) ⟨quiet, rfl, rfl, rfl⟩
    | some base =>
      cases parsed : Url.parse base with
      | error e =>
        obtain ⟨text, given, rfl, nonempty⟩ := configuredBaseUrl_eq_some.1 configured
        simp only [Hub.topicUrl_of_error parsed]
        exact .refused rfl (.badBaseUrl on given nonempty parsed) ⟨quiet, rfl, rfl, rfl⟩
      | ok u =>
        obtain ⟨logs, running, ensured⟩ := Connections.ensureRunning_eq h.buildable
        simp only [Hub.topicUrl_of_ok parsed, ensured]
        exact .submitted on configured parsed rfl rfl rfl

/-! ## Calls -/

/-- A call is refused just as the configuration says, and if it is, it leaves no trace. -/
structure Submission.Lawful (config : Configuration) (a : Adapter) (s : Submission) : Prop where
  refused_iff : ∀ e, s.result = .error e ↔ Refuses config e
  traceless : ∀ e, s.result = .error e → s.Traceless a

/-- What is logged beside is no trace. -/
theorem Submission.Lawful.log {s : Submission} (h : s.Lawful config a) (logs : List Log.Event) :
    ({ s with signals := s.signals ++ logs.map .log } : Submission).Lawful config a := by
  refine ⟨h.refused_iff, ?_⟩
  intro e failed
  obtain ⟨quiet, tasks, next, connections⟩ := h.traceless e failed
  refine ⟨?_, tasks, next, connections⟩
  rw [records_append, quiet, records_logs]
  rfl

end HubPublisher.Adapter
