import HubPublisher.Proofs.Adapter.History
import HubPublisher.Sample

/-!
What the records tell of a request that ran to its end: one correlation, and for a publish two
diagnostics.

The marks about the request are one for its submission and one for its end, and what each of them
shows is read off the task. So it does not matter how many other requests were on their way at the
time, nor in which order their steps came.
-/
namespace HubPublisher.Adapter

open Hub (Reply RequestStatus)
open Telemetry (Correlation Signal correlationOf? diagnosticOf?)

/-- The answer that an ending brought. -/
def Ending.reply? : Ending → Option Reply
  | replied r => some r
  | _ => none

/-- Whether a request ran to its end: it was answered, or there was no slot or no answer. -/
def Ending.ranThrough : Ending → Bool
  | dropped _ => false
  | _ => true

/-- How a request ended, as its records have to tell it. -/
def Task.statusAfter (t : Task) : Ending → RequestStatus
  | .dropped _ => .cancelled
  | .unreplied _ => .failed
  | .replied r =>
    match t.purpose with
    | .publish _ => .completed
    | .manage =>
      if r.status = 200 then .completed
      else if t.request.operation = .register ∧ r.status = 409 ∨
          t.request.operation = .deregister ∧ r.status = 404 then .failed
      else .cancelled

/-- What the correlation of a request that ran to its end has to say. -/
structure Task.Correlated (t : Task) (e : Ending) (k : Correlation) : Prop where
  id : k.id = t.request.correlation
  header : t.request.headers.lookup "activityid" = some k.id.text
  url : k.url = t.request.url.write
  status : k.status = t.statusAfter e
  responseCode : k.responseCode = e.reply?.map (·.status)
  detail : k.detail.isSome ↔ e.reply? = none

/-- Whether an ending is the success of a publish. -/
def Ending.IsDelivery (e : Ending) : Prop :=
  ∃ r, e.reply? = some r ∧ r.status ∈ [200, 201, 202, 204]

/-- What has to be recorded about a request that ran to its end. -/
structure Task.Recorded (t : Task) (e : Ending) (shown : List Signal) : Prop where
  correlation : ∃ k, shown.filterMap correlationOf? = [k] ∧ t.Correlated e k
  /-- The first record of a publish says that it begins, the last how it went. -/
  published : ∀ tenant, t.purpose = .publish tenant → ∃ d₁ d₂,
    shown.filterMap diagnosticOf? = [d₁, d₂] ∧ shown.head? = some (.diagnostic d₁) ∧
    d₁.message = Task.publishingMessage ∧ d₁.result = "success" ∧
    (d₂.result = "success" ↔ e.IsDelivery)
  managed : t.purpose = .manage → shown.filterMap diagnosticOf? = []

/-- The status that a verdict records depends on nothing but the hub's status and the operation. -/
theorem status_classify (status : Nat) (body : String) (topic : Event.Topic)
    (operation : Hub.Operation) :
    (Hub.classify status body topic operation).status
      = if status = 200 then .completed
        else if operation = .register ∧ status = 409 ∨ operation = .deregister ∧ status = 404 then
          .failed
        else .cancelled := by
  have unchanged : Hub.isUnchanged status operation = true
      ↔ operation = .register ∧ status = 409 ∨ operation = .deregister ∧ status = 404 := by
    cases operation <;> simp [Hub.isUnchanged]
  rw [Hub.classify]
  split
  · rfl
  · split
    · rename_i same
      rw [if_pos (unchanged.1 same)]
    · rename_i changed
      rw [if_neg fun h => changed (unchanged.2 h)]
      split
      · split <;> rfl
      · rfl

theorem isPublished_iff (status : Nat) :
    Hub.isPublished status = true ↔ status ∈ [200, 201, 202, 204] := by
  rw [Hub.isPublished, Hub.publishedStatuses, List.contains_iff_mem]

/-! ## What marks show -/

theorem Task.responded_correlated {t : Task} {r : Reply} {status : RequestStatus}
    (same : status = t.statusAfter (.replied r)) :
    ∃ k, t.responded status r = .correlation k ∧ t.Correlated (.replied r) k :=
  ⟨_, rfl, rfl, rfl, rfl, same, rfl, by simp [Ending.reply?]⟩

theorem Task.unanswered_correlated (t : Task) (e : ServerError) :
    ∃ k, t.unanswered .failed e = .correlation k ∧ t.Correlated (.unreplied e) k :=
  ⟨_, rfl, rfl, rfl, rfl, rfl, rfl, by simp [Ending.reply?]⟩

theorem Task.diagnostic_result (t : Task) (tenant : String) (succeeded : Bool) (message : String) :
    ∃ d, t.diagnostic tenant succeeded message = .diagnostic d ∧ d.message = message ∧
      (d.result = "success" ↔ succeeded = true) := by
  refine ⟨_, rfl, rfl, ?_⟩
  cases succeeded <;> simp [Telemetry.Diagnostic.result]

theorem submitted_records_of_manage {t : Task} (aim : t.purpose = .manage) (call : Step) :
    (Mark.submitted call t).records = [] := by
  rw [Mark.records, Task.announcement, aim]
  rfl

theorem submitted_records_of_publish {t : Task} {tenant : String}
    (aim : t.purpose = .publish tenant) (call : Step) :
    (Mark.submitted call t).records = [t.diagnostic tenant true Task.publishingMessage] := by
  rw [Mark.records, Task.announcement, aim]
  rfl

theorem ended_records_of_manage {t : Task} (aim : t.purpose = .manage) {e : Ending}
    (through : e.ranThrough = true) :
    ∃ k, (Mark.ended t e).records = [.correlation k] ∧ t.Correlated e k := by
  cases e with
  | dropped phase => cases through
  | unreplied fault =>
    obtain ⟨k, shown, told⟩ := t.unanswered_correlated fault
    refine ⟨k, ?_, told⟩
    rw [← shown, Mark.records, Task.failed, aim]
    rfl
  | replied r =>
    have status : (Hub.classify r.status r.body t.topic t.request.operation).status
        = t.statusAfter (.replied r) := by
      rw [status_classify, Task.statusAfter, aim]
    obtain ⟨k, shown, told⟩ := Task.responded_correlated status
    refine ⟨k, ?_, told⟩
    rw [← shown, Mark.records, Task.answered, aim]
    rfl

theorem ended_records_of_publish {t : Task} {tenant : String} (aim : t.purpose = .publish tenant)
    {e : Ending} (through : e.ranThrough = true) :
    ∃ k d, (Mark.ended t e).records = [.correlation k, .diagnostic d] ∧ t.Correlated e k ∧
      (d.result = "success" ↔ e.IsDelivery) := by
  cases e with
  | dropped phase => cases through
  | unreplied fault =>
    obtain ⟨k, shown, told⟩ := t.unanswered_correlated fault
    obtain ⟨d, closing, -, result⟩ := t.diagnostic_result tenant false Task.publishFailedMessage
    refine ⟨k, d, ?_, told, ?_⟩
    · rw [← shown, ← closing, Mark.records, Task.failed, aim]
      rfl
    · rw [result]
      simp [Ending.IsDelivery, Ending.reply?]
  | replied r =>
    have status : RequestStatus.completed = t.statusAfter (.replied r) := by
      rw [Task.statusAfter, aim]
    obtain ⟨k, shown, told⟩ := Task.responded_correlated status
    have delivery : (Ending.replied r).IsDelivery ↔ Hub.isPublished r.status = true := by
      simp [Ending.IsDelivery, Ending.reply?, isPublished_iff]
    by_cases done : Hub.isPublished r.status = true
    · obtain ⟨d, closing, -, result⟩ := t.diagnostic_result tenant true Task.publishedMessage
      refine ⟨k, d, ?_, told, by rw [result, delivery, done]⟩
      rw [← shown, ← closing, Mark.records, Task.answered, aim]
      simp only [done, if_true]
      rfl
    · obtain ⟨d, closing, -, result⟩ := t.diagnostic_result tenant false Task.publishFailedMessage
      refine ⟨k, d, ?_, told, ?_⟩
      · rw [← shown, ← closing, Mark.records, Task.answered, aim]
        simp only [done]
        rfl
      · rw [result, delivery]
        simp [done]

/-- The marks of a request that ran to its end show what has to be recorded about it. -/
theorem recorded_of_marks (call : Step) (t : Task) {sent : List Mark}
    (seen : sent = [] ∨ sent = [.sent t]) {e : Ending} (through : e.ranThrough = true) :
    t.Recorded e ((Mark.submitted call t :: (sent ++ [.ended t e])).flatMap Mark.records) := by
  have quiet : (sent.flatMap Mark.records).filterMap correlationOf? = [] ∧
      (sent.flatMap Mark.records).filterMap diagnosticOf? = [] := by
    rcases seen with rfl | rfl <;> exact ⟨rfl, rfl⟩
  rw [List.flatMap_cons, List.flatMap_append, List.flatMap_singleton]
  cases aim : t.purpose with
  | manage =>
    obtain ⟨k, shown, told⟩ := ended_records_of_manage aim through
    rw [submitted_records_of_manage aim, shown, List.nil_append]
    refine ⟨⟨k, ?_, told⟩, fun tenant publish => ?_, fun _ => ?_⟩
    · rw [List.filterMap_append, quiet.1]
      rfl
    · rw [aim] at publish
      cases publish
    · rw [List.filterMap_append, quiet.2]
      rfl
  | publish tenant =>
    obtain ⟨k, d₂, shown, told, closing⟩ := ended_records_of_publish aim through
    obtain ⟨d₁, opening, message, result⟩ := t.diagnostic_result tenant true Task.publishingMessage
    rw [submitted_records_of_publish aim, shown, opening]
    refine ⟨⟨k, ?_, told⟩, fun _ _ => ⟨d₁, d₂, ?_, rfl, message, result.2 rfl, closing⟩,
      fun manage => ?_⟩
    · rw [List.filterMap_append, List.filterMap_append, quiet.1]
      rfl
    · rw [List.filterMap_append, List.filterMap_append, quiet.2]
      rfl
    · rw [aim] at manage
      cases manage

/-! ## Runs -/

/-- The marks about a submitted request are its submission, and if it has ended its end after it:
then the ticket is gone, and else the request is in flight. -/
theorem story_of_submitted {marks : List Mark} {s : Standing} {call : Step} {t : Task}
    (story : Story .unborn marks s) (member : Mark.submitted call t ∈ marks) :
    call.Submits t ∧
      (marks = [.submitted call t] ∧ s = .inFlight t ∨
        ∃ sent e, marks = .submitted call t :: (sent ++ [.ended t e]) ∧
          (sent = [] ∨ sent = [.sent t]) ∧ s = .gone) := by
  cases story with
  | still => cases member
  | submit asked more =>
    cases more with
    | still =>
      cases List.mem_singleton.1 member
      exact ⟨asked, .inl ⟨rfl, rfl⟩⟩
    | finish seen e =>
      rcases List.mem_cons.1 member with same | late
      · cases same
        exact ⟨asked, .inr ⟨_, e, rfl, seen, rfl⟩⟩
      · rcases seen with rfl | rfl <;> simp at late

/-- Of an adapter that was started and any steps after that: what is shown beside the log is what
the marks of its history show, in their order. And of every request that a call submitted, the
marks about its ticket are its submission alone, and it is in flight; or its submission and its
end, and it is gone. If it ran to its end, one correlation was shown for it, and two diagnostics for
a publish. -/
theorem one_outcome_per_request {config : Settings.Configuration} {trust : Trust.Store}
    {a : Adapter} {logs : List Log.Event} (started : startWith config trust = .ok (a, logs))
    (steps : List Step) :
    records (a.run steps).2.signals = (a.history steps).flatMap Mark.records ∧
    ∀ call t, Mark.submitted call t ∈ a.history steps →
      call.Submits t ∧
      (about t.ticket (a.history steps) = [.submitted call t] ∧
          (a.run steps).1.standing t.ticket = .inFlight t ∨
        ∃ sent e, about t.ticket (a.history steps) = .submitted call t :: (sent ++ [.ended t e]) ∧
          (sent = [] ∨ sent = [.sent t]) ∧ (a.run steps).1.standing t.ticket = .gone ∧
          (e.ranThrough = true →
            t.Recorded e ((about t.ticket (a.history steps)).flatMap Mark.records))) := by
  obtain ⟨sound, unborn⟩ := startWith_unborn started
  have told := run_told sound steps
  refine ⟨told.records, fun call t member => ?_⟩
  have story := told.story t.ticket
  rw [unborn t.ticket] at story
  have here : Mark.submitted call t ∈ about t.ticket (a.history steps) :=
    List.mem_filter.2 ⟨member, beq_self_eq_true t.ticket⟩
  obtain ⟨asked, waiting | ⟨sent, e, marks, seen, gone⟩⟩ := story_of_submitted story here
  · exact ⟨asked, .inl waiting⟩
  · refine ⟨asked, .inr ⟨sent, e, marks, seen, gone, fun through => ?_⟩⟩
    rw [marks]
    exact recorded_of_marks call t seen through

/-! ## A sample run -/

/-- A hub under an address, with one slot to a route. -/
def sampleConfig : Settings.Configuration :=
  ((Settings.Configuration.enabledOn "http://[::1]:8080/hub?a=b").withPoolLimits 2 1).withTimeouts
    2000 5000 1000

def sampleStart : Adapter where
  config := sampleConfig
  connections := {
    config := sampleConfig
    trust := Trust.Store.platform
    running := true
    slots := Pool.Slots.start (Hub.Connections.limitsOf sampleConfig) }
  baseUrl := none
  tasks := []
  next := 0

theorem sample_started : startWith sampleConfig Trust.Store.platform
    = .ok (sampleStart, [Hub.Connections.started sampleConfig Trust.Store.platform,
        startedEvent sampleConfig]) := rfl

def sampleContext : Event.Context := Sample.context Sample.sessionRevoked

def sampleCall : Step := .dispatch Sample.payload sampleContext ⟨"fresh-1"⟩

def sampleSubmission : Submission :=
  sampleStart.dispatch Sample.payload sampleContext ⟨"fresh-1"⟩

/-- A publish and a registration overlap, and the registration gets the slot first; of a second
publish the answer breaks off. -/
def sampleSteps : List Step := [sampleCall,
  .manage Sample.sessionRevoked Sample.tenant .register (some ⟨"given"⟩) ⟨"fresh-2"⟩,
  .begin 1, .begin 0, .finish 1 (.answered 409 []),
  .publish Sample.caepPayload sampleContext ⟨"fresh-3"⟩, .begin 2,
  .finish 0 (.answered 202 []), .finish 2 .cutShort]

/-- What ends, under which ticket, and with which status. -/
def Mark.end? : Mark → Option (Pool.Ticket × Bool × Option Nat)
  | .ended t e => some (t.ticket, e.ranThrough, e.reply?.map (·.status))
  | _ => none

theorem sample_ends : (sampleStart.history sampleSteps).filterMap Mark.end?
    = [(1, true, some 409), (0, true, some 202), (2, true, none)] := by
  decide +kernel

theorem sample_gone : (sampleStart.run sampleSteps).1.tasks = [] := by
  apply List.isEmpty_iff.1
  decide +kernel

theorem one_outcome_per_request_sample :
    startWith sampleConfig Trust.Store.platform
      = .ok (sampleStart, [Hub.Connections.started sampleConfig Trust.Store.platform,
          startedEvent sampleConfig]) ∧
    records (sampleStart.run sampleSteps).2.signals
      = (sampleStart.history sampleSteps).flatMap Mark.records ∧
    ∃ t e, sampleSubmission.result = .ok t ∧
      e.reply?.map (·.status) = some 202 ∧
      t.Recorded e ((about t.ticket (sampleStart.history sampleSteps)).flatMap Mark.records) := by
  obtain ⟨shown, each⟩ := one_outcome_per_request sample_started sampleSteps
  have accepted : sampleSubmission.result.toOption.map (·.ticket) = some 0 := by
    decide +kernel
  refine ⟨sample_started, shown, ?_⟩
  cases result : sampleSubmission.result with
  | error e =>
    rw [result] at accepted
    cases accepted
  | ok t =>
    rw [result] at accepted
    have ticket : t.ticket = 0 := Option.some.inj accepted
    have member : Mark.submitted sampleCall t ∈ sampleStart.history sampleSteps := by
      refine List.mem_append_left _ ?_
      show Mark.submitted sampleCall t ∈ sampleSubmission.marks sampleCall
      rw [Submission.marks, result]
      exact List.mem_cons_self
    obtain ⟨-, ⟨-, waiting⟩ | ⟨sent, e, marks, -, -, recorded⟩⟩ := each sampleCall t member
    · rw [standing, task?, sample_gone, List.find?_nil] at waiting
      simp only at waiting
      split at waiting <;> cases waiting
    · have ended : Mark.ended t e ∈ sampleStart.history sampleSteps := by
        have about : Mark.ended t e ∈ about t.ticket (sampleStart.history sampleSteps) := by
          rw [marks]
          exact List.mem_cons_of_mem _ (List.mem_append_right sent List.mem_cons_self)
        exact (List.mem_filter.1 about).1
      have listed : (t.ticket, e.ranThrough, e.reply?.map (·.status))
          ∈ (sampleStart.history sampleSteps).filterMap Mark.end? :=
        List.mem_filterMap.2 ⟨_, ended, rfl⟩
      rw [sample_ends, ticket] at listed
      have only : ∀ x ∈ [(1, true, some 409), (0, true, some 202), (2, true, none)],
          x.1 = 0 → x.2 = (true, some 202) := by decide
      obtain ⟨through, status⟩ := Prod.ext_iff.1 (only _ listed rfl)
      exact ⟨t, e, rfl, status, recorded through⟩

end HubPublisher.Adapter
