import HubPublisher.Proofs.Adapter.Outcome
import HubPublisher.Proofs.Adapter.Slots

/-!
Requests whose task was dropped.

What a dropped task leaves behind depends on how far it had come. Once it has begun, the request is
recorded as cancelled, be it that it waited for a slot or that it was on its way. One that was
dropped before it began leaves no record at all. Either way nothing else is recorded about the
request in the whole run, and its slot is free again or with whoever waited for it.
-/
namespace HubPublisher.Adapter

open Settings (Configuration)
open Telemetry (Correlation Signal correlationOf?)

variable {a : Adapter} {config : Configuration} {trust : Trust.Store} {logs : List Log.Event}

/-! ## Records -/

/-- The record of a request that was cancelled. -/
def Task.cancellation (t : Task) : Correlation where
  id := t.request.correlation
  method := Telemetry.postMethod
  url := t.request.url.write
  status := .cancelled
  responseCode := none
  phrase := none
  detail := some ServerError.cancelled.message

/-- The records of a request whose task was dropped when it had come so far. -/
def Task.cancellations (t : Task) : Phase → List Correlation
  | .submitted => []
  | .waiting => [t.cancellation]
  | .active => [t.cancellation]

/-- The records that marks show. -/
def correlations (marks : List Mark) : List Correlation :=
  (marks.flatMap Mark.records).filterMap correlationOf?

theorem correlations_append (first more : List Mark) :
    correlations (first ++ more) = correlations first ++ correlations more := by
  rw [correlations, List.flatMap_append, List.filterMap_append]
  rfl

theorem correlations_submitted (call : Step) (t : Task) :
    correlations [.submitted call t] = [] := by
  cases aim : t.purpose with
  | publish tenant =>
    rw [correlations, List.flatMap_singleton, submitted_records_of_publish aim]
    rfl
  | manage =>
    rw [correlations, List.flatMap_singleton, submitted_records_of_manage aim]
    rfl

theorem correlations_dropped (t : Task) (phase : Phase) :
    correlations [.ended t (.dropped phase)] = t.cancellations phase := by
  cases phase <;> rfl

/-! ## Slots -/

/-- A ticket that is gone has no checkout. -/
theorem Consistent.no_checkout_of_gone (h : Consistent config a) {t : Pool.Ticket}
    (gone : a.standing t = .gone) :
    t ∉ a.connections.slots.waiting.map (·.ticket) ∧
      t ∉ a.connections.slots.granted.map (·.ticket) := by
  have absent : a.phase? t = none := by
    unfold standing at gone
    cases found : a.task? t with
    | none => rw [phase?, found, Option.map_none]
    | some task =>
      rw [found] at gone
      cases gone
  rw [← h.matched.waits_iff, ← h.matched.active_iff, absent]
  simp

/-- Every slot is free unless an active task holds it. -/
theorem Consistent.available_add_active (h : Consistent config a) :
    a.connections.slots.available + a.active.length = config.maxConnections := by
  have held := h.active_perm.length_eq
  rw [List.length_map, List.length_map] at held
  rw [held, Pool.Slots.available, h.slots.total_slots, h.limits]
  rfl

/-! ## Runs -/

/-- Of an adapter that was started and any steps after that: a submitted request whose task was
dropped has one record that says so if the task had begun and none if it had not, and no other. It
holds no slot, and awaits none. -/
theorem dropped_request_recorded (started : startWith config trust = .ok (a, logs))
    (steps : List Step) {call : Step} {t : Task} {phase : Phase}
    (submitted : Mark.submitted call t ∈ a.history steps)
    (dropped : Mark.ended t (.dropped phase) ∈ a.history steps) :
    correlations (about t.ticket (a.history steps)) = t.cancellations phase ∧
    (t.ticket ∉ (a.run steps).1.connections.slots.waiting.map (·.ticket) ∧
      t.ticket ∉ (a.run steps).1.connections.slots.granted.map (·.ticket)) ∧
    (a.run steps).1.connections.slots.available + (a.run steps).1.active.length
      = config.maxConnections := by
  obtain ⟨sound, unborn⟩ := startWith_unborn started
  have story := (run_told sound steps).story t.ticket
  rw [unborn t.ticket] at story
  have here {m : Mark} (member : m ∈ a.history steps) (named : m.task = t) :
      m ∈ about t.ticket (a.history steps) :=
    List.mem_filter.2 ⟨member, by rw [named, beq_self_eq_true]⟩
  have ended := here dropped rfl
  have consistent := (Consistent.start started).run (.start started) steps
  rcases (story_of_submitted story (here submitted rfl)).2 with
    ⟨marks, -⟩ | ⟨sent, e, marks, seen, gone⟩
  · rw [marks] at ended
    cases List.mem_singleton.1 ended
  · -- the end that the story tells is the drop, and it tells of no other record
    have last : e = .dropped phase := by
      rw [marks] at ended
      rcases seen with rfl | rfl <;> simp at ended <;> exact ended.symm
    subst last
    have quiet : correlations sent = [] := by
      rcases seen with rfl | rfl <;> rfl
    refine ⟨?_, consistent.no_checkout_of_gone gone, consistent.available_add_active⟩
    calc correlations (about t.ticket (a.history steps))
        = correlations ([.submitted call t] ++ (sent ++ [.ended t (.dropped phase)])) := by
          rw [marks, List.singleton_append]
      _ = correlations [.submitted call t]
            ++ (correlations sent ++ correlations [.ended t (.dropped phase)]) := by
          rw [correlations_append, correlations_append]
      _ = t.cancellations phase := by
          rw [correlations_submitted, quiet, correlations_dropped]
          rfl

/-- A request whose task is dropped before it begins is submitted and ends, and no record tells. -/
theorem unbegun_request_unrecorded :
    (sampleStart.history [sampleCall, .drop 0]).length = 2 ∧
    (sampleStart.run [sampleCall, .drop 0]).1.tasks = [] ∧
    correlations (about 0 (sampleStart.history [sampleCall, .drop 0])) = [] := by
  refine ⟨by decide +kernel, List.isEmpty_iff.1 (by decide +kernel), by decide +kernel⟩

end HubPublisher.Adapter
