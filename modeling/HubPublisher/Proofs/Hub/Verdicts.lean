import HubPublisher.Proofs.Hub.Subscribers

/-!
What an answer to a request about a topic means.

An answer has one of six meanings (`Means`), told apart by its status, the operation and, where the
status is 200 or 403, the body. The result of a verdict is the one meaning that the answer has
(`result_eq_iff`), and what records say of the request follows from it, so that a caller and a
reader of the records are never told different things (`status_iff_result`).
-/
namespace HubPublisher.Hub

open Event

variable {status : Nat} {body : String} {topic : Topic} {operation : Operation}
  {r : Except AdapterError TopicOutcome}

/-! ## Meanings -/

/-- The status says that the topic already is as the operation wants it. -/
def AlreadySo (status : Nat) (operation : Operation) : Prop :=
  status = 409 ∧ operation = .register ∨ status = 404 ∧ operation = .deregister

theorem isUnchanged_iff : isUnchanged status operation = true ↔ AlreadySo status operation := by
  cases operation <;> simp [isUnchanged, AlreadySo]

theorem AlreadySo.ne_granted (already : AlreadySo status operation) : status ≠ 200 := by
  rcases already with ⟨rfl, -⟩ | ⟨rfl, -⟩ <;> decide

/-- What a request about a topic comes to when it is answered with a status and a body. -/
inductive Means (status : Nat) (body : String) (topic : Topic) (operation : Operation) :
    Except AdapterError TopicOutcome → Prop
  | completed (granted : status = 200) (marked : body = successMarker) :
      Means status body topic operation (.ok .completed)
  | unchanged (already : AlreadySo status operation) :
      Means status body topic operation (.ok (.unchanged status))
  | empty (granted : status = 200) (empty : body = "") :
      Means status body topic operation
        (.error (.server (.emptyHubResponse topic.text operation.name)))
  | unmarked (granted : status = 200) (present : body ≠ "") (unmarked : body ≠ successMarker) :
      Means status body topic operation
        (.error (.server (.invalidHubResponse topic.text operation.name body)))
  | subscribed {count : String} (forbidden : status = 403) (refuses : Refuses body topic)
      (counts : Counts body count) :
      Means status body topic operation (.error (.client (.activeSubscribers topic.text count)))
  /-- Whatever else the hub answers. -/
  | rejected (denied : status ≠ 200) (other : ¬AlreadySo status operation)
      (unexplained : status = 403 → ¬Refuses body topic) :
      Means status body topic operation
        (.error (.server (.hubBackendError topic.text operation.name body status)))

theorem classify_granted (body : String) (topic : Topic) (operation : Operation) :
    classify 200 body topic operation = ⟨.completed, acceptance body topic operation⟩ := if_pos rfl

theorem classify_already (already : AlreadySo status operation) :
    classify status body topic operation = ⟨.failed, .ok (.unchanged status)⟩ := by
  rw [classify, if_neg already.ne_granted, if_pos (isUnchanged_iff.2 already)]

/-- An answer that does not explain itself is the hub's error. -/
theorem classify_rejected (denied : status ≠ 200) (other : ¬AlreadySo status operation)
    (unexplained : status = 403 → ¬Refuses body topic) :
    classify status body topic operation
      = ⟨.cancelled, .error (backendError status body topic operation)⟩ := by
  by_cases forbidden : status = 403
  · subst forbidden
    exact classify_of_not (unexplained rfl)
  · rw [classify, if_neg denied, if_neg (mt isUnchanged_iff.1 other), if_neg forbidden]

/-- Every answer has a meaning, in the order in which status and body are looked at. -/
theorem exists_means (status : Nat) (body : String) (topic : Topic) (operation : Operation) :
    ∃ r, Means status body topic operation r := by
  by_cases granted : status = 200
  · by_cases empty : body = ""
    · exact ⟨_, .empty granted empty⟩
    · by_cases marked : body = successMarker
      · exact ⟨_, .completed granted marked⟩
      · exact ⟨_, .unmarked granted empty marked⟩
  · by_cases already : AlreadySo status operation
    · exact ⟨_, .unchanged already⟩
    · by_cases refused : status = 403 ∧ Refuses body topic
      · exact ⟨_, .subscribed refused.1 refused.2 (counts_form body)⟩
      · exact ⟨_, .rejected granted already fun forbidden refuses => refused ⟨forbidden, refuses⟩⟩

theorem Means.result_eq (h : Means status body topic operation r) :
    (classify status body topic operation).result = r := by
  cases h with
  | completed granted marked =>
    rw [granted, marked, classify_granted]
    rfl
  | unchanged already => rw [classify_already already]
  | empty granted empty =>
    rw [granted, empty, classify_granted]
    rfl
  | unmarked granted present unmarked =>
    rw [granted, classify_granted, acceptance, if_neg present, if_neg unmarked]
  | subscribed forbidden refuses counts => rw [forbidden, classify_of_refuses refuses counts]
  | rejected denied other unexplained =>
    rw [classify_rejected denied other unexplained]
    rfl

/-- The result of a verdict is what the answer means, and an answer means one thing only. -/
theorem result_eq_iff :
    (classify status body topic operation).result = r ↔ Means status body topic operation r := by
  constructor
  · rintro rfl
    obtain ⟨r, means⟩ := exists_means status body topic operation
    rwa [means.result_eq]
  · exact Means.result_eq

/-- What records say of the request: it is done with status 200 whatever the body, it failed where
the topic is left unchanged, and it was given up in all other cases. -/
theorem status_iff_result (status : Nat) (body : String) (topic : Topic) (operation : Operation) :
    let v := classify status body topic operation
    (v.status = .completed ↔ status = 200) ∧
    (v.status = .failed ↔ ∃ s, v.result = .ok (.unchanged s)) ∧
    (v.status = .cancelled ↔ status ≠ 200 ∧ ∀ s, v.result ≠ .ok (.unchanged s)) := by
  obtain ⟨r, means⟩ := exists_means status body topic operation
  simp only [means.result_eq]
  cases means with
  | completed granted marked => simp [granted, classify_granted]
  | unchanged already => simp [classify_already already, already.ne_granted]
  | empty granted empty => simp [granted, classify_granted]
  | unmarked granted present unmarked => simp [granted, classify_granted]
  | subscribed forbidden refuses counts => simp [forbidden, classify_of_refuses refuses counts]
  | rejected denied other unexplained => simp [classify_rejected denied other unexplained, denied]

/-! ## Each result by itself -/

theorem completed_iff : (classify status body topic operation).result = .ok .completed ↔
    status = 200 ∧ body = successMarker := by
  rw [result_eq_iff]
  constructor
  · intro means
    cases means with
    | completed granted marked => exact ⟨granted, marked⟩
  · intro ⟨granted, marked⟩
    exact .completed granted marked

theorem unchanged_iff {s : Nat} :
    (classify status body topic operation).result = .ok (.unchanged s) ↔
      s = status ∧ AlreadySo status operation := by
  rw [result_eq_iff]
  constructor
  · intro means
    cases means with
    | unchanged already => exact ⟨rfl, already⟩
  · rintro ⟨rfl, already⟩
    exact .unchanged already

theorem error_iff : (∃ e, (classify status body topic operation).result = .error e) ↔
    ¬(status = 200 ∧ body = successMarker) ∧ ¬AlreadySo status operation := by
  constructor
  · rintro ⟨e, failed⟩
    refine ⟨fun granted => ?_, fun already => ?_⟩
    · rw [completed_iff.2 granted] at failed
      cases failed
    · rw [unchanged_iff.2 ⟨rfl, already⟩] at failed
      cases failed
  · intro ⟨unmarked, other⟩
    cases found : (classify status body topic operation).result with
    | error e => exact ⟨e, rfl⟩
    | ok outcome =>
      cases outcome with
      | completed => exact absurd (completed_iff.1 found) unmarked
      | unchanged s => exact absurd (unchanged_iff.1 found).2 other

/-- An error that is the caller's comes with status 403 only. -/
theorem client_error_iff {e : ClientError} :
    (classify status body topic operation).result = .error (.client e) ↔
      status = 403 ∧ Refuses body topic ∧
        ∃ count, Counts body count ∧ e = .activeSubscribers topic.text count := by
  rw [result_eq_iff]
  constructor
  · intro means
    cases means with
    | subscribed forbidden refuses counts => exact ⟨forbidden, refuses, _, counts, rfl⟩
  · rintro ⟨forbidden, refuses, count, counts, rfl⟩
    exact .subscribed forbidden refuses counts

theorem server_error_iff {e : ServerError} :
    (classify status body topic operation).result = .error (.server e) ↔
      status = 200 ∧ body = "" ∧ e = .emptyHubResponse topic.text operation.name ∨
      status = 200 ∧ body ≠ "" ∧ body ≠ successMarker ∧
        e = .invalidHubResponse topic.text operation.name body ∨
      status ≠ 200 ∧ ¬AlreadySo status operation ∧ (status = 403 → ¬Refuses body topic) ∧
        e = .hubBackendError topic.text operation.name body status := by
  rw [result_eq_iff]
  constructor
  · intro means
    cases means with
    | empty granted empty => exact .inl ⟨granted, empty, rfl⟩
    | unmarked granted present unmarked => exact .inr (.inl ⟨granted, present, unmarked, rfl⟩)
    | rejected denied other unexplained => exact .inr (.inr ⟨denied, other, unexplained, rfl⟩)
  · rintro (⟨granted, empty, rfl⟩ | ⟨granted, present, unmarked, rfl⟩ |
      ⟨denied, other, unexplained, rfl⟩)
    · exact .empty granted empty
    · exact .unmarked granted present unmarked
    · exact .rejected denied other unexplained

/-- For every answer: which result it has, what records say of it, and which error it is. Each
error is about this topic, those of the hub name the operation as well, and they hold the body as
it stands unless there is none. -/
theorem verdict_classified (status : Nat) (body : String) (topic : Topic) (operation : Operation) :
    let v := classify status body topic operation
    (v.result = .ok .completed ↔ status = 200 ∧ body = successMarker) ∧
    (∀ s, v.result = .ok (.unchanged s) ↔ s = status ∧ AlreadySo status operation) ∧
    ((∃ e, v.result = .error e) ↔
      ¬(status = 200 ∧ body = successMarker) ∧ ¬AlreadySo status operation) ∧
    (v.status = .completed ↔ status = 200) ∧
    (v.status = .failed ↔ ∃ s, v.result = .ok (.unchanged s)) ∧
    (v.status = .cancelled ↔ status ≠ 200 ∧ ∀ s, v.result ≠ .ok (.unchanged s)) ∧
    (∀ e, v.result = .error (.client e) ↔ status = 403 ∧ Refuses body topic ∧
      ∃ count, Counts body count ∧ e = .activeSubscribers topic.text count) ∧
    ∀ e, v.result = .error (.server e) ↔
      status = 200 ∧ body = "" ∧ e = .emptyHubResponse topic.text operation.name ∨
      status = 200 ∧ body ≠ "" ∧ body ≠ successMarker ∧
        e = .invalidHubResponse topic.text operation.name body ∨
      status ≠ 200 ∧ ¬AlreadySo status operation ∧ (status = 403 → ¬Refuses body topic) ∧
        e = .hubBackendError topic.text operation.name body status := by
  obtain ⟨completed, failed, cancelled⟩ := status_iff_result status body topic operation
  exact ⟨completed_iff, fun s => unchanged_iff, error_iff, completed, failed, cancelled,
    fun e => client_error_iff, fun e => server_error_iff⟩

end HubPublisher.Hub
