import HubPublisher.Proofs.Hub.Form

/-!
The refusal because of active subscribers.

A form gives under a key what the last of the body's parts says that says anything under it
(`get?_form_eq_some_iff`). An answer with status 403 is read through two keys of its form and
nothing else of the body (`classify_forbidden`), so which verdict it gets follows from what the last
parts say (`classify_of_refuses`, `classify_of_not`). In a form that was written the last parts are
the last pairs, however many others there are and whatever their texts (`lastSays_write`).
-/
namespace HubPublisher.Hub

open Event Text Url.Form

variable {part : List Char} {body key value : String} {topic other : Topic} {operation : Operation}
  {pairs : List (String × String)} {count : String}

/-! ## What a body says -/

/-- A part says a value under a key when it has one equals sign, with the encoded key before it and
the encoded value behind it. -/
def Says (part : List Char) (key value : String) : Prop :=
  ∃ k v, part = k ++ '=' :: v ∧ '=' ∉ k ∧ '=' ∉ v ∧
    String.ofList (decode k) = key ∧ String.ofList (decode v) = value

/-- The last of a body's parts that says anything under a key says the value. -/
def LastSays (body key value : String) : Prop :=
  ∃ part, IsLast (fun q => ∃ v, Says q key v) (splitBy (· == '&') body.toList) part ∧
    Says part key value

/-- No part of a body says anything under a key. -/
def Silent (body key : String) : Prop :=
  ∀ part ∈ splitBy (· == '&') body.toList, ∀ v, ¬Says part key v

/-- What a part says is the pair that is read from it. -/
theorem says_iff : Says part key value ↔ isPair part = true ∧ readPair part = (key, value) := by
  constructor
  · rintro ⟨k, v, rfl, plain, last, rfl, rfl⟩
    refine ⟨isPair_iff.2 ⟨k, v, rfl, plain, last⟩, ?_⟩
    rw [readPair, splitFirst_append plain]
    rfl
  · rintro ⟨pair, read⟩
    obtain ⟨k, v, rfl, plain, last⟩ := isPair_iff.1 pair
    rw [readPair, splitFirst_append plain] at read
    obtain ⟨rfl, rfl⟩ := Prod.mk.inj read
    exact ⟨k, v, rfl, plain, last, rfl, rfl⟩

theorem says_under_iff : (∃ v, Says part key v) ↔ isPair part = true ∧ (readPair part).1 = key := by
  constructor
  · rintro ⟨v, said⟩
    obtain ⟨pair, read⟩ := says_iff.1 said
    exact ⟨pair, by rw [read]⟩
  · rintro ⟨pair, rfl⟩
    exact ⟨_, says_iff.2 ⟨pair, rfl⟩⟩

/-- A form gives under a key what the last part that says anything under it says. -/
theorem get?_form_eq_some_iff : (form body).get? key = some value ↔ LastSays body key value := by
  have under : (fun q => isPair q = true ∧ (readPair q).1 = key) = fun q => ∃ v, Says q key v :=
    funext fun q => propext says_under_iff.symm
  rw [form, Keyed.get?_ofList_eq_some_iff, isLast_map, LastSays]
  refine exists_congr fun q => ?_
  rw [isLast_filter, under]
  refine and_congr_right fun last => ?_
  obtain ⟨-, -, -, said, -⟩ := last
  rw [says_iff, and_iff_right (says_under_iff.1 said).1]

theorem get?_form_eq_none_iff : (form body).get? key = none ↔ Silent body key := by
  rw [form, Keyed.get?_ofList_eq_none_iff, Silent, List.forall_mem_map]
  simp only [List.mem_filter, and_imp]
  refine forall₂_congr fun q _ => Iff.trans ?_ not_exists
  rw [says_under_iff, not_and]

/-! ## The verdict -/

/-- The reason that names the topic. -/
def reasonFor (topic : Topic) : String := subscribersReason ++ ": " ++ topic.text

/-- The last reason of a body is that the topic, or a topic, has active subscribers. -/
def Refuses (body : String) (topic : Topic) : Prop :=
  LastSays body "reason" subscribersReason ∨ LastSays body "reason" (reasonFor topic)

/-- The number of subscribers as the last part tells it, or nothing where no part does. -/
def Counts (body count : String) : Prop :=
  LastSays body "hub.topic.activesubscribers" count ∨
    Silent body "hub.topic.activesubscribers" ∧ count = ""

theorem counts_form (body : String) :
    Counts body (((form body).get? "hub.topic.activesubscribers").getD "") := by
  cases found : (form body).get? "hub.topic.activesubscribers" with
  | none => exact .inr ⟨get?_form_eq_none_iff.1 found, rfl⟩
  | some count => exact .inl (get?_form_eq_some_iff.1 found)

theorem Counts.eq (counts : Counts body count) :
    count = ((form body).get? "hub.topic.activesubscribers").getD "" := by
  rcases counts with said | ⟨silent, rfl⟩
  · rw [get?_form_eq_some_iff.2 said]
    rfl
  · rw [get?_form_eq_none_iff.2 silent]
    rfl

theorem isSubscribersReason_iff {reason : String} : isSubscribersReason reason topic = true ↔
    reason = subscribersReason ∨ reason = reasonFor topic := by
  rw [isSubscribersReason, Bool.or_eq_true, beq_iff_eq, beq_iff_eq, reasonFor]

theorem refuses_iff : Refuses body topic ↔ ∃ reason,
    (form body).get? "reason" = some reason ∧ isSubscribersReason reason topic = true := by
  simp only [isSubscribersReason_iff, Refuses, ← get?_form_eq_some_iff]
  constructor
  · rintro (found | found)
    · exact ⟨_, found, .inl rfl⟩
    · exact ⟨_, found, .inr rfl⟩
  · rintro ⟨reason, found, rfl | rfl⟩
    · exact .inl found
    · exact .inr found

theorem subscribersRefusal?_of_refuses (refuses : Refuses body topic) (counts : Counts body count) :
    subscribersRefusal? body topic = some (.activeSubscribers topic.text count) := by
  obtain ⟨reason, found, fits⟩ := refuses_iff.1 refuses
  simp only [subscribersRefusal?, found, if_pos fits, counts.eq]

theorem subscribersRefusal?_of_not (other : ¬Refuses body topic) :
    subscribersRefusal? body topic = none := by
  rw [refuses_iff, not_exists] at other
  rw [subscribersRefusal?]
  cases found : (form body).get? "reason" with
  | none => rfl
  | some reason => exact if_neg fun fits => other reason ⟨found, fits⟩

/-- Of an answer with status 403 only the refusal is looked for. -/
theorem classify_forbidden (body : String) (topic : Topic) (operation : Operation) :
    classify 403 body topic operation = ⟨.cancelled, .error
      (match subscribersRefusal? body topic with
        | some e => .client e
        | none => backendError 403 body topic operation)⟩ := by
  have changed : isUnchanged 403 operation = false := by cases operation <;> rfl
  rw [classify, if_neg (by decide), changed, if_neg (by decide), if_pos rfl]
  cases subscribersRefusal? body topic with
  | none => rfl
  | some e => rfl

theorem classify_of_refuses (refuses : Refuses body topic) (counts : Counts body count) :
    classify 403 body topic operation
      = ⟨.cancelled, .error (.client (.activeSubscribers topic.text count))⟩ := by
  rw [classify_forbidden, subscribersRefusal?_of_refuses refuses counts]

theorem classify_of_not (other : ¬Refuses body topic) :
    classify 403 body topic operation
      = ⟨.cancelled, .error (.server (.hubBackendError topic.text operation.name body 403))⟩ := by
  rw [classify_forbidden, subscribersRefusal?_of_not other]
  rfl

/-! ## Written forms -/

/-- In a written form the last pair under a key is what is said under it. -/
theorem lastSays_write : LastSays (String.ofList (write pairs)) key value ↔
    IsLast (·.1 = key) pairs (key, value) := by
  rw [← get?_form_eq_some_iff, form_write, Keyed.get?_ofList_eq_some_iff]

theorem LastSays.unique {v : String} (first : LastSays body key value)
    (second : LastSays body key v) : value = v :=
  Option.some.inj ((get?_form_eq_some_iff.2 first).symm.trans (get?_form_eq_some_iff.2 second))

/-- A reason that names a topic is neither the one that names none nor that of another topic. -/
theorem not_refuses_of_other (said : LastSays body "reason" (reasonFor topic))
    (different : other ≠ topic) : ¬Refuses body other := by
  rintro (bare | named)
  · have longer := congrArg String.length (said.unique bare)
    rw [reasonFor, String.length_append, String.length_append] at longer
    have marks : ": ".length = 2 := rfl
    omega
  · have same := said.unique named
    rw [reasonFor, reasonFor, String.append_right_inj] at same
    apply different
    cases topic
    cases other
    exact congrArg Topic.mk same.symm

/-- An answer with status 403 is the refusal because of active subscribers exactly when the last
reason of its body is that this topic, or a topic, has them; it then names this topic and their
number as the last part tells it, and else it is the hub's error with the body as it stands. So a
form that was written with the reason for a topic and a number, each the last pair under its key, is
the refusal for this topic with this number, and for no other topic. -/
theorem subscribers_recognised :
    (∀ body topic operation,
      ((∃ named count, (classify 403 body topic operation).result
          = .error (.client (.activeSubscribers named count))) ↔ Refuses body topic) ∧
      (Refuses body topic → ∃ count, Counts body count ∧
        classify 403 body topic operation
          = ⟨.cancelled, .error (.client (.activeSubscribers topic.text count))⟩) ∧
      (¬Refuses body topic → classify 403 body topic operation
        = ⟨.cancelled,
            .error (.server (.hubBackendError topic.text operation.name body 403))⟩)) ∧
    ∀ pairs topic count, IsLast (·.1 = "reason") pairs ("reason", reasonFor topic) →
      IsLast (·.1 = "hub.topic.activesubscribers") pairs ("hub.topic.activesubscribers", count) →
      ∀ body, body = String.ofList (write pairs) → ∀ operation,
        classify 403 body topic operation
          = ⟨.cancelled, .error (.client (.activeSubscribers topic.text count))⟩ ∧
        ∀ other : Topic, other ≠ topic → classify 403 body other operation
          = ⟨.cancelled,
              .error (.server (.hubBackendError other.text operation.name body 403))⟩ := by
  refine ⟨fun body topic operation => ⟨⟨?_, ?_⟩, ?_, classify_of_not⟩, ?_⟩
  · rintro ⟨named, count, refused⟩
    refine Classical.byContradiction fun other => ?_
    rw [classify_of_not other] at refused
    cases refused
  · intro refuses
    exact ⟨_, _, congrArg Verdict.result (classify_of_refuses refuses (counts_form body))⟩
  · intro refuses
    exact ⟨_, counts_form body, classify_of_refuses refuses (counts_form body)⟩
  · rintro pairs topic count reason number body rfl operation
    have said : LastSays _ "reason" (reasonFor topic) := lastSays_write.2 reason
    have counts : Counts _ count := .inl (lastSays_write.2 number)
    exact ⟨classify_of_refuses (.inr said) counts,
      fun other different => classify_of_not (not_refuses_of_other said different)⟩

/-- A topic whose text has every sign that a form gives a meaning. -/
def sampleTopic : Topic := ⟨"a&reason=b%3D+c: é"⟩

/-- The reason and the number of its subscribers, among other pairs. -/
def samplePairs : List (String × String) := [
  ("hub.mode", "denied"), ("reason", "none"), ("reason", reasonFor sampleTopic), ("", "&="),
  ("hub.topic.activesubscribers", "3"), ("hub.topic", sampleTopic.text)]

/-- A body in which one part is no pair and the second reason is none. -/
def sampleBody : String := "broken&reason=Topic%20has%20active%20subscribers&reason=x=y"

theorem sampleBody_refuses (topic : Topic) : Refuses sampleBody topic :=
  .inl (get?_form_eq_some_iff.1 (by decide +kernel))

theorem subscribers_recognised_sample :
    (∃ named count, (classify 403 sampleBody sampleTopic .register).result
      = .error (.client (.activeSubscribers named count))) ∧
    classify 403 (String.ofList (write samplePairs)) sampleTopic .deregister
      = ⟨.cancelled, .error (.client (.activeSubscribers sampleTopic.text "3"))⟩ ∧
    classify 403 (String.ofList (write samplePairs)) ⟨"a"⟩ .deregister
      = ⟨.cancelled, .error (.server
          (.hubBackendError "a" "deregister" (String.ofList (write samplePairs)) 403))⟩ := by
  have reason : IsLast (·.1 = "reason") samplePairs ("reason", reasonFor sampleTopic) :=
    ⟨samplePairs.take 2, samplePairs.drop 3, rfl, rfl, by decide⟩
  have number : IsLast (·.1 = "hub.topic.activesubscribers") samplePairs
      ("hub.topic.activesubscribers", "3") :=
    ⟨samplePairs.take 4, samplePairs.drop 5, rfl, rfl, by decide⟩
  obtain ⟨refused, others⟩ :=
    subscribers_recognised.2 samplePairs sampleTopic "3" reason number _ rfl .deregister
  have raw := (subscribers_recognised.1 sampleBody sampleTopic .register).1.2
  exact ⟨raw (sampleBody_refuses sampleTopic), refused, others ⟨"a"⟩ (by decide)⟩

end HubPublisher.Hub
