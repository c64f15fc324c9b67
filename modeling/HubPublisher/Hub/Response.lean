import HubPublisher.Error
import HubPublisher.Event.Topic
import HubPublisher.Hub.Operation
import HubPublisher.Keyed

/-!
What an answer of the hub means.

A publish is done when the status is one of four. A request about a topic is done when the status is
200 and the body is the success marker; a topic that already is in the wanted state is left
unchanged; every other answer is an error, with the refusal because of active subscribers told
apart from the rest.
-/
namespace HubPublisher.Hub

open Event

/-- How a request ended, as records tell it. -/
inductive RequestStatus where
  | completed
  | failed
  | cancelled
  deriving DecidableEq, Repr

def RequestStatus.name : RequestStatus → String
  | completed => "completed"
  | failed => "failed"
  | cancelled => "cancelled"

/-! ## Publishing -/

/-- The statuses that say a publish was done. -/
def publishedStatuses : List Nat := [200, 201, 202, 204]

def isPublished (status : Nat) : Bool := publishedStatuses.contains status

/-! ## Forms -/

/-- Whether a part has exactly one equals sign. -/
def isPair (part : List Char) : Bool := part.count '=' == 1

/-- The pairs of an answer's body by key. A part without exactly one equals sign is no pair, and of
two pairs with one key the later counts. -/
def form (body : String) : Keyed String :=
  Keyed.ofList (((Text.splitBy (· == '&') body.toList).filter isPair).map Url.Form.readPair)

/-! ## Topics -/

/-- The body of an answer that grants a request. -/
def successMarker : String := "hub.mode=accepted"

/-- The reason the hub gives for keeping a topic that has subscribers. -/
def subscribersReason : String := "Topic has active subscribers"

/-- The reason alone, or with this very topic after it. -/
def isSubscribersReason (reason : String) (topic : Topic) : Bool :=
  reason == subscribersReason || reason == subscribersReason ++ ": " ++ topic.text

/-- What became of a topic. -/
inductive TopicOutcome where
  | completed
  /-- It already was in the wanted state, as the status says. -/
  | unchanged (status : Nat)
  deriving DecidableEq, Repr

/-- The meaning of an answer: what records say of the request, and what its caller gets. -/
structure Verdict where
  status : RequestStatus
  result : Except AdapterError TopicOutcome

/-- The meaning of a body with status 200. -/
def acceptance (body : String) (topic : Topic) (operation : Operation) :
    Except AdapterError TopicOutcome :=
  if body = "" then .error (.server (.emptyHubResponse topic.text operation.name))
  else if body = successMarker then .ok .completed
  else .error (.server (.invalidHubResponse topic.text operation.name body))

/-- The refusal because of active subscribers, if the body is one. -/
def subscribersRefusal? (body : String) (topic : Topic) : Option ClientError :=
  let pairs := form body
  match pairs.get? "reason" with
  | some reason =>
    if isSubscribersReason reason topic then
      some (.activeSubscribers topic.text ((pairs.get? "hub.topic.activesubscribers").getD ""))
    else none
  | none => none

def backendError (status : Nat) (body : String) (topic : Topic) (operation : Operation) :
    AdapterError :=
  .server (.hubBackendError topic.text operation.name body status)

/-- Whether a status says that the topic already is in the state the operation asks for. -/
def isUnchanged (status : Nat) : Operation → Bool
  | .register => status == 409
  | .deregister => status == 404
  | .publish => false

/-- The meaning of an answer to a request about a topic. -/
def classify (status : Nat) (body : String) (topic : Topic) (operation : Operation) : Verdict :=
  if status = 200 then ⟨.completed, acceptance body topic operation⟩
  else if isUnchanged status operation then ⟨.failed, .ok (.unchanged status)⟩
  else if status = 403 then
    match subscribersRefusal? body topic with
    | some e => ⟨.cancelled, .error (.client e)⟩
    | none => ⟨.cancelled, .error (backendError status body topic operation)⟩
  else ⟨.cancelled, .error (backendError status body topic operation)⟩

end HubPublisher.Hub
