import HubPublisher.Error
import HubPublisher.Event.Payload
import HubPublisher.Event.Topic
import HubPublisher.Hub.Operation

/-!
Requests to the hub.

Every request goes to the base URL with two pairs put behind its query: the operation under
`hub.mode` and the topic under `hub.topic`. A publish request has the payload as its body.
-/
namespace HubPublisher.Hub

open Event

/-- The URL of a request. -/
def topicUrl (topic : Topic) (baseUrl : String) (operation : Operation) :
    Except ServerError Url :=
  match Url.parse baseUrl with
  | .ok u => .ok (u.withPairs [("hub.mode", operation.name), ("hub.topic", topic.text)])
  | .error e => .error (.invalidBaseUrl baseUrl e)

/-- A request ready to be sent. -/
structure Request where
  url : Url
  operation : Operation
  body : Option String
  correlation : CorrelationId

namespace Request

/-- A publish request; a blank correlation id is replaced by the fresh one. -/
def publish (url : Url) (payload : Payload) (fresh : CorrelationId)
    (correlation : Option CorrelationId) : Request :=
  ⟨url, .publish, some payload.body, CorrelationId.reuseOr fresh correlation⟩

/-- A request about a topic; it has no body. -/
def topic (url : Url) (operation : Operation) (fresh : CorrelationId)
    (correlation : Option CorrelationId) : Request :=
  ⟨url, operation, none, CorrelationId.reuseOr fresh correlation⟩

end Request

/-- The header that holds the correlation id. -/
def correlationHeader : String := "activityid"

def jsonMediaType : String := "application/json"

/-- The headers of a request, by name. -/
def Request.headers (r : Request) : List (String × String) :=
  [("accept", jsonMediaType), ("content-type", jsonMediaType),
    (correlationHeader, r.correlation.text)]

end HubPublisher.Hub
