import HubPublisher.Event.Correlation

/-!
Where an event goes: the tenant and the event type it belongs to, and the topic they name.
-/
namespace HubPublisher.Event

/-- The name of a hub topic. -/
structure Topic where
  text : String
  deriving DecidableEq, Repr

/-- A topic is the tenant's domain and the event type's URI with a slash between them. -/
def Topic.of (tenant eventUri : String) : Topic := ⟨tenant ++ "/" ++ eventUri⟩

/-- What is known about an event besides its payload. -/
structure Context where
  tenant : String
  eventUri : String
  correlation : Option CorrelationId
  deriving DecidableEq, Repr

def Context.topic (c : Context) : Topic := Topic.of c.tenant c.eventUri

end HubPublisher.Event
