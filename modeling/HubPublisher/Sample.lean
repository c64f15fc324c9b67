import HubPublisher.Event.Payload
import HubPublisher.Event.Topic
import HubPublisher.Settings.Configuration

/-!
Sample values: a payload of each kind, the tenant they belong to and an adapter for a hub.
-/
namespace HubPublisher.Sample

def tenant : String := "wso2.com"

/-- The type of the sample events: a session was revoked. -/
def sessionRevoked : String :=
  "https://schemas.openid.net/secevent/caep/event-type/session-revoked"

/-- Claims about a revoked session, which an entity of the given kind began. -/
def claims (jti : String) (txn : Option String) (initiator : String) : Event.Claims where
  iss := "https://localhost:9443/oauth2/token"
  jti := jti
  iat := 1700000000000
  aud := "https://rp.example.com"
  txn := txn
  rci := none
  events := Keyed.empty.insert sessionRevoked (.object [("initiating_entity", .text initiator)])

def payload : Event.Payload := .base (claims "a1b2c3" none "policy")

def caepPayload : Event.Payload :=
  .caep (claims "d4e5f6" (some "txn-1") "admin") (.email "user@wso2.com")

def context (eventUri : String) : Event.Context := ⟨tenant, eventUri, none⟩

/-- An adapter for a hub, with time enough for one that answers slowly. -/
def configuration (baseUrl : String) : Settings.Configuration :=
  (Settings.Configuration.enabledOn baseUrl).withTimeouts 2000 5000 2000

/-- The path of a hub's endpoint. -/
def hubPath : String := "/hub"

end HubPublisher.Sample
