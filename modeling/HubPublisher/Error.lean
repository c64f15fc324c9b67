import HubPublisher.Url.Parser

/-!
What can go wrong, by who has to act on it.

A client error is the caller's or the configuration's, a server error comes from the hub or from
what is needed to reach it, and a configuration error from the settings file. An error that reaches
the caller of an adapter has a code that stays the same and a summary without values beside its
message.
-/
namespace HubPublisher

/-- How sending a request or reading its answer fails. -/
inductive TransportError where
  /-- The request has a part that cannot be sent. -/
  | notBuilt
  /-- The URL is none that a request can be sent to. -/
  | notBuiltFor (url : String)
  /-- Nothing came back. -/
  | notSent (url : String)
  /-- The body ended before it should. -/
  | bodyBroken
  deriving DecidableEq, Repr

def TransportError.message : TransportError → String
  | notBuilt => "builder error"
  | notBuiltFor url => "builder error for url (" ++ url ++ ")"
  | notSent url => "error sending request for url (" ++ url ++ ")"
  | bodyBroken => "error decoding response body"

/-! ## Configuration -/

inductive ConfigError where
  | missingField (field : String)
  | invalidValue (field reason : String)
  | unreadable (cause : String)
  | malformed (cause : String)
  deriving DecidableEq, Repr

namespace ConfigError

def message : ConfigError → String
  | missingField field => "missing required field: " ++ field
  | invalidValue field reason => "invalid value for " ++ field ++ ": " ++ reason
  | unreadable cause => "failed to read config file: " ++ cause
  | malformed cause => "failed to parse config: " ++ cause

/-- The text of the error behind this one. -/
def cause : ConfigError → Option String
  | unreadable cause => some cause
  | malformed cause => some cause
  | _ => none

end ConfigError

/-! ## Client -/

inductive ClientError where
  | adapterDisabled
  | baseUrlNotConfigured
  | invalidPayload (cause : String)
  | activeSubscribers (topic count : String)
  deriving DecidableEq, Repr

namespace ClientError

def message : ClientError → String
  | adapterDisabled => "WebSub hub adapter is not enabled"
  | baseUrlNotConfigured => "WebSub hub base URL is not configured"
  | invalidPayload cause => "event payload could not be serialized: " ++ cause
  | activeSubscribers topic count =>
    "topic " ++ topic ++ " cannot be deregistered, it has " ++ count ++ " active subscribers"

def code : ClientError → String
  | adapterDisabled => "WEBSUB-60001"
  | baseUrlNotConfigured => "WEBSUB-60002"
  | invalidPayload _ => "WEBSUB-60003"
  | activeSubscribers _ _ => "WEBSUB-60004"

def summary : ClientError → String
  | adapterDisabled => "adapter disabled"
  | baseUrlNotConfigured => "base URL not configured"
  | invalidPayload _ => "invalid payload"
  | activeSubscribers _ _ => "cannot deregister: active subscribers"

def cause : ClientError → Option String
  | invalidPayload cause => some cause
  | _ => none

end ClientError

/-! ## Server -/

inductive ServerError where
  | clientNotCreated (cause : TransportError)
  | trustRefused (reason : String)
  | invalidBaseUrl (baseUrl : String) (cause : Url.UrlError)
  | invalidHubResponse (topic operation body : String)
  | emptyHubResponse (topic operation : String)
  | hubBackendError (topic operation body : String) (status : Nat)
  | connectionUnavailable (route : String)
  | transport (cause : TransportError)
  | cancelled
  | runtimeUnavailable (cause : String)
  deriving DecidableEq, Repr

namespace ServerError

def message : ServerError → String
  | clientNotCreated cause => "failed to create the async HTTP client: " ++ cause.message
  | trustRefused reason => "failed to create the SSL context: " ++ reason
  | invalidBaseUrl baseUrl cause =>
    "invalid WebSub hub base URL " ++ baseUrl ++ ": " ++ cause.message
  | invalidHubResponse topic operation body =>
    "invalid response from hub for topic " ++ topic ++ ", operation " ++ operation ++ ": " ++ body
  | emptyHubResponse topic operation =>
    "empty response from hub for topic " ++ topic ++ ", operation " ++ operation
  | hubBackendError topic operation body status =>
    "backend error from hub for topic " ++ topic ++ ", operation " ++ operation ++ " (status "
      ++ toString status ++ "): " ++ body
  | connectionUnavailable route =>
    "no pooled connection available for " ++ route ++ " within the request timeout"
  | transport cause => "request to the hub failed: " ++ cause.message
  | cancelled => "hub request was cancelled before completion"
  | runtimeUnavailable cause => "failed to start the I/O runtime: " ++ cause

def code : ServerError → String
  | clientNotCreated _ => "WEBSUB-65001"
  | trustRefused _ => "WEBSUB-65002"
  | invalidBaseUrl _ _ => "WEBSUB-65003"
  | invalidHubResponse _ _ _ => "WEBSUB-65004"
  | emptyHubResponse _ _ => "WEBSUB-65005"
  | hubBackendError _ _ _ _ => "WEBSUB-65006"
  | connectionUnavailable _ => "WEBSUB-65007"
  | transport _ => "WEBSUB-65008"
  | cancelled => "WEBSUB-65009"
  | runtimeUnavailable _ => "WEBSUB-65010"

def summary : ServerError → String
  | clientNotCreated _ => "async client creation failed"
  | trustRefused _ => "SSL context creation failed"
  | invalidBaseUrl _ _ => "invalid base URL"
  | invalidHubResponse _ _ _ => "invalid response from hub"
  | emptyHubResponse _ _ => "empty response from hub"
  | hubBackendError _ _ _ _ => "backend error from hub"
  | connectionUnavailable _ => "connection unavailable"
  | transport _ => "transport failure"
  | cancelled => "request cancelled"
  | runtimeUnavailable _ => "runtime unavailable"

def cause : ServerError → Option String
  | clientNotCreated cause => some cause.message
  | invalidBaseUrl _ cause => some cause.message
  | transport cause => some cause.message
  | runtimeUnavailable cause => some cause
  | _ => none

end ServerError

/-! ## Adapter -/

/-- An error that the adapter answers a call with. -/
inductive AdapterError where
  | client (e : ClientError)
  | server (e : ServerError)
  deriving DecidableEq, Repr

namespace AdapterError

def message : AdapterError → String
  | client e => e.message
  | server e => e.message

def code : AdapterError → String
  | client e => e.code
  | server e => e.code

def summary : AdapterError → String
  | client e => e.summary
  | server e => e.summary

def cause : AdapterError → Option String
  | client e => e.cause
  | server e => e.cause

/-- Whether the caller or the configuration is at fault. -/
def isClient : AdapterError → Bool
  | client _ => true
  | server _ => false

end AdapterError

/-! ## Any -/

/-- Any failure, with the family it belongs to. -/
inductive Failure where
  | config (e : ConfigError)
  | adapter (e : AdapterError)
  | json (cause : String)
  | file (cause : String)
  deriving DecidableEq, Repr

namespace Failure

def client (e : ClientError) : Failure := adapter (.client e)

def server (e : ServerError) : Failure := adapter (.server e)

def message : Failure → String
  | config e => e.message
  | adapter e => e.message
  | json cause => "JSON parsing error: " ++ cause
  | file cause => "IO error: " ++ cause

def cause : Failure → Option String
  | config e => e.cause
  | adapter e => e.cause
  | json cause => some cause
  | file cause => some cause

/-- The messages from a failure down to what it comes from. -/
def chain (e : Failure) : List String := e.message :: e.cause.toList

end Failure

end HubPublisher
