import HubPublisher.Hub.Request
import HubPublisher.Hub.Response
import HubPublisher.Log

/-!
Records about hub requests, and the signals through which an adapter shows what it does.

A diagnostic tells an operator about a publish, a correlation tells how one request ended. Both can
be written to the log, each to a stream of its own; the diagnostics can be left out.
-/
namespace HubPublisher.Telemetry

open Event (CorrelationId Topic)
open Hub (RequestStatus)

/-- A record about a publish. -/
structure Diagnostic where
  url : String
  tenant : String
  topic : Topic
  succeeded : Bool
  message : String
  deriving DecidableEq, Repr

/-- A record about one request to the hub. -/
structure Correlation where
  id : CorrelationId
  method : String
  url : String
  status : RequestStatus
  /-- The status of the hub's answer, if there was one. -/
  responseCode : Option Nat
  phrase : Option String
  /-- Why there was no answer. -/
  detail : Option String
  deriving DecidableEq, Repr

/-- The action that diagnostics are about. -/
def publishAction : String := "publish-event"

/-- The method of every request. -/
def postMethod : String := "POST"

def Diagnostic.result (d : Diagnostic) : String := if d.succeeded then "success" else "failed"

/-- What an adapter shows of its work, in the order in which it happens. -/
inductive Signal where
  | log (e : Log.Event)
  | diagnostic (d : Diagnostic)
  | correlation (c : Correlation)
  /-- The hub saw a request. -/
  | sent (r : Hub.Request)

/-! ## Records in the log -/

def diagnosticTarget : String := "websubhub::diagnostic"

def correlationTarget : String := "websubhub::correlation"

def Diagnostic.event (d : Diagnostic) : Log.Event where
  level := .info
  target := some diagnosticTarget
  message := d.message
  fields := [("action", .text publishAction), ("url", .text d.url),
    ("tenant_domain", .text d.tenant), ("topic", .text d.topic.text), ("result", .text d.result)]

def Correlation.event (c : Correlation) : Log.Event where
  level := .info
  target := some correlationTarget
  message := "Hub request finished"
  fields := [("correlation_id", .text c.id.text), ("method", .text c.method), ("url", .text c.url),
      ("status", .text c.status.name)]
    ++ Log.optional "response_code" (c.responseCode.map .number)
    ++ Log.optional "response_phrase" (c.phrase.map .text)
    ++ Log.optional "detail" (c.detail.map .text)

/-- What the log shows of a signal, with diagnostics or without. -/
def Signal.events (diagnostics : Bool) : Signal → List Log.Event
  | log e => [e]
  | diagnostic d => if diagnostics then [d.event] else []
  | correlation c => [c.event]
  | sent _ => []

/-- The log of an adapter's work. -/
def events (diagnostics : Bool) (signals : List Signal) : List Log.Event :=
  signals.flatMap (Signal.events diagnostics)

/-! ## Signals by kind -/

def logOf? : Signal → Option Log.Event
  | .log e => some e
  | _ => none

def diagnosticOf? : Signal → Option Diagnostic
  | .diagnostic d => some d
  | _ => none

def correlationOf? : Signal → Option Correlation
  | .correlation c => some c
  | _ => none

def requestOf? : Signal → Option Hub.Request
  | .sent r => some r
  | _ => none

end HubPublisher.Telemetry
