import HubPublisher.Adapter.Basic
import HubPublisher.Service
import HubPublisher.Settings.File

/-!
From settings to what works by them: an adapter, and a service with the adapter as its publisher.
-/
namespace HubPublisher

open Event (CorrelationId)
open Hub (StartFault)
open Settings (SettingsFile)
open Telemetry (Signal)

/-- Why settings give nothing that works. -/
inductive AssemblyFault where
  /-- There are to be more slots than can be counted. -/
  | uncountable
  | failed (e : Failure)

def AssemblyFault.ofStart : StartFault → AssemblyFault
  | .uncountable => uncountable
  | .refused e => failed (.server e)

/-- The adapter that settings describe, with what is logged on the way. -/
def Adapter.ofSettings (files : Files) (settings : SettingsFile) :
    Except AssemblyFault Adapter × List Log.Event :=
  match settings.configuration with
  | .error e => (.error (.failed (.client e)), [])
  | .ok (config, warnings) =>
    match Adapter.start files config with
    | .error e => (.error (.ofStart e), warnings)
    | .ok (adapter, logs) => (.ok adapter, warnings ++ logs)

/-- The log of an adapter's work, with diagnostics if its configuration asks for them. -/
def Adapter.log (a : Adapter) (signals : List Signal) : List Log.Event :=
  Telemetry.events a.config.diagnosticLogs signals

/-- Where a larger state keeps an adapter, and where it takes fresh ids from. -/
structure Adapter.Place (σ : Type) where
  get : σ → Adapter
  set : Adapter → σ → σ
  fresh : σ → CorrelationId × σ

/-- The name of every adapter as a publisher. -/
def Adapter.publisherName : String := "websubhub"

/-- An adapter as a publisher; a publish is submitted and not waited for. -/
def Adapter.publisher {σ : Type} (place : Adapter.Place σ) : Publisher σ where
  name := Adapter.publisherName
  publish payload context state :=
    let (fresh, state) := place.fresh state
    let s := (place.get state).publish payload context fresh
    ⟨place.set s.adapter state, s.signals,
      match s.result with
      | .ok _ => .ok ()
      | .error e => .error (.adapter e)⟩

/-- The service that settings describe, with the adapter that is its publisher. -/
def Service.ofSettings {σ : Type} (files : Files) (settings : SettingsFile)
    (place : Adapter.Place σ) :
    Except AssemblyFault (Adapter × Service σ) × List Log.Event :=
  match Adapter.ofSettings files settings with
  | (.error e, logs) => (.error e, logs)
  | (.ok adapter, logs) =>
    let (service, registered) := Service.empty.register (Adapter.publisher place)
    (.ok (adapter, service), logs ++ [registered, service.readyEvent])

end HubPublisher
