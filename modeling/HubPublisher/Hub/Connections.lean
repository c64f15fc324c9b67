import HubPublisher.Log
import HubPublisher.Pool.Basic
import HubPublisher.Settings.Configuration
import HubPublisher.Trust.Store

/-!
Connections to the hub: the slots, what the hub is checked against, and whether the client runs.

A client that was stopped starts again when it is next needed. The slots belong to the connections
and not to the client, so they are the same before and after.
-/
namespace HubPublisher.Hub

open Pool (Slots Ticket)
open Trust (Store)

/-- Why there are no connections. -/
inductive StartFault where
  /-- There are to be more slots than can be counted. -/
  | uncountable
  | refused (e : ServerError)
  deriving DecidableEq, Repr

structure Connections where
  config : Settings.Configuration
  trust : Store
  running : Bool
  slots : Slots

namespace Connections

/-- The limits that a configuration sets. -/
def limitsOf (c : Settings.Configuration) : Pool.Limits :=
  ⟨c.maxConnections, c.maxConnectionsPerRoute, c.checkoutTimeout⟩

/-- Requests to URLs with one scheme, host and port share a route. -/
def routeOf (u : Url) : String := u.origin

/-! ## Log events -/

def trusting : Log.Event := Log.event .debug "Using configured trust store for hub TLS" []

def started (config : Settings.Configuration) (trust : Store) : Log.Event :=
  Log.event .info "Hub HTTP client started"
    [("max_connections", .number config.maxConnections),
      ("max_connections_per_route", .number config.maxConnectionsPerRoute),
      ("trusted_certificates", .number trust.size)]

def restarting : Log.Event :=
  Log.event .debug "Hub HTTP client is not running, starting client" []

def stopped : Log.Event := Log.event .info "Hub HTTP client stopped" []

/-! ## The client -/

/-- What building a client logs; every certificate of the store has to be an anchor. -/
def buildClient (trust : Store) : Except ServerError (List Log.Event) :=
  match trust.roots with
  | .error e => .error e
  | .ok .platform => .ok []
  | .ok (.anchors _) => .ok [trusting]

/-- Connections with all slots free and the client running. -/
def start (config : Settings.Configuration) (trust : Store) :
    Except StartFault (Connections × List Log.Event) :=
  match Slots.start? (limitsOf config) with
  | none => .error .uncountable
  | some slots =>
    match buildClient trust with
    | .error e => .error (.refused e)
    | .ok logs => .ok (⟨config, trust, true, slots⟩, logs ++ [started config trust])

/-- Starts the client unless it runs. -/
def ensureRunning (c : Connections) : Except ServerError Connections × List Log.Event :=
  if c.running then (.ok c, [])
  else
    match buildClient c.trust with
    | .error e => (.error e, [restarting])
    | .ok logs => (.ok { c with running := true }, restarting :: logs)

/-- Stops the client if it runs. -/
def stop (c : Connections) : Connections × List Log.Event :=
  if c.running then ({ c with running := false }, [stopped]) else (c, [])

/-! ## Steps -/

/-- What can happen to connections. -/
inductive Step where
  | checkout (t : Ticket) (url : Url)
  /-- A checkout that needs the client to run. -/
  | channelCheckout (t : Ticket) (url : Url)
  | release (t : Ticket)
  | cancel (t : Ticket)
  | advance (ms : Nat)
  | stop
  | client
  /-- Something else is run beside the requests. -/
  | spawn

/-- What a step brings about. -/
structure Effect where
  /-- The checkouts that came to their end. -/
  notices : List Pool.Notice
  logs : List Log.Event
  /-- Whether there was something to release or to cancel. -/
  found : Bool
  /-- Why the client could not be started. -/
  refusal : Option ServerError

def Effect.none : Effect := ⟨[], [], false, .none⟩

def checkout (c : Connections) (t : Ticket) (url : Url) : Connections × Effect :=
  let (slots, notices) := c.slots.checkout t (routeOf url)
  ({ c with slots := slots }, { Effect.none with notices := notices })

def step (c : Connections) : Step → Connections × Effect
  | .checkout t url => c.checkout t url
  | .channelCheckout t url =>
    match c.ensureRunning with
    | (.error e, logs) => (c, { Effect.none with logs := logs, refusal := some e })
    | (.ok c, logs) =>
      let (c, effect) := c.checkout t url
      (c, { effect with logs := logs })
  | .release t =>
    let (slots, found, notices) := c.slots.release t
    ({ c with slots := slots }, { Effect.none with notices := notices, found := found })
  | .cancel t =>
    let (slots, found, notices) := c.slots.cancel t
    ({ c with slots := slots }, { Effect.none with notices := notices, found := found })
  | .advance ms =>
    let (slots, notices) := c.slots.advance ms
    ({ c with slots := slots }, { Effect.none with notices := notices })
  | .stop =>
    let (c, logs) := c.stop
    (c, { Effect.none with logs := logs })
  | .client =>
    match c.ensureRunning with
    | (.error e, logs) => (c, { Effect.none with logs := logs, refusal := some e })
    | (.ok c, logs) => (c, { Effect.none with logs := logs })
  | .spawn => (c, Effect.none)

end Connections

end HubPublisher.Hub
