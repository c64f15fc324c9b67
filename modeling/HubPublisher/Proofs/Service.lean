import HubPublisher.Adapter.Assembly
import HubPublisher.Sample
import Mathlib.Data.List.Infix

/-!
Rounds of a service: who is called when an event is published, and which publishers a service has.

A round is told by its calls (`Round`). The publishers are called in the order in which they were
registered, each once, with the event that is published and on the state that the call before left;
a call that fails is the last. It does not matter what the publishers do with the state, so they may
as well write down that they were called, and what they write down are the calls of the round.
Rounds leave the service alone: which publishers it has is told by what was registered since it was
created or replaced (`fan_out_stops_at_first_failure`).
-/
namespace HubPublisher.Service

open Event (Context Payload)
open Settings (SettingsFile)
open Telemetry (Signal)

variable {σ : Type} {payload : Payload} {context : Context} {ps : List (Publisher σ)}
  {start state : σ}

/-! ## Calls -/

/-- A call of a publisher, and the state that it acts on. -/
structure Call (σ : Type) where
  publisher : Publisher σ
  payload : Payload
  context : Context
  start : σ

/-- What the call leaves behind. -/
def Call.outcome (c : Call σ) : Publishing σ := c.publisher.publish c.payload c.context c.start

def Call.Passes (c : Call σ) : Prop := c.outcome.result = .ok ()

/-- Each call acts on the state that the one before left. -/
inductive Threaded : σ → List (Call σ) → σ → Prop
  | none (state : σ) : Threaded state [] state
  | call (c : Call σ) {rest : List (Call σ)} {state : σ} (h : Threaded c.outcome.state rest state) :
      Threaded c.start (c :: rest) state

/-- A publisher that besides writes down that it was called. -/
def noting (p : Publisher σ) : Publisher (σ × List (Call σ)) where
  name := p.name
  publish payload context noted :=
    let c : Call σ := ⟨p, payload, context, noted.1⟩
    ⟨(c.outcome.state, noted.2 ++ [c]), c.outcome.signals, c.outcome.result⟩

/-! ## Rounds -/

/-- How a round of calls ends: all publishers have been called and no call failed, or the last call
failed and nobody was called after it. -/
inductive Ends (context : Context) (ps : List (Publisher σ)) (calls : List (Call σ))
    (r : Publishing σ) : Prop
  | passed (all : calls.map (·.publisher) = ps) (pass : ∀ c ∈ calls, c.Passes)
      (result : r.result = .ok ()) (signals : r.signals = calls.flatMap (·.outcome.signals))
  | failed (before : List (Call σ)) (last : Call σ) (e : Failure) (split : calls = before ++ [last])
      (pass : ∀ c ∈ before, c.Passes) (fails : last.outcome.result = .error e)
      (result : r.result = .error e)
      (signals : r.signals = calls.flatMap (·.outcome.signals)
        ++ [.log (failedEvent last.publisher.name context e)])

/-- The calls by which an event is handed to publishers, and what they leave behind. -/
structure Round (payload : Payload) (context : Context) (ps : List (Publisher σ)) (start : σ)
    (calls : List (Call σ)) (r : Publishing σ) : Prop where
  called : calls.map (·.publisher) <+: ps
  given : ∀ c ∈ calls, c.payload = payload ∧ c.context = context
  threaded : Threaded start calls r.state
  ends : Ends context ps calls r
  /-- The calls are those that the publishers know of. -/
  noted : ∀ notes, publishTo payload context (ps.map noting) (start, notes)
    = ⟨(r.state, notes ++ calls), r.signals, r.result⟩

theorem round_nil (payload : Payload) (context : Context) (start : σ) :
    Round payload context [] start [] ⟨start, [], .ok ()⟩ where
  called := List.nil_prefix
  given := nofun
  threaded := .none start
  ends := .passed rfl nofun rfl rfl
  noted notes := by
    rw [List.append_nil]
    rfl

/-- A call that fails is the whole round. -/
theorem round_of_failed {p : Publisher σ} {e : Failure} (ps : List (Publisher σ))
    (fails : (p.publish payload context start).result = .error e) :
    Round payload context (p :: ps) start [⟨p, payload, context, start⟩]
      ⟨(p.publish payload context start).state,
        (p.publish payload context start).signals ++ [.log (failedEvent p.name context e)],
        .error e⟩ where
  called := List.prefix_append [p] ps
  given c member := by
    rw [List.mem_singleton.1 member]
    exact ⟨rfl, rfl⟩
  threaded := .call ⟨p, payload, context, start⟩ (.none _)
  ends := by
    refine .failed [] ⟨p, payload, context, start⟩ e rfl nofun fails rfl ?_
    simp [Call.outcome]
  noted notes := by simp [publishTo, noting, Call.outcome, fails]

/-- After a call that passes the round goes on with the publishers behind. -/
theorem round_of_passed {p : Publisher σ} {calls : List (Call σ)} {r : Publishing σ}
    (passes : (p.publish payload context start).result = .ok ())
    (rest : Round payload context ps (p.publish payload context start).state calls r) :
    Round payload context (p :: ps) start (⟨p, payload, context, start⟩ :: calls)
      ⟨r.state, (p.publish payload context start).signals ++ r.signals, r.result⟩ where
  called := List.prefix_cons_inj p |>.2 rest.called
  given c member := by
    rcases List.mem_cons.1 member with rfl | member
    · exact ⟨rfl, rfl⟩
    · exact rest.given c member
  threaded := .call ⟨p, payload, context, start⟩ rest.threaded
  ends := by
    have first : (⟨p, payload, context, start⟩ : Call σ).Passes := passes
    cases rest.ends with
    | passed all pass result signals =>
      refine .passed (congrArg (p :: ·) all) (List.forall_mem_cons.2 ⟨first, pass⟩) result ?_
      rw [List.flatMap_cons, ← signals]
      rfl
    | failed before last e split pass fails result signals =>
      refine .failed (⟨p, payload, context, start⟩ :: before) last e (congrArg (_ :: ·) split)
        (List.forall_mem_cons.2 ⟨first, pass⟩) fails result ?_
      rw [List.flatMap_cons, List.append_assoc, ← signals]
      rfl
  noted notes := by
    have behind := rest.noted (notes ++ [⟨p, payload, context, start⟩])
    rw [List.append_assoc, List.singleton_append] at behind
    simp [publishTo, noting, Call.outcome, passes, behind]

/-- Whatever the publishers do, handing them an event is a round of calls. -/
theorem exists_round (payload : Payload) (context : Context) (ps : List (Publisher σ)) (start : σ) :
    ∃ calls, Round payload context ps start calls (publishTo payload context ps start) := by
  induction ps generalizing start with
  | nil => exact ⟨[], round_nil payload context start⟩
  | cons p ps ih =>
    cases result : (p.publish payload context start).result with
    | error e =>
      refine ⟨[⟨p, payload, context, start⟩], ?_⟩
      have round := round_of_failed ps result
      simpa only [publishTo, result] using round
    | ok _ =>
      obtain ⟨calls, rest⟩ := ih (p.publish payload context start).state
      refine ⟨⟨p, payload, context, start⟩ :: calls, ?_⟩
      have round := round_of_passed result rest
      simpa only [publishTo, result] using round

/-! ## Steps -/

/-- A service and what its publishers act on. -/
structure Host (σ : Type) where
  service : Service σ
  state : σ

/-- What can happen to a service. -/
inductive Step (σ : Type) where
  | register (p : Publisher σ)
  /-- A service is built from settings and takes the place of the one that is there. Its adapter is
  put where the publisher finds it. -/
  | build (files : Files) (settings : SettingsFile) (place : Adapter.Place σ)
    (install : Adapter → σ → σ)
  | publish (payload : Payload) (context : Context)

def Host.step (h : Host σ) : Step σ → Host σ
  | .register p => { h with service := (h.service.register p).1 }
  | .build files settings place install =>
    match (Service.ofSettings files settings place).1 with
    | .error _ => h
    | .ok (a, service) => ⟨service, install a h.state⟩
  | .publish payload context =>
    { h with state := (h.service.publish payload context h.state).state }

def Host.run (h : Host σ) (steps : List (Step σ)) : Host σ := steps.foldl Host.step h

/-- The publisher that a step registers. -/
def Step.registered? : Step σ → Option (Publisher σ)
  | .register p => some p
  | _ => none

/-- A service is built without a fault. -/
def Step.Builds (s : Step σ) (place : Adapter.Place σ) : Prop :=
  ∃ files settings install a service,
    s = .build files settings place install ∧
      (Service.ofSettings files settings place).1 = .ok (a, service)

/-- What a service shows of its publishers. -/
structure Lists (s : Service σ) (ps : List (Publisher σ)) : Prop where
  publishers : s.publishers = ps
  names : s.names = ps.map (·.name)
  size : s.size = ps.length
  isEmpty : s.isEmpty = true ↔ ps = []

theorem lists_of_publishers {s : Service σ} (same : s.publishers = ps) : Lists s ps := by
  subst same
  exact ⟨rfl, rfl, rfl, List.isEmpty_iff⟩

/-- A service that is built has one publisher, the adapter. -/
theorem publishers_of_ofSettings {files : Files} {settings : SettingsFile}
    {place : Adapter.Place σ} {a : Adapter} {service : Service σ}
    (built : (Service.ofSettings files settings place).1 = .ok (a, service)) :
    service.publishers = [Adapter.publisher place] := by
  unfold Service.ofSettings at built
  split at built
  · cases built
  · cases built
    rfl

theorem publishers_of_builds {s : Step σ} {place : Adapter.Place σ} (builds : s.Builds place)
    (h : Host σ) : (h.step s).service.publishers = [Adapter.publisher place] := by
  obtain ⟨files, settings, install, a, service, rfl, built⟩ := builds
  simp only [Host.step, built]
  exact publishers_of_ofSettings built

/-- A step that builds no service registers a publisher behind the others, or leaves them. -/
theorem publishers_step {s : Step σ} (kept : ∀ place, ¬s.Builds place) (h : Host σ) :
    (h.step s).service.publishers = h.service.publishers ++ s.registered?.toList := by
  cases s with
  | register p => rfl
  | publish payload context => exact (List.append_nil _).symm
  | build files settings place install =>
    cases built : (Service.ofSettings files settings place).1 with
    | error e =>
      simp only [Host.step, built]
      exact (List.append_nil _).symm
    | ok r =>
      exact absurd ⟨files, settings, install, r.1, r.2, rfl, built⟩ (kept place)

theorem publishers_run {since : List (Step σ)} (kept : ∀ s ∈ since, ∀ place, ¬s.Builds place)
    (h : Host σ) : (h.run since).service.publishers
      = h.service.publishers ++ since.filterMap Step.registered? := by
  induction since generalizing h with
  | nil => exact (List.append_nil _).symm
  | cons s since ih =>
    obtain ⟨here, rest⟩ := List.forall_mem_cons.1 kept
    have step := publishers_step here h
    have later := ih rest (h.step s)
    rw [step] at later
    rw [show h.run (s :: since) = (h.step s).run since from rfl, later, List.append_assoc]
    cases registered : s.registered? with
    | none => simp [registered]
    | some p => simp [registered]

/-- In every run of a service, whatever its publishers do:
1. an event that is published is handed to the publishers in a round of calls, which ends with the
   first call that fails or when all have been called, and the service is left as it was;
2. a build that fails leaves everything as it was;
3. a service that was created has the publishers that were registered since, in their order;
4. one that was built has the adapter and behind it those that were registered since. -/
theorem fan_out_stops_at_first_failure (h : Host σ) (before : List (Step σ)) :
    (∀ payload context, ∃ calls,
      Round payload context (h.run before).service.publishers (h.run before).state calls
        ((h.run before).service.publish payload context (h.run before).state) ∧
      (h.run (before ++ [.publish payload context])).service = (h.run before).service) ∧
    (∀ files settings place install e,
      (Service.ofSettings files settings place).1 = .error e →
      h.run (before ++ [.build files settings place install]) = h.run before) ∧
    ∀ since : List (Step σ), (∀ s ∈ since, ∀ place, ¬s.Builds place) →
      (∀ state, Lists (Host.run ⟨Service.empty, state⟩ since).service
        (since.filterMap Step.registered?)) ∧
      ∀ s place, s.Builds place → Lists (h.run (before ++ s :: since)).service
        (Adapter.publisher place :: since.filterMap Step.registered?) := by
  have run_append (steps : List (Step σ)) : h.run (before ++ steps) = (h.run before).run steps :=
    List.foldl_append
  refine ⟨fun payload context => ?_, ?_, fun since kept => ⟨fun state => ?_, ?_⟩⟩
  · obtain ⟨calls, round⟩ := exists_round payload context (h.run before).service.publishers
      (h.run before).state
    refine ⟨calls, round, ?_⟩
    rw [run_append]
    rfl
  · intro files settings place install e failed
    rw [run_append]
    show Host.step (h.run before) (.build files settings place install) = h.run before
    simp only [Host.step, failed]
  · exact lists_of_publishers (publishers_run kept ⟨Service.empty, state⟩)
  · intro s place builds
    have publishers := publishers_run kept ((h.run before).step s)
    rw [publishers_of_builds builds] at publishers
    rw [run_append, show (h.run before).run (s :: since) = ((h.run before).step s).run since from
      rfl]
    exact lists_of_publishers publishers

/-! ## A sample -/

/-- A publisher that counts its calls and fails from the given one on. -/
def tired (name : String) (limit : Nat) : Publisher Nat where
  name := name
  publish _ _ calls :=
    ⟨calls + 1, [], if calls < limit then .ok () else .error (.client .adapterDisabled)⟩

/-- An adapter that nobody keeps. -/
def nowhere : Adapter.Place Nat where
  get _ := Adapter.disabled
  set _ calls := calls
  fresh calls := (⟨"fresh"⟩, calls)

/-- Settings of an adapter that is disabled. -/
def idle : SettingsFile := ⟨Settings.Logging.standard, Settings.Properties.empty⟩

/-- Settings of an adapter that has no hub. -/
def hubless : SettingsFile :=
  { idle with properties := idle.properties.insert Settings.Configuration.enabledKey "true" }

def threeRegistered : List (Step Nat) :=
  [.register (tired "first" 1), .register (tired "second" 1), .register (tired "third" 1)]

/-- The second of three publishers fails, so the third is not called. Settings without a hub give no
service, and settings of a disabled adapter one in front of what is registered later. -/
theorem fan_out_stops_at_first_failure_sample :
    (∃ calls,
      Round Sample.payload (Sample.context "e")
        [tired "first" 1, tired "second" 1, tired "third" 1] 0 calls
        ⟨2, [.log (failedEvent "second" (Sample.context "e") (.client .adapterDisabled))],
          .error (.client .adapterDisabled)⟩ ∧
      calls.map (·.publisher.name) = ["first", "second"]) ∧
    Host.run ⟨Service.empty, 0⟩
        (threeRegistered ++ [.build Files.empty hubless nowhere fun _ n => n])
      = Host.run ⟨Service.empty, 0⟩ threeRegistered ∧
    Lists (Host.run ⟨Service.empty, 0⟩ (threeRegistered ++
        (.build Files.empty idle nowhere fun _ n => n) :: threeRegistered)).service
      (Adapter.publisher nowhere :: [tired "first" 1, tired "second" 1, tired "third" 1]) := by
  obtain ⟨published, refused, built⟩ :=
    fan_out_stops_at_first_failure ⟨Service.empty, 0⟩ threeRegistered
  refine ⟨?_, ?_, ?_⟩
  · obtain ⟨calls, round, -⟩ := published Sample.payload (Sample.context "e")
    have noted := congrArg (·.state.2.map (·.publisher.name)) (round.noted [])
    exact ⟨calls, round, noted.symm⟩
  · exact refused Files.empty hubless nowhere _ _ rfl
  · refine (built threeRegistered ?_).2 _ nowhere ⟨Files.empty, idle, _, _, _, rfl, rfl⟩
    intro s member place builds
    obtain ⟨_, _, _, _, _, rfl, -⟩ := builds
    simp [threeRegistered] at member

end HubPublisher.Service
