import HubPublisher.Proofs.Adapter.Setup

/-!
The client, stopped and started between checkouts.

The slots belong to the connections and not to the client. A step that concerns the client alone
leaves the slots as they are, and a checkout that needs the client is for the slots a checkout like
any other. So of two runs that differ in nothing else each checkout comes to the same end at the
same step (`turns_without_client`). The other way round, whether the client runs is told by the
steps that concern it, whatever became of the checkouts (`running_run`).
-/
namespace HubPublisher.Hub.Connections

open Pool (Action Answer Slots)
open Trust (Store)

variable {c d : Connections} {config : Settings.Configuration} {trust : Store}
  {logs : List Log.Event} {s s' : Step} {steps : List Step}

/-! ## Turns -/

/-- One step of a run, between the connections before and after it. -/
structure Turn where
  step : Step
  before : Connections
  effect : Effect
  after : Connections

/-- The steps of a run in order. -/
def turns (c : Connections) : List Step → List Turn
  | [] => []
  | s :: ss => ⟨s, c, (c.step s).2, (c.step s).1⟩ :: (c.step s).1.turns ss

/-- What a turn tells of the checkouts: which of them came to which end, and the slots behind it. -/
def Turn.ofSlots (t : Turn) : Answer × Slots := (t.effect.answer, t.after.slots)

/-! ## Steps without the client -/

/-- A step as far as it concerns the slots: a checkout that needs the client is a checkout, and of
what concerns no slot nothing is left. -/
def Step.withoutClient? : Step → Option Step
  | .channelCheckout t url => some (.checkout t url)
  | .stop => none
  | .client => none
  | .spawn => none
  | s => some s

theorem action_of_withoutClient?_some (h : s.withoutClient? = some s') : s'.action = s.action := by
  cases s <;> cases h <;> rfl

theorem action_of_withoutClient?_none (h : s.withoutClient? = none) : s.action = .rest := by
  cases s <;> first | rfl | cases h

/-- Without the steps that concern the client alone, the slots answer as they did. -/
theorem turns_without_client (same : c.slots = d.slots) (hc : c.Buildable) (hd : d.Buildable)
    (steps : List Step) :
    ((c.turns steps).filter (·.step.withoutClient?.isSome)).map Turn.ofSlots
      = (d.turns (steps.filterMap Step.withoutClient?)).map Turn.ofSlots := by
  induction steps generalizing c d with
  | nil => rfl
  | cons s ss ih =>
    obtain ⟨slots, answer, buildable⟩ := step_slots hc s
    cases left : s.withoutClient? with
    | none =>
      rw [action_of_withoutClient?_none left] at slots
      have rest := ih (slots.trans same) buildable hd
      simpa [turns, left] using rest
    | some s' =>
      obtain ⟨slots', answer', buildable'⟩ := step_slots hd s'
      -- both steps put the same slots through the same action
      rw [action_of_withoutClient?_some left, ← same] at slots' answer'
      have after : (c.step s).1.slots = (d.step s').1.slots := slots.trans slots'.symm
      have here : Turn.ofSlots ⟨s, c, (c.step s).2, (c.step s).1⟩
          = Turn.ofSlots ⟨s', d, (d.step s').2, (d.step s').1⟩ :=
        Prod.ext (answer.trans answer'.symm) after
      have rest := ih after buildable buildable'
      simpa [turns, left, here] using rest

/-! ## Whether the client runs -/

/-- Whether a step needs the client to run. -/
def Step.needsClient : Step → Bool
  | .channelCheckout _ _ => true
  | .client => true
  | _ => false

def Step.isStop : Step → Bool
  | .stop => true
  | _ => false

theorem logs_of_buildClient (h : buildClient trust = .ok logs) : logs = [] ∨ logs = [trusting] := by
  unfold buildClient at h
  split at h
  · cases h
  · exact .inl (Except.ok.inj h).symm
  · exact .inr (Except.ok.inj h).symm

/-- That the client was stopped is not what a start logs. -/
theorem stopped_not_mem_start (started : start config trust = .ok (c, logs)) : stopped ∉ logs := by
  unfold start at started
  split at started
  · cases started
  · split at started
    · cases started
    · rename_i built buildable
      obtain ⟨-, rfl⟩ := Prod.mk.inj (Except.ok.inj started)
      have other : stopped ≠ Connections.started config trust := by
        simp [stopped, Connections.started, Log.event]
      have another : stopped ≠ trusting := by decide
      rcases logs_of_buildClient buildable with rfl | rfl
      · simp [other]
      · simp [other, another]

/-- A client that is needed runs, and that it was stopped is not what this logs. -/
theorem ensureRunning_running (h : c.Buildable) :
    ∃ logs, c.ensureRunning = (.ok { c with running := true }, logs) ∧ stopped ∉ logs := by
  obtain ⟨built, h⟩ := h
  unfold ensureRunning
  split_ifs with running
  · exact ⟨[], by rw [← running], List.not_mem_nil⟩
  · rw [h]
    refine ⟨restarting :: built, rfl, ?_⟩
    rcases logs_of_buildClient h with rfl | rfl
    · decide
    · decide

/-- What a step does with the client: whether it runs afterwards, and whether it is logged that it
was stopped. Nothing keeps a step from being made. -/
theorem step_client (h : c.Buildable) (s : Step) :
    (c.step s).1.running = (s.needsClient || !s.isStop && c.running) ∧
    (c.step s).2.logs.count stopped = (if s.isStop = true ∧ c.running = true then 1 else 0) ∧
    (c.step s).2.refusal = none ∧
    (c.step s).1.config = c.config := by
  obtain ⟨logs, ensured, quiet⟩ := ensureRunning_running h
  have unlogged : logs.count stopped = 0 := List.count_eq_zero.2 quiet
  cases s with
  | checkout t url => exact ⟨rfl, rfl, rfl, rfl⟩
  | channelCheckout t url =>
    simp only [step, ensured]
    exact ⟨rfl, unlogged, rfl, rfl⟩
  | release t => exact ⟨rfl, rfl, rfl, rfl⟩
  | cancel t => exact ⟨rfl, rfl, rfl, rfl⟩
  | advance ms => exact ⟨rfl, rfl, rfl, rfl⟩
  | stop =>
    by_cases running : c.running = true
    · simp [step, stop, running, Step.needsClient, Step.isStop, Effect.none]
    · simp [step, stop, running, Step.needsClient, Step.isStop, Effect.none]
  | client =>
    simp only [step, ensured]
    exact ⟨rfl, unlogged, rfl, trivial⟩
  | spawn => exact ⟨rfl, rfl, rfl, rfl⟩

/-- The client was needed after every stop. -/
def NeededSinceStop (steps : List Step) : Prop :=
  ∀ since, .stop :: since <:+ steps → ∃ s ∈ since, s.needsClient = true

theorem neededSinceStop_cons :
    NeededSinceStop (s :: steps) ↔
      NeededSinceStop steps ∧ (s = .stop → ∃ s ∈ steps, s.needsClient = true) := by
  constructor
  · intro needed
    refine ⟨fun since after => needed since (List.suffix_cons_iff.2 (.inr after)), ?_⟩
    rintro rfl
    exact needed steps (List.suffix_refl _)
  · intro ⟨needed, here⟩ since after
    rcases List.suffix_cons_iff.1 after with same | later
    · obtain ⟨rfl, rfl⟩ := List.cons.inj same
      exact here rfl
    · exact needed since later

/-- After a run the client runs if it was needed after every stop, and it ran before or was needed
at all. -/
theorem running_run (h : c.Buildable) (steps : List Step) :
    (c.run steps).1.running = true ↔
      NeededSinceStop steps ∧ (c.running = true ∨ ∃ s ∈ steps, s.needsClient = true) := by
  induction steps generalizing c with
  | nil =>
    have none_stops : NeededSinceStop [] := fun since after => by simp at after
    simp [run, none_stops]
  | cons s ss ih =>
    have running := (step_client h s).1
    have rest := ih (step_slots h s).2.2
    rw [running] at rest
    rw [neededSinceStop_cons]
    show ((c.step s).1.run ss).1.running = true ↔ _
    rw [rest]
    cases s with
    | stop =>
      -- from here on it has to be needed again
      have behind : (∃ s ∈ Step.stop :: ss, s.needsClient = true) ↔
          ∃ s ∈ ss, s.needsClient = true := by simp [Step.needsClient]
      have stops : (Step.stop.needsClient || !Step.stop.isStop && c.running) = false := rfl
      rw [behind, stops]
      tauto
    | _ => simp [Step.needsClient, Step.isStop]

/-! ## All together -/

/-- The client can be built, and this is what it is built from. -/
structure BuiltFrom (config : Settings.Configuration) (trust : Store) (c : Connections) : Prop where
  buildable : c.Buildable
  config_eq : c.config = config
  trust_eq : c.trust = trust

theorem BuiltFrom.start (started : start config trust = .ok (c, logs)) :
    BuiltFrom config trust c := by
  obtain ⟨-, buildable⟩ := start_eq started
  obtain rfl := eq_of_start started
  exact ⟨buildable, rfl, rfl⟩

theorem BuiltFrom.step (h : BuiltFrom config trust c) (s : Step) :
    BuiltFrom config trust (c.step s).1 where
  buildable := (step_slots h.buildable s).2.2
  config_eq := (step_client h.buildable s).2.2.2.trans h.config_eq
  trust_eq := (trust_of_step c s).trans h.trust_eq

/-- At every turn of a run the connections are built alike. -/
theorem BuiltFrom.turn (h : BuiltFrom config trust c) {t : Turn} (member : t ∈ c.turns steps) :
    ∃ d s, BuiltFrom config trust d ∧ t = ⟨s, d, (d.step s).2, (d.step s).1⟩ := by
  induction steps generalizing c with
  | nil => exact absurd member List.not_mem_nil
  | cons s ss ih =>
    rcases List.mem_cons.1 member with rfl | later
    · exact ⟨c, s, h, rfl⟩
    · exact ih (h.step s) later

/-- Of connections that were started and any steps after that:
1. without the steps that concern the client alone, and with plain checkouts in place of those that
   need the client, every step that is left answers as it did, and the slots behind it are the same;
2. the steps that are left out neither bring a checkout to its end nor touch a slot;
3. the client runs at the end just when it was needed after every stop;
4. a client that is needed is never refused and runs then, as what it is built from stays as it was;
5. that it was stopped is logged once by each stop that finds it running, and by nothing else. -/
theorem restart_keeps_slots (started : start config trust = .ok (c, logs)) (steps : List Step) :
    ((c.turns steps).filter (·.step.withoutClient?.isSome)).map Turn.ofSlots
      = (c.turns (steps.filterMap Step.withoutClient?)).map Turn.ofSlots ∧
    (∀ t ∈ c.turns steps, t.step.withoutClient? = none →
      t.effect.answer = ⟨false, []⟩ ∧ t.after.slots = t.before.slots) ∧
    ((c.run steps).1.running = true ↔ NeededSinceStop steps) ∧
    (∀ t ∈ c.turns steps, t.effect.refusal = none ∧
      (t.step.needsClient = true → t.after.running = true) ∧
      t.after.config = config ∧ t.after.trust = trust) ∧
    (logs.count stopped = 0 ∧ ∀ t ∈ c.turns steps, t.effect.logs.count stopped
      = if t.step.isStop = true ∧ t.before.running = true then 1 else 0) := by
  have built := BuiltFrom.start started
  have running : c.running = true := by rw [eq_of_start started]
  refine ⟨turns_without_client rfl built.buildable built.buildable steps, ?_, ?_, ?_, ?_, ?_⟩
  · intro t member left
    obtain ⟨d, s, built, rfl⟩ := built.turn member
    obtain ⟨slots, answer, -⟩ := step_slots built.buildable s
    rw [action_of_withoutClient?_none left] at slots answer
    exact ⟨answer, slots⟩
  · rw [running_run built.buildable]
    exact and_iff_left (.inl running)
  · intro t member
    obtain ⟨d, s, built, rfl⟩ := built.turn member
    obtain ⟨runs, -, refusal, -⟩ := step_client built.buildable s
    have next := built.step s
    refine ⟨refusal, fun needed => ?_, next.config_eq, next.trust_eq⟩
    exact runs.trans (Bool.or_eq_true_iff.2 (.inl needed))
  · exact List.count_eq_zero.2 (stopped_not_mem_start started)
  · intro t member
    obtain ⟨d, s, built, rfl⟩ := built.turn member
    exact (step_client built.buildable s).2.1

/-- Checkouts of one slot, between which the client is stopped and started: the second waits for
the slot that the first gives back, and the third is late. -/
def sampleRestarts : List Step :=
  [.checkout 1 (sampleUrl "a"), .channelCheckout 2 (sampleUrl "a"), .stop, .spawn, .stop, .client,
    .release 1, .stop, .advance 500, .channelCheckout 3 (sampleUrl "a"), .stop, .advance 1000]

/-- The same checkouts with the client left alone. -/
def sampleCheckouts : List Step :=
  [.checkout 1 (sampleUrl "a"), .checkout 2 (sampleUrl "a"), .release 1, .advance 500,
    .checkout 3 (sampleUrl "a"), .advance 1000]

theorem restart_keeps_slots_sample :
    start sampleConfig Store.platform
      = .ok (sampleStart, [Connections.started sampleConfig Store.platform]) ∧
    ((sampleStart.turns sampleRestarts).filter (·.step.withoutClient?.isSome)).map Turn.ofSlots
      = (sampleStart.turns sampleCheckouts).map Turn.ofSlots ∧
    ((sampleStart.run sampleRestarts).1.running = true ↔ NeededSinceStop sampleRestarts) ∧
    ((sampleStart.run sampleRestarts).2.flatMap (·.logs)).count stopped = 3 := by
  obtain ⟨same, -, running, -⟩ := restart_keeps_slots sample_started sampleRestarts
  exact ⟨sample_started, same, running, by decide⟩

end HubPublisher.Hub.Connections
