import HubPublisher.Proofs.Pool.Runs
import HubPublisher.Proofs.Settings.Numbers

/-!
Limits that are too large to be counted.

A semaphore counts at most `slotLimit` slots. The slots of all are counted when connections are
started, and those of a route at each checkout to it for which none is there yet. A limit is made at
least one, but nothing keeps it from being too large, so a number that the properties set too high
comes to light where slots are counted. Everything else goes on as it was: where the slots of a
route cannot be counted, nobody ever holds or awaits any (`Slots.perform_uncountable`), and where
they can, no action finds otherwise (`Slots.perform_countable`).
-/
namespace HubPublisher.Pool

/-- News that slots could not be counted. -/
def Uncountable (notices : List Notice) : Prop := ∃ n ∈ notices, n.ending = .uncountable

namespace Slots

variable {p : Slots}

theorem not_uncountable_granting (grants : List Checkout) : ¬Uncountable (granting grants) := by
  intro ⟨n, there, uncountable⟩
  obtain ⟨c, -, rfl⟩ := List.mem_map.1 there
  cases uncountable

theorem not_uncountable_givingUp (late : List Checkout) : ¬Uncountable (givingUp late) := by
  intro ⟨n, there, uncountable⟩
  obtain ⟨c, -, rfl⟩ := List.mem_map.1 there
  cases uncountable

theorem not_uncountable_nil : ¬Uncountable [] := nofun

theorem uncountable_append {a b : List Notice} :
    Uncountable (a ++ b) ↔ Uncountable a ∨ Uncountable b := by
  simp only [Uncountable, List.mem_append, or_and_right, exists_or]

theorem not_uncountable_expire (h : p.Sound) : ¬Uncountable p.expire.2 := by
  rw [(expire_spec h).1]
  exact not_uncountable_givingUp _

/-- Where the slots of a route can be counted, no action finds that they cannot. -/
theorem perform_countable (h : p.Sound) (countable : p.limits.perRoute ≤ slotLimit) (a : Action) :
    ¬Uncountable (p.perform a).2.notices := by
  cases a with
  | checkout t r =>
    by_cases used : p.isUsed t = true
    · simp only [perform, checkout_of_used used]
      exact not_uncountable_nil
    · have new : p.isUsed t = false := Bool.eq_false_iff.2 used
      obtain ⟨grants, notices, -⟩ := enter_flow (c := p.request t r) h new
      simp only [perform, checkout_of_new new countable, uncountable_append, not_or, notices]
      exact ⟨not_uncountable_granting grants, not_uncountable_expire (enter_sound h new)⟩
  | release t =>
    simp only [perform, release]
    cases found : p.granted.find? (·.ticket == t) with
    | none => exact not_uncountable_nil
    | some c =>
      obtain ⟨grants, notices, -⟩ := giveBack_flow h (List.mem_of_find?_eq_some found)
      simp only [notices]
      exact not_uncountable_granting grants
  | cancel t =>
    simp only [perform, cancel]
    cases found : p.waiting.find? (·.ticket == t) with
    | none => exact not_uncountable_nil
    | some c =>
      simp only [(withdraw_flow h (List.mem_of_find?_eq_some found)).1]
      exact not_uncountable_nil
  | advance ms => exact not_uncountable_expire (h.later (p.clock + ms))
  | rest => exact not_uncountable_nil

/-- Nobody holds or awaits slots. -/
def Deserted (p : Slots) : Prop := p.waiting = [] ∧ p.granted = []

/-- Where the slots of a route cannot be counted, every checkout finds that, and nobody ever holds
or awaits slots. -/
theorem perform_uncountable (deserted : p.Deserted) (uncountable : slotLimit < p.limits.perRoute)
    (a : Action) :
    (p.perform a).1.Deserted ∧
      (Uncountable (p.perform a).2.notices ↔ a.route?.isSome = true) := by
  obtain ⟨waiting, granted⟩ := deserted
  cases a with
  | checkout t r =>
    have new : p.isUsed t = false := by simp [isUsed, waiting, granted]
    simp only [perform, checkout_of_uncountable new uncountable]
    exact ⟨⟨waiting, granted⟩, iff_of_true ⟨_, List.mem_singleton_self _, rfl⟩ rfl⟩
  | release t =>
    simp only [perform, release, granted, List.find?_nil]
    exact ⟨⟨waiting, granted⟩, iff_of_false not_uncountable_nil Bool.false_ne_true⟩
  | cancel t =>
    simp only [perform, cancel, waiting, List.find?_nil]
    exact ⟨⟨waiting, granted⟩, iff_of_false not_uncountable_nil Bool.false_ne_true⟩
  | advance ms =>
    have late : ({ p with clock := p.clock + ms } : Slots).expired = [] := by simp [expired, waiting]
    simp only [perform, advance, expire, late, giveUpAll]
    exact ⟨⟨waiting, granted⟩, iff_of_false not_uncountable_nil Bool.false_ne_true⟩
  | rest => exact ⟨⟨waiting, granted⟩, iff_of_false not_uncountable_nil Bool.false_ne_true⟩

end Slots

end HubPublisher.Pool

namespace HubPublisher.Hub.Connections

open Pool (Slots Uncountable slotLimit)
open Settings (Configuration Properties)
open Trust (Store)

variable {c : Connections}

/-! ## Steps and runs -/

/-- Slots could not be counted in a step. -/
def Effect.Crashed (e : Effect) : Prop := Uncountable e.notices

/-- What a run keeps: sound slots, a client that can be built, and nobody in the slots when those of
a route cannot be counted. -/
structure Steady (c : Connections) : Prop where
  sound : c.slots.Sound
  buildable : c.Buildable
  deserted : slotLimit < c.slots.limits.perRoute → c.slots.Deserted

theorem Steady.step (h : c.Steady) (s : Step) :
    (c.step s).1.Steady ∧ (c.step s).1.slots.limits = c.slots.limits ∧
      ((c.step s).2.Crashed ↔
        s.action.route?.isSome = true ∧ slotLimit < c.slots.limits.perRoute) := by
  obtain ⟨slots, answer, buildable⟩ := step_slots h.buildable s
  have notices : (c.step s).2.notices = (c.slots.perform s.action).2.notices :=
    congrArg Pool.Answer.notices answer
  have limits := Slots.perform_limits h.sound s.action
  rw [Effect.Crashed, notices]
  by_cases uncountable : slotLimit < c.slots.limits.perRoute
  · obtain ⟨deserted, crashed⟩ :=
      Slots.perform_uncountable (h.deserted uncountable) uncountable s.action
    refine ⟨⟨slots ▸ Slots.perform_sound h.sound s.action, buildable, fun _ => slots ▸ deserted⟩,
      slots ▸ limits, ?_⟩
    rw [crashed, and_iff_left uncountable]
  · have countable := Slots.perform_countable h.sound (Nat.not_lt.1 uncountable) s.action
    refine ⟨⟨slots ▸ Slots.perform_sound h.sound s.action, buildable, fun h' => ?_⟩,
      slots ▸ limits, iff_of_false countable fun ⟨_, h'⟩ => uncountable h'⟩
    rw [slots, limits] at h'
    exact absurd h' uncountable

/-- In a run, the steps that find slots uncountable are the checkouts, if there are too many to a
route, and otherwise none. -/
theorem Steady.run (h : c.Steady) (steps : List Step) :
    List.Forall₂ (fun s e => Effect.Crashed e ↔
      s.action.route?.isSome = true ∧ slotLimit < c.slots.limits.perRoute)
      steps (c.run steps).2 := by
  induction steps generalizing c with
  | nil => exact .nil
  | cons s ss ih =>
    obtain ⟨steady, limits, crashed⟩ := h.step s
    have rest := ih steady
    rw [limits] at rest
    exact .cons crashed rest

/-! ## Limits from properties -/

/-- Connections that trust what the platform trusts start unless their slots cannot be counted. -/
theorem start_platform (config : Configuration) :
    start config Store.platform =
      if slotLimit < config.maxConnections then .error .uncountable
      else .ok (⟨config, Store.platform, true, Slots.start (limitsOf config)⟩,
        [started config Store.platform]) := by
  by_cases uncountable : slotLimit < config.maxConnections
  · have none : Slots.start? (limitsOf config) = none := if_pos uncountable
    rw [if_pos uncountable, start, none]
  · have counted : Slots.start? (limitsOf config) = some (Slots.start (limitsOf config)) :=
      if_neg uncountable
    rw [if_neg uncountable, start, counted]
    rfl

theorem steady_start (config : Configuration) :
    Steady ⟨config, Store.platform, true, Slots.start (limitsOf config)⟩ where
  sound := Slots.Sound.start (limitsOf config)
  buildable := ⟨[], rfl⟩
  deserted _ := ⟨rfl, rfl⟩

/-- The property sets a number of slots that cannot be counted. -/
def Oversized (p : Properties) (key : String) : Prop :=
  ∃ n, Configuration.Sets p key n ∧ slotLimit < n

/-- Whatever properties a configuration comes from, connections that trust what the platform trusts
can be started unless the limit in all is set too high. Then each step of each run is free of a
crash, whether the client is stopped and started or not, except that every checkout crashes when the
limit to a route is set too high. -/
theorem crash_iff_oversized (p : Properties) (config : Configuration) (warnings : List Log.Event)
    (accepted : Configuration.ofProperties p = .ok (config, warnings)) :
    (start config Store.platform = .error .uncountable ↔
      Oversized p Configuration.maxConnectionsKey) ∧
    (¬Oversized p Configuration.maxConnectionsKey →
      ∃ c logs, start config Store.platform = .ok (c, logs) ∧
        ∀ steps, List.Forall₂ (fun s e => Effect.Crashed e ↔
          s.action.route?.isSome = true ∧ Oversized p Configuration.maxConnectionsPerRouteKey)
          steps (c.run steps).2) := by
  obtain ⟨total, perRoute⟩ := Configuration.limits_of_ofProperties accepted
  -- the defaults are far below what can be counted
  have moderate : Configuration.defaultConnections ≤ slotLimit := by decide
  have total : slotLimit < config.maxConnections ↔ Oversized p Configuration.maxConnectionsKey := by
    rw [total]
    exact Configuration.lt_readNumber moderate
  have perRoute : slotLimit < config.maxConnectionsPerRoute ↔
      Oversized p Configuration.maxConnectionsPerRouteKey := by
    rw [perRoute]
    exact Configuration.lt_readNumber moderate
  rw [start_platform, ← total, ← perRoute]
  constructor
  · by_cases uncountable : slotLimit < config.maxConnections
    · rw [if_pos uncountable]
      exact iff_of_true rfl uncountable
    · rw [if_neg uncountable]
      exact iff_of_false nofun uncountable
  · intro countable
    rw [if_neg countable]
    exact ⟨_, _, rfl, (steady_start config).run⟩

/-- Properties that set the limit to a route one above what can be counted. -/
def oversizedProperties : Properties :=
  Properties.empty.insert Configuration.maxConnectionsPerRouteKey "2305843009213693952"

def oversizedConfig : Configuration :=
  { Configuration.disabled with maxConnectionsPerRoute := 2305843009213693952 }

theorem oversized_accepted :
    Configuration.ofProperties oversizedProperties = .ok (oversizedConfig, []) := rfl

theorem crash_iff_oversized_sample :
    Configuration.ofProperties oversizedProperties = .ok (oversizedConfig, []) ∧
    ¬Oversized oversizedProperties Configuration.maxConnectionsKey ∧
    ∃ c logs, start oversizedConfig Store.platform = .ok (c, logs) ∧
      ∀ steps, List.Forall₂ (fun s e => Effect.Crashed e ↔ s.action.route?.isSome = true ∧
        Oversized oversizedProperties Configuration.maxConnectionsPerRouteKey)
        steps (c.run steps).2 := by
  have moderate : ¬Oversized oversizedProperties Configuration.maxConnectionsKey := by
    intro ⟨n, ⟨raw, there, _⟩, _⟩
    -- the limit in all is not set
    have unset : oversizedProperties.get? Configuration.maxConnectionsKey = none := rfl
    rw [unset] at there
    cases there
  exact ⟨oversized_accepted, moderate,
    (crash_iff_oversized oversizedProperties oversizedConfig [] oversized_accepted).2 moderate⟩

/-- An accepted configuration crashes the first checkout when it allows too many slots to a route,
and the start when it allows too many in all. -/
theorem oversized_limit_crashes :
    Configuration.ofProperties oversizedProperties = .ok (oversizedConfig, []) ∧
    (∃ c logs, start oversizedConfig Store.platform = .ok (c, logs) ∧
      ∃ e, (c.run [.checkout 1 (sampleUrl "hub.example.com")]).2 = [e] ∧ e.Crashed) ∧
    ∃ config, Configuration.ofProperties (Properties.empty.insert Configuration.maxConnectionsKey
        "2305843009213693952") = .ok (config, []) ∧
      start config Store.platform = .error .uncountable := by
  refine ⟨oversized_accepted, ⟨_, _, rfl, _, rfl, ?_⟩, _, rfl, rfl⟩
  exact ⟨_, List.mem_singleton_self _, rfl⟩

end HubPublisher.Hub.Connections
