import HubPublisher.Proofs.Pool.Apart
import HubPublisher.Proofs.Url.Origin
import Mathlib.Data.List.Forall2

/-!
Routes are origins, and origins do not get in each other's way.

The route of a URL is its origin, and so URLs with the schemes `http` and `https` share a route just
when they agree in scheme, host and port. As long as nobody has to wait for a slot of all, a run may
be thinned out by everything that concerns other origins: turn by turn the rest comes to what it
came to before (`turns_apart`). The two runs go on side by side, and after each turn the thinned one
has of the waiting and granted checkouts those that were not left out.
-/
namespace HubPublisher.Hub.Connections

open Pool (Slots kept keptNews)
open Trust (Store)

variable {keep : String → Prop} [DecidablePred keep] {c d : Connections} {s : Step}
  {steps : List Step} {o u v : Url}

/-! ## Turns side by side -/

/-- In a turn nobody has to wait for a slot of all: whoever gets one of its route is granted. -/
def Turn.Prompt (u : Turn) : Prop :=
  ∀ k ∈ u.before.slots.seats u.step.action, ⟨k, .granted⟩ ∈ u.effect.notices

/-- A turn concerns a checkout on a route that is not kept: its step asks for one, or names one that
waits or holds slots. -/
def Turn.Elsewhere (keep : String → Prop) (u : Turn) : Prop :=
  u.before.slots.Elsewhere keep u.step.action

instance (u : Turn) : Decidable u.Prompt :=
  inferInstanceAs (Decidable (∀ k ∈ u.before.slots.seats u.step.action, _ ∈ _))

instance (u : Turn) : Decidable (u.Elsewhere keep) :=
  inferInstanceAs (Decidable (u.before.slots.Elsewhere keep u.step.action))

/-- A turn of a run and one of a thinned run come to the same on the routes that are kept, at the
same time. -/
structure Turn.Agrees (keep : String → Prop) [DecidablePred keep] (u v : Turn) : Prop where
  step : v.step = u.step
  found : v.effect.found = u.effect.found
  refusal : v.effect.refusal = u.effect.refusal
  notices : v.effect.notices = keptNews keep u.effect.notices
  clock : v.after.slots.clock = u.after.slots.clock
  waiting : v.after.slots.waiting = kept keep u.after.slots.waiting
  granted : v.after.slots.granted = kept keep u.after.slots.granted

theorem prompt_slots (buildable : c.Buildable)
    (prompt : Turn.Prompt ⟨s, c, (c.step s).2, (c.step s).1⟩) : c.slots.Prompt s.action := by
  have answer := (step_slots buildable s).2.1
  intro k seated
  rw [← answer]
  exact prompt k seated

/-- A step that concerns no other route does the same to both. -/
theorem turn_kept (apart : c.slots.Apart keep d.slots) (hc : c.Buildable) (hd : d.Buildable)
    (prompt : Turn.Prompt ⟨s, c, (c.step s).2, (c.step s).1⟩)
    (mine : ¬c.slots.Elsewhere keep s.action) :
    Turn.Agrees keep ⟨s, c, (c.step s).2, (c.step s).1⟩ ⟨s, d, (d.step s).2, (d.step s).1⟩ ∧
      (c.step s).1.slots.Apart keep (d.step s).1.slots := by
  obtain ⟨slots, answer, -⟩ := step_slots hc s
  obtain ⟨slots', answer', -⟩ := step_slots hd s
  obtain ⟨told, after⟩ := apart.perform_kept (prompt_slots hc prompt) mine
  rw [← slots, ← slots'] at after
  rw [← answer, ← answer'] at told
  refine ⟨⟨rfl, congrArg Pool.Answer.found told, ?_, congrArg Pool.Answer.notices told,
    after.clock, after.waiting, after.granted⟩, after⟩
  exact (step_client hd s).2.2.1.trans (step_client hc s).2.2.1.symm

/-- A step that concerns another route tells nothing of those that are kept, and is nothing to a run
that does not make it. -/
theorem turn_elsewhere (apart : c.slots.Apart keep d.slots) (hc : c.Buildable)
    (timely : c.slots.Timely) (prompt : Turn.Prompt ⟨s, c, (c.step s).2, (c.step s).1⟩)
    (elsewhere : c.slots.Elsewhere keep s.action) :
    keptNews keep (c.step s).2.notices = [] ∧ (c.step s).1.slots.Apart keep d.slots := by
  obtain ⟨slots, answer, -⟩ := step_slots hc s
  obtain ⟨told, after⟩ := apart.perform_elsewhere timely (prompt_slots hc prompt) elsewhere
  rw [← slots] at after
  rw [← answer] at told
  exact ⟨told, after⟩

/-- Without the turns that concern other routes, every turn that is left comes to what it came to,
and those that are left out told nothing of the routes that are kept. -/
theorem turns_apart (apart : c.slots.Apart keep d.slots)
    (hc : c.Buildable) (hd : d.Buildable) (timely : c.slots.Timely)
    (prompt : ∀ u ∈ c.turns steps, u.Prompt) :
    List.Forall₂ (Turn.Agrees keep) ((c.turns steps).filter (¬·.Elsewhere keep))
        (d.turns (((c.turns steps).filter (¬·.Elsewhere keep)).map (·.step))) ∧
      ∀ u ∈ c.turns steps, u.Elsewhere keep → keptNews keep u.effect.notices = [] := by
  induction steps generalizing c d with
  | nil => exact ⟨.nil, fun _ member => absurd member List.not_mem_nil⟩
  | cons s ss ih =>
    have first : c.turns (s :: ss)
      = ⟨s, c, (c.step s).2, (c.step s).1⟩ :: (c.step s).1.turns ss := rfl
    rw [first, List.forall_mem_cons] at prompt
    rw [first, List.forall_mem_cons, List.filter_cons]
    obtain ⟨here, later⟩ := prompt
    obtain ⟨slots, -, buildable⟩ := step_slots hc s
    have sound := apart.sound
    have next : (c.step s).1.slots.Timely :=
      slots ▸ (Slots.perform_performs sound s.action).timely sound timely
    by_cases elsewhere : c.slots.Elsewhere keep s.action
    · obtain ⟨untold, after⟩ := turn_elsewhere apart hc timely here elsewhere
      obtain ⟨rest, others⟩ := ih after buildable hd next later
      have left : Turn.Elsewhere keep ⟨s, c, (c.step s).2, (c.step s).1⟩ := elsewhere
      rw [if_neg (by simp [left])]
      exact ⟨rest, fun _ => untold, others⟩
    · obtain ⟨agrees, after⟩ := turn_kept apart hc hd here elsewhere
      obtain ⟨rest, others⟩ := ih after buildable (step_slots hd s).2.2 next later
      have stays : ¬Turn.Elsewhere keep ⟨s, c, (c.step s).2, (c.step s).1⟩ := elsewhere
      rw [if_pos (by simp [stays]), List.map_cons]
      exact ⟨.cons agrees rest, fun left => absurd left stays, others⟩

/-! ## Origins -/

/-- A route that a run keeps when it is thinned out to one origin: that of the given URL, or none
that a URL with the scheme `http` or `https` has. -/
def Stays (o : Url) (route : String) : Prop :=
  ∀ v : Url, v.IsWeb → routeOf v = route → routeOf v = routeOf o

/-- URLs with the schemes `http` and `https` share a route just when they agree in scheme, host and
port, whatever else they have. And of connections that were started and any steps in which nobody
has to wait for a slot of all, without the steps that ask for connections to other origins than one
or name such a checkout, every step that is left answers as it did, but for news of checkouts to
other origins, and leaves the same checkouts waiting and granted, but for those. The steps that are
left out tell nothing of the others. -/
theorem routes_are_apart :
    (∀ u v : Url, u.IsWeb → v.IsWeb → (routeOf u = routeOf v ↔
      u.scheme = v.scheme ∧ u.host = v.host ∧ u.effectivePort = v.effectivePort)) ∧
    ∀ (o : Url) [DecidablePred (Stays o)] (config : Settings.Configuration) (trust : Store)
      (c : Connections) (logs : List Log.Event) (steps : List Step),
      start config trust = .ok (c, logs) →
      (∀ u ∈ c.turns steps, u.Prompt) →
      List.Forall₂ (Turn.Agrees (Stays o)) ((c.turns steps).filter (¬·.Elsewhere (Stays o)))
          (c.turns (((c.turns steps).filter (¬·.Elsewhere (Stays o))).map (·.step))) ∧
        ∀ u ∈ c.turns steps, u.Elsewhere (Stays o) →
          keptNews (Stays o) u.effect.notices = [] := by
  refine ⟨fun u v hu hv => Url.origin_eq_iff hu hv, ?_⟩
  intro o _ config trust c logs steps started prompt
  obtain ⟨slots, buildable⟩ := start_eq started
  have apart : c.slots.Apart (Stays o) c.slots := by
    rw [slots]
    exact .start (limitsOf config)
  have timely : c.slots.Timely := by
    rw [slots]
    exact .start (limitsOf config)
  exact turns_apart apart buildable buildable timely prompt

/-! ## A sample -/

/-- A URL on an address that ends in the given piece. -/
def pieceUrl (n : Nat) : Url where
  scheme := "https"
  authority := some ⟨"", "", some (.pieces [0, 0, 0, 0, 0, 0, 0, n]), none⟩
  path := "/hub"
  query := none
  fragment := none

/-- The first of them with a user, another path and more, and its port written out. -/
def variedUrl : Url where
  scheme := "https"
  authority := some ⟨"u", "p", some (.pieces [0, 0, 0, 0, 0, 0, 0, 1]), none⟩
  path := "/"
  query := some "q"
  fragment := some "f"

theorem pieceUrl_isWeb : (pieceUrl 1).IsWeb ∧ (pieceUrl 2).IsWeb ∧ variedUrl.IsWeb := by
  have read : Url.parse "https://[::1]/hub" = .ok (pieceUrl 1) := rfl
  have read' : Url.parse "https://[::2]/hub" = .ok (pieceUrl 2) := rfl
  have varied : Url.parse "HTTPS://u:p@[0:0::0001]:443?q#f" = .ok variedUrl := rfl
  exact ⟨.read read (.inr rfl), .read read' (.inr rfl), .read varied (.inr rfl)⟩

/-- Checkouts to two origins: of those to the first, two wait for the slot of the first of them, and
one of these gets it while the other is late. -/
def sampleMixed : List Step :=
  [.checkout 1 (pieceUrl 1), .checkout 2 (pieceUrl 2), .channelCheckout 3 variedUrl,
    .checkout 4 (pieceUrl 2), .release 2, .cancel 2, .advance 500, .checkout 5 (pieceUrl 1),
    .release 1, .release 4, .advance 1000]

/-- The steps for the first origin, and those that concern no checkout. -/
def sampleMine : List Step :=
  [.checkout 1 (pieceUrl 1), .channelCheckout 3 variedUrl, .cancel 2, .advance 500,
    .checkout 5 (pieceUrl 1), .release 1, .advance 1000]

/-- Of the two routes in the sample the first stays. -/
theorem stays_iff_of_pieceUrl {r : String}
    (among : r = routeOf (pieceUrl 1) ∨ r = routeOf (pieceUrl 2)) :
    Stays (pieceUrl 1) r ↔ r = routeOf (pieceUrl 1) := by
  constructor
  · rintro stays
    rcases among with same | rfl
    · exact same
    · exact stays (pieceUrl 2) pieceUrl_isWeb.2.1 rfl
  · rintro rfl v - same
    exact same

/-- The varied URL shares the route of the first and not that of the second. Nobody in the sample
has to wait for a slot of all, and what is left of it for the first origin comes to what it came to
before. -/
theorem routes_are_apart_sample :
    routeOf variedUrl = routeOf (pieceUrl 1) ∧ routeOf variedUrl ≠ routeOf (pieceUrl 2) ∧
    (∀ u ∈ sampleStart.turns sampleMixed, u.Prompt) ∧
    ∃ mine : List Turn, mine.Sublist (sampleStart.turns sampleMixed) ∧
      mine.map (·.step) = sampleMine ∧
      List.Forall₂ (fun u v => v.step = u.step ∧ ∀ k e, k.route = routeOf (pieceUrl 1) →
        (⟨k, e⟩ ∈ v.effect.notices ↔ ⟨k, e⟩ ∈ u.effect.notices))
        mine (sampleStart.turns sampleMine) := by
  obtain ⟨shared, thinned⟩ := routes_are_apart
  obtain ⟨web, web', varied⟩ := pieceUrl_isWeb
  have prompt : ∀ u ∈ sampleStart.turns sampleMixed, u.Prompt := by decide +kernel
  refine ⟨(shared _ _ varied web).2 (by decide), fun same => ?_, prompt, ?_⟩
  · exact absurd ((shared _ _ varied web').1 same).2.1 (by decide)
  -- the routes in the sample are those of the two URLs, so it can be told which of them stays
  have routes : ∀ u ∈ sampleStart.turns sampleMixed,
      (∀ r ∈ u.step.action.route?, r = routeOf (pieceUrl 1) ∨ r = routeOf (pieceUrl 2)) ∧
      ∀ k ∈ u.before.slots.waiting ++ u.before.slots.granted,
        k.route = routeOf (pieceUrl 1) ∨ k.route = routeOf (pieceUrl 2) := by decide +kernel
  let _ := Classical.decPred (Stays (pieceUrl 1))
  obtain ⟨agree, -⟩ := thinned (pieceUrl 1) sampleConfig Store.platform sampleStart _ sampleMixed
    sample_started prompt
  have mine : (sampleStart.turns sampleMixed).filter (¬·.Elsewhere (Stays (pieceUrl 1)))
      = (sampleStart.turns sampleMixed).filter (¬·.Elsewhere (· = routeOf (pieceUrl 1))) := by
    refine List.filter_congr fun u member => decide_eq_decide.2 (not_congr ?_)
    obtain ⟨asked, there⟩ := routes u member
    exact Slots.elsewhere_congr (fun r hr => stays_iff_of_pieceUrl (asked r hr))
      fun k hk => stays_iff_of_pieceUrl (there k hk)
  have steps : ((sampleStart.turns sampleMixed).filter
      (¬·.Elsewhere (· = routeOf (pieceUrl 1)))).map (·.step) = sampleMine := by decide +kernel
  rw [mine, steps] at agree
  refine ⟨_, List.filter_sublist, steps, agree.imp fun u v same => ⟨same.step, fun k e on => ?_⟩⟩
  have stays : Stays (pieceUrl 1) k.route := (stays_iff_of_pieceUrl (.inl on)).2 on
  rw [same.notices, keptNews, List.mem_filter]
  exact and_iff_left (decide_eq_true stays)

end HubPublisher.Hub.Connections
