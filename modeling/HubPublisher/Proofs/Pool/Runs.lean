import HubPublisher.Hub.Connections
import HubPublisher.Proofs.Pool.Acts

/-!
Runs of the slots and of the connections that own them.

The slots know five actions. Each is a course of acts (`perform_course`), so what the acts keep, an
action keeps, and so does a run of any length: above all the slots stay sound (`run_sound`).
Connections that could be started put their slots through the actions of their steps (`run_slots`):
neither the client nor the certificates have a say in who is granted.
-/
namespace HubPublisher.Pool

/-- What can happen to the slots. -/
inductive Action where
  | checkout (t : Ticket) (route : String)
  | release (t : Ticket)
  | cancel (t : Ticket)
  | advance (ms : Nat)
  /-- Something that concerns no slot. -/
  | rest

/-- The route that an action asks for, if it asks for one. -/
def Action.route? : Action → Option String
  | .checkout _ r => some r
  | _ => none

/-- What an action brings about. -/
structure Answer where
  /-- Whether there was something to release or to cancel. -/
  found : Bool
  /-- The checkouts that came to their end, in order. -/
  notices : List Notice
  deriving DecidableEq, Repr

namespace Slots

variable {p q : Slots} {c : Checkout} {t : Ticket} {r : String}

def perform (p : Slots) : Action → Slots × Answer
  | .checkout t r => let (p, notices) := p.checkout t r; (p, ⟨false, notices⟩)
  | .release t => let (p, found, notices) := p.release t; (p, ⟨found, notices⟩)
  | .cancel t => let (p, found, notices) := p.cancel t; (p, ⟨found, notices⟩)
  | .advance ms => let (p, notices) := p.advance ms; (p, ⟨false, notices⟩)
  | .rest => (p, ⟨false, []⟩)

def run (p : Slots) : List Action → Slots × List Answer
  | [] => (p, [])
  | a :: as =>
    let (p, first) := p.perform a
    let (p, rest) := p.run as
    (p, first :: rest)

/-! ## Operations by their acts -/

theorem checkout_of_used (used : p.isUsed t = true) : p.checkout t r = (p, []) := by
  simp [checkout, used]

theorem checkout_of_uncountable (new : p.isUsed t = false) (h : slotLimit < p.limits.perRoute) :
    p.checkout t r = (p, [⟨p.request t r, .uncountable⟩]) := by
  simp [checkout, new, h]

/-- A checkout under a new ticket enters, and then whoever is late gives up. -/
theorem checkout_of_new (new : p.isUsed t = false) (h : p.limits.perRoute ≤ slotLimit) :
    p.checkout t r = ((p.enter (p.request t r)).1.expire.1,
      (p.enter (p.request t r)).2 ++ (p.enter (p.request t r)).1.expire.2) := by
  simp [checkout, new, Nat.not_lt.2 h]

/-- Nothing is given back under a ticket that holds nothing. -/
theorem release_of_not_granted (h : ∀ k ∈ p.granted, k.ticket ≠ t) :
    p.release t = (p, false, []) := by
  have none : p.granted.find? (·.ticket == t) = none := by simpa using h
  simp [release, none]

theorem release_of_granted (h : p.Sound) (hc : c ∈ p.granted) :
    p.release c.ticket = ((p.giveBack c).1, true, (p.giveBack c).2) := by
  simp [release, h.find_granted hc]

/-- Nobody is withdrawn under a ticket that does not wait. -/
theorem cancel_of_not_waiting (h : ∀ k ∈ p.waiting, k.ticket ≠ t) :
    p.cancel t = (p, false, []) := by
  have none : p.waiting.find? (·.ticket == t) = none := by simpa using h
  simp [cancel, none]

theorem cancel_of_waiting (h : p.Sound) (hc : c ∈ p.waiting) :
    p.cancel c.ticket = ((p.withdraw c).1, true, (p.withdraw c).2) := by
  simp [cancel, h.find_waiting hc]

/-! ## Who starts, and who gets a slot of its route -/

/-- The checkout that an action starts, if it starts one. -/
def starts (p : Slots) : Action → List Checkout
  | .checkout t r => if p.isUsed t ∨ slotLimit < p.limits.perRoute then [] else [p.request t r]
  | _ => []

/-- What an action can do to the slots, with who enters and the news. -/
inductive Performs (p : Slots) : Action → Slots → List Checkout → List Notice → Prop where
  /-- Nothing happens, or a checkout is refused. -/
  | idle {a ns} : (∀ n ∈ ns, n.ending = .uncountable) → Performs p a p [] ns
  | enter {t : Ticket} {r : String} : p.isUsed t = false →
      Performs p (.checkout t r) (p.enter (p.request t r)).1.expire.1 [p.request t r]
        ((p.enter (p.request t r)).2 ++ (p.enter (p.request t r)).1.expire.2)
  | giveBack {c : Checkout} : c ∈ p.granted →
      Performs p (.release c.ticket) (p.giveBack c).1 [] (p.giveBack c).2
  | withdraw {c : Checkout} : c ∈ p.waiting →
      Performs p (.cancel c.ticket) (p.withdraw c).1 [] []
  | advance (ms : Nat) :
      Performs p (.advance ms) ({ p with clock := p.clock + ms } : Slots).expire.1 []
        ({ p with clock := p.clock + ms } : Slots).expire.2

theorem perform_performs (h : p.Sound) (a : Action) :
    Performs p a (p.perform a).1 (p.starts a) (p.perform a).2.notices := by
  cases a with
  | checkout t r =>
    by_cases refused : p.isUsed t ∨ slotLimit < p.limits.perRoute
    · rw [starts, if_pos refused]
      by_cases used : p.isUsed t = true
      · simp only [perform, checkout_of_used used]
        exact .idle nofun
      · have new : p.isUsed t = false := Bool.eq_false_iff.2 used
        simp only [perform, checkout_of_uncountable new (refused.resolve_left used)]
        exact .idle (by simp)
    · rw [starts, if_neg refused]
      obtain ⟨unused, countable⟩ := not_or.1 refused
      have new : p.isUsed t = false := Bool.eq_false_iff.2 unused
      simp only [perform, checkout_of_new new (Nat.not_lt.1 countable)]
      exact .enter new
  | release t =>
    simp only [perform, release, starts]
    cases found : p.granted.find? (·.ticket == t) with
    | none => exact .idle nofun
    | some c =>
      have named : c.ticket = t := by simpa using List.find?_some found
      subst named
      exact .giveBack (List.mem_of_find?_eq_some found)
  | cancel t =>
    simp only [perform, cancel, starts]
    cases found : p.waiting.find? (·.ticket == t) with
    | none => exact .idle nofun
    | some c =>
      have waits := List.mem_of_find?_eq_some found
      have named : c.ticket = t := by simpa using List.find?_some found
      subst named
      simp only [(withdraw_flow h waits).1]
      exact .withdraw waits
  | advance ms => exact .advance ms
  | rest => exact .idle nofun

/-- Who gets a slot of its route, in order, when checkouts give up. -/
def seatsOnGivingUp (p : Slots) : List Checkout → List Checkout
  | [] => []
  | c :: cs =>
    (if c ∈ p.waiting then p.seatsOnWithdrawal c else []) ++ (p.giveUp c).1.seatsOnGivingUp cs

/-- Who gets a slot of its route in an action, in order. -/
def seats (p : Slots) : Action → List Checkout
  | .checkout t r =>
    if p.isUsed t ∨ slotLimit < p.limits.perRoute then []
    else
      let entered := (p.enter (p.request t r)).1
      p.seatsOnEntry (p.request t r) ++ entered.seatsOnGivingUp entered.expired
  | .release t => ((p.granted.find? (·.ticket == t)).map p.seatsOnReturn).getD []
  | .cancel t => ((p.waiting.find? (·.ticket == t)).map p.seatsOnWithdrawal).getD []
  | .advance ms =>
    let later : Slots := { p with clock := p.clock + ms }
    later.seatsOnGivingUp later.expired
  | .rest => []

/-! ## Courses of acts -/

/-- A course of acts from one state to another, with those that enter, those that get a slot of
their route and the news on the way. -/
inductive Course (p : Slots) : Slots → List Checkout → List Checkout → List Notice → Prop where
  | stay : Course p p [] [] []
  /-- An act that obeys the law, with tickets that are new. -/
  | act {q q' es ss ns gone entered seats grants} : Course p q es ss ns →
      Flow q q' gone entered seats grants →
      ((q.waiting ++ entered ++ q.granted).map (·.ticket)).Nodup →
      Course p q' (es ++ entered) (ss ++ seats) (ns ++ granting grants)
  /-- News of a checkout that is not granted. -/
  | tell {q es ss ns n} : Course p q es ss ns → n.ending ≠ .granted → Course p q es ss (ns ++ [n])
  | tick {q es ss ns} (n : Nat) : Course p q es ss ns → Course p { q with clock := n } es ss ns

namespace Course

variable {es ss : List Checkout} {ns : List Notice}

theorem sound (course : Course p q es ss ns) (h : p.Sound) : q.Sound := by
  induction course with
  | stay => exact h
  | act _ flow new ih => exact flow.sound ih new
  | tell _ _ ih => exact ih
  | tick n _ ih => exact ih.later n

theorem limits (course : Course p q es ss ns) : q.limits = p.limits := by
  induction course with
  | stay => rfl
  | act _ flow _ ih => exact flow.limits.trans ih
  | tell _ _ ih => exact ih
  | tick _ _ ih => exact ih

/-- Nobody who was not there or entered comes to wait or to be granted. -/
theorem mem_of_mem (course : Course p q es ss ns) (h : p.Sound)
    (hk : c ∈ q.waiting ++ q.granted) : c ∈ p.waiting ++ es ++ p.granted := by
  induction course with
  | stay => simpa using hk
  | act course flow _ ih =>
    have before := flow.mem_of_mem (course.sound h) hk
    simp only [List.mem_append] at before ih ⊢
    tauto
  | tell _ _ ih => exact ih hk
  | tick _ _ ih => exact ih hk

theorem enter (course : Course p q es ss ns) (h : p.Sound) (new : q.isUsed c.ticket = false) :
    Course p (q.enter c).1 (es ++ [c]) (ss ++ q.seatsOnEntry c) (ns ++ (q.enter c).2) := by
  have sound := course.sound h
  obtain ⟨grants, notices, flow⟩ := enter_flow sound new
  rw [notices]
  exact course.act flow (tickets_of_new sound new)

theorem withdraw (course : Course p q es ss ns) (h : p.Sound) (hc : c ∈ q.waiting) :
    Course p (q.withdraw c).1 es (ss ++ q.seatsOnWithdrawal c) (ns ++ (q.withdraw c).2) := by
  have sound := course.sound h
  obtain ⟨notices, flow⟩ := withdraw_flow sound hc
  have act := course.act flow (by simpa using sound.tickets)
  rw [List.append_nil] at act
  rw [notices]
  exact act

theorem giveBack (course : Course p q es ss ns) (h : p.Sound) (hc : c ∈ q.granted) :
    Course p (q.giveBack c).1 es (ss ++ q.seatsOnReturn c) (ns ++ (q.giveBack c).2) := by
  have sound := course.sound h
  obtain ⟨grants, notices, flow⟩ := giveBack_flow sound hc
  have act := course.act flow (by simpa using sound.tickets)
  rw [List.append_nil] at act
  rw [notices]
  exact act

theorem giveUpAll (late : List Checkout) (course : Course p q es ss ns) (h : p.Sound) :
    Course p (q.giveUpAll late).1 es (ss ++ q.seatsOnGivingUp late)
      (ns ++ (q.giveUpAll late).2) := by
  induction late generalizing q ss ns with
  | nil => simpa [Slots.giveUpAll, seatsOnGivingUp] using course
  | cons c cs ih =>
    by_cases hc : c ∈ q.waiting
    · -- the notice comes first, and then the queues move on
      have first := (course.tell (n := ⟨c, .unavailable⟩) (by simp)).withdraw h hc
      have rest := ih first
      simpa [Slots.giveUpAll, seatsOnGivingUp, giveUp, hc] using rest
    · simpa [Slots.giveUpAll, seatsOnGivingUp, giveUp, hc] using ih course

end Course

/-- Every action is a course of acts. -/
theorem perform_course (h : p.Sound) (a : Action) :
    Course p (p.perform a).1 (p.starts a) (p.seats a) (p.perform a).2.notices := by
  cases a with
  | checkout t r =>
    by_cases used : p.isUsed t = true
    · simpa [perform, checkout_of_used used, starts, seats, used] using Course.stay
    · have new : p.isUsed t = false := by simpa using used
      by_cases uncountable : slotLimit < p.limits.perRoute
      · simpa [perform, checkout_of_uncountable new uncountable, starts, seats, uncountable]
          using Course.stay.tell (n := ⟨p.request t r, .uncountable⟩) (by simp)
      · have countable := Nat.not_lt.1 uncountable
        have course := (Course.stay.enter (c := p.request t r) h new).giveUpAll
          (p.enter (p.request t r)).1.expired h
        simpa [perform, checkout_of_new new countable, starts, seats, new, uncountable, expire]
          using course
  | release t =>
    cases found : p.granted.find? (·.ticket == t) with
    | none => simpa [perform, release, seats, starts, found] using Course.stay
    | some c =>
      have held := List.mem_of_find?_eq_some found
      simpa [perform, release, seats, starts, found] using Course.stay.giveBack h held
  | cancel t =>
    cases found : p.waiting.find? (·.ticket == t) with
    | none => simpa [perform, cancel, seats, starts, found] using Course.stay
    | some c =>
      have waits := List.mem_of_find?_eq_some found
      simpa [perform, cancel, seats, starts, found] using Course.stay.withdraw h waits
  | advance ms =>
    have course := (Course.stay.tick (p := p) (p.clock + ms)).giveUpAll
      ({ p with clock := p.clock + ms } : Slots).expired h
    simpa [perform, advance, seats, starts, expire] using course
  | rest => exact .stay

theorem perform_sound (h : p.Sound) (a : Action) : (p.perform a).1.Sound :=
  (perform_course h a).sound h

theorem perform_limits (h : p.Sound) (a : Action) : (p.perform a).1.limits = p.limits :=
  (perform_course h a).limits

theorem run_sound (h : p.Sound) (as : List Action) :
    (p.run as).1.Sound ∧ (p.run as).1.limits = p.limits := by
  induction as generalizing p with
  | nil => exact ⟨h, rfl⟩
  | cons a as ih =>
    obtain ⟨sound, limits⟩ := ih (perform_sound h a)
    exact ⟨sound, limits.trans (perform_limits h a)⟩

end Slots

end HubPublisher.Pool

namespace HubPublisher.Hub.Connections

open Pool (Action Answer Slots)
open Trust (Store)

/-- What a step asks of the slots. -/
def Step.action : Step → Action
  | .checkout t url => .checkout t (routeOf url)
  | .channelCheckout t url => .checkout t (routeOf url)
  | .release t => .release t
  | .cancel t => .cancel t
  | .advance ms => .advance ms
  | .stop => .rest
  | .client => .rest
  | .spawn => .rest

/-- What an effect says about the slots. -/
def Effect.answer (e : Effect) : Answer := ⟨e.found, e.notices⟩

def run (c : Connections) : List Step → Connections × List Effect
  | [] => (c, [])
  | s :: ss =>
    let (c, first) := c.step s
    let (c, rest) := c.run ss
    (c, first :: rest)

/-- The client can be built, as it was at the start. -/
def Buildable (c : Connections) : Prop := ∃ logs, buildClient c.trust = .ok logs

variable {c : Connections} {config : Settings.Configuration} {trust : Store}
  {logs : List Log.Event}

theorem start_eq (h : start config trust = .ok (c, logs)) :
    c.slots = Slots.start (limitsOf config) ∧ c.Buildable := by
  unfold start Slots.start? at h
  split_ifs at h with uncountable
  simp only at h
  split at h
  · cases h
  · rename_i built
    simp only [Except.ok.injEq, Prod.mk.injEq] at h
    obtain ⟨rfl, -⟩ := h
    exact ⟨rfl, _, built⟩

theorem ensureRunning_eq (h : c.Buildable) :
    ∃ logs running, c.ensureRunning = (.ok { c with running := running }, logs) := by
  obtain ⟨built, h⟩ := h
  unfold ensureRunning
  split_ifs with run
  · exact ⟨[], c.running, rfl⟩
  · rw [h]
    exact ⟨_, true, rfl⟩

/-- Whatever the client does, a step puts the slots through its action. -/
theorem step_slots (h : c.Buildable) (s : Step) :
    (c.step s).1.slots = (c.slots.perform s.action).1 ∧
      (c.step s).2.answer = (c.slots.perform s.action).2 ∧ (c.step s).1.Buildable := by
  obtain ⟨logs, running, ensured⟩ := ensureRunning_eq h
  cases s with
  | checkout t url => exact ⟨rfl, rfl, h⟩
  | channelCheckout t url =>
    simp only [step, ensured]
    exact ⟨rfl, rfl, h⟩
  | release t => exact ⟨rfl, rfl, h⟩
  | cancel t => exact ⟨rfl, rfl, h⟩
  | advance ms => exact ⟨rfl, rfl, h⟩
  | stop =>
    simp only [step, stop]
    split_ifs
    · exact ⟨rfl, rfl, h⟩
    · exact ⟨rfl, rfl, h⟩
  | client =>
    simp only [step, ensured]
    exact ⟨rfl, rfl, h⟩
  | spawn => exact ⟨rfl, rfl, h⟩

theorem run_slots (h : c.Buildable) (steps : List Step) :
    (c.run steps).1.slots = (c.slots.run (steps.map Step.action)).1 ∧
      (c.run steps).2.map Effect.answer = (c.slots.run (steps.map Step.action)).2 ∧
      (c.run steps).1.Buildable := by
  induction steps generalizing c with
  | nil => exact ⟨rfl, rfl, h⟩
  | cons s ss ih =>
    obtain ⟨slots, answer, buildable⟩ := step_slots h s
    obtain ⟨rest, answers, buildable⟩ := ih buildable
    simp only [run, List.map_cons, Slots.run]
    rw [← slots, ← answer]
    exact ⟨rest, by rw [answers], buildable⟩

/-- The states that connections started on a configuration come to, in any number of steps. -/
def Reachable (config : Settings.Configuration) (d : Connections) : Prop :=
  ∃ trust c logs steps, start config trust = .ok (c, logs) ∧ (c.run steps).1 = d

theorem run_append_singleton (c : Connections) (steps : List Step) (s : Step) :
    (c.run (steps ++ [s])).1 = ((c.run steps).1.step s).1 := by
  induction steps generalizing c with
  | nil => rfl
  | cons x xs ih => exact ih (c.step x).1

theorem Reachable.step (h : Reachable config c) (s : Step) : Reachable config (c.step s).1 := by
  obtain ⟨trust, c₀, logs, steps, started, rfl⟩ := h
  exact ⟨trust, c₀, logs, steps ++ [s], started, run_append_singleton c₀ steps s⟩

/-- Wherever connections come to, their slots are sound. -/
theorem Reachable.sound (h : Reachable config c) :
    c.slots.Sound ∧ c.slots.limits = limitsOf config ∧ c.Buildable := by
  obtain ⟨trust, c₀, logs, steps, started, rfl⟩ := h
  obtain ⟨slots, buildable⟩ := start_eq started
  obtain ⟨run, -, buildable⟩ := run_slots buildable steps
  obtain ⟨sound, limits⟩ := Slots.run_sound (Slots.Sound.start (limitsOf config))
    (steps.map Step.action)
  rw [run, slots]
  exact ⟨sound, limits, buildable⟩

/-! ## A sample run -/

/-- Two slots in all and one to a route, with a second to wait for one. -/
def sampleConfig : Settings.Configuration :=
  ((Settings.Configuration.enabledOn "https://hub.example").withPoolLimits 2 1).withTimeouts
    2000 5000 1000

def sampleUrl (host : String) : Url where
  scheme := "https"
  authority := some ⟨"", "", some (.name host), none⟩
  path := "/hub"
  query := none
  fragment := none

def sampleStart : Connections :=
  ⟨sampleConfig, Store.platform, true, Slots.start (limitsOf sampleConfig)⟩

/-- The second queues for a slot of its route and the fourth for one of all; the slots of the first
go to both, and then the second queues for a slot of all. -/
def sampleSteps : List Step :=
  [.checkout 1 (sampleUrl "a"), .checkout 2 (sampleUrl "a"), .channelCheckout 3 (sampleUrl "b"),
    .checkout 4 (sampleUrl "c"), .release 1, .checkout 5 (sampleUrl "c")]

/-- What the sample steps come to. -/
def sampleEnd : Connections := (sampleStart.run sampleSteps).1

theorem sample_started : start sampleConfig Store.platform
    = .ok (sampleStart, [Connections.started sampleConfig Store.platform]) := rfl

theorem sample_reachable (steps : List Step) : Reachable sampleConfig (sampleStart.run steps).1 :=
  ⟨Store.platform, sampleStart, _, steps, sample_started, rfl⟩

example : sampleEnd.slots.granted.map (·.ticket) = [3, 4] ∧
    sampleEnd.slots.total.queue.map (·.ticket) = [2] ∧
    sampleEnd.slots.waiting.map (·.ticket) = [2, 5] := by decide

end HubPublisher.Hub.Connections
