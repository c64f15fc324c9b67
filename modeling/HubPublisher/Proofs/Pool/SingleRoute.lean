import HubPublisher.Proofs.Pool.Idle

/-!
Slots of one route are one semaphore.

As long as all checkouts are for one route, two semaphores in a row are no different from one that
has as many slots as the smaller of them. Whoever waits does so in two places, and in which one
depends on which limit is smaller; but those that queue for a slot of all came before those in line
for the route, so together they are the queue of the one semaphore (`Mirrors`). The relation is kept
by every act, and so every answer is the same (`single_route_is_one_semaphore`).
-/
namespace HubPublisher.Pool

/-- One semaphore that hands out permits, first come, first served. -/
structure Single where
  /-- How long a checkout waits, in milliseconds. -/
  timeout : Nat
  clock : Nat
  permits : Semaphore Checkout
  /-- The checkouts that have a permit, in the order in which they got it. -/
  out : List Checkout

namespace Single

def start (slots timeout : Nat) : Single := ⟨timeout, 0, Semaphore.start slots, []⟩

def isUsed (s : Single) (t : Ticket) : Bool :=
  s.permits.queue.any (·.ticket == t) || s.out.any (·.ticket == t)

def acquire (s : Single) (c : Checkout) : Single × List Notice :=
  match s.permits.acquire c with
  | (permits, true) => ({ s with permits := permits, out := s.out ++ [c] }, [⟨c, .granted⟩])
  | (permits, false) => ({ s with permits := permits }, [])

def release (s : Single) (c : Checkout) : Single × List Notice :=
  match s.permits.release with
  | (permits, none) => ({ s with permits := permits, out := s.out.erase c }, [])
  | (permits, some k) =>
    ({ s with permits := permits, out := s.out.erase c ++ [k] }, [⟨k, .granted⟩])

/-- Whoever's deadline has come leaves the queue. -/
def expire (s : Single) : Single × List Notice :=
  let late := s.permits.queue.filter (·.deadline ≤ s.clock)
  ({ s with permits := late.foldl Semaphore.withdraw s.permits }, late.map (⟨·, .unavailable⟩))

def perform (s : Single) : Action → Single × Answer
  | .checkout t r =>
    if s.isUsed t then (s, ⟨false, []⟩)
    else
      let (s, asked) := s.acquire ⟨t, r, s.clock + s.timeout⟩
      let (s, late) := s.expire
      (s, ⟨false, asked ++ late⟩)
  | .release t =>
    match s.out.find? (·.ticket == t) with
    | none => (s, ⟨false, []⟩)
    | some c => let (s, notices) := s.release c; (s, ⟨true, notices⟩)
  | .cancel t =>
    match s.permits.queue.find? (·.ticket == t) with
    | none => (s, ⟨false, []⟩)
    | some c => ({ s with permits := s.permits.withdraw c }, ⟨true, []⟩)
  | .advance ms => let (s, late) := { s with clock := s.clock + ms }.expire; (s, ⟨false, late⟩)
  | .rest => (s, ⟨false, []⟩)

def run (s : Single) : List Action → Single × List Answer
  | [] => (s, [])
  | a :: as =>
    let (s, first) := s.perform a
    let (s, rest) := s.run as
    (s, first :: rest)

variable {s : Single} {c k : Checkout}

theorem acquire_of_free (h : 0 < s.permits.free) :
    s.acquire c = ({ s with permits := (s.permits.acquire c).1, out := s.out ++ [c] },
      Slots.granting [c]) := by
  have flag := s.permits.acquire_flag c
  cases ha : s.permits.acquire c with
  | mk permits b => simp_all [acquire, Slots.granting]

theorem acquire_of_full (h : s.permits.free = 0) :
    s.acquire c = ({ s with permits := (s.permits.acquire c).1 }, []) := by
  have flag := s.permits.acquire_flag c
  cases ha : s.permits.acquire c with
  | mk permits b => simp_all [acquire]

theorem release_of_nil (h : s.permits.queue = []) :
    s.release c = ({ s with permits := s.permits.release.1, out := s.out.erase c }, []) := by
  have next := s.permits.release_next
  cases hr : s.permits.release with
  | mk permits o => simp_all [release]

theorem release_of_cons {rest : List Checkout} (h : s.permits.queue = k :: rest) :
    s.release c = ({ s with permits := s.permits.release.1, out := s.out.erase c ++ [k] },
      Slots.granting [k]) := by
  have next := s.permits.release_next
  cases hr : s.permits.release with
  | mk permits o => simp_all [release, Slots.granting]

end Single

namespace Slots

variable {p : Slots} {c k : Checkout} {r : String}

/-- Checkouts that wait on the one route that there is: first those that queue for a slot of all. -/
theorem waiting_of_route (h : p.Sound) (route : ∀ k ∈ p.waiting, k.route = r) :
    p.waiting = p.total.queue ++ (p.routes r).queue := by
  have places := h.waiting_on r
  rw [onRoute_eq_self route, seatedOn,
    onRoute_eq_self fun k hk => route k (h.mem_queue hk)] at places
  exact places

/-- Whoever finds no room waits. -/
theorem enter_waits (h : p.Sound) (full : ¬(0 < (p.routes c.route).free ∧ 0 < p.total.free)) :
    (p.enter c).2 = [] ∧ ∃ seats, Flow p (p.enter c).1 [] [c] seats [] := by
  rcases Nat.eq_zero_or_pos (p.routes c.route).free with full' | free
  · obtain ⟨notices, flow⟩ := enter_of_full_route h full'
    exact ⟨notices, _, flow⟩
  · obtain ⟨notices, flow⟩ := enter_of_full h free (by omega)
    exact ⟨notices, _, flow⟩

/-- On the one route that there is, whoever waits first is granted when slots are given back. -/
theorem giveBack_next {rest : List Checkout} (h : p.Sound) (hc : c ∈ p.granted)
    (route : ∀ k ∈ p.waiting, k.route = c.route) (waiting : p.waiting = k :: rest) :
    (p.giveBack c).2 = granting [k] ∧ ∃ seats, Flow p (p.giveBack c).1 [c] [] seats [k] := by
  have places := waiting_of_route h route
  rw [waiting] at places
  cases queue : p.total.queue with
  | nil =>
    rw [queue, List.nil_append] at places
    obtain ⟨notices, flow⟩ := giveBack_of_line h hc queue places.symm
    exact ⟨notices, _, flow⟩
  | cons n others =>
    rw [queue, List.cons_append, List.cons.injEq] at places
    obtain ⟨rfl, -⟩ := places
    obtain ⟨notices, flow⟩ := giveBack_of_queue h hc queue
    exact ⟨notices, _, flow⟩

end Slots

/-- The slots of one route and a semaphore with as many slots as the smaller limit agree on who
waits, in order, who is granted, and when. -/
structure Mirrors (r : String) (p : Slots) (s : Single) : Prop where
  sound : p.Sound
  route : ∀ k ∈ p.waiting ++ p.granted, k.route = r
  queue : s.permits.queue = p.waiting
  out : s.out = p.granted
  free : s.permits.free + s.out.length = min p.limits.total p.limits.perRoute
  clock : s.clock = p.clock
  timeout : s.timeout = p.limits.timeout

namespace Mirrors

variable {p q : Slots} {s s' : Single} {c : Checkout} {r : String}

theorem start (limits : Limits) :
    Mirrors r (Slots.start limits)
      (Single.start (min limits.total limits.perRoute) limits.timeout) :=
  ⟨.start limits, by simp [Slots.start], rfl, rfl, by simp [Single.start, Slots.start], rfl, rfl⟩

theorem isUsed_eq (m : Mirrors r p s) (t : Ticket) : s.isUsed t = p.isUsed t := by
  rw [Single.isUsed, m.queue, m.out, Slots.isUsed]

/-- The one semaphore has a permit just when there are slots of either kind. -/
theorem free_iff (m : Mirrors r p s) :
    0 < s.permits.free ↔ 0 < (p.routes r).free ∧ 0 < p.total.free := by
  rw [Slots.free_iff_room m.sound, Slots.grantedOn,
    onRoute_eq_self fun k hk => m.route k (List.mem_append_right _ hk)]
  have free := m.free
  have total := Slots.granted_le m.sound
  rw [m.out] at free
  omega

/-- An act that concerns the route keeps the relation, if the semaphore does what it says. -/
theorem of_flow {gone entered seats grants : List Checkout} (m : Mirrors r p s)
    (f : Slots.Flow p q gone entered seats grants) (sound : q.Sound)
    (route : ∀ k ∈ entered, k.route = r) (queue : s'.permits.queue = q.waiting)
    (out : s'.out = q.granted)
    (free : s'.permits.free + s'.out.length = s.permits.free + s.out.length)
    (clock : s'.clock = s.clock) (timeout : s'.timeout = s.timeout) : Mirrors r q s' where
  sound := sound
  route k hk := by
    rcases List.mem_append.1 (f.mem_of_mem m.sound hk) with hk | hk
    · rcases List.mem_append.1 hk with hk | hk
      · exact m.route k (List.mem_append_left _ hk)
      · exact route k hk
    · exact m.route k (List.mem_append_right _ hk)
  queue := queue
  out := out
  free := by rw [free, m.free, f.limits]
  clock := by rw [clock, m.clock, f.clock]
  timeout := by rw [timeout, m.timeout, f.limits]

theorem enter (m : Mirrors r p s) (new : p.isUsed c.ticket = false) (hr : c.route = r) :
    (p.enter c).2 = (s.acquire c).2 ∧ Mirrors r (p.enter c).1 (s.acquire c).1 := by
  subst hr
  have sound := Slots.enter_sound m.sound new
  have route : ∀ k ∈ [c], k.route = c.route := by simp
  obtain ⟨not_waiting, -⟩ := Slots.not_mem_of_new new
  rcases Nat.eq_zero_or_pos s.permits.free with full | free
  · have no_room : ¬(0 < (p.routes c.route).free ∧ 0 < p.total.free) := by
      rw [← m.free_iff]
      omega
    obtain ⟨notices, seats, flow⟩ := Slots.enter_waits m.sound no_room
    rw [Single.acquire_of_full full]
    refine ⟨notices, m.of_flow flow sound route ?_ ?_ ?_ rfl rfl⟩
    · rw [flow.waiting, without_nil, without_nil, ← m.queue]
      simp [Semaphore.acquire_queue, full]
    · rw [flow.granted, without_nil, List.append_nil, ← m.out]
    · simp [full]
  · obtain ⟨free₁, free₂⟩ := m.free_iff.1 free
    obtain ⟨notices, flow⟩ := Slots.enter_of_free m.sound not_waiting free₁ free₂
    rw [Single.acquire_of_free free]
    refine ⟨notices, m.of_flow flow sound route ?_ ?_ ?_ rfl rfl⟩
    · rw [flow.waiting, without_nil, without_append, without_single not_waiting,
        without_eq_nil fun k hk => hk, List.append_nil, ← m.queue]
      simp [Semaphore.acquire_queue, free]
    · rw [flow.granted, without_nil, ← m.out]
    · simp only [Semaphore.acquire_free, List.length_append, List.length_singleton]
      omega

theorem giveBack (m : Mirrors r p s) (hc : c ∈ p.granted) :
    (p.giveBack c).2 = (s.release c).2 ∧ Mirrors r (p.giveBack c).1 (s.release c).1 := by
  have sound := Slots.giveBack_sound m.sound hc
  have nodup := m.sound.granted_nodup
  obtain ⟨not_waiting, -, -⟩ := m.sound.nowhere hc
  have length := List.length_erase_of_mem hc
  have pos := List.length_pos_of_mem hc
  rw [← m.out] at length pos
  cases waiting : p.waiting with
  | nil =>
    have queue : p.total.queue = [] := by
      refine List.eq_nil_iff_forall_not_mem.2 fun k hk => ?_
      simpa [waiting] using m.sound.mem_queue hk
    have line : (p.routes c.route).queue = [] := by
      refine List.eq_nil_iff_forall_not_mem.2 fun k hk => ?_
      simpa [waiting] using (m.sound.mem_line hk).1
    obtain ⟨notices, flow⟩ := Slots.giveBack_of_idle m.sound hc queue line
    have empty := m.queue.trans waiting
    rw [Single.release_of_nil empty]
    refine ⟨notices, m.of_flow flow sound (by simp) ?_ ?_ ?_ rfl rfl⟩
    · rw [flow.waiting, waiting, Semaphore.release_queue, empty]
      simp [without]
    · rw [flow.granted, List.append_nil, ← erase_eq_without nodup, ← m.out]
    · simp only [Semaphore.release_free, if_pos empty]
      omega
  | cons k rest =>
    -- everybody is on the route, so whoever waits first is next there and for a slot of all
    have route : ∀ k ∈ p.waiting, k.route = c.route := by
      intro k hk
      rw [m.route k (List.mem_append_left _ hk), m.route c (List.mem_append_right _ hc)]
    obtain ⟨notices, seats, flow⟩ := Slots.giveBack_next m.sound hc route waiting
    have next := m.queue.trans waiting
    rw [Single.release_of_cons next]
    refine ⟨notices, m.of_flow flow sound (by simp) ?_ ?_ ?_ rfl rfl⟩
    · rw [flow.waiting, List.append_nil, without_single not_waiting,
        ← erase_eq_without m.sound.waiting_nodup, waiting, Semaphore.release_queue, next]
      simp
    · rw [flow.granted, ← erase_eq_without nodup, ← m.out]
    · simp only [Semaphore.release_free, next, List.length_append, List.length_singleton]
      rw [if_neg (by simp)]
      omega

theorem withdraw (m : Mirrors r p s) (hc : c ∈ p.waiting) :
    Mirrors r (p.withdraw c).1 { s with permits := s.permits.withdraw c } := by
  have flow := (Slots.withdraw_flow m.sound hc).2
  refine m.of_flow flow (Slots.withdraw_sound m.sound hc) (by simp) ?_ ?_ rfl rfl rfl
  · rw [Slots.withdraw_waiting m.sound hc, ← erase_eq_without m.sound.waiting_nodup, ← m.queue]
    rfl
  · rw [Slots.withdraw_granted m.sound hc, ← m.out]

theorem giveUpAll {late : List Checkout} (m : Mirrors r p s) (waits : ∀ k ∈ late, k ∈ p.waiting)
    (nodup : late.Nodup) :
    Mirrors r (p.giveUpAll late).1
      { s with permits := late.foldl Semaphore.withdraw s.permits } := by
  induction late generalizing p s with
  | nil => exact m
  | cons c cs ih =>
    have hc : c ∈ p.waiting := waits c List.mem_cons_self
    have rest := ih (m.withdraw hc) (Slots.still_waiting m.sound waits nodup)
      (List.nodup_cons.1 nodup).2
    simpa only [Slots.giveUpAll, Slots.giveUp_eq m.sound hc, List.foldl_cons] using rest

theorem expire (m : Mirrors r p s) :
    p.expire.2 = s.expire.2 ∧ Mirrors r p.expire.1 s.expire.1 := by
  -- same queue, same clock: the same checkouts are late
  have late : s.permits.queue.filter (·.deadline ≤ s.clock) = p.expired := by
    rw [m.queue, m.clock, Slots.expired]
  simp only [Single.expire, late]
  exact ⟨(Slots.expire_spec m.sound).1,
    m.giveUpAll Slots.expired_sub (m.sound.waiting_nodup.filter _)⟩

/-- The two answer every action for the route alike. -/
theorem perform (m : Mirrors r p s) (countable : p.limits.perRoute ≤ slotLimit) (a : Action)
    (here : ∀ x ∈ a.route?, x = r) :
    (p.perform a).2 = (s.perform a).2 ∧ Mirrors r (p.perform a).1 (s.perform a).1 := by
  cases a with
  | checkout t x =>
    have hx : x = r := here x rfl
    have used := m.isUsed_eq t
    by_cases taken : p.isUsed t = true
    · simp only [Slots.perform, Slots.checkout_of_used taken, Single.perform, used, taken, if_true]
      exact ⟨trivial, m⟩
    · have new : p.isUsed t = false := by simpa using taken
      have request : (⟨t, x, s.clock + s.timeout⟩ : Checkout) = p.request t x := by
        rw [m.clock, m.timeout, Slots.request]
      obtain ⟨asked, entered⟩ := m.enter (c := p.request t x) new hx
      obtain ⟨late, expired⟩ := entered.expire
      simp only [Slots.perform, Slots.checkout_of_new new countable, Single.perform, used, new,
        request, asked, late]
      exact ⟨rfl, expired⟩
  | release t =>
    simp only [Slots.perform, Slots.release, Single.perform, m.out]
    cases found : p.granted.find? (·.ticket == t) with
    | none => exact ⟨rfl, m⟩
    | some c =>
      obtain ⟨notices, back⟩ := m.giveBack (List.mem_of_find?_eq_some found)
      simp only [notices]
      exact ⟨trivial, back⟩
  | cancel t =>
    simp only [Slots.perform, Slots.cancel, Single.perform, m.queue]
    cases found : p.waiting.find? (·.ticket == t) with
    | none => exact ⟨rfl, m⟩
    | some c =>
      have waits := List.mem_of_find?_eq_some found
      simp only [(Slots.withdraw_flow m.sound waits).1]
      exact ⟨trivial, m.withdraw waits⟩
  | advance ms =>
    have later : Mirrors r { p with clock := p.clock + ms } { s with clock := s.clock + ms } :=
      ⟨m.sound.later _, m.route, m.queue, m.out, m.free, by rw [m.clock], m.timeout⟩
    obtain ⟨late, expired⟩ := later.expire
    simp only [Slots.perform, Slots.advance, Single.perform, late]
    exact ⟨trivial, expired⟩
  | rest => exact ⟨rfl, m⟩

theorem run (m : Mirrors r p s) (countable : p.limits.perRoute ≤ slotLimit) (as : List Action)
    (here : ∀ a ∈ as, ∀ x ∈ a.route?, x = r) :
    (p.run as).2 = (s.run as).2 ∧ Mirrors r (p.run as).1 (s.run as).1 := by
  induction as generalizing p s with
  | nil => exact ⟨rfl, m⟩
  | cons a as ih =>
    obtain ⟨first, next⟩ := m.perform countable a (here a List.mem_cons_self)
    have limits := Slots.perform_limits m.sound a
    obtain ⟨rest, last⟩ := ih next (by rw [limits]; exact countable)
      fun b hb => here b (List.mem_cons_of_mem a hb)
    simp only [Slots.run, Single.run, first, rest]
    exact ⟨trivial, last⟩

end Mirrors

end HubPublisher.Pool

namespace HubPublisher.Hub.Connections

open Pool (Mirrors Single Slots)
open Trust (Store)

/-- The URL that a step asks for a connection to, if it asks for one. -/
def Step.url? : Step → Option Url
  | .checkout _ url => some url
  | .channelCheckout _ url => some url
  | _ => none

theorem Step.action_route? (s : Step) : s.action.route? = s.url?.map routeOf := by
  cases s <;> rfl

/-- One semaphore with as many slots as the smaller limit of a configuration. -/
def singleOf (config : Settings.Configuration) : Single :=
  .start (min config.maxConnections config.maxConnectionsPerRoute) config.checkoutTimeout

variable {config : Settings.Configuration} {trust : Store} {c : Connections}
  {logs : List Log.Event} {steps : List Step} {r : String}

/-- As long as all URLs have one origin, connections answer step for step as one semaphore with the
smaller limit: the same checkouts are granted, give up and are cancelled, at the same steps and in
the same order, the same wait and hold a permit, and as many slots are taken of all as the semaphore
has permits out. -/
theorem single_route_is_one_semaphore (started : start config trust = .ok (c, logs))
    (countable : config.maxConnectionsPerRoute ≤ Pool.slotLimit)
    (one : ∀ s ∈ steps, ∀ url ∈ s.url?, routeOf url = r) :
    (c.run steps).2.map Effect.answer = ((singleOf config).run (steps.map Step.action)).2 ∧
    (c.run steps).1.slots.waiting =
      ((singleOf config).run (steps.map Step.action)).1.permits.queue ∧
    (c.run steps).1.slots.granted = ((singleOf config).run (steps.map Step.action)).1.out ∧
    (c.run steps).1.slots.available +
      ((singleOf config).run (steps.map Step.action)).1.out.length = config.maxConnections := by
  obtain ⟨slots, buildable⟩ := start_eq started
  obtain ⟨run, answers, -⟩ := run_slots buildable steps
  have here : ∀ a ∈ steps.map Step.action, ∀ x ∈ a.route?, x = r := by
    intro a ha x hx
    obtain ⟨s, hs, rfl⟩ := List.mem_map.1 ha
    rw [Step.action_route?, Option.mem_def, Option.map_eq_some_iff] at hx
    obtain ⟨url, asked, rfl⟩ := hx
    exact one s hs url asked
  have limits := (Slots.run_sound (Slots.Sound.start (limitsOf config)) (steps.map Step.action)).2
  obtain ⟨same, mirrors⟩ := (Mirrors.start (limitsOf config)).run countable _ here
  rw [answers, run, slots]
  refine ⟨same, mirrors.queue.symm, mirrors.out.symm, ?_⟩
  have total := mirrors.sound.total_slots
  rw [limits, ← mirrors.out] at total
  exact total

/-- Steps on one route: one checkout is granted at once, one is cancelled, one gets the slot that is
given back, and the last gives up. -/
def sampleRoute : List Step :=
  [.checkout 1 (sampleUrl "a"), .channelCheckout 2 (sampleUrl "a"), .checkout 3 (sampleUrl "a"),
    .cancel 2, .release 1, .checkout 4 (sampleUrl "a"), .advance 1000]

theorem single_route_is_one_semaphore_sample :
    (sampleStart.run sampleRoute).2.map Effect.answer =
      ((singleOf sampleConfig).run (sampleRoute.map Step.action)).2 ∧
    (sampleStart.run sampleRoute).1.slots.available +
      ((singleOf sampleConfig).run (sampleRoute.map Step.action)).1.out.length = 2 := by
  have one : ∀ s ∈ sampleRoute, ∀ url ∈ s.url?, routeOf url = "https://a" := by decide
  obtain ⟨answers, -, -, taken⟩ := single_route_is_one_semaphore sample_started (by decide) one
  exact ⟨answers, taken⟩

end HubPublisher.Hub.Connections
