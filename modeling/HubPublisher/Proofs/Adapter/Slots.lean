import HubPublisher.Proofs.Adapter.Matching
import HubPublisher.Proofs.Adapter.Outcome
import HubPublisher.Proofs.Adapter.Refusal
import HubPublisher.Proofs.Pool.Conservation

/-!
Every request of an adapter goes by one route, and none keeps its slot.

What is put behind the query of a URL is no part of its origin, so all requests of an adapter check
out the route of its base URL. Its tasks match the checkouts after every step (`Consistent.step`): a
task begins or is taken away first, and its checkout enters or leaves; then those that are granted a
slot or came too late are told. So the slots that are held are those of the active tasks, no more
than the smaller of the limits, and when there is no task every slot is free.
-/
namespace HubPublisher.Hub.Connections

/-- What is put behind the query does not change the route, whatever the base URL is. -/
theorem routeOf_withPairs (u : Url) (ps : List (String × String)) :
    routeOf (u.withPairs ps) = routeOf u := by
  unfold routeOf Url.origin Url.originWith
  rfl

theorem routeOf_topicUrl {baseUrl : String} {u : Url} (parsed : Url.parse baseUrl = .ok u)
    (topic : Event.Topic) (operation : Operation) :
    ∃ v, topicUrl topic baseUrl operation = .ok v ∧ routeOf v = routeOf u :=
  ⟨_, topicUrl_of_ok parsed topic operation, routeOf_withPairs u _⟩

theorem slots_of_stop (c : Connections) : c.stop.1.slots = c.slots := by
  unfold stop
  split
  · rfl
  · rfl

end HubPublisher.Hub.Connections

namespace HubPublisher.Adapter

open Event (Topic)
open Hub (Connections Operation Request)
open Pool (Checkout Notice Slots Ticket without)
open Settings (Configuration)

variable {a b : Adapter} {t : Ticket} {config : Configuration} {trust : Trust.Store}

/-! ## Steps -/

/-- What is true of an adapter after every step. -/
structure Consistent (config : Configuration) (a : Adapter) : Prop where
  slots : a.connections.slots.Sound
  limits : a.connections.slots.limits = Connections.limitsOf config
  matched : Matched config a a.connections.slots.waiting a.connections.slots.granted

namespace Consistent

/-- Nothing but the tasks, the next ticket and the slots is looked at. -/
theorem congr (h : Consistent config a) (tasks : b.tasks = a.tasks) (next : b.next = a.next)
    (slots : b.connections.slots = a.connections.slots) : Consistent config b := by
  obtain ⟨sound, limits, matched⟩ := h
  rw [← slots] at sound limits matched
  exact ⟨sound, limits, matched.congr tasks next⟩

/-- The slots come to `q`, and whoever is concerned is told. -/
theorem of_told {q : Slots} {ns : List Notice} (sound : q.Sound)
    (limits : q.limits = Connections.limitsOf config)
    (matched : Matched config (a.notices ns).1 q.waiting q.granted) :
    Consistent config ((a.setSlots q).notices ns).1 := by
  rw [setSlots_notices]
  exact ⟨sound, limits, matched.congr rfl rfl⟩

/-- An act takes the slots from `p` to `q`, and those that it grants are told. -/
theorem of_flow {p q : Slots} {gone entered seats grants : List Checkout}
    (matched : Matched config a (without gone p.waiting ++ entered) (without gone p.granted))
    (limits : p.limits = Connections.limitsOf config) (sound : p.Sound) (kept : q.Sound)
    (flow : Slots.Flow p q gone entered seats grants) :
    Consistent config ((a.setSlots q).notices (Slots.granting grants)).1 := by
  -- nobody is granted twice, as all that are granted are listed once
  have nodup : grants.Nodup := by
    have all := kept.granted_nodup
    rw [flow.granted] at all
    exact (List.nodup_append.1 all).2.1
  have told := matched.grants (fun c hc => flow.grants_stay sound hc) nodup
  rw [← flow.waiting, ← flow.granted] at told
  exact of_told kept (flow.limits.trans limits) told

/-- Whoever is late gives up and is told. -/
theorem expire (h : Consistent config a) :
    Consistent config ((a.setSlots a.connections.slots.expire.1).notices
      a.connections.slots.expire.2).1 := by
  obtain ⟨sound, limits, matched⟩ := h
  obtain ⟨news, kept, waiting, granted, same, -⟩ := Slots.expire_spec sound
  have told := matched.gives_up Slots.expired_sub (sound.waiting_nodup.filter _)
  rw [← waiting, ← granted, ← news] at told
  exact of_told kept (same.trans limits) told

/-- The checkout of a submitted task enters, and then whoever is late gives up. If the slots of its
route cannot be counted, the task is gone at once. -/
theorem enter {task : Task} (h : Consistent config a) (member : task ∈ a.tasks)
    (fresh : a.phase? t = some .submitted) :
    Consistent config (((a.setPhase t .waiting).setSlots
        (a.connections.slots.checkout t (Connections.routeOf task.request.url)).1).notices
      (a.connections.slots.checkout t (Connections.routeOf task.request.url)).2).1 := by
  obtain ⟨sound, limits, matched⟩ := h
  have route := matched.tasks task member
  generalize a.connections.slots = p at sound limits matched ⊢
  generalize Connections.routeOf task.request.url = r at route ⊢
  -- the match tells that a ticket without a checkout is new to the slots
  have new : p.isUsed t = false := Slots.isUsed_eq_false_iff.2 (matched.no_checkout fresh)
  have entered := matched.enter (c := p.request t r) fresh route
  by_cases uncountable : Pool.slotLimit < p.limits.perRoute
  · -- the slots stay as they were, so the task has to leave as it came
    rw [Slots.checkout_of_uncountable new uncountable]
    obtain ⟨not_waiting, not_granted⟩ := Slots.not_mem_of_new (c := p.request t r) new
    have last : p.request t r ∈ p.waiting ++ [p.request t r] :=
      List.mem_append_right _ List.mem_cons_self
    have left := entered.leave (List.mem_append_left p.granted last)
    rw [Pool.without_append, Pool.without_single not_waiting, Pool.without_single not_granted,
      Pool.without_eq_nil fun _ h => h, List.append_nil] at left
    have waits : (a.setPhase t .waiting).phase? t = some .waiting := entered.waits last
    apply of_told sound limits
    show Matched config ((a.setPhase t .waiting).notice ⟨p.request t r, .uncountable⟩).1 _ _
    rw [notice_refused (ne_of_eq_of_ne waits (Option.some_ne_none _)) (by decide)]
    exact left
  · rw [Slots.checkout_of_new new (Nat.not_lt.1 uncountable)]
    obtain ⟨grants, news, flow⟩ := Slots.enter_flow (c := p.request t r) sound new
    have first := of_flow (by simpa using entered) limits sound (Slots.enter_sound sound new) flow
    have second := first.expire
    -- what is told does not depend on when the slots are written down
    simp only [setSlots_notices] at second
    simp only [news, notices_append, setSlots_notices]
    exact second

/-- A submitted task begins. -/
theorem begin (h : Consistent config a) (t : Ticket) : Consistent config (a.begin t).1 := by
  unfold Adapter.begin
  cases found : a.task? t with
  | none => exact h
  | some task =>
    cases phase : task.phase with
    | waiting => simpa only [phase] using h
    | active => simpa only [phase] using h
    | submitted =>
      simp only [phase]
      exact h.enter (mem_of_task? found) (phase?_eq_some.2 ⟨task, found, phase⟩)

/-- The slot of an active task that is taken away goes to whoever waits for it. -/
theorem freeSlot (h : Consistent config a) (active : a.phase? t = some .active) :
    Consistent config ((a.remove t).freeSlot t).1 := by
  obtain ⟨sound, limits, matched⟩ := h
  -- an active task has a checkout to give back
  obtain ⟨c, held, rfl⟩ := List.mem_map.1 ((matched.active_iff t).1 active)
  obtain ⟨grants, news, flow⟩ := Slots.giveBack_flow sound held
  have left := matched.leave (List.mem_append_right _ held)
  rw [← List.append_nil (without [c] a.connections.slots.waiting)] at left
  unfold Adapter.freeSlot
  show Consistent config (((a.remove c.ticket).setSlots
    (a.connections.slots.release c.ticket).1).notices (a.connections.slots.release c.ticket).2.2).1
  rw [Slots.release_of_granted sound held, news]
  exact of_flow left limits sound (Slots.giveBack_sound sound held) flow

/-- A waiting task is taken away, and its checkout is withdrawn. -/
theorem cancel (h : Consistent config a) (waits : a.phase? t = some .waiting) :
    Consistent config (((a.remove t).setSlots (a.connections.slots.cancel t).1).notices
      (a.connections.slots.cancel t).2.2).1 := by
  obtain ⟨sound, limits, matched⟩ := h
  obtain ⟨c, queues, rfl⟩ := List.mem_map.1 ((matched.waits_iff t).1 waits)
  obtain ⟨news, flow⟩ := Slots.withdraw_flow sound queues
  have left := matched.leave (List.mem_append_left _ queues)
  rw [← List.append_nil (without [c] a.connections.slots.waiting)] at left
  rw [Slots.cancel_of_waiting sound queues, news]
  exact of_flow left limits sound (Slots.withdraw_sound sound queues) flow

theorem finish (h : Consistent config a) (t : Ticket) (x : Hub.Exchange) :
    Consistent config (a.finish t x).1 := by
  unfold Adapter.finish
  cases found : a.task? t with
  | none => exact h
  | some task =>
    cases phase : task.phase with
    | submitted => simpa only [phase] using h
    | waiting => simpa only [phase] using h
    | active =>
      simp only [phase]
      exact h.freeSlot (phase?_eq_some.2 ⟨task, found, phase⟩)

theorem drop (h : Consistent config a) (t : Ticket) : Consistent config (a.drop t).1 := by
  unfold Adapter.drop
  cases found : a.task? t with
  | none => exact h
  | some task =>
    cases phase : task.phase with
    | submitted =>
      simp only [phase]
      have fresh : a.phase? t = some .submitted := phase?_eq_some.2 ⟨task, found, phase⟩
      exact ⟨h.slots, h.limits, h.matched.withdraw fresh⟩
    | waiting =>
      simp only [phase]
      exact h.cancel (phase?_eq_some.2 ⟨task, found, phase⟩)
    | active =>
      simp only [phase]
      exact h.freeSlot (phase?_eq_some.2 ⟨task, found, phase⟩)

theorem advance (h : Consistent config a) (ms : Nat) : Consistent config (a.advance ms).1 := by
  obtain ⟨sound, limits, matched⟩ := h
  let later : Slots := { a.connections.slots with clock := a.connections.slots.clock + ms }
  have ticked : Consistent config (a.setSlots later) :=
    ⟨sound.later _, limits, matched.congr rfl rfl⟩
  exact ticked.expire

/-- A call that is not refused submits a task that goes by the route of the base URL. -/
theorem submit {s : Submission} {topic : Topic} {operation : Operation} {purpose : Purpose}
    {request : Url → Request} (h : Consistent config a)
    (ruled : s.Ruled config a topic operation purpose request)
    (aim : ∀ url, (request url).url = url) : Consistent config s.adapter := by
  cases ruled with
  | refused result why traceless =>
    exact h.congr traceless.tasks traceless.next (by rw [traceless.connections])
  | submitted on configured parsed result made adapter =>
    obtain ⟨sound, limits, matched⟩ := h
    rw [adapter]
    refine ⟨sound, limits, matched.submit rfl rfl (by rw [made]) (by rw [made]) ?_⟩
    rw [made]
    show hubRoute? config = some (Connections.routeOf (request _).url)
    rw [aim, Connections.routeOf_withPairs]
    exact hubRoute?_eq_some.2 ⟨_, _, configured, parsed, rfl⟩

theorem step (h : Consistent config a) (setUp : SetUp config trust a) (s : Step) :
    Consistent config (a.step s).1 := by
  have dispatched : ∀ payload context fresh,
      Consistent config (a.dispatch payload context fresh).adapter := by
    intro payload context fresh
    exact h.submit (submit_ruled setUp _ _ _ _) fun _ => rfl
  cases s with
  | dispatch payload context fresh => exact dispatched payload context fresh
  | publish payload context fresh =>
    obtain ⟨logs, same⟩ := publish_eq a payload context fresh
    show Consistent config (a.publish payload context fresh).adapter
    rw [same]
    exact dispatched payload context fresh
  | manage eventUri tenant operation correlation fresh =>
    exact h.submit (submit_ruled setUp _ _ _ _) fun _ => rfl
  | begin t => exact h.begin t
  | finish t x => exact h.finish t x
  | drop t => exact h.drop t
  | advance ms => exact h.advance ms
  | stop => exact h.congr rfl rfl (Connections.slots_of_stop a.connections)

theorem run (h : Consistent config a) (setUp : SetUp config trust a) (steps : List Step) :
    Consistent config (a.run steps).1 := by
  induction steps generalizing a with
  | nil => exact h
  | cons s ss ih =>
    -- the setup is kept beside, as it rules the calls that are still to come
    have setUp' : SetUp config trust (a.step s).1 := setUp.kept (.step a s)
    exact ih (h.step setUp s) setUp'

theorem start {logs : List Log.Event} (started : startWith config trust = .ok (a, logs)) :
    Consistent config a := by
  obtain ⟨c, logs', opened, rfl⟩ := eq_of_startWith started
  rw [Connections.eq_of_start opened]
  refine ⟨Slots.Sound.start _, rfl, fun t => ?_, fun t => ?_, List.nodup_nil, ?_, ?_, ?_,
    List.nodup_nil⟩
  · simp [phase?, task?, Slots.start]
  · simp [phase?, task?, Slots.start]
  · simp [Slots.start]
  · simp
  · simp [Sound]

end Consistent

/-! ## Who holds a slot -/

/-- The tasks whose requests are being sent or their answers read. -/
def active (a : Adapter) : List Task := a.tasks.filter (·.phase = .active)

namespace Consistent

/-- Those who hold a slot are the active tasks, each of them once. -/
theorem active_perm (h : Consistent config a) :
    (a.active.map (·.ticket)).Perm (a.connections.slots.granted.map (·.ticket)) := by
  have distinct : (a.active.map (·.ticket)).Nodup :=
    h.matched.distinct.sublist (List.filter_sublist.map _)
  apply (List.perm_ext_iff_of_nodup distinct h.slots.granted_tickets).2
  intro t
  rw [← h.matched.active_iff, phase?_iff_mem h.matched.distinct]
  simp [active, and_assoc]

/-- They are no more than all slots, and no more than the slots of the one route. -/
theorem granted_le (h : Consistent config a) :
    a.connections.slots.granted.length
      ≤ min config.maxConnections config.maxConnectionsPerRoute := by
  obtain ⟨sound, limits, matched⟩ := h
  have total := Slots.granted_le sound
  rw [limits] at total
  refine Nat.le_min.2 ⟨total, ?_⟩
  -- the slots of the first one's route are those of all
  cases granted : a.connections.slots.granted with
  | nil => exact Nat.zero_le _
  | cons c rest =>
    have one : ∀ k ∈ a.connections.slots.granted, k.route = c.route := by
      intro k held
      have mine := matched.checkouts c (List.mem_append_right _ (granted ▸ List.mem_cons_self))
      have its := matched.checkouts k (List.mem_append_right _ held)
      exact Option.some.inj (its.symm.trans mine)
    have perRoute := Slots.grantedOn_le sound c.route
    rw [Slots.grantedOn, Pool.onRoute_eq_self one, limits, granted] at perRoute
    exact perRoute

/-- Without tasks nobody waits and nothing is held. -/
theorem free (h : Consistent config a) (ended : a.tasks = []) :
    a.connections.slots.available = config.maxConnections ∧
      ∀ r, (a.connections.slots.routes r).free = config.maxConnectionsPerRoute := by
  obtain ⟨sound, limits, matched⟩ := h
  have nobody : ∀ t, a.phase? t = none := by
    intro t
    rw [phase?, task?, ended]
    rfl
  have none_waits : a.connections.slots.waiting = [] := by
    refine List.eq_nil_iff_forall_not_mem.2 fun c queues => ?_
    have waits := (matched.waits_iff c.ticket).2 (List.mem_map_of_mem queues)
    rw [nobody] at waits
    cases waits
  have none_held : a.connections.slots.granted = [] := by
    refine List.eq_nil_iff_forall_not_mem.2 fun c held => ?_
    have active := (matched.active_iff c.ticket).2 (List.mem_map_of_mem held)
    rw [nobody] at active
    cases active
  obtain ⟨total, routes⟩ := Slots.free_of_quiet sound none_held none_waits
  rw [limits] at total routes
  exact ⟨total, routes⟩

end Consistent

/-- The requests to a base URL go by its route, whatever their topic and operation. So, of an adapter
that was started and any steps after that: all tasks in flight and all checkouts go by the route of
the base URL; the tasks that hold a slot are the active ones, and they are no more than the smaller
of the limits; and when all tasks have ended, all slots are free. -/
theorem one_route_per_adapter :
    (∀ baseUrl u, Url.parse baseUrl = .ok u → ∀ topic operation, ∃ v,
      Hub.topicUrl topic baseUrl operation = .ok v ∧
      Connections.routeOf v = Connections.routeOf u) ∧
    ∀ {config trust a logs}, startWith config trust = .ok (a, logs) → ∀ steps b,
      (a.run steps).1 = b →
      (∀ task ∈ b.tasks, ∃ base u, configuredBaseUrl config = some base ∧
        Url.parse base = .ok u ∧
        Connections.routeOf task.request.url = Connections.routeOf u) ∧
      (∀ c ∈ b.connections.slots.waiting ++ b.connections.slots.granted, ∃ base u,
        configuredBaseUrl config = some base ∧ Url.parse base = .ok u ∧
        c.route = Connections.routeOf u) ∧
      (b.active.map (·.ticket)).Perm (b.connections.slots.granted.map (·.ticket)) ∧
      b.active.length ≤ min config.maxConnections config.maxConnectionsPerRoute ∧
      (b.tasks = [] → b.connections.slots.available = config.maxConnections ∧
        ∀ r, (b.connections.slots.routes r).free = config.maxConnectionsPerRoute) := by
  refine ⟨fun baseUrl u parsed => Connections.routeOf_topicUrl parsed, ?_⟩
  rintro config trust a logs started steps b rfl
  have consistent : Consistent config (a.run steps).1 :=
    (Consistent.start started).run (.start started) steps
  have held := consistent.active_perm
  refine ⟨?_, ?_, held, ?_, consistent.free⟩
  · intro task member
    exact hubRoute?_eq_some.1 (consistent.matched.tasks task member)
  · intro c member
    exact hubRoute?_eq_some.1 (consistent.matched.checkouts c member)
  · calc (a.run steps).1.active.length
        = (a.run steps).1.connections.slots.granted.length := by simpa using held.length_eq
      _ ≤ min config.maxConnections config.maxConnectionsPerRoute := consistent.granted_le

/-- The sample run when two requests have begun and there is one slot for them. -/
def sampleBusy : Adapter := (sampleStart.run (sampleSteps.take 4)).1

/-- A base URL without a host has the route of all such. Of the two requests of the sample one is
active, and the other waits; at the end both slots of all are free. -/
theorem one_route_per_adapter_sample :
    (∃ v, Hub.topicUrl ⟨"t/e"⟩ Hub.oddBaseUrl .register = .ok v ∧
      Connections.routeOf v = "null") ∧
    (sampleBusy.tasks.map (·.phase) = [.waiting, .active] ∧ sampleBusy.active.length ≤ 1) ∧
    (sampleStart.run sampleSteps).1.connections.slots.available = 2 := by
  obtain ⟨v, url, route⟩ :=
    one_route_per_adapter.1 _ _ Hub.parse_oddBaseUrl ⟨"t/e"⟩ .register
  obtain ⟨-, -, -, count, -⟩ := one_route_per_adapter.2 sample_started (sampleSteps.take 4) _ rfl
  obtain ⟨-, -, -, -, free⟩ := one_route_per_adapter.2 sample_started sampleSteps _ rfl
  exact ⟨⟨v, url, route.trans (by decide)⟩, ⟨by decide +kernel, count⟩, (free sample_gone).1⟩

end HubPublisher.Adapter
