import HubPublisher.Proofs.Pool.Conservation

/-!
No slot stays idle while somebody could have it.

A semaphore never has a slot free and somebody in its queue. Here there are two in a row, and who
queues at the second keeps its slot of the first, so a route could be full of checkouts that merely
wait. That alone never keeps anybody waiting: if one of them waits for a slot of all then all those
are granted. So whoever waits does so because of permits that are granted, on its route or in all
(`waits_only_for_permits`), and whoever finds room by that count is granted at once.
-/
namespace HubPublisher.Pool.Slots

variable {p : Slots} {c k : Checkout} {t : Ticket} {r : String}

theorem all_granted (h : p.Sound) (hk : k ∈ p.total.queue) : p.granted.length = p.limits.total := by
  have slots := h.total_slots
  have full : p.total.free = 0 := Semaphore.free_eq_zero hk
  omega

/-- A full route is full of permits, or else all slots are granted. -/
theorem full_of_route (h : p.Sound) (full : (p.routes r).free = 0) :
    (p.grantedOn r).length = p.limits.perRoute ∨ p.granted.length = p.limits.total := by
  cases seated : p.seatedOn r with
  | nil =>
    have slots := h.route_slots r
    rw [seated, full, List.length_nil] at slots
    exact .inl (by omega)
  | cons k rest =>
    have hk : k ∈ p.seatedOn r := seated ▸ List.mem_cons_self
    exact .inr (all_granted h (mem_onRoute.1 hk).1)

theorem full_of_waiting (h : p.Sound) (hk : k ∈ p.waiting) :
    (p.grantedOn k.route).length = p.limits.perRoute ∨ p.granted.length = p.limits.total := by
  rcases h.mem_waiting.1 hk with queue | line
  · exact .inr (all_granted h queue)
  · exact full_of_route h (Semaphore.free_eq_zero line)

/-- There are slots of either kind just when the permits leave room. -/
theorem free_iff_room (h : p.Sound) (r : String) :
    (0 < (p.routes r).free ∧ 0 < p.total.free) ↔
      (p.grantedOn r).length < p.limits.perRoute ∧ p.granted.length < p.limits.total := by
  have total := h.total_slots
  have route := h.route_slots r
  constructor
  · rintro ⟨free, free'⟩
    omega
  · rintro ⟨room, room'⟩
    have nonzero : (p.routes r).free ≠ 0 := by
      intro full
      rcases full_of_route h full with full | full <;> omega
    omega

theorem enter_grants_iff (h : p.Sound) (new : p.isUsed c.ticket = false) :
    ⟨c, .granted⟩ ∈ (p.enter c).2 ↔
      (p.grantedOn c.route).length < p.limits.perRoute ∧ p.granted.length < p.limits.total := by
  rw [← free_iff_room h]
  rcases Nat.eq_zero_or_pos (p.routes c.route).free with full | free
  · rw [(enter_of_full_route h full).1, full]
    simp
  · rcases Nat.eq_zero_or_pos p.total.free with full | free'
    · rw [(enter_of_full h free full).1, full]
      simp
    · rw [(enter_of_free h (not_mem_of_new new).1 free free').1]
      simp [granting, free, free']

/-- Whoever gives up makes nobody else granted, so a new checkout is granted on entry or not in its
own step. -/
theorem checkout_grants_iff (h : p.Sound) (new : p.isUsed t = false)
    (countable : p.limits.perRoute ≤ slotLimit) :
    ⟨p.request t r, .granted⟩ ∈ (p.checkout t r).2 ↔
      (p.grantedOn r).length < p.limits.perRoute ∧ p.granted.length < p.limits.total := by
  have expired := (expire_spec (enter_sound (c := p.request t r) h new)).1
  have none_granted : ⟨p.request t r, .granted⟩ ∉ (p.enter (p.request t r)).1.expire.2 := by
    rw [expired, givingUp, List.mem_map]
    rintro ⟨k, -, e⟩
    cases e
  rw [checkout_of_new new countable, List.mem_append, or_iff_left none_granted]
  exact enter_grants_iff h new

end HubPublisher.Pool.Slots

namespace HubPublisher.Hub.Connections

open Pool (Slots)

variable {config : Settings.Configuration} {d : Connections}

/-- In every state that connections come to, whoever waits finds the limit of its route used up by
permits that are granted on the route, or the limit of all used up by permits that are granted. So
a new checkout is granted in its own step just when there is room by either count. -/
theorem waits_only_for_permits (h : Reachable config d)
    (countable : config.maxConnectionsPerRoute ≤ Pool.slotLimit) :
    (∀ k ∈ d.slots.waiting,
      (d.slots.grantedOn k.route).length = config.maxConnectionsPerRoute ∨
        d.slots.granted.length = config.maxConnections) ∧
    ∀ t url, d.slots.isUsed t = false → ∀ s ∈ [Step.checkout t url, Step.channelCheckout t url],
      (⟨d.slots.request t (routeOf url), .granted⟩ ∈ (d.step s).2.notices ↔
        (d.slots.grantedOn (routeOf url)).length < config.maxConnectionsPerRoute ∧
          d.slots.granted.length < config.maxConnections) := by
  obtain ⟨sound, limits, buildable⟩ := h.sound
  have total : d.slots.limits.total = config.maxConnections := by rw [limits]; rfl
  have perRoute : d.slots.limits.perRoute = config.maxConnectionsPerRoute := by rw [limits]; rfl
  rw [← perRoute] at countable
  rw [← total, ← perRoute]
  refine ⟨fun k hk => Slots.full_of_waiting sound hk, fun t url new s hs => ?_⟩
  have answer : (d.step s).2.notices = (d.slots.checkout t (routeOf url)).2 := by
    have same := congrArg Pool.Answer.notices (step_slots buildable s).2.1
    rcases List.mem_pair.1 hs with rfl | rfl <;> exact same
  rw [answer]
  exact Slots.checkout_grants_iff sound new countable

theorem waits_only_for_permits_sample :
    sampleConfig.maxConnectionsPerRoute ≤ Pool.slotLimit ∧ sampleEnd.slots.waiting ≠ [] ∧
    (∀ k ∈ sampleEnd.slots.waiting,
      (sampleEnd.slots.grantedOn k.route).length = 1 ∨ sampleEnd.slots.granted.length = 2) ∧
    (⟨sampleEnd.slots.request 6 (routeOf (sampleUrl "d")), .granted⟩ ∈
        (sampleEnd.step (.checkout 6 (sampleUrl "d"))).2.notices ↔
      (sampleEnd.slots.grantedOn (routeOf (sampleUrl "d"))).length < 1 ∧
        sampleEnd.slots.granted.length < 2) := by
  have reachable : Reachable sampleConfig sampleEnd := sample_reachable _
  obtain ⟨waits, grants⟩ := waits_only_for_permits reachable (by decide)
  exact ⟨by decide, by decide, waits,
    grants 6 (sampleUrl "d") (by decide) _ List.mem_cons_self⟩

end HubPublisher.Hub.Connections
