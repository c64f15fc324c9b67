import HubPublisher.Proofs.Pool.Runs

/-!
No slot is lost.

Whatever mixture of grants, returns, withdrawals and deadlines came before, the free slots and those
that are held make up the limits, and only whoever is granted or queues for a slot of all holds one
(`slots_conserved`). The clauses are those of `Sound`, which every act keeps; that whoever queues
for a slot of its route holds none is also seen when it stops waiting, as no slot comes free then.
-/
namespace HubPublisher.Pool.Slots

variable {p : Slots} {k : Checkout} {r : String}

theorem grantedOn_le (h : p.Sound) (r : String) : (p.grantedOn r).length ≤ p.limits.perRoute := by
  have slots := h.route_slots r
  omega

theorem granted_le (h : p.Sound) : p.granted.length ≤ p.limits.total := by
  have slots := h.total_slots
  omega

/-- When nobody holds a permit or waits, every slot is free. -/
theorem free_of_quiet (h : p.Sound) (granted : p.granted = []) (waiting : p.waiting = []) :
    p.available = p.limits.total ∧ ∀ r, (p.routes r).free = p.limits.perRoute := by
  have queue : p.total.queue = [] := by
    refine List.eq_nil_iff_forall_not_mem.2 fun k hk => ?_
    simpa [waiting] using h.mem_queue hk
  refine ⟨?_, fun r => ?_⟩
  · have slots := h.total_slots
    rw [granted, List.length_nil] at slots
    exact slots
  · have slots := h.route_slots r
    rw [grantedOn, seatedOn, granted, queue] at slots
    exact slots

/-- Whoever queues for a slot of its route frees none when it stops waiting. -/
theorem cancel_of_line (h : p.Sound) (hk : k ∈ (p.routes r).queue) :
    (p.cancel k.ticket).1.available = p.available ∧
      (∀ x, ((p.cancel k.ticket).1.routes x).free = (p.routes x).free) ∧
      (p.cancel k.ticket).1.granted = p.granted := by
  obtain ⟨waits, rfl⟩ := h.mem_line hk
  have flow := (withdraw_of_line h hk).2
  have not_granted := h.not_granted waits
  have not_queue : k ∉ p.total.queue := fun hq => h.not_mem_line hq hk
  rw [cancel_of_waiting h waits]
  refine ⟨?_, fun x => ?_, withdraw_granted h waits⟩
  · have total := flow.total_free
    rw [among_single not_granted] at total
    exact total
  · have route := flow.route_free x
    rw [among_append, among_single not_granted, among_single not_queue] at route
    exact route

end HubPublisher.Pool.Slots

namespace HubPublisher.Hub.Connections

open Pool (Slots)

variable {config : Settings.Configuration} {d : Connections}

/-- In every state that connections come to:
1. the free slots of all and the permits that are granted make up the limit;
2. on every route, the free slots, the permits that are granted and the checkouts that have a slot
   of the route and wait for one of all make up the limit;
3. whoever waits queues either for a slot of all or for one of its route, under a ticket of its own;
4. whoever queues for a slot of its route holds none: it is not among those that were counted, and
   when it stops waiting nothing comes free and nobody is granted;
5. no limit is exceeded;
6. giving back under a ticket that holds no permit changes nothing;
7. when no permit is held and nobody waits, all slots are free. -/
theorem slots_conserved (h : Reachable config d) :
    d.slots.available + d.slots.granted.length = config.maxConnections ∧
    (∀ r, (d.slots.routes r).free + (d.slots.grantedOn r).length + (d.slots.seatedOn r).length
      = config.maxConnectionsPerRoute) ∧
    ((∀ k, k ∈ d.slots.waiting ↔
        k ∈ d.slots.seatedOn k.route ∨ k ∈ (d.slots.routes k.route).queue) ∧
      ((d.slots.waiting ++ d.slots.granted).map (·.ticket)).Nodup) ∧
    (∀ r, ∀ k ∈ (d.slots.routes r).queue, k ∉ d.slots.granted ∧ (∀ x, k ∉ d.slots.seatedOn x) ∧
      (d.step (.cancel k.ticket)).1.slots.available = d.slots.available ∧
      (∀ x, ((d.step (.cancel k.ticket)).1.slots.routes x).free = (d.slots.routes x).free) ∧
      (d.step (.cancel k.ticket)).1.slots.granted = d.slots.granted) ∧
    (d.slots.granted.length ≤ config.maxConnections ∧
      ∀ r, (d.slots.grantedOn r).length ≤ config.maxConnectionsPerRoute) ∧
    (∀ t, (∀ k ∈ d.slots.granted, k.ticket ≠ t) → d.step (.release t) = (d, Effect.none)) ∧
    (d.slots.granted = [] → d.slots.waiting = [] →
      d.slots.available = config.maxConnections ∧
      ∀ r, (d.slots.routes r).free = config.maxConnectionsPerRoute) := by
  obtain ⟨sound, limits, -⟩ := h.sound
  have total : d.slots.limits.total = config.maxConnections := by rw [limits]; rfl
  have perRoute : d.slots.limits.perRoute = config.maxConnectionsPerRoute := by rw [limits]; rfl
  rw [← total, ← perRoute]
  refine ⟨sound.total_slots, sound.route_slots, ⟨fun k => ?_, sound.tickets⟩, fun r k hk => ?_,
    ⟨Slots.granted_le sound, Slots.grantedOn_le sound⟩, fun t none => ?_, Slots.free_of_quiet sound⟩
  · rw [sound.mem_waiting, Slots.seatedOn, Pool.mem_onRoute, and_iff_left rfl]
  · have waits := (sound.mem_line hk).1
    refine ⟨sound.not_granted waits, fun x hx => ?_, Slots.cancel_of_line sound hk⟩
    exact sound.not_mem_line (Pool.mem_onRoute.1 hx).1 hk
  · simp only [step, Slots.release_of_not_granted none]
    rfl

/-- What the sample comes to when nobody waits and all permits are given back. -/
def sampleQuiet : Connections :=
  (sampleStart.run (sampleSteps ++ [.cancel 2, .release 3, .release 4, .release 5])).1

theorem slots_conserved_sample :
    (sampleEnd.slots.available + sampleEnd.slots.granted.length = 2 ∧
      ∀ r, (sampleEnd.slots.routes r).free + (sampleEnd.slots.grantedOn r).length
        + (sampleEnd.slots.seatedOn r).length = 1) ∧
    sampleEnd.step (.release 1) = (sampleEnd, Effect.none) ∧
    sampleQuiet.slots.available = 2 := by
  have busy : Reachable sampleConfig sampleEnd := sample_reachable _
  have idle : Reachable sampleConfig sampleQuiet := sample_reachable _
  obtain ⟨total, perRoute, -, -, -, release, -⟩ := slots_conserved busy
  obtain ⟨-, -, -, -, -, -, quiet⟩ := slots_conserved idle
  exact ⟨⟨total, perRoute⟩, release 1 (by decide), (quiet (by decide) (by decide)).1⟩

end HubPublisher.Hub.Connections
