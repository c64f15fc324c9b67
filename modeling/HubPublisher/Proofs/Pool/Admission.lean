import HubPublisher.Proofs.Pool.Conservation

/-!
Who lets a waiting checkout in.

A slot of all comes free only when a permit is given back, and whoever is granted needs one. So
slots of a route that are handed on when checkouts give up or are withdrawn make nobody granted, and
a checkout that enters is granted itself or makes nobody granted. A permit that is given back makes
one checkout granted, or none; which of the two is told by the permits that are left
(`giveBack_grants_iff`): somebody waits on a route where they leave room.
-/
namespace HubPublisher.Pool.Slots

variable {p q : Slots} {a : Action} {c k : Checkout}

/-- Nobody is granted but whoever enters. -/
theorem enter_admits (h : p.Sound) (new : p.isUsed c.ticket = false) :
    ∃ grants, (∀ k ∈ grants, k = c) ∧ (p.enter c).2 = granting grants ∧
      (p.enter c).1.granted = p.granted ++ grants := by
  rcases Nat.eq_zero_or_pos (p.routes c.route).free with full | free
  · obtain ⟨notices, flow⟩ := enter_of_full_route h full
    exact ⟨[], by simp, notices, by simpa using flow.granted⟩
  · rcases Nat.eq_zero_or_pos p.total.free with full | free'
    · obtain ⟨notices, flow⟩ := enter_of_full h free full
      exact ⟨[], by simp, notices, by simpa using flow.granted⟩
    · obtain ⟨notices, flow⟩ := enter_of_free h (not_mem_of_new new).1 free free'
      exact ⟨[c], by simp, notices, by simpa using flow.granted⟩

theorem not_granted_of_expire (h : p.Sound) : ∀ n ∈ p.expire.2, n.ending ≠ .granted := by
  intro n told
  rw [(expire_spec h).1] at told
  obtain ⟨k, -, rfl⟩ := List.mem_map.1 told
  exact nofun

/-- However much time passes and however many deadlines with it, nobody is granted. -/
theorem advance_grants_none (h : p.Sound) (ms : Nat) :
    (∀ n ∈ (p.advance ms).2, n.ending ≠ .granted) ∧ (p.advance ms).1.granted = p.granted := by
  have later := h.later (p.clock + ms)
  exact ⟨not_granted_of_expire later, (expire_spec later).2.2.2.1⟩

/-- When a wait is ended there is no news, and nobody is granted. -/
theorem cancel_grants_none (h : p.Sound) (t : Ticket) :
    (p.cancel t).2.2 = [] ∧ (p.cancel t).1.granted = p.granted := by
  unfold cancel
  cases found : p.waiting.find? (·.ticket == t) with
  | none => exact ⟨rfl, rfl⟩
  | some c =>
    have waits := List.mem_of_find?_eq_some found
    exact ⟨(withdraw_flow h waits).1, withdraw_granted h waits⟩

/-- Whatever happens but that a permit is given back, nobody who waits is granted. -/
theorem Performs.admits_none {entered : List Checkout} {news : List Notice}
    (done : Performs p a q entered news) (h : p.Sound) (other : ∀ t, a ≠ .release t)
    (hk : k ∈ p.waiting) : ⟨k, .granted⟩ ∉ news ∧ k ∉ q.granted := by
  have not_granted := h.not_granted hk
  cases done with
  | idle refusals =>
    refine ⟨fun told => ?_, not_granted⟩
    cases refusals _ told
  | @enter t r new =>
    -- who enters has a new ticket and is nobody who waits
    have another : k ≠ p.request t r := by
      rintro rfl
      exact (not_mem_of_new (c := p.request t r) new).1 hk
    obtain ⟨grants, only, notices, granted⟩ := enter_admits (c := p.request t r) h new
    have sound := enter_sound (c := p.request t r) h new
    have unlisted : k ∉ grants := fun listed => another (only k listed)
    rw [(expire_spec sound).2.2.2.1, notices, granted, List.mem_append, List.mem_append, not_or,
      not_or]
    refine ⟨⟨by simpa [granting] using unlisted, fun told => ?_⟩, not_granted, unlisted⟩
    exact not_granted_of_expire sound _ told rfl
  | giveBack held => exact absurd rfl (other _)
  | withdraw waits =>
    rw [withdraw_granted h waits]
    exact ⟨List.not_mem_nil, not_granted⟩
  | advance ms =>
    obtain ⟨notices, granted⟩ := advance_grants_none h ms
    refine ⟨fun told => notices _ told rfl, ?_⟩
    show k ∉ (p.advance ms).1.granted
    rw [granted]
    exact not_granted

/-! ## Permits that are given back -/

/-- One checkout that waited is granted, or none. -/
theorem giveBack_admits (h : p.Sound) (hc : c ∈ p.granted) :
    ∃ grants, grants.length ≤ 1 ∧ (∀ k ∈ grants, k ∈ p.waiting) ∧
      (p.giveBack c).2 = granting grants ∧
      (p.giveBack c).1.granted = p.granted.erase c ++ grants ∧
      (grants = [] → p.total.queue = [] ∧ (p.routes c.route).queue = []) := by
  have without_c := erase_eq_without (c := c) h.granted_nodup
  cases queue : p.total.queue with
  | cons k rest =>
    have waits : k ∈ p.waiting := h.mem_queue (queue ▸ List.mem_cons_self)
    obtain ⟨notices, flow⟩ := giveBack_of_queue h hc queue
    exact ⟨[k], by simp, by simpa using waits, notices, by rw [without_c, flow.granted], nofun⟩
  | nil =>
    cases line : (p.routes c.route).queue with
    | cons k rest =>
      have waits : k ∈ p.waiting := (h.mem_line (line ▸ List.mem_cons_self)).1
      obtain ⟨notices, flow⟩ := giveBack_of_line h hc queue line
      exact ⟨[k], by simp, by simpa using waits, notices, by rw [without_c, flow.granted], nofun⟩
    | nil =>
      obtain ⟨notices, flow⟩ := giveBack_of_idle h hc queue line
      exact ⟨[], by simp, by simp, notices, by rw [without_c, flow.granted], fun _ => ⟨rfl, rfl⟩⟩

/-- When nobody queues for a slot of all, a route that somebody waits on is full of permits. -/
theorem full_of_line (h : p.Sound) (queue : p.total.queue = []) (hk : k ∈ p.waiting) :
    k ∈ (p.routes k.route).queue ∧ (p.grantedOn k.route).length = p.limits.perRoute := by
  have line : k ∈ (p.routes k.route).queue := by
    rcases h.mem_waiting.1 hk with queued | line
    · exact absurd queued (by simp [queue])
    · exact line
  have slots := h.route_slots k.route
  rw [Semaphore.free_eq_zero line, seatedOn, queue, onRoute_nil, List.length_nil] at slots
  exact ⟨line, by omega⟩

/-- Somebody is granted just when somebody waits on a route where the permits that are left leave
room. -/
theorem giveBack_grants_iff (h : p.Sound) (hc : c ∈ p.granted) {grants : List Checkout}
    (granted : (p.giveBack c).1.granted = p.granted.erase c ++ grants)
    (waits : ∀ k ∈ grants, k ∈ p.waiting)
    (idle : grants = [] → p.total.queue = [] ∧ (p.routes c.route).queue = []) :
    grants ≠ [] ↔
      ∃ k ∈ p.waiting, (onRoute k.route (p.granted.erase c)).length < p.limits.perRoute := by
  constructor
  · intro some_granted
    obtain ⟨k, rest, rfl⟩ := List.exists_cons_of_ne_nil some_granted
    refine ⟨k, waits k List.mem_cons_self, ?_⟩
    -- with the one that is granted the route is not too full
    have bound := grantedOn_le (giveBack_sound h hc) k.route
    have limits : (p.giveBack c).1.limits = p.limits := by
      obtain ⟨_, -, flow⟩ := giveBack_flow h hc
      exact flow.limits
    have member : 0 < (onRoute k.route (k :: rest)).length :=
      List.length_pos_of_mem (mem_onRoute.2 ⟨List.mem_cons_self, rfl⟩)
    rw [limits, grantedOn, granted, onRoute_append, List.length_append] at bound
    omega
  · rintro ⟨k, hk, room⟩ rfl
    obtain ⟨queue, line⟩ := idle rfl
    obtain ⟨here, full⟩ := full_of_line h queue hk
    -- nobody is in line on the route of the permit, so the permit is none of those that fill it
    have elsewhere : c.route ≠ k.route := by
      intro same
      rw [← same, line] at here
      exact absurd here List.not_mem_nil
    have kept : onRoute k.route (p.granted.erase c) = p.grantedOn k.route := by
      have none : c ∉ p.grantedOn k.route := fun on => elsewhere (mem_onRoute.1 on).2
      rw [erase_eq_without h.granted_nodup, onRoute_without, ← grantedOn, without_single none]
    rw [kept] at room
    omega

end HubPublisher.Pool.Slots

namespace HubPublisher.Hub.Connections

open Pool (Slots)

variable {config : Settings.Configuration} {d : Connections}

/-- In every state that connections come to:
1. no step but a release grants a checkout that waits;
2. an advance and a cancel grant nobody at all, however many checkouts give up and whatever slots
   they give back;
3. the release of a permit grants one of those that wait or nobody, and the first exactly when
   somebody waits on a route that has room by the permits that are left. -/
theorem only_release_admits (h : Reachable config d) :
    (∀ s, (∀ t, s ≠ Step.release t) → ∀ k ∈ d.slots.waiting,
      ⟨k, .granted⟩ ∉ (d.step s).2.notices ∧ k ∉ (d.step s).1.slots.granted) ∧
    (∀ s, (∃ ms, s = Step.advance ms) ∨ (∃ t, s = Step.cancel t) →
      (∀ n ∈ (d.step s).2.notices, n.ending ≠ .granted) ∧
        (d.step s).1.slots.granted = d.slots.granted) ∧
    ∀ c ∈ d.slots.granted, ∃ grants,
      (d.step (.release c.ticket)).2.notices = Slots.granting grants ∧
      (d.step (.release c.ticket)).1.slots.granted = d.slots.granted.erase c ++ grants ∧
      (∀ k ∈ grants, k ∈ d.slots.waiting) ∧ grants.length ≤ 1 ∧
      (grants.length = 1 ↔ ∃ k ∈ d.slots.waiting,
        (Pool.onRoute k.route (d.slots.granted.erase c)).length
          < config.maxConnectionsPerRoute) := by
  obtain ⟨sound, limits, buildable⟩ := h.sound
  have perRoute : d.slots.limits.perRoute = config.maxConnectionsPerRoute := by rw [limits]; rfl
  rw [← perRoute]
  refine ⟨fun s other k hk => ?_, ?_, fun c hc => ?_⟩
  · obtain ⟨slots, answer, -⟩ := step_slots buildable s
    have notices : (d.step s).2.notices = _ := congrArg Pool.Answer.notices answer
    rw [slots, notices]
    refine (Slots.perform_performs sound s.action).admits_none sound (fun t same => ?_) hk
    cases s <;> cases same
    exact other t rfl
  · rintro s (⟨ms, rfl⟩ | ⟨t, rfl⟩)
    · exact Slots.advance_grants_none sound ms
    · obtain ⟨notices, granted⟩ := Slots.cancel_grants_none sound t
      simp only [step, notices, granted]
      exact ⟨by simp, trivial⟩
  · obtain ⟨grants, atMost, waits, notices, granted, idle⟩ := Slots.giveBack_admits sound hc
    have released := Slots.release_of_granted sound hc
    have some_iff := Slots.giveBack_grants_iff sound hc granted waits idle
    simp only [step, released]
    refine ⟨grants, notices, granted, waits, atMost, ?_⟩
    rw [← some_iff, ← List.length_pos_iff]
    omega

/-- In the sample one permit is given back to the checkout that queues for a slot of all, and
neither time nor a cancelled wait makes anybody granted. -/
theorem only_release_admits_sample :
    (∃ grants, (sampleEnd.step (.release 3)).2.notices = Slots.granting grants ∧
      (∀ k ∈ grants, k ∈ sampleEnd.slots.waiting) ∧ grants.length = 1) ∧
    (sampleEnd.step (.advance 5000)).1.slots.granted = sampleEnd.slots.granted ∧
    (sampleEnd.step (.cancel 2)).1.slots.granted = sampleEnd.slots.granted := by
  have reachable : Reachable sampleConfig sampleEnd := sample_reachable _
  obtain ⟨-, none, release⟩ := only_release_admits reachable
  obtain ⟨grants, notices, -, waits, -, one⟩ := release ⟨3, "https://b", 1000⟩ (by decide)
  exact ⟨⟨grants, notices, waits, one.2 (by decide)⟩, (none _ (.inl ⟨5000, rfl⟩)).2,
    (none _ (.inr ⟨2, rfl⟩)).2⟩

end HubPublisher.Hub.Connections
