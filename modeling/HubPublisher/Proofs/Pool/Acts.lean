import HubPublisher.Proofs.Pool.Flow

/-!
The acts that every operation is made of.

A checkout enters, one that waits is withdrawn, one that is granted gives its slots back. Each obeys
the law of `Flow` and so keeps the slots sound; to give up is to be withdrawn with a notice. No act
but these moves anyone, so what the three keep, every operation keeps.
-/
namespace HubPublisher.Pool

namespace Slots

variable {p : Slots} {c k : Checkout} {r : String}

/-! ## What asking and giving back come to -/

theorem setRoute_routes (s : Semaphore Checkout) (r r' : String) :
    (p.setRoute r s).routes r' = if r' = r then s else p.routes r' := rfl

theorem askTotal_of_free (h : 0 < p.total.free) :
    p.askTotal c = { p with total := (p.total.acquire c).1 }.grant c := by
  have flag := p.total.acquire_flag c
  cases ha : p.total.acquire c with
  | mk s b => simp_all [askTotal]

theorem askTotal_of_full (h : p.total.free = 0) :
    p.askTotal c = ({ p with total := (p.total.acquire c).1 }, []) := by
  have flag := p.total.acquire_flag c
  cases ha : p.total.acquire c with
  | mk s b => simp_all [askTotal]

theorem askRoute_of_free (h : 0 < (p.routes c.route).free) :
    p.askRoute c = (p.setRoute c.route ((p.routes c.route).acquire c).1).askTotal c := by
  have flag := (p.routes c.route).acquire_flag c
  cases ha : (p.routes c.route).acquire c with
  | mk s b => simp_all [askRoute]

theorem askRoute_of_full (h : (p.routes c.route).free = 0) :
    p.askRoute c = (p.setRoute c.route ((p.routes c.route).acquire c).1, []) := by
  have flag := (p.routes c.route).acquire_flag c
  cases ha : (p.routes c.route).acquire c with
  | mk s b => simp_all [askRoute]

theorem releaseTotal_of_nil (h : p.total.queue = []) :
    p.releaseTotal = ({ p with total := p.total.release.1 }, []) := by
  have next := p.total.release_next
  cases hr : p.total.release with
  | mk s o => simp_all [releaseTotal]

theorem releaseTotal_of_cons {rest : List Checkout} (h : p.total.queue = k :: rest) :
    p.releaseTotal = { p with total := p.total.release.1 }.grant k := by
  have next := p.total.release_next
  cases hr : p.total.release with
  | mk s o => simp_all [releaseTotal]

theorem releaseRoute_of_nil (h : (p.routes r).queue = []) :
    p.releaseRoute r = (p.setRoute r (p.routes r).release.1, []) := by
  have next := (p.routes r).release_next
  cases hr : (p.routes r).release with
  | mk s o => simp_all [releaseRoute]

theorem releaseRoute_of_cons {rest : List Checkout} (h : (p.routes r).queue = k :: rest) :
    p.releaseRoute r = (p.setRoute r (p.routes r).release.1).askTotal k := by
  have next := (p.routes r).release_next
  cases hr : (p.routes r).release with
  | mk s o => simp_all [releaseRoute]

/-! ## The three acts -/

/-- The news that checkouts are granted. -/
def granting (grants : List Checkout) : List Notice := grants.map (⟨·, .granted⟩)

/-- Who gets a slot of its route when `c` enters. -/
def seatsOnEntry (p : Slots) (c : Checkout) : List Checkout :=
  if 0 < (p.routes c.route).free then [c] else []

/-- Who gets a slot of its route when `c` stops waiting. -/
def seatsOnWithdrawal (p : Slots) (c : Checkout) : List Checkout :=
  if c ∈ p.total.queue then (p.routes c.route).queue.take 1 else []

/-- Who gets a slot of its route when `c` gives back its own. -/
def seatsOnReturn (p : Slots) (c : Checkout) : List Checkout := (p.routes c.route).queue.take 1

theorem isUsed_eq_false_iff {t : Ticket} :
    p.isUsed t = false ↔ t ∉ (p.waiting ++ p.granted).map (·.ticket) := by
  simp [isUsed]

theorem not_mem_of_new (new : p.isUsed c.ticket = false) : c ∉ p.waiting ∧ c ∉ p.granted := by
  have unlisted := isUsed_eq_false_iff.1 new
  constructor
  · intro waits
    exact unlisted (List.mem_map_of_mem (List.mem_append_left _ waits))
  · intro held
    exact unlisted (List.mem_map_of_mem (List.mem_append_right _ held))

/-- Whoever enters while its route is full queues for a slot of it. -/
theorem enter_of_full_route (h : p.Sound) (full : (p.routes c.route).free = 0) :
    (p.enter c).2 = [] ∧ Flow p (p.enter c).1 [] [c] [] [] := by
  rw [enter, askRoute_of_full (by exact full)]
  refine ⟨rfl, .of_route (r := c.route) h (by simp) (fun x hx => by simp [setRoute_routes, hx])
    rfl rfl (by simp [setRoute]) ?line (by simp [setRoute]) (by simp [setRoute])
    (by simp [setRoute]) (by simp [setRoute_routes, full])⟩
  simp [setRoute_routes, Semaphore.acquire_queue, full]

/-- Whoever enters while its route has a slot and no slot of all is free queues for one of all. -/
theorem enter_of_full (h : p.Sound) (free : 0 < (p.routes c.route).free)
    (full : p.total.free = 0) :
    (p.enter c).2 = [] ∧ Flow p (p.enter c).1 [] [c] [c] [] := by
  have line := (p.routes c.route).queue_eq_nil free
  rw [enter, askRoute_of_free (by exact free), askTotal_of_full (by exact full)]
  refine ⟨rfl, .of_route (r := c.route) h (by simp) (fun x hx => by simp [setRoute_routes, hx])
    rfl rfl (by simp [setRoute]) ?line ?queue (by simp [setRoute]) ?total ?route⟩
  case line => simp [setRoute_routes, Semaphore.acquire_queue, free, line]
  case queue => simp [setRoute, Semaphore.acquire_queue, full]
  case total => simp [setRoute, full]
  case route =>
    simp [setRoute_routes]
    omega

/-- Whoever enters while there are slots of either kind is granted. -/
theorem enter_of_free (h : p.Sound) (new : c ∉ p.waiting) (free : 0 < (p.routes c.route).free)
    (free' : 0 < p.total.free) :
    (p.enter c).2 = granting [c] ∧ Flow p (p.enter c).1 [] [c] [c] [c] := by
  -- where a slot is free nobody queues, so nobody is overtaken
  have line := (p.routes c.route).queue_eq_nil free
  have queue := p.total.queue_eq_nil free'
  rw [enter, askRoute_of_free (by exact free), askTotal_of_free (by exact free')]
  refine ⟨rfl, .of_route (r := c.route) h (by simp)
    (fun x hx => by simp [grant, setRoute_routes, hx]) rfl rfl ?waiting ?line ?queue
    (by simp [grant, setRoute]) ?total ?route⟩
  case waiting =>
    rw [without_append, without_nil, without_single new]
    simp [grant, setRoute, List.erase_append_right _ new, without]
  case line => simp [grant, setRoute_routes, Semaphore.acquire_queue, free, line]
  case queue => simp [grant, setRoute, Semaphore.acquire_queue, free', queue]
  case total =>
    simp [grant, setRoute]
    omega
  case route =>
    simp [grant, setRoute_routes]
    omega

/-- Whoever stops queueing for a slot of its route had no slot to give back. -/
theorem withdraw_of_line (h : p.Sound) (hc : c ∈ (p.routes c.route).queue) :
    (p.withdraw c).2 = [] ∧ Flow p (p.withdraw c).1 [c] [] [] [] := by
  have not_queue : c ∉ p.total.queue := fun hq => h.not_mem_line hq hc
  have not_granted := h.not_granted (h.mem_line hc).1
  rw [withdraw, if_neg (by exact not_queue)]
  refine ⟨rfl, .of_route (r := c.route) h (by simp) (fun x hx => by simp [setRoute_routes, hx])
    rfl rfl ?waiting ?line ?queue ?granted ?total ?route⟩
  case waiting => simp [setRoute, erase_eq_without h.waiting_nodup]
  case line => simp [setRoute_routes, erase_eq_without (h.line_nodup c.route)]
  case queue => simp [setRoute, without_single not_queue]
  case granted => simp [setRoute, without_single not_granted]
  case total => simp [setRoute, among_single not_granted]
  case route => simp [setRoute_routes, among_single not_granted, among_single not_queue]

/-- Whoever stops queueing for a slot of all gives the slot of its route to the next in line. -/
theorem withdraw_of_queue (h : p.Sound) (hc : c ∈ p.total.queue) :
    (p.withdraw c).2 = [] ∧
      Flow p (p.withdraw c).1 [c] [] ((p.routes c.route).queue.take 1) [] := by
  have not_line : c ∉ (p.routes c.route).queue := h.not_mem_line hc
  have full : p.total.free = 0 := Semaphore.free_eq_zero hc
  have not_granted := h.not_granted (h.mem_queue hc)
  have back := length_among_single h.queue_nodup hc
  rw [withdraw, if_pos (by exact hc)]
  cases line : (p.routes c.route).queue with
  | nil =>
    rw [releaseRoute_of_nil (by exact line)]
    refine ⟨rfl, .of_route (r := c.route) h (by simp) (fun x hx => by simp [setRoute_routes, hx])
      rfl rfl ?waiting ?line ?queue ?granted ?total ?route⟩
    case waiting => simp [setRoute, erase_eq_without h.waiting_nodup]
    case line => simp [setRoute_routes, line, without]
    case queue => simp [setRoute, erase_eq_without h.queue_nodup]
    case granted => simp [setRoute, without_single not_granted]
    case total => simp [setRoute, among_single not_granted]
    case route =>
      simp [setRoute_routes, Semaphore.release_free, line, among_single not_granted, back]
  | cons k rest =>
    -- as `c` queued, no slot of all is free, and the next in line queues for one in turn
    have route : k.route = c.route := (h.mem_line (line ▸ List.mem_cons_self)).2
    rw [releaseRoute_of_cons (by exact line), askTotal_of_full (by exact full)]
    refine ⟨rfl, .of_route (r := c.route) h (by simp [route])
      (fun x hx => by simp [setRoute_routes, hx]) rfl rfl ?waiting ?line ?queue ?granted ?total
      ?route⟩
    case waiting => simp [setRoute, erase_eq_without h.waiting_nodup]
    case line =>
      rw [without_single not_line]
      simp [setRoute_routes, line]
    case queue => simp [setRoute, Semaphore.acquire_queue, full, erase_eq_without h.queue_nodup]
    case granted => simp [setRoute, without_single not_granted]
    case total => simp [setRoute, among_single not_granted, full]
    case route =>
      simp [setRoute_routes, Semaphore.release_free, line, among_single not_granted, back]

/-- Slots that nobody waits for are free again. -/
theorem giveBack_of_idle (h : p.Sound) (hc : c ∈ p.granted) (queue : p.total.queue = [])
    (line : (p.routes c.route).queue = []) :
    (p.giveBack c).2 = [] ∧ Flow p (p.giveBack c).1 [c] [] [] [] := by
  obtain ⟨not_waiting, not_queue, -⟩ := h.nowhere hc
  have back := length_among_single h.granted_nodup hc
  rw [giveBack, releaseTotal_of_nil (by exact queue)]
  dsimp only
  rw [releaseRoute_of_nil (by exact line)]
  refine ⟨rfl, .of_route (r := c.route) h (by simp) (fun x hx => by simp [setRoute_routes, hx])
    rfl rfl ?waiting ?line ?queue ?granted ?total ?route⟩
  case waiting => simp [setRoute, without_single not_waiting]
  case line => simp [setRoute_routes, line, without]
  case queue => simp [setRoute, queue, without]
  case granted => simp [setRoute, erase_eq_without h.granted_nodup]
  case total => simp [setRoute, Semaphore.release_free, queue, back]
  case route => simp [setRoute_routes, Semaphore.release_free, line, back, among_single not_queue]

/-- When nobody queues for a slot of all, the next in line is granted. -/
theorem giveBack_of_line {rest : List Checkout} (h : p.Sound) (hc : c ∈ p.granted)
    (queue : p.total.queue = []) (line : (p.routes c.route).queue = k :: rest) :
    (p.giveBack c).2 = granting [k] ∧ Flow p (p.giveBack c).1 [c] [] [k] [k] := by
  obtain ⟨not_waiting, not_queue, not_line⟩ := h.nowhere hc
  have back := length_among_single h.granted_nodup hc
  have route : k.route = c.route := (h.mem_line (line ▸ List.mem_cons_self)).2
  rw [giveBack, releaseTotal_of_nil (by exact queue)]
  dsimp only
  rw [releaseRoute_of_cons (by exact line),
    askTotal_of_free (by simp [setRoute, Semaphore.release_free, queue])]
  refine ⟨rfl, .of_route (r := c.route) h (by simp [route])
    (fun x hx => by simp [grant, setRoute_routes, hx]) rfl rfl ?waiting ?line ?queue ?granted
    ?total ?route⟩
  case waiting =>
    simp [grant, setRoute, without_single not_waiting, erase_eq_without h.waiting_nodup]
  case line =>
    rw [without_single (not_line _)]
    simp [grant, setRoute_routes, line]
  case queue =>
    simp [grant, setRoute, Semaphore.acquire_queue, Semaphore.release_free, queue, without]
  case granted => simp [grant, setRoute, erase_eq_without h.granted_nodup]
  case total => simp [grant, setRoute, Semaphore.release_free, queue, back]
  case route =>
    simp [grant, setRoute_routes, Semaphore.release_free, line, back, among_single not_queue]

/-- The next that queues for a slot of all is granted, and the next in line queues behind. -/
theorem giveBack_of_queue {rest : List Checkout} (h : p.Sound) (hc : c ∈ p.granted)
    (queue : p.total.queue = k :: rest) :
    (p.giveBack c).2 = granting [k] ∧
      Flow p (p.giveBack c).1 [c] [] ((p.routes c.route).queue.take 1) [k] := by
  obtain ⟨not_waiting, not_queue, not_line⟩ := h.nowhere hc
  have back := length_among_single h.granted_nodup hc
  have full : p.total.free = 0 := Semaphore.free_eq_zero (queue ▸ List.mem_cons_self)
  rw [giveBack, releaseTotal_of_cons (by exact queue)]
  dsimp only
  cases line : (p.routes c.route).queue with
  | nil =>
    rw [releaseRoute_of_nil (by exact line)]
    refine ⟨rfl, .of_route (r := c.route) h (by simp)
      (fun x hx => by simp [grant, setRoute_routes, hx]) rfl rfl ?waiting ?line ?queue ?granted
      ?total ?route⟩
    case waiting =>
      simp [grant, setRoute, without_single not_waiting, erase_eq_without h.waiting_nodup]
    case line => simp [grant, setRoute_routes, line, without]
    case queue =>
      rw [without_single not_queue]
      simp [grant, setRoute, queue]
    case granted => simp [grant, setRoute, erase_eq_without h.granted_nodup]
    case total => simp [grant, setRoute, Semaphore.release_free, queue, back]
    case route =>
      simp [grant, setRoute_routes, Semaphore.release_free, line, back, among_single not_queue]
  | cons n others =>
    -- the slot of all went to `k` before that of the route comes free, so `n` has to queue
    have route : n.route = c.route := (h.mem_line (line ▸ List.mem_cons_self)).2
    have still : (Slots.grant { p with granted := p.granted.erase c, total := p.total.release.1 }
        k).1.total.free = 0 := by simp [grant, Semaphore.release_free, queue, full]
    rw [releaseRoute_of_cons (by exact line), askTotal_of_full (by exact still)]
    refine ⟨rfl, .of_route (r := c.route) h (by simp [route])
      (fun x hx => by simp [grant, setRoute_routes, hx]) rfl rfl ?waiting ?line ?queue ?granted
      ?total ?route⟩
    case waiting =>
      simp [grant, setRoute, without_single not_waiting, erase_eq_without h.waiting_nodup]
    case line =>
      rw [without_single (not_line _)]
      simp [grant, setRoute_routes, line]
    case queue =>
      rw [without_single not_queue]
      simp [grant, setRoute, Semaphore.acquire_queue, Semaphore.release_free, queue, full]
    case granted => simp [grant, setRoute, erase_eq_without h.granted_nodup]
    case total => simp [grant, setRoute, Semaphore.release_free, queue, full, back]
    case route =>
      simp [grant, setRoute_routes, Semaphore.release_free, line, back, among_single not_queue]

/-! ## Every act obeys the law -/

theorem enter_flow (h : p.Sound) (new : p.isUsed c.ticket = false) :
    ∃ grants, (p.enter c).2 = granting grants ∧
      Flow p (p.enter c).1 [] [c] (p.seatsOnEntry c) grants := by
  rcases Nat.eq_zero_or_pos (p.routes c.route).free with full | free
  · rw [seatsOnEntry, if_neg (by omega)]
    exact ⟨[], enter_of_full_route h full⟩
  · rw [seatsOnEntry, if_pos free]
    rcases Nat.eq_zero_or_pos p.total.free with full | free'
    · exact ⟨[], enter_of_full h free full⟩
    · exact ⟨[c], enter_of_free h (not_mem_of_new new).1 free free'⟩

theorem withdraw_flow (h : p.Sound) (hc : c ∈ p.waiting) :
    (p.withdraw c).2 = [] ∧ Flow p (p.withdraw c).1 [c] [] (p.seatsOnWithdrawal c) [] := by
  by_cases hq : c ∈ p.total.queue
  · rw [seatsOnWithdrawal, if_pos hq]
    exact withdraw_of_queue h hq
  · rw [seatsOnWithdrawal, if_neg hq]
    exact withdraw_of_line h ((h.mem_waiting.1 hc).resolve_left hq)

theorem giveBack_flow (h : p.Sound) (hc : c ∈ p.granted) :
    ∃ grants, (p.giveBack c).2 = granting grants ∧
      Flow p (p.giveBack c).1 [c] [] (p.seatsOnReturn c) grants := by
  cases queue : p.total.queue with
  | cons k rest => exact ⟨[k], giveBack_of_queue h hc queue⟩
  | nil =>
    unfold seatsOnReturn
    cases line : (p.routes c.route).queue with
    | nil => exact ⟨[], giveBack_of_idle h hc queue line⟩
    | cons k rest => exact ⟨[k], giveBack_of_line h hc queue line⟩

theorem tickets_of_new (h : p.Sound) (new : p.isUsed c.ticket = false) :
    ((p.waiting ++ [c] ++ p.granted).map (·.ticket)).Nodup :=
  tickets_insert h.tickets (isUsed_eq_false_iff.1 new)

theorem enter_sound (h : p.Sound) (new : p.isUsed c.ticket = false) : (p.enter c).1.Sound := by
  obtain ⟨grants, -, flow⟩ := enter_flow h new
  exact flow.sound h (tickets_of_new h new)

theorem withdraw_sound (h : p.Sound) (hc : c ∈ p.waiting) : (p.withdraw c).1.Sound :=
  (withdraw_flow h hc).2.sound h (by simpa using h.tickets)

theorem giveBack_sound (h : p.Sound) (hc : c ∈ p.granted) : (p.giveBack c).1.Sound := by
  obtain ⟨grants, -, flow⟩ := giveBack_flow h hc
  exact flow.sound h (by simpa using h.tickets)

/-! ## Giving up -/

/-- The news that checkouts give up. -/
def givingUp (late : List Checkout) : List Notice := late.map (⟨·, .unavailable⟩)

theorem giveUp_eq (h : p.Sound) (hc : c ∈ p.waiting) :
    p.giveUp c = ((p.withdraw c).1, givingUp [c]) := by
  simp [giveUp, if_pos hc, (withdraw_flow h hc).1, givingUp]

theorem withdraw_waiting (h : p.Sound) (hc : c ∈ p.waiting) :
    (p.withdraw c).1.waiting = without [c] p.waiting := by
  simpa using (withdraw_flow h hc).2.waiting

theorem withdraw_granted (h : p.Sound) (hc : c ∈ p.waiting) :
    (p.withdraw c).1.granted = p.granted := by
  have flow := (withdraw_flow h hc).2
  rw [flow.granted, List.append_nil, without_single (h.not_granted hc)]

/-- When the first of several checkouts is withdrawn, the others still wait. -/
theorem still_waiting {cs : List Checkout} (h : p.Sound) (waits : ∀ k ∈ c :: cs, k ∈ p.waiting)
    (nodup : (c :: cs).Nodup) : ∀ k ∈ cs, k ∈ (p.withdraw c).1.waiting := by
  rw [withdraw_waiting h (waits c List.mem_cons_self)]
  exact mem_without_first waits nodup

/-- Checkouts that give up are taken out of those that wait, and nobody is granted. -/
theorem giveUpAll_spec {late : List Checkout} (h : p.Sound) (waits : ∀ k ∈ late, k ∈ p.waiting)
    (nodup : late.Nodup) :
    (p.giveUpAll late).2 = givingUp late ∧ (p.giveUpAll late).1.Sound ∧
      (p.giveUpAll late).1.waiting = without late p.waiting ∧
      (p.giveUpAll late).1.granted = p.granted ∧
      (p.giveUpAll late).1.limits = p.limits ∧ (p.giveUpAll late).1.clock = p.clock := by
  induction late generalizing p with
  | nil => exact ⟨rfl, h, without_nil.symm, rfl, rfl, rfl⟩
  | cons c cs ih =>
    have hc : c ∈ p.waiting := waits c List.mem_cons_self
    have flow := (withdraw_flow h hc).2
    obtain ⟨notices, sound, waiting, granted, limits, clock⟩ :=
      ih (withdraw_sound h hc) (still_waiting h waits nodup) (List.nodup_cons.1 nodup).2
    simp only [giveUpAll, giveUp_eq h hc]
    refine ⟨by rw [notices]; rfl, sound, ?_, granted.trans (withdraw_granted h hc),
      limits.trans flow.limits, clock.trans flow.clock⟩
    rw [waiting, withdraw_waiting h hc, without_without, List.singleton_append]

theorem expired_sub : ∀ k ∈ p.expired, k ∈ p.waiting := fun _ hk => (List.mem_filter.1 hk).1

theorem expire_spec (h : p.Sound) :
    p.expire.2 = givingUp p.expired ∧ p.expire.1.Sound ∧
      p.expire.1.waiting = without p.expired p.waiting ∧ p.expire.1.granted = p.granted ∧
      p.expire.1.limits = p.limits ∧ p.expire.1.clock = p.clock :=
  giveUpAll_spec h expired_sub (h.waiting_nodup.filter _)

end Slots

end HubPublisher.Pool
