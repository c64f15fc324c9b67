import HubPublisher.Pool.Basic
import Mathlib.Data.List.Nodup

/-!
How checkouts and slots move.

Checkouts move one way only, from the queue of their route to the queue for a slot of all and from
there to those that are granted, and they keep their order on the way. `Flow` says so for one act:
who leaves one place is who joins the next, and slots come from those that are gone and go to those
that move. `Sound` is what every act keeps (`Flow.sound`): no slot is lost, and whoever waits stands
in exactly one queue.
-/
namespace HubPublisher.Pool

/-! ## Lists of checkouts -/

/-- The checkouts of a route, in their order. -/
def onRoute (r : String) (l : List Checkout) : List Checkout := l.filter (·.route = r)

/-- The checkouts that are not among those gone. -/
def without (gone l : List Checkout) : List Checkout := l.filter (· ∉ gone)

/-- The checkouts that are among those gone. -/
def among (gone l : List Checkout) : List Checkout := l.filter (· ∈ gone)

section Lists

variable {r : String} {c : Checkout} {gone l m : List Checkout}

@[simp] theorem onRoute_nil : onRoute r [] = [] := rfl

@[simp] theorem onRoute_append : onRoute r (l ++ m) = onRoute r l ++ onRoute r m :=
  List.filter_append ..

@[simp] theorem mem_onRoute : c ∈ onRoute r l ↔ c ∈ l ∧ c.route = r := by simp [onRoute]

theorem onRoute_eq_self (h : ∀ k ∈ l, k.route = r) : onRoute r l = l := by
  simpa [onRoute] using h

theorem onRoute_eq_nil (h : ∀ k ∈ l, k.route ≠ r) : onRoute r l = [] := by
  simpa [onRoute] using h

@[simp] theorem without_nil : without [] l = l := by simp [without]

@[simp] theorem without_append : without gone (l ++ m) = without gone l ++ without gone m :=
  List.filter_append ..

@[simp] theorem mem_without : c ∈ without gone l ↔ c ∈ l ∧ c ∉ gone := by simp [without]

theorem without_sublist : (without gone l).Sublist l := List.filter_sublist

theorem onRoute_without : onRoute r (without gone l) = without gone (onRoute r l) := by
  simp only [onRoute, without, List.filter_filter]
  exact List.filter_congr fun k _ => Bool.and_comm ..

theorem without_eq_self (h : ∀ k ∈ l, k ∉ gone) : without gone l = l := by
  simpa [without] using h

theorem without_eq_nil (h : ∀ k ∈ l, k ∈ gone) : without gone l = [] := by
  simpa [without] using h

theorem without_without {gone' : List Checkout} :
    without gone' (without gone l) = without (gone ++ gone') l := by
  simp only [without, List.filter_filter]
  exact List.filter_congr fun k _ => by simp [Bool.and_comm]

theorem erase_eq_without (h : l.Nodup) : l.erase c = without [c] l := by
  rw [h.erase_eq_filter]
  exact List.filter_congr fun k _ => by by_cases hk : k = c <;> simp [hk]

@[simp] theorem among_nil : among [] l = [] := by simp [among]

@[simp] theorem among_append : among gone (l ++ m) = among gone l ++ among gone m :=
  List.filter_append ..

@[simp] theorem mem_among : c ∈ among gone l ↔ c ∈ l ∧ c ∈ gone := by simp [among]

theorem onRoute_among : onRoute r (among gone l) = among gone (onRoute r l) := by
  simp only [onRoute, among, List.filter_filter]
  exact List.filter_congr fun k _ => Bool.and_comm ..

/-- Whoever is in a list is gone from it or stays. -/
theorem length_among_add (gone l : List Checkout) :
    (among gone l).length + (without gone l).length = l.length := by
  have split := List.length_eq_length_filter_add (l := l) (· ∈ gone)
  simpa [among, without] using split.symm

theorem without_single (h : c ∉ l) : without [c] l = l :=
  without_eq_self fun _ hk hc => h (List.mem_singleton.1 hc ▸ hk)

theorem among_single (h : c ∉ l) : among [c] l = [] := by
  have split := length_among_add [c] l
  rw [without_single h] at split
  exact List.eq_nil_of_length_eq_zero (by omega)

theorem length_among_single (h : l.Nodup) (hc : c ∈ l) : (among [c] l).length = 1 := by
  have split := length_among_add [c] l
  rw [← erase_eq_without h, List.length_erase_of_mem hc] at split
  have := List.length_pos_of_mem hc
  omega

/-- When the first of several is gone, the others stay. -/
theorem mem_without_first {cs : List Checkout} (sub : ∀ k ∈ c :: cs, k ∈ l)
    (nodup : (c :: cs).Nodup) : ∀ k ∈ cs, k ∈ without [c] l := by
  intro k hk
  rw [mem_without, List.mem_singleton]
  refine ⟨sub k (List.mem_cons_of_mem c hk), ?_⟩
  rintro rfl
  exact (List.nodup_cons.1 nodup).1 hk

/-- A list is free of repetition if each of its routes is. -/
theorem nodup_of_onRoute (h : ∀ r, (onRoute r l).Nodup) : l.Nodup := by
  rw [List.nodup_iff_count_le_one]
  intro k
  have hc : l.count k = (onRoute k.route l).count k := by simp [onRoute, List.count_filter]
  rw [hc]
  exact List.nodup_iff_count_le_one.1 (h k.route) k

/-- With distinct tickets, whoever is first to have a ticket is the only one. -/
theorem find_ticket (h : (l.map (·.ticket)).Nodup) (hc : c ∈ l) :
    l.find? (·.ticket == c.ticket) = some c := by
  induction l with
  | nil => simp at hc
  | cons k rest ih =>
    rw [List.map_cons, List.nodup_cons] at h
    rcases List.mem_cons.1 hc with rfl | hc
    · simp
    · have other : k.ticket ≠ c.ticket := fun e => h.1 (e ▸ List.mem_map_of_mem hc)
      simpa [other] using ih h.2 hc

/-- A checkout under a new ticket leaves the tickets distinct. -/
theorem tickets_insert (h : ((l ++ m).map (·.ticket)).Nodup)
    (new : c.ticket ∉ (l ++ m).map (·.ticket)) : ((l ++ [c] ++ m).map (·.ticket)).Nodup := by
  have perm : (l ++ [c] ++ m).Perm (c :: (l ++ m)) := by
    rw [List.append_assoc]
    exact List.perm_middle
  rw [(perm.map _).nodup_iff, List.map_cons, List.nodup_cons]
  exact ⟨new, h⟩

end Lists

namespace Slots

variable {p q : Slots} {c k : Checkout} {r : String}

/-- The checkouts of a route that are granted. -/
def grantedOn (p : Slots) (r : String) : List Checkout := onRoute r p.granted

/-- The checkouts of a route that hold a slot of it and wait for one of all. -/
def seatedOn (p : Slots) (r : String) : List Checkout := onRoute r p.total.queue

/-- What is true of the slots after every step. -/
structure Sound (p : Slots) : Prop where
  total_slots : p.total.free + p.granted.length = p.limits.total
  route_slots : ∀ r,
    (p.routes r).free + (p.grantedOn r).length + (p.seatedOn r).length = p.limits.perRoute
  /-- Those that wait on a route have a slot of it or queue for one, the former the longer. -/
  waiting_on : ∀ r, onRoute r p.waiting = p.seatedOn r ++ (p.routes r).queue
  tickets : ((p.waiting ++ p.granted).map (·.ticket)).Nodup

namespace Sound

theorem start (limits : Limits) : (Slots.start limits).Sound where
  total_slots := by simp [Slots.start]
  route_slots r := by simp [Slots.start, grantedOn, seatedOn]
  waiting_on r := by simp [Slots.start, seatedOn]
  tickets := List.nodup_nil

theorem nodup (h : p.Sound) : (p.waiting ++ p.granted).Nodup := h.tickets.of_map

theorem waiting_nodup (h : p.Sound) : p.waiting.Nodup := (List.nodup_append.1 h.nodup).1

theorem granted_nodup (h : p.Sound) : p.granted.Nodup := (List.nodup_append.1 h.nodup).2.1

theorem not_granted (h : p.Sound) (hk : k ∈ p.waiting) : k ∉ p.granted :=
  fun hg => (List.nodup_append.1 h.nodup).2.2 k hk k hg rfl

/-- Whoever waits stands in one of two queues. -/
theorem mem_waiting (h : p.Sound) :
    k ∈ p.waiting ↔ k ∈ p.total.queue ∨ k ∈ (p.routes k.route).queue := by
  have hm : k ∈ onRoute k.route p.waiting ↔ k ∈ p.seatedOn k.route ++ (p.routes k.route).queue := by
    rw [h.waiting_on]
  simpa [seatedOn] using hm

theorem mem_line (h : p.Sound) (hk : k ∈ (p.routes r).queue) : k ∈ p.waiting ∧ k.route = r := by
  have hm : k ∈ onRoute r p.waiting := by
    rw [h.waiting_on]
    exact List.mem_append_right _ hk
  simpa using hm

theorem mem_queue (h : p.Sound) (hk : k ∈ p.total.queue) : k ∈ p.waiting :=
  h.mem_waiting.2 (.inl hk)

theorem places_nodup (h : p.Sound) (r : String) : (p.seatedOn r ++ (p.routes r).queue).Nodup := by
  rw [← h.waiting_on]
  exact h.waiting_nodup.filter _

/-- Nobody stands in both queues. -/
theorem not_mem_line (h : p.Sound) (hk : k ∈ p.total.queue) : k ∉ (p.routes r).queue := by
  intro hl
  obtain ⟨-, rfl⟩ := h.mem_line hl
  exact (List.nodup_append.1 (h.places_nodup k.route)).2.2 k (by simpa [seatedOn] using hk) k hl rfl

/-- Whoever is granted waits nowhere. -/
theorem nowhere (h : p.Sound) (hc : c ∈ p.granted) :
    c ∉ p.waiting ∧ c ∉ p.total.queue ∧ ∀ r, c ∉ (p.routes r).queue := by
  have not_waiting : c ∉ p.waiting := fun hw => h.not_granted hw hc
  exact ⟨not_waiting, fun hq => not_waiting (h.mem_queue hq),
    fun _ hl => not_waiting (h.mem_line hl).1⟩

theorem line_nodup (h : p.Sound) (r : String) : (p.routes r).queue.Nodup :=
  (List.nodup_append.1 (h.places_nodup r)).2.1

theorem queue_nodup (h : p.Sound) : p.total.queue.Nodup :=
  nodup_of_onRoute fun r => (List.nodup_append.1 (h.places_nodup r)).1

theorem waiting_tickets (h : p.Sound) : (p.waiting.map (·.ticket)).Nodup :=
  h.tickets.sublist ((List.sublist_append_left ..).map _)

theorem granted_tickets (h : p.Sound) : (p.granted.map (·.ticket)).Nodup :=
  h.tickets.sublist ((List.sublist_append_right ..).map _)

theorem find_waiting (h : p.Sound) (hc : c ∈ p.waiting) :
    p.waiting.find? (·.ticket == c.ticket) = some c :=
  find_ticket h.waiting_tickets hc

theorem find_granted (h : p.Sound) (hc : c ∈ p.granted) :
    p.granted.find? (·.ticket == c.ticket) = some c :=
  find_ticket h.granted_tickets hc

/-- The slots do not look at the clock. -/
theorem later (h : p.Sound) (n : Nat) : ({ p with clock := n } : Slots).Sound :=
  ⟨h.total_slots, h.route_slots, h.waiting_on, h.tickets⟩

end Sound

/-! ## The law of an act -/

/-- How an act takes `p` to `q`, when some checkouts leave, some enter, some get a slot of their
route and some are granted. -/
structure Flow (p q : Slots) (gone entered seats grants : List Checkout) : Prop where
  limits : q.limits = p.limits
  clock : q.clock = p.clock
  waiting : q.waiting = without grants (without gone p.waiting ++ entered)
  /-- Who leaves the queue of a route at its head has a slot of the route. -/
  line : ∀ r, without gone (p.routes r).queue ++ onRoute r entered
    = onRoute r seats ++ (q.routes r).queue
  /-- Who has a slot of its route joins the queue for a slot of all; its head is granted. -/
  queue : without gone p.total.queue ++ seats = grants ++ q.total.queue
  granted : q.granted = without gone p.granted ++ grants
  /-- Slots of all come from those granted that are gone, and go to those that are granted. -/
  total_free : q.total.free + grants.length = p.total.free + (among gone p.granted).length
  /-- Slots of a route come from all that had one and are gone. -/
  route_free : ∀ r, (q.routes r).free + (onRoute r seats).length
    = (p.routes r).free + (onRoute r (among gone (p.granted ++ p.total.queue))).length

namespace Flow

variable {gone entered seats grants : List Checkout}

/-- Of a route, whoever stays or enters is granted, queues for a slot of all or for one of the
route, in this order. -/
theorem places (f : Flow p q gone entered seats grants) (h : p.Sound) (r : String) :
    onRoute r (without gone p.waiting ++ entered)
      = onRoute r grants ++ (q.seatedOn r ++ (q.routes r).queue) := by
  have queue := congrArg (onRoute r) f.queue
  simp only [onRoute_append] at queue
  calc onRoute r (without gone p.waiting ++ entered)
      = without gone (p.seatedOn r) ++ (without gone (p.routes r).queue ++ onRoute r entered) := by
        rw [onRoute_append, onRoute_without, h.waiting_on, without_append, List.append_assoc]
    _ = onRoute r (without gone p.total.queue) ++ onRoute r seats ++ (q.routes r).queue := by
        rw [f.line, seatedOn, onRoute_without, List.append_assoc]
    _ = onRoute r grants ++ (q.seatedOn r ++ (q.routes r).queue) := by
        rw [queue, seatedOn, List.append_assoc]

theorem grants_stay (f : Flow p q gone entered seats grants) (h : p.Sound) (hk : k ∈ grants) :
    k ∈ without gone p.waiting ++ entered := by
  have place : k ∈ onRoute k.route (without gone p.waiting ++ entered) := by
    rw [f.places h]
    exact List.mem_append_left _ (mem_onRoute.2 ⟨hk, rfl⟩)
  exact (mem_onRoute.1 place).1

/-- Nobody comes from elsewhere. -/
theorem mem_of_mem (f : Flow p q gone entered seats grants) (h : p.Sound)
    (hk : k ∈ q.waiting ++ q.granted) : k ∈ p.waiting ++ entered ++ p.granted := by
  have stay : ∀ k ∈ without gone p.waiting ++ entered, k ∈ p.waiting ++ entered ++ p.granted := by
    intro k hk
    exact List.mem_append_left _ ((without_sublist.append (List.Sublist.refl _)).subset hk)
  rw [f.waiting, f.granted] at hk
  rcases List.mem_append.1 hk with hw | hg
  · exact stay k (mem_without.1 hw).1
  · rcases List.mem_append.1 hg with hg | hg
    · exact List.mem_append_right _ (mem_without.1 hg).1
    · exact stay k (f.grants_stay h hg)

/-- An act keeps the slots sound, if tickets that enter are new. -/
theorem sound (f : Flow p q gone entered seats grants) (h : p.Sound)
    (new : ((p.waiting ++ entered ++ p.granted).map (·.ticket)).Nodup) : q.Sound := by
  have nodup := List.nodup_append.1 new.of_map
  have stay_sub : (without gone p.waiting ++ entered).Sublist (p.waiting ++ entered) :=
    without_sublist.append (List.Sublist.refl _)
  have stay_nodup : (without gone p.waiting ++ entered).Nodup := nodup.1.sublist stay_sub
  have places_nodup : ∀ r, (onRoute r grants ++ (q.seatedOn r ++ (q.routes r).queue)).Nodup := by
    intro r
    rw [← f.places h r]
    exact stay_nodup.filter _
  refine ⟨?_, fun r => ?_, fun r => ?_, ?_⟩
  · have total := f.total_free
    have slots := h.total_slots
    have split := length_among_add gone p.granted
    rw [f.limits, f.granted, List.length_append]
    omega
  · have free := f.route_free r
    have slots := h.route_slots r
    have queue := congrArg (fun l => (onRoute r l).length) f.queue
    have split₁ := length_among_add gone (p.grantedOn r)
    have split₂ := length_among_add gone (p.seatedOn r)
    simp only [onRoute_append, onRoute_without, List.length_append] at queue
    simp only [among_append, onRoute_append, onRoute_among, List.length_append] at free
    simp only [f.limits, grantedOn, seatedOn, f.granted, onRoute_append, onRoute_without,
      List.length_append] at slots split₁ split₂ ⊢
    omega
  · have apart := (List.nodup_append.1 (places_nodup r)).2.2
    rw [f.waiting, onRoute_without, f.places h, without_append,
      without_eq_nil fun k hk => (mem_onRoute.1 hk).1, List.nil_append]
    -- whoever still waits on the route is none of those granted, as nobody is in two places
    refine without_eq_self fun k hk hg => ?_
    have place : k ∈ onRoute r (without gone p.waiting ++ entered) := by
      rw [f.places h]
      exact List.mem_append_right _ hk
    exact apart k (mem_onRoute.2 ⟨hg, (mem_onRoute.1 place).2⟩) k hk rfl
  · -- tickets: nobody is new but those that enter, so it is enough that nobody is listed twice
    have grants_nodup : grants.Nodup :=
      nodup_of_onRoute fun r => (List.nodup_append.1 (places_nodup r)).1
    have granted_nodup : q.granted.Nodup := by
      rw [f.granted]
      refine List.nodup_append.2 ⟨nodup.2.1.sublist without_sublist, grants_nodup, ?_⟩
      rintro k hk _ hg rfl
      exact nodup.2.2 k (stay_sub.subset (f.grants_stay h hg)) k (mem_without.1 hk).1 rfl
    have list_nodup : (q.waiting ++ q.granted).Nodup := by
      refine List.nodup_append.2 ⟨?_, granted_nodup, ?_⟩
      · rw [f.waiting]
        exact stay_nodup.sublist without_sublist
      · rw [f.waiting, f.granted]
        rintro k hk _ hg rfl
        obtain ⟨hk, not_granted⟩ := mem_without.1 hk
        rcases List.mem_append.1 hg with hg | hg
        · exact nodup.2.2 k (stay_sub.subset hk) k (mem_without.1 hg).1 rfl
        · exact not_granted hg
    exact list_nodup.map_on fun a ha b hb eq =>
      List.inj_on_of_nodup_map new (f.mem_of_mem h ha) (f.mem_of_mem h hb) eq

/-- An act that concerns one route only has to obey the law there. -/
theorem of_route (h : p.Sound) (mine : ∀ k ∈ gone ++ entered ++ seats, k.route = r)
    (others : ∀ x, x ≠ r → q.routes x = p.routes x)
    (limits : q.limits = p.limits) (clock : q.clock = p.clock)
    (waiting : q.waiting = without grants (without gone p.waiting ++ entered))
    (line : without gone (p.routes r).queue ++ entered = seats ++ (q.routes r).queue)
    (queue : without gone p.total.queue ++ seats = grants ++ q.total.queue)
    (granted : q.granted = without gone p.granted ++ grants)
    (total_free : q.total.free + grants.length = p.total.free + (among gone p.granted).length)
    (route_free : (q.routes r).free + seats.length
      = (p.routes r).free + (among gone (p.granted ++ p.total.queue)).length) :
    Flow p q gone entered seats grants where
  limits := limits
  clock := clock
  waiting := waiting
  queue := queue
  granted := granted
  total_free := total_free
  -- on another route nobody leaves or joins, and whoever is in line there stays
  line x := by
    have of_gone : ∀ k ∈ gone, k.route = r := fun k hk => mine k (by simp [hk])
    have of_entered : ∀ k ∈ entered, k.route = r := fun k hk => mine k (by simp [hk])
    have of_seats : ∀ k ∈ seats, k.route = r := fun k hk => mine k (by simp [hk])
    by_cases hx : x = r
    · rw [hx, onRoute_eq_self of_entered, onRoute_eq_self of_seats, line]
    · rw [others x hx, onRoute_eq_nil fun k hk e => hx (e.symm.trans (of_entered k hk)),
        onRoute_eq_nil fun k hk e => hx (e.symm.trans (of_seats k hk)), List.append_nil,
        List.nil_append]
      exact without_eq_self fun k hk hg => hx ((h.mem_line hk).2.symm.trans (of_gone k hg))
  route_free x := by
    have of_gone : ∀ k ∈ among gone (p.granted ++ p.total.queue), k.route = r :=
      fun k hk => mine k (by simp [(mem_among.1 hk).2])
    have of_seats : ∀ k ∈ seats, k.route = r := fun k hk => mine k (by simp [hk])
    by_cases hx : x = r
    · rw [hx, onRoute_eq_self of_seats, onRoute_eq_self of_gone, route_free]
    · rw [others x hx, onRoute_eq_nil fun k hk e => hx (e.symm.trans (of_seats k hk)),
        onRoute_eq_nil fun k hk e => hx (e.symm.trans (of_gone k hk))]

end Flow

end Slots

end HubPublisher.Pool
