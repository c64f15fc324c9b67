import HubPublisher.Proofs.Pool.Deadline

/-!
Routes apart from each other.

As long as nobody has to queue for a slot of all, whoever gets a slot of its route is granted at
once, and no act looks beyond its own route. So the slots may be thinned out: of two pools, one of
which has the checkouts on some routes only and otherwise the same (`Apart`), an act on one of these
routes does the same to both, and an act on another route leaves the thinned one behind as it is.
That is kept by every act (`Apart.of_flow`), and so by every action (`Apart.perform_kept`,
`Apart.perform_elsewhere`). Deadlines come to both at the same time.
-/
namespace HubPublisher.Pool

variable (keep : String → Prop) [DecidablePred keep]

/-- The checkouts on routes that are kept. -/
def kept (l : List Checkout) : List Checkout := l.filter (keep ·.route)

/-- The news of checkouts on routes that are kept. -/
def keptNews (ns : List Notice) : List Notice := ns.filter (keep ·.checkout.route)

section Lists

variable {keep} {c : Checkout} {r : String} {gone l m : List Checkout}

@[simp] theorem kept_append : kept keep (l ++ m) = kept keep l ++ kept keep m :=
  List.filter_append ..

@[simp] theorem mem_kept : c ∈ kept keep l ↔ c ∈ l ∧ keep c.route := by simp [kept]

theorem kept_sublist : (kept keep l).Sublist l := List.filter_sublist

theorem kept_eq_self (h : ∀ k ∈ l, keep k.route) : kept keep l = l := by
  simpa [kept] using h

theorem kept_eq_nil (h : ∀ k ∈ l, ¬keep k.route) : kept keep l = [] := by
  simpa [kept] using h

theorem kept_without : kept keep (without gone l) = without (kept keep gone) (kept keep l) := by
  simp only [kept, without, List.filter_filter]
  refine List.filter_congr fun k _ => ?_
  by_cases on : keep k.route <;> simp [on]

theorem onRoute_kept (on : keep r) : onRoute r (kept keep l) = onRoute r l := by
  simp only [kept, onRoute, List.filter_filter]
  refine List.filter_congr fun k _ => ?_
  by_cases here : k.route = r <;> simp [here, on]

theorem keptNews_append (ns ns' : List Notice) :
    keptNews keep (ns ++ ns') = keptNews keep ns ++ keptNews keep ns' := List.filter_append ..

theorem keptNews_map (e : Ending) (l : List Checkout) :
    keptNews keep (l.map (⟨·, e⟩)) = (kept keep l).map (⟨·, e⟩) := by
  simp [keptNews, kept, List.filter_map, Function.comp_def]

end Lists

namespace Slots

variable {keep} {p q p' q' : Slots} {c k : Checkout} {r : String} {t : Ticket} {a : Action}
  {gone entered grants : List Checkout}

/-! ## Acts while nobody queues for a slot of all -/

theorem Flow.stay (q : Slots) : Flow q q [] [] [] [] where
  limits := rfl
  clock := rfl
  waiting := by simp
  line r := by simp
  queue := by simp
  granted := by simp
  total_free := by simp
  route_free r := by simp

/-- Where all that get a slot of their route are granted, nobody comes to queue for one of all. -/
theorem Flow.queue_eq_nil (f : Flow p q gone entered grants grants) (queue : p.total.queue = []) :
    q.total.queue = [] := by
  have moved := f.queue
  rw [queue] at moved
  simpa [without] using moved

/-- Whoever enters is granted if its route has a slot, and queues for one otherwise. -/
theorem enter_prompt (h : p.Sound) (new : p.isUsed c.ticket = false)
    (room : 0 < (p.routes c.route).free → 0 < p.total.free) :
    (p.enter c).2 = granting (p.seatsOnEntry c) ∧
      Flow p (p.enter c).1 [] [c] (p.seatsOnEntry c) (p.seatsOnEntry c) := by
  unfold seatsOnEntry
  split_ifs with free
  · exact enter_of_free h (not_mem_of_new new).1 free (room free)
  · exact enter_of_full_route h (Nat.eq_zero_of_not_pos free)

theorem withdraw_prompt (h : p.Sound) (queue : p.total.queue = []) (hc : c ∈ p.waiting) :
    Flow p (p.withdraw c).1 [c] [] [] [] := by
  have flow := (withdraw_flow h hc).2
  rwa [seatsOnWithdrawal, if_neg (by simp [queue])] at flow

theorem giveBack_prompt (h : p.Sound) (queue : p.total.queue = []) (hc : c ∈ p.granted) :
    (p.giveBack c).2 = granting (p.seatsOnReturn c) ∧
      Flow p (p.giveBack c).1 [c] [] (p.seatsOnReturn c) (p.seatsOnReturn c) := by
  unfold seatsOnReturn
  cases line : (p.routes c.route).queue with
  | nil => exact giveBack_of_idle h hc queue line
  | cons k rest => exact giveBack_of_line h hc queue line

/-! ## Two pools -/

/-- Nobody queues for a slot of all, and of the first pool's checkouts the second has those on the
routes that are kept. -/
structure Apart (keep : String → Prop) [DecidablePred keep] (p q : Slots) : Prop where
  sound : p.Sound
  sound' : q.Sound
  queue : p.total.queue = []
  queue' : q.total.queue = []
  limits : q.limits = p.limits
  clock : q.clock = p.clock
  waiting : q.waiting = kept keep p.waiting
  granted : q.granted = kept keep p.granted

namespace Apart

theorem start (limits : Limits) : Apart keep (Slots.start limits) (Slots.start limits) :=
  ⟨.start limits, .start limits, rfl, rfl, rfl, rfl, rfl, rfl⟩

theorem later (a : Apart keep p q) (n : Nat) :
    Apart keep { p with clock := n } { q with clock := n } :=
  ⟨a.sound.later n, a.sound'.later n, a.queue, a.queue', a.limits, rfl, a.waiting, a.granted⟩

theorem mem_waiting (a : Apart keep p q) : k ∈ q.waiting ↔ k ∈ p.waiting ∧ keep k.route := by
  rw [a.waiting, mem_kept]

theorem mem_granted (a : Apart keep p q) : k ∈ q.granted ↔ k ∈ p.granted ∧ keep k.route := by
  rw [a.granted, mem_kept]

/-- Routes that are kept have the same queue in both. -/
theorem line (a : Apart keep p q) (on : keep r) : (q.routes r).queue = (p.routes r).queue := by
  have places := a.sound.waiting_on r
  have places' := a.sound'.waiting_on r
  rw [seatedOn, a.queue, onRoute_nil, List.nil_append] at places
  rw [seatedOn, a.queue', onRoute_nil, List.nil_append, a.waiting, onRoute_kept on] at places'
  rw [← places, ← places']

/-- Routes that are kept have as many free slots in both. -/
theorem free (a : Apart keep p q) (on : keep r) : (q.routes r).free = (p.routes r).free := by
  have slots := a.sound.route_slots r
  have slots' := a.sound'.route_slots r
  rw [seatedOn, a.queue, onRoute_nil, List.length_nil] at slots
  rw [seatedOn, a.queue', onRoute_nil, List.length_nil, grantedOn, a.granted, onRoute_kept on,
    a.limits] at slots'
  rw [grantedOn] at slots
  omega

/-- Fewer checkouts hold fewer slots of all. -/
theorem total_le (a : Apart keep p q) : p.total.free ≤ q.total.free := by
  have slots := a.sound.total_slots
  have slots' := a.sound'.total_slots
  have fewer : (kept keep p.granted).length ≤ p.granted.length := kept_sublist.length_le
  rw [a.granted, a.limits] at slots'
  omega

/-- The kept part of an act, done to the second pool, keeps the relation. -/
theorem of_flow (a : Apart keep p q) (f : Flow p p' gone entered grants grants)
    (f' : Flow q q' (kept keep gone) (kept keep entered) (kept keep grants) (kept keep grants))
    (new : ((p.waiting ++ entered ++ p.granted).map (·.ticket)).Nodup) : Apart keep p' q' where
  sound := f.sound a.sound new
  sound' := by
    refine f'.sound a.sound' (new.sublist ?_)
    rw [a.waiting, a.granted, ← kept_append, ← kept_append]
    exact kept_sublist.map _
  queue := f.queue_eq_nil a.queue
  queue' := f'.queue_eq_nil a.queue'
  limits := by rw [f'.limits, f.limits, a.limits]
  clock := by rw [f'.clock, f.clock, a.clock]
  waiting := by rw [f'.waiting, f.waiting, a.waiting, kept_without, kept_append, kept_without]
  granted := by rw [f'.granted, f.granted, a.granted, kept_append, kept_without]

/-- An act on routes that are not kept is nothing to the second pool. -/
theorem of_flow_elsewhere (a : Apart keep p q) (f : Flow p p' gone entered grants grants)
    (new : ((p.waiting ++ entered ++ p.granted).map (·.ticket)).Nodup)
    (elsewhere : ∀ k ∈ gone ++ entered ++ grants, ¬keep k.route) : Apart keep p' q := by
  have goneNone : kept keep gone = [] := kept_eq_nil fun k hk => elsewhere k (by simp [hk])
  have enteredNone : kept keep entered = [] := kept_eq_nil fun k hk => elsewhere k (by simp [hk])
  have grantsNone : kept keep grants = [] := kept_eq_nil fun k hk => elsewhere k (by simp [hk])
  refine a.of_flow f ?_ new
  rw [goneNone, enteredNone, grantsNone]
  exact .stay q

/-! ## Acts -/

theorem unused (a : Apart keep p q) (new : p.isUsed t = false) : q.isUsed t = false := by
  refine isUsed_eq_false_of fun k hk => ticket_ne_of_unused new ?_
  rw [a.waiting, a.granted, ← kept_append] at hk
  exact kept_sublist.subset hk

/-- Whoever enters a route that is kept does so in both, to the same effect. -/
theorem enter (a : Apart keep p q) (on : keep c.route) (new : p.isUsed c.ticket = false)
    (room : 0 < (p.routes c.route).free → 0 < p.total.free) :
    (q.enter c).2 = keptNews keep (p.enter c).2 ∧ Apart keep (p.enter c).1 (q.enter c).1 := by
  have seats : q.seatsOnEntry c = p.seatsOnEntry c := by
    rw [seatsOnEntry, seatsOnEntry, a.free on]
  have room' : 0 < (q.routes c.route).free → 0 < q.total.free := by
    rw [a.free on]
    exact fun free => Nat.lt_of_lt_of_le (room free) a.total_le
  have mine : ∀ k ∈ p.seatsOnEntry c, keep k.route := by
    unfold seatsOnEntry
    split_ifs
    · simpa using on
    · exact List.forall_mem_nil _
  obtain ⟨notices, flow⟩ := enter_prompt a.sound new room
  obtain ⟨notices', flow'⟩ := enter_prompt a.sound' (a.unused new) room'
  rw [seats] at notices' flow'
  constructor
  · rw [notices, notices', granting, keptNews_map, kept_eq_self mine]
  · refine a.of_flow flow ?_ (tickets_of_new a.sound new)
    rw [kept_eq_self mine, kept_eq_self (l := [c]) (by simpa using on)]
    exact flow'

/-- Whoever enters another route is nothing to the second pool. -/
theorem enter_elsewhere (a : Apart keep p q) (off : ¬keep c.route)
    (new : p.isUsed c.ticket = false) (room : 0 < (p.routes c.route).free → 0 < p.total.free) :
    keptNews keep (p.enter c).2 = [] ∧ Apart keep (p.enter c).1 q := by
  have others : ∀ k ∈ p.seatsOnEntry c, ¬keep k.route := by
    unfold seatsOnEntry
    split_ifs
    · simpa using off
    · exact List.forall_mem_nil _
  obtain ⟨notices, flow⟩ := enter_prompt a.sound new room
  constructor
  · rw [notices, granting, keptNews_map, kept_eq_nil others, List.map_nil]
  · refine a.of_flow_elsewhere flow (tickets_of_new a.sound new) fun k hk => ?_
    rcases List.mem_append.1 hk with enters | granted
    · rw [List.mem_singleton.1 enters]
      exact off
    · exact others k granted

theorem tickets (a : Apart keep p q) :
    ((p.waiting ++ ([] : List Checkout) ++ p.granted).map (·.ticket)).Nodup := by
  rw [List.append_nil]
  exact a.sound.tickets

theorem withdraw (a : Apart keep p q) (hc : c ∈ p.waiting) (on : keep c.route) :
    Apart keep (p.withdraw c).1 (q.withdraw c).1 := by
  refine a.of_flow (withdraw_prompt a.sound a.queue hc) ?_ a.tickets
  rw [kept_eq_self (l := [c]) (by simpa using on)]
  exact withdraw_prompt a.sound' a.queue' (a.mem_waiting.2 ⟨hc, on⟩)

theorem withdraw_elsewhere (a : Apart keep p q) (hc : c ∈ p.waiting) (off : ¬keep c.route) :
    Apart keep (p.withdraw c).1 q :=
  a.of_flow_elsewhere (withdraw_prompt a.sound a.queue hc) a.tickets (by simpa using off)

/-- Whoever gets a slot that comes back is on its route. -/
theorem route_of_seatsOnReturn (h : p.Sound) (hk : k ∈ p.seatsOnReturn c) : k.route = c.route :=
  (h.mem_line (List.mem_of_mem_take hk)).2

theorem giveBack (a : Apart keep p q) (hc : c ∈ p.granted) (on : keep c.route) :
    (q.giveBack c).2 = keptNews keep (p.giveBack c).2 ∧
      Apart keep (p.giveBack c).1 (q.giveBack c).1 := by
  have seats : q.seatsOnReturn c = p.seatsOnReturn c := by
    rw [seatsOnReturn, seatsOnReturn, a.line on]
  have mine : ∀ k ∈ p.seatsOnReturn c, keep k.route := fun k hk =>
    (route_of_seatsOnReturn a.sound hk).symm ▸ on
  obtain ⟨notices, flow⟩ := giveBack_prompt a.sound a.queue hc
  obtain ⟨notices', flow'⟩ := giveBack_prompt a.sound' a.queue' (a.mem_granted.2 ⟨hc, on⟩)
  rw [seats] at notices' flow'
  constructor
  · rw [notices, notices', granting, keptNews_map, kept_eq_self mine]
  · refine a.of_flow flow ?_ a.tickets
    rw [kept_eq_self mine, kept_eq_self (l := [c]) (by simpa using on)]
    exact flow'

theorem giveBack_elsewhere (a : Apart keep p q) (hc : c ∈ p.granted) (off : ¬keep c.route) :
    keptNews keep (p.giveBack c).2 = [] ∧ Apart keep (p.giveBack c).1 q := by
  have others : ∀ k ∈ p.seatsOnReturn c, ¬keep k.route := fun k hk =>
    (route_of_seatsOnReturn a.sound hk).symm ▸ off
  obtain ⟨notices, flow⟩ := giveBack_prompt a.sound a.queue hc
  constructor
  · rw [notices, granting, keptNews_map, kept_eq_nil others, List.map_nil]
  · refine a.of_flow_elsewhere flow a.tickets fun k hk => ?_
    rcases List.mem_append.1 hk with gone | granted
    · rw [List.append_nil, List.mem_singleton] at gone
      rw [gone]
      exact off
    · exact others k granted

/-- Of several that give up, those on routes that are kept do so in both. -/
theorem giveUpAll {late : List Checkout} (a : Apart keep p q) (waits : ∀ k ∈ late, k ∈ p.waiting)
    (nodup : late.Nodup) : Apart keep (p.giveUpAll late).1 (q.giveUpAll (kept keep late)).1 := by
  induction late generalizing p q with
  | nil => exact a
  | cons c cs ih =>
    have hc : c ∈ p.waiting := waits c List.mem_cons_self
    have still := still_waiting a.sound waits nodup
    have rest := (List.nodup_cons.1 nodup).2
    simp only [Slots.giveUpAll, giveUp_eq a.sound hc]
    by_cases on : keep c.route
    · have here : kept keep (c :: cs) = c :: kept keep cs := by simp [kept, on]
      rw [here]
      simp only [Slots.giveUpAll, giveUp_eq a.sound' (a.mem_waiting.2 ⟨hc, on⟩)]
      exact ih (a.withdraw hc on) still rest
    · have gone : kept keep (c :: cs) = kept keep cs := by simp [kept, on]
      rw [gone]
      exact ih (a.withdraw_elsewhere hc on) still rest

/-- The same clock makes the same checkouts late. -/
theorem expired (a : Apart keep p q) : q.expired = kept keep p.expired := by
  rw [Slots.expired, Slots.expired, a.waiting, a.clock]
  simp only [kept, List.filter_filter]
  exact List.filter_congr fun k _ => Bool.and_comm ..

theorem expire (a : Apart keep p q) :
    q.expire.2 = keptNews keep p.expire.2 ∧ Apart keep p.expire.1 q.expire.1 := by
  have together := a.giveUpAll expired_sub (a.sound.waiting_nodup.filter _)
  rw [(expire_spec a.sound).1, (expire_spec a.sound').1, a.expired, givingUp, givingUp,
    keptNews_map]
  refine ⟨rfl, ?_⟩
  rw [Slots.expire, Slots.expire, a.expired]
  exact together

/-- If only checkouts on other routes are late, the second pool has nobody who is. -/
theorem expire_elsewhere (a : Apart keep p q) (off : ∀ k ∈ p.expired, ¬keep k.route) :
    keptNews keep p.expire.2 = [] ∧ Apart keep p.expire.1 q := by
  have together := a.giveUpAll expired_sub (a.sound.waiting_nodup.filter _)
  have none : kept keep p.expired = [] := kept_eq_nil off
  rw [none] at together
  rw [(expire_spec a.sound).1, givingUp, keptNews_map, none]
  exact ⟨rfl, together⟩

end Apart

/-! ## Actions -/

/-- Whoever gets a slot of its route in an action is granted in it: nobody has to wait for a slot of
all. -/
def Prompt (p : Slots) (a : Action) : Prop :=
  ∀ k ∈ p.seats a, ⟨k, .granted⟩ ∈ (p.perform a).2.notices

/-- A ticket names a checkout on a route that is not kept. -/
def TakenElsewhere (keep : String → Prop) (p : Slots) (t : Ticket) : Prop :=
  ∃ k ∈ p.waiting ++ p.granted, k.ticket = t ∧ ¬keep k.route

/-- An action concerns a checkout on a route that is not kept: it asks for one, or names one that
waits or holds slots. -/
def Elsewhere (keep : String → Prop) (p : Slots) : Action → Prop
  | .checkout t r => ¬keep r ∨ p.TakenElsewhere keep t
  | .release t => p.TakenElsewhere keep t
  | .cancel t => p.TakenElsewhere keep t
  | .advance _ => False
  | .rest => False

instance (p : Slots) (t : Ticket) : Decidable (p.TakenElsewhere keep t) :=
  inferInstanceAs (Decidable (∃ k ∈ _, _ ∧ _))

instance (p : Slots) : (a : Action) → Decidable (p.Elsewhere keep a)
  | .checkout t r => inferInstanceAs (Decidable (¬keep r ∨ p.TakenElsewhere keep t))
  | .release t => inferInstanceAs (Decidable (p.TakenElsewhere keep t))
  | .cancel t => inferInstanceAs (Decidable (p.TakenElsewhere keep t))
  | .advance _ => inferInstanceAs (Decidable False)
  | .rest => inferInstanceAs (Decidable False)

/-- What an action concerns is told by the routes that it asks for and of those that are there. -/
theorem elsewhere_congr {keep keep' : String → Prop} (asked : ∀ r ∈ a.route?, keep r ↔ keep' r)
    (there : ∀ k ∈ p.waiting ++ p.granted, (keep k.route ↔ keep' k.route)) :
    p.Elsewhere keep a ↔ p.Elsewhere keep' a := by
  have taken (t : Ticket) : p.TakenElsewhere keep t ↔ p.TakenElsewhere keep' t :=
    exists_congr fun k => and_congr_right fun hk => and_congr_right fun _ => not_congr (there k hk)
  cases a with
  | checkout t r => exact or_congr (not_congr (asked r rfl)) (taken t)
  | release t => exact taken t
  | cancel t => exact taken t
  | advance _ => exact Iff.rfl
  | rest => exact Iff.rfl

/-- A ticket names one checkout only, so one that is taken elsewhere names none that is kept. -/
theorem off_of_taken {keep : String → Prop} (h : p.Sound) (taken : p.TakenElsewhere keep c.ticket)
    (hc : c ∈ p.waiting ++ p.granted) : ¬keep c.route := by
  obtain ⟨k, hk, named, off⟩ := taken
  rwa [← List.inj_on_of_nodup_map h.tickets hk hc named]

/-- If whoever gets a slot of its route on entry is granted, there is a slot of all for it. -/
theorem room_of_prompt (h : p.Sound) (new : p.isUsed t = false)
    (countable : p.limits.perRoute ≤ slotLimit) (prompt : p.Prompt (.checkout t r)) :
    0 < (p.routes r).free → 0 < p.total.free := by
  intro free
  have seat : p.request t r ∈ p.seats (.checkout t r) := by
    rw [seats, if_neg (not_or.2 ⟨by simp [new], Nat.not_lt.2 countable⟩), seatsOnEntry]
    simp [request, free]
  have told := prompt _ seat
  simp only [perform, checkout_of_new new countable, List.mem_append] at told
  -- nobody is granted when checkouts give up, so it was on entry
  have sound := enter_sound (c := p.request t r) h new
  have granted := told.resolve_right fun late => not_granted_of_expire sound _ late rfl
  by_contra none
  rw [(enter_of_full (c := p.request t r) h free (by omega)).1] at granted
  exact absurd granted List.not_mem_nil

/-- Whoever is late when a checkout enters is that checkout itself. -/
theorem late_on_entry (h : p.Sound) (timely : p.Timely) (new : p.isUsed c.ticket = false)
    (room : 0 < (p.routes c.route).free → 0 < p.total.free) :
    ∀ k ∈ (p.enter c).1.expired, k = c := by
  intro k hk
  obtain ⟨waits, due⟩ := List.mem_filter.1 hk
  have flow := (enter_prompt h new room).2
  rw [flow.waiting, without_nil, mem_without, List.mem_append, List.mem_singleton] at waits
  rw [flow.clock, decide_eq_true_eq] at due
  exact waits.1.resolve_left fun before => absurd due (Nat.not_le.2 (timely k before))

namespace Apart

theorem unused_of (a : Apart keep p q) (mine : ¬p.TakenElsewhere keep t)
    (unused : q.isUsed t = false) : p.isUsed t = false := by
  refine isUsed_eq_false_of fun k hk named => ?_
  have on : keep k.route := by
    by_contra off
    exact mine ⟨k, hk, named, off⟩
  refine ticket_ne_of_unused unused ?_ named
  rw [a.waiting, a.granted, ← kept_append]
  exact mem_kept.2 ⟨hk, on⟩

/-- An action that concerns no checkout on another route does the same to both pools. -/
theorem perform_kept (h : Apart keep p q) (prompt : p.Prompt a) (mine : ¬p.Elsewhere keep a) :
    (q.perform a).2 = ⟨(p.perform a).2.found, keptNews keep (p.perform a).2.notices⟩ ∧
      Apart keep (p.perform a).1 (q.perform a).1 := by
  cases a with
  | checkout t r =>
    obtain ⟨on, mine⟩ := not_or.1 mine
    have on : keep r := not_not.1 on
    have request : q.request t r = p.request t r := by
      rw [Slots.request, Slots.request, h.clock, h.limits]
    by_cases used : p.isUsed t = true
    · have used' : q.isUsed t = true := by
        by_contra unused
        rw [h.unused_of mine (Bool.eq_false_iff.2 unused)] at used
        cases used
      simp only [perform, checkout_of_used used, checkout_of_used used']
      exact ⟨rfl, h⟩
    · have new : p.isUsed t = false := Bool.eq_false_iff.2 used
      have new' := h.unused new
      by_cases uncountable : slotLimit < p.limits.perRoute
      · simp only [perform, checkout_of_uncountable new uncountable,
          checkout_of_uncountable new' (by rwa [h.limits]), request]
        refine ⟨?_, h⟩
        simp [keptNews, Slots.request, on]
      · have countable := Nat.not_lt.1 uncountable
        obtain ⟨notices, entered⟩ := h.enter (c := p.request t r) on new
          (room_of_prompt h.sound new countable prompt)
        obtain ⟨late, expired⟩ := entered.expire
        simp only [perform, checkout_of_new new countable,
          checkout_of_new new' (by rwa [h.limits]), request, notices, late, keptNews_append]
        exact ⟨trivial, expired⟩
  | release t =>
    by_cases held : ∃ c ∈ p.granted, c.ticket = t
    · obtain ⟨c, held, rfl⟩ := held
      have on : keep c.route := by
        by_contra off
        exact mine ⟨c, List.mem_append_right _ held, rfl, off⟩
      obtain ⟨notices, back⟩ := h.giveBack held on
      simp only [perform, release_of_granted h.sound held,
        release_of_granted h.sound' (h.mem_granted.2 ⟨held, on⟩), notices]
      exact ⟨trivial, back⟩
    · have unheld : ∀ k ∈ p.granted, k.ticket ≠ t := fun k hk named => held ⟨k, hk, named⟩
      have unheld' : ∀ k ∈ q.granted, k.ticket ≠ t := fun k hk =>
        unheld k (h.mem_granted.1 hk).1
      simp only [perform, release_of_not_granted unheld, release_of_not_granted unheld']
      exact ⟨rfl, h⟩
  | cancel t =>
    by_cases waits : ∃ c ∈ p.waiting, c.ticket = t
    · obtain ⟨c, waits, rfl⟩ := waits
      have on : keep c.route := by
        by_contra off
        exact mine ⟨c, List.mem_append_left _ waits, rfl, off⟩
      have waits' := h.mem_waiting.2 ⟨waits, on⟩
      simp only [perform, cancel_of_waiting h.sound waits, cancel_of_waiting h.sound' waits',
        (withdraw_flow h.sound waits).1, (withdraw_flow h.sound' waits').1]
      exact ⟨rfl, h.withdraw waits on⟩
    · have none : ∀ k ∈ p.waiting, k.ticket ≠ t := fun k hk named => waits ⟨k, hk, named⟩
      have none' : ∀ k ∈ q.waiting, k.ticket ≠ t := fun k hk => none k (h.mem_waiting.1 hk).1
      simp only [perform, cancel_of_not_waiting none, cancel_of_not_waiting none']
      exact ⟨rfl, h⟩
  | advance ms =>
    have later := h.later (p.clock + ms)
    obtain ⟨late, expired⟩ := later.expire
    simp only [perform, Slots.advance, h.clock, late]
    exact ⟨trivial, expired⟩
  | rest => exact ⟨rfl, h⟩

/-- An action that concerns a checkout on another route leaves the second pool behind as it is, and
tells nothing of those on routes that are kept. -/
theorem perform_elsewhere (h : Apart keep p q) (timely : p.Timely) (prompt : p.Prompt a)
    (elsewhere : p.Elsewhere keep a) :
    keptNews keep (p.perform a).2.notices = [] ∧ Apart keep (p.perform a).1 q := by
  cases a with
  | checkout t r =>
    by_cases used : p.isUsed t = true
    · simp only [perform, checkout_of_used used]
      exact ⟨rfl, h⟩
    · have new : p.isUsed t = false := Bool.eq_false_iff.2 used
      have off : ¬keep r := by
        refine elsewhere.resolve_right ?_
        rintro ⟨k, hk, named, -⟩
        exact ticket_ne_of_unused new hk named
      by_cases uncountable : slotLimit < p.limits.perRoute
      · simp only [perform, checkout_of_uncountable new uncountable]
        refine ⟨?_, h⟩
        simp [keptNews, Slots.request, off]
      · have countable := Nat.not_lt.1 uncountable
        have room := room_of_prompt h.sound new countable prompt
        obtain ⟨news, entered⟩ := h.enter_elsewhere (c := p.request t r) off new room
        obtain ⟨late, expired⟩ := entered.expire_elsewhere fun k hk => by
          rw [late_on_entry (c := p.request t r) h.sound timely new room k hk]
          exact off
        simp only [perform, checkout_of_new new countable, keptNews_append, news, late]
        exact ⟨rfl, expired⟩
  | release t =>
    by_cases held : ∃ c ∈ p.granted, c.ticket = t
    · obtain ⟨c, held, rfl⟩ := held
      simp only [perform, release_of_granted h.sound held]
      exact h.giveBack_elsewhere held
        (off_of_taken h.sound elsewhere (List.mem_append_right _ held))
    · simp only [perform, release_of_not_granted fun k hk named => held ⟨k, hk, named⟩]
      exact ⟨rfl, h⟩
  | cancel t =>
    by_cases waits : ∃ c ∈ p.waiting, c.ticket = t
    · obtain ⟨c, waits, rfl⟩ := waits
      have off := off_of_taken h.sound elsewhere (List.mem_append_left _ waits)
      simp only [perform, cancel_of_waiting h.sound waits, (withdraw_flow h.sound waits).1]
      exact ⟨rfl, h.withdraw_elsewhere waits off⟩
    · simp only [perform, cancel_of_not_waiting fun k hk named => waits ⟨k, hk, named⟩]
      exact ⟨rfl, h⟩
  | advance ms => exact elsewhere.elim
  | rest => exact elsewhere.elim

end Apart

end Slots

end HubPublisher.Pool
