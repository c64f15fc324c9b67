import HubPublisher.Proofs.Hub.Restart
import HubPublisher.Proofs.Pool.Admission
import HubPublisher.Proofs.Pool.Order

/-!
One deadline for both waits.

A checkout is given its deadline when it enters and keeps it in whichever queue it stands. At the
end of every action all whose deadline has come give up, so nobody waits past it
(`Performs.timely`), and whoever waits and is neither granted nor cancelled in an action gives up in
it exactly when its deadline has come at the end (`Performs.onTime`). By induction on the turns of a
run that is the first turn at whose end the deadline has come (`punctual_of_pending`). Its ticket is
free then and stays free until somebody asks under it again: it holds no slot.
-/
namespace HubPublisher.Pool.Slots

variable {p q : Slots} {a : Action} {c k : Checkout} {t : Ticket} {entered : List Checkout}
  {news : List Notice}

/-- Nobody waits whose deadline has come. -/
def Timely (p : Slots) : Prop := ∀ k ∈ p.waiting, p.clock < k.deadline

theorem Timely.start (limits : Limits) : (Slots.start limits).Timely :=
  fun _ hk => absurd hk List.not_mem_nil

/-- What was told of a checkout, and whether it waits, is as its deadline has it. -/
def OnTime (k : Checkout) (q : Slots) (told : List Notice) : Prop :=
  (⟨k, .unavailable⟩ ∈ told ↔ k.deadline ≤ q.clock) ∧ (k ∈ q.waiting ↔ ¬k.deadline ≤ q.clock)

/-! ## One action -/

/-- Of those that wait, the ones whose deadline has come give up, and the others still wait. -/
theorem expire_onTime (h : p.Sound) (hk : k ∈ p.waiting) : OnTime k p.expire.1 p.expire.2 := by
  obtain ⟨notices, -, waiting, -, -, clock⟩ := expire_spec h
  have late : k ∈ p.expired ↔ k.deadline ≤ p.clock := by simp [expired, hk]
  rw [OnTime, notices, waiting, clock, mem_without, late, and_iff_right hk]
  exact ⟨by simp [givingUp, late], Iff.rfl⟩

theorem expire_timely (h : p.Sound) : p.expire.1.Timely := by
  intro k hk
  obtain ⟨-, -, waiting, -⟩ := expire_spec h
  have before : k ∈ p.waiting := without_sublist.subset (waiting ▸ hk)
  exact Nat.not_le.1 ((expire_onTime h before).2.1 hk)

/-- An act that nobody enters by leaves nobody late. -/
theorem Flow.timely {gone seats grants : List Checkout} (f : Flow p q gone [] seats grants)
    (timely : p.Timely) : q.Timely := by
  intro k hk
  rw [f.waiting, List.append_nil] at hk
  rw [f.clock]
  exact timely k (mem_without.1 (mem_without.1 hk).1).1

theorem Performs.timely (done : Performs p a q entered news) (h : p.Sound) (timely : p.Timely) :
    q.Timely := by
  cases done with
  | idle _ => exact timely
  | @enter t r new => exact expire_timely (enter_sound (c := p.request t r) h new)
  | giveBack held =>
    obtain ⟨_, -, flow⟩ := giveBack_flow h held
    exact flow.timely timely
  | withdraw waits => exact (withdraw_flow h waits).2.timely timely
  | advance ms => exact expire_timely (h.later (p.clock + ms))

/-- Whoever still waits where nobody is late was not told anything. -/
theorem Timely.onTime (timely : p.Timely) {told : List Notice} (hk : k ∈ p.waiting)
    (untold : ⟨k, .unavailable⟩ ∉ told) : OnTime k p told := by
  have early : ¬k.deadline ≤ p.clock := Nat.not_le.2 (timely k hk)
  exact ⟨iff_of_false untold early, iff_of_true hk early⟩

theorem not_unavailable_granting (grants : List Checkout) :
    ⟨k, .unavailable⟩ ∉ granting grants := by simp [granting]

/-- When a new checkout has entered, everybody waits who was not granted, and then the deadlines are
looked at. -/
theorem enter_onTime (h : p.Sound) (new : p.isUsed c.ticket = false) (here : k ∈ p.waiting ++ [c])
    (ungranted : ⟨k, .granted⟩ ∉ (p.enter c).2 ++ (p.enter c).1.expire.2) :
    OnTime k (p.enter c).1.expire.1 ((p.enter c).2 ++ (p.enter c).1.expire.2) := by
  obtain ⟨grants, notices, flow⟩ := enter_flow h new
  rw [notices] at ungranted ⊢
  rw [List.mem_append, not_or] at ungranted
  have waits : k ∈ (p.enter c).1.waiting := by
    rw [flow.waiting, without_nil, mem_without]
    exact ⟨here, fun listed => ungranted.1 (List.mem_map_of_mem listed)⟩
  rw [OnTime, List.mem_append, or_iff_right (not_unavailable_granting grants)]
  exact expire_onTime (enter_sound h new) waits

/-- Whoever waits when a permit is given back, and is not the one that gets it, still waits. -/
theorem giveBack_waits (h : p.Sound) (hc : c ∈ p.granted) (hk : k ∈ p.waiting)
    (ungranted : ⟨k, .granted⟩ ∉ (p.giveBack c).2) :
    k ∈ (p.giveBack c).1.waiting ∧ ⟨k, .unavailable⟩ ∉ (p.giveBack c).2 := by
  obtain ⟨grants, notices, flow⟩ := giveBack_flow h hc
  rw [notices] at ungranted ⊢
  have other : k ≠ c := by
    rintro rfl
    exact h.not_granted hk hc
  refine ⟨?_, not_unavailable_granting grants⟩
  rw [flow.waiting, List.append_nil, mem_without, mem_without, List.mem_singleton]
  exact ⟨⟨hk, other⟩, fun listed => ungranted (List.mem_map_of_mem listed)⟩

/-- Whoever enters or waits, and is neither granted nor cancelled in an action, gives up in it just
when its deadline has come at the end, and otherwise waits. -/
theorem Performs.onTime (done : Performs p a q entered news) (h : p.Sound) (timely : p.Timely)
    (here : k ∈ p.waiting ++ entered) (stays : a ≠ .cancel k.ticket)
    (ungranted : ⟨k, .granted⟩ ∉ news) : OnTime k q news := by
  have after := done.timely h timely
  cases done with
  | idle refusals =>
    rw [List.append_nil] at here
    refine timely.onTime here fun told => ?_
    cases refusals _ told
  | enter new => exact enter_onTime h new here ungranted
  | giveBack held =>
    rw [List.append_nil] at here
    obtain ⟨waits, untold⟩ := giveBack_waits h held here ungranted
    exact after.onTime waits untold
  | @withdraw c held =>
    rw [List.append_nil] at here
    have other : k ≠ c := by
      rintro rfl
      exact stays rfl
    refine after.onTime ?_ List.not_mem_nil
    rw [withdraw_waiting h held, mem_without, List.mem_singleton]
    exact ⟨here, other⟩
  | advance ms =>
    rw [List.append_nil] at here
    exact expire_onTime (h.later (p.clock + ms)) here

/-- Of those that were granted when a checkout entered, nobody gives up. -/
theorem enter_one_ending (h : p.Sound) (new : p.isUsed c.ticket = false)
    (granted : ⟨k, .granted⟩ ∈ (p.enter c).2 ++ (p.enter c).1.expire.2) :
    ⟨k, .unavailable⟩ ∉ (p.enter c).2 ++ (p.enter c).1.expire.2 := by
  obtain ⟨grants, notices, flow⟩ := enter_flow h new
  have sound := enter_sound h new
  rw [notices] at granted ⊢
  rw [List.mem_append] at granted
  have listed : k ∈ grants := by
    have here := granted.resolve_right fun told => not_granted_of_expire sound _ told rfl
    simpa [granting] using here
  rw [List.mem_append, not_or]
  refine ⟨not_unavailable_granting grants, fun told => ?_⟩
  -- only those that wait give up, and whoever was granted does not wait
  have late : k ∈ (p.enter c).1.expired := by
    rw [(expire_spec sound).1] at told
    simpa [givingUp] using told
  have waits := expired_sub k late
  rw [flow.waiting, mem_without] at waits
  exact waits.2 listed

/-- Nobody comes to two ends in one action. -/
theorem Performs.one_ending (done : Performs p a q entered news) (h : p.Sound)
    (granted : ⟨k, .granted⟩ ∈ news) : ⟨k, .unavailable⟩ ∉ news := by
  cases done with
  | idle refusals => cases refusals _ granted
  | enter new => exact enter_one_ending h new granted
  | giveBack held =>
    obtain ⟨grants, notices, -⟩ := giveBack_flow h held
    rw [notices]
    exact not_unavailable_granting grants
  | withdraw _ => exact List.not_mem_nil
  | advance ms => exact absurd rfl ((advance_grants_none h ms).1 _ granted)

/-- Whoever enters or waits gives up in an action just when its deadline has come at the end and it
was not granted. -/
theorem perform_told_iff (h : p.Sound) (timely : p.Timely) (here : k ∈ p.waiting ++ p.starts a) :
    ⟨k, .unavailable⟩ ∈ (p.perform a).2.notices ↔
      k.deadline ≤ (p.perform a).1.clock ∧ ⟨k, .granted⟩ ∉ (p.perform a).2.notices := by
  have done := perform_performs h a
  by_cases granted : ⟨k, .granted⟩ ∈ (p.perform a).2.notices
  · exact iff_of_false (done.one_ending h granted) fun both => both.2 granted
  rw [and_iff_left granted]
  by_cases cancels : a = .cancel k.ticket
  · -- a cancelled checkout waited until now, and no time has passed
    subst cancels
    have waits : k ∈ p.waiting := by simpa [starts] using here
    simp only [perform, cancel_of_waiting h waits, (withdraw_flow h waits).1,
      (withdraw_flow h waits).2.clock]
    exact iff_of_false List.not_mem_nil (Nat.not_le.2 (timely k waits))
  · exact (done.onTime h timely here cancels granted).1

/-! ## Tickets -/

theorem isUsed_eq_false_of {t : Ticket} (unlisted : ∀ k ∈ p.waiting ++ p.granted, k.ticket ≠ t) :
    p.isUsed t = false := by
  rw [isUsed_eq_false_iff, List.mem_map]
  rintro ⟨k, hk, named⟩
  exact unlisted k hk named

theorem ticket_ne_of_unused {t : Ticket} (unused : p.isUsed t = false)
    (hk : k ∈ p.waiting ++ p.granted) : k.ticket ≠ t := by
  rintro rfl
  exact isUsed_eq_false_iff.1 unused (List.mem_map_of_mem hk)

theorem starts_cases (p : Slots) (a : Action) :
    p.starts a = [] ∨
      ∃ t r, a = .checkout t r ∧ p.isUsed t = false ∧ p.starts a = [p.request t r] := by
  cases a with
  | checkout t r =>
    by_cases refused : p.isUsed t ∨ slotLimit < p.limits.perRoute
    · exact .inl (if_pos refused)
    · have new : p.isUsed t = false := by simpa using (not_or.1 refused).1
      exact .inr ⟨t, r, rfl, new, if_neg refused⟩
  | _ => exact .inl rfl

/-- Whoever enters has a ticket that nobody else has. -/
theorem tickets_of_starts (h : p.Sound) (a : Action) :
    ((p.waiting ++ p.starts a ++ p.granted).map (·.ticket)).Nodup := by
  rcases starts_cases p a with none | ⟨t, r, -, new, one⟩
  · rw [none, List.append_nil]
    exact h.tickets
  · rw [one]
    exact tickets_of_new h new

/-- A ticket that is free stays free until somebody asks under it. -/
theorem perform_unused (h : p.Sound) (unused : p.isUsed t = false)
    (other : ∀ r, a ≠ .checkout t r) : (p.perform a).1.isUsed t = false := by
  refine isUsed_eq_false_of fun k hk => ?_
  have there := (perform_course h a).mem_of_mem h hk
  simp only [List.mem_append] at there
  rcases there with (waits | enters) | held
  · exact ticket_ne_of_unused unused (List.mem_append_left _ waits)
  · rcases starts_cases p a with none | ⟨t', r, rfl, -, one⟩
    · exact absurd enters (by simp [none])
    · rw [one, List.mem_singleton] at enters
      rintro rfl
      exact other r (by rw [enters]; rfl)
  · exact ticket_ne_of_unused unused (List.mem_append_right _ held)

/-- Whoever enters or waits, and holds a permit after an action, was told so in it. -/
theorem perform_told_granted (h : p.Sound) (here : k ∈ p.waiting ++ p.starts a)
    (held : k ∈ (p.perform a).1.granted) : ⟨k, .granted⟩ ∈ (p.perform a).2.notices := by
  rcases List.mem_append.1 ((perform_course h a).granted_sublist.subset held) with old | new
  · -- nobody that enters or waits held a permit before
    have checkouts := (tickets_of_starts h a).of_map
    exact absurd rfl ((List.nodup_append.1 checkouts).2.2 k here k old)
  · obtain ⟨n, good, rfl⟩ := List.mem_map.1 new
    obtain ⟨there, ending⟩ := List.mem_filter.1 good
    have ending : n.ending = .granted := by simpa using ending
    exact ending ▸ there

/-- Whoever gives up in an action leaves its ticket free. -/
theorem perform_given_up (h : p.Sound) (timely : p.Timely) (here : k ∈ p.waiting ++ p.starts a)
    (told : ⟨k, .unavailable⟩ ∈ (p.perform a).2.notices) :
    (p.perform a).1.isUsed k.ticket = false := by
  obtain ⟨due, ungranted⟩ := (perform_told_iff h timely here).1 told
  have stays : a ≠ .cancel k.ticket := by
    rintro rfl
    simp [perform, (cancel_grants_none h k.ticket).1] at told
  have gone : k ∉ (p.perform a).1.waiting := fun waits =>
    ((perform_performs h a).onTime h timely here stays ungranted).2.1 waits due
  refine isUsed_eq_false_of fun x hx named => ?_
  -- no other checkout has its ticket
  have same : x = k := List.inj_on_of_nodup_map (tickets_of_starts h a)
    ((perform_course h a).mem_of_mem h hx) (List.mem_append_left _ here) named
  rw [same] at hx
  rcases List.mem_append.1 hx with waits | held
  · exact gone waits
  · exact ungranted (perform_told_granted h here held)

end HubPublisher.Pool.Slots

namespace HubPublisher.Hub.Connections

open Pool (Checkout Slots Ticket)

variable {c d : Connections} {config : Settings.Configuration} {k : Checkout} {s : Step}
  {steps : List Step} {t : Ticket} {url : Url}

/-! ## Runs -/

theorem Reachable.turn (h : Reachable config d) {u : Turn} (member : u ∈ d.turns steps) :
    Reachable config u.after := by
  induction steps generalizing d with
  | nil => exact absurd member List.not_mem_nil
  | cons s ss ih =>
    rcases List.mem_cons.1 member with rfl | later
    · exact h.step s
    · exact ih (h.step s) later

theorem run_timely (buildable : c.Buildable) (sound : c.slots.Sound) (timely : c.slots.Timely)
    (steps : List Step) : (c.run steps).1.slots.Timely := by
  induction steps generalizing c with
  | nil => exact timely
  | cons s ss ih =>
    obtain ⟨slots, -, buildable⟩ := step_slots buildable s
    refine ih buildable ?_ ?_
    · exact slots ▸ Slots.perform_sound sound s.action
    · exact slots ▸ (Slots.perform_performs sound s.action).timely sound timely

/-- Wherever connections come to, nobody waits who is late. -/
theorem Reachable.timely (h : Reachable config d) : d.slots.Timely := by
  obtain ⟨trust, c, logs, steps, started, rfl⟩ := h
  obtain ⟨slots, buildable⟩ := start_eq started
  refine run_timely buildable ?_ ?_ steps
  · exact slots ▸ Slots.Sound.start (limitsOf config)
  · exact slots ▸ Slots.Timely.start (limitsOf config)

/-- A step asks for a connection under a ticket. -/
def Step.Asks (s : Step) (t : Ticket) : Prop :=
  ∃ url, s = .checkout t url ∨ s = .channelCheckout t url

theorem Step.asks_of_action {r : String} (h : s.action = .checkout t r) : s.Asks t := by
  cases s with
  | checkout t' url =>
    cases h
    exact ⟨url, .inl rfl⟩
  | channelCheckout t' url =>
    cases h
    exact ⟨url, .inr rfl⟩
  | _ => cases h

/-- A ticket that is free stays free in a run that does not ask under it. -/
theorem run_unused (h : Reachable config c) (unused : c.slots.isUsed t = false)
    (other : ∀ s ∈ steps, ¬s.Asks t) :
    (c.run steps).1.slots.isUsed t = false ∧ Reachable config (c.run steps).1 := by
  induction steps generalizing c with
  | nil => exact ⟨unused, h⟩
  | cons s ss ih =>
    obtain ⟨sound, -, buildable⟩ := h.sound
    obtain ⟨slots, -, -⟩ := step_slots buildable s
    have elsewhere : ∀ r, s.action ≠ .checkout t r := fun r asks =>
      other s List.mem_cons_self (Step.asks_of_action asks)
    have free : (c.step s).1.slots.isUsed t = false := by
      rw [slots]
      exact Slots.perform_unused sound unused elsewhere
    exact ih (h.step s) free fun x hx => other x (List.mem_cons_of_mem s hx)

/-! ## Turns -/

/-- In this turn the checkout is granted, or its ticket is cancelled. -/
def Turn.Resolves (u : Turn) (k : Checkout) : Prop :=
  ⟨k, .granted⟩ ∈ u.effect.notices ∨ u.step = .cancel k.ticket

/-- At the end of this turn the deadline of the checkout has come. -/
def Turn.Due (u : Turn) (k : Checkout) : Prop := k.deadline ≤ u.after.slots.clock

deriving instance DecidableEq for Step

instance (u : Turn) (k : Checkout) : Decidable (u.Resolves k) :=
  inferInstanceAs (Decidable (_ ∈ u.effect.notices ∨ u.step = _))

instance (u : Turn) (k : Checkout) : Decidable (u.Due k) :=
  inferInstanceAs (Decidable (_ ≤ u.after.slots.clock))

/-- A turn keeps to the deadline of a checkout: it is told to be unavailable just when it is due and
was not granted, unless the turn resolves it it waits until it is due, and once it is told so its
ticket is free. -/
structure Turn.Punctual (u : Turn) (k : Checkout) : Prop where
  told_iff : ⟨k, .unavailable⟩ ∈ u.effect.notices ↔ u.Due k ∧ ⟨k, .granted⟩ ∉ u.effect.notices
  waits_iff : ¬u.Resolves k → (k ∈ u.after.slots.waiting ↔ ¬u.Due k)
  unused : ⟨k, .unavailable⟩ ∈ u.effect.notices → u.after.slots.isUsed k.ticket = false

theorem Turn.punctual (h : Reachable config c)
    (here : k ∈ c.slots.waiting ++ c.slots.starts s.action) :
    Turn.Punctual ⟨s, c, (c.step s).2, (c.step s).1⟩ k := by
  obtain ⟨sound, -, buildable⟩ := h.sound
  obtain ⟨slots, answer, -⟩ := step_slots buildable s
  have notices : (c.step s).2.notices = _ := congrArg Pool.Answer.notices answer
  refine ⟨?_, fun unresolved => ?_, ?_⟩
  · rw [Turn.Due, notices, slots]
    exact Slots.perform_told_iff sound h.timely here
  · obtain ⟨ungranted, uncancelled⟩ := not_or.1 unresolved
    have stays : s.action ≠ .cancel k.ticket := by
      intro cancels
      cases s with
      | cancel t =>
        cases cancels
        exact uncancelled rfl
      | _ => cases cancels
    rw [Turn.Due, slots]
    have done := Slots.perform_performs sound s.action
    exact (done.onTime sound h.timely here stays (notices ▸ ungranted)).2
  · rw [notices, slots]
    exact Slots.perform_given_up sound h.timely here

/-- Every turn keeps to the deadline of a checkout until one resolves it or is due. -/
theorem punctual_of_pending (h : Reachable config c)
    (here : k ∈ c.slots.waiting ++ c.slots.starts s.action) {early later : List Turn} {u : Turn}
    (split : c.turns (s :: steps) = early ++ u :: later)
    (pending : ∀ v ∈ early, ¬v.Resolves k ∧ ¬v.Due k) : u.Punctual k := by
  induction early generalizing c s steps with
  | nil =>
    obtain ⟨rfl, -⟩ := List.cons.inj split
    exact Turn.punctual h here
  | cons v rest ih =>
    obtain ⟨rfl, others⟩ := List.cons.inj split
    -- it was neither resolved nor due in the first turn, so it still waits
    obtain ⟨unresolved, not_due⟩ := pending _ List.mem_cons_self
    have waits : k ∈ (c.step s).1.slots.waiting :=
      ((Turn.punctual h here).waits_iff unresolved).2 not_due
    cases steps with
    | nil => exact absurd others (by simp [turns])
    | cons x xs =>
      exact ih (h.step s) (List.mem_append_left _ waits) others
        fun w hw => pending w (List.mem_cons_of_mem _ hw)

/-- A step that asks under a free ticket starts the checkout that is to wait as long as the
configuration says. -/
theorem starts_of_asks (h : Reachable config d)
    (countable : config.maxConnectionsPerRoute ≤ Pool.slotLimit) (new : d.slots.isUsed t = false)
    (asks : s = .checkout t url ∨ s = .channelCheckout t url) :
    d.slots.starts s.action
      = [⟨t, url.origin, d.slots.clock + config.checkoutTimeout⟩] := by
  obtain ⟨-, limits, -⟩ := h.sound
  have action : s.action = .checkout t (routeOf url) := by
    rcases asks with rfl | rfl <;> rfl
  have counted : ¬(d.slots.isUsed t = true ∨ Pool.slotLimit < d.slots.limits.perRoute) := by
    rw [new, limits]
    exact not_or.2 ⟨Bool.false_ne_true, Nat.not_lt.2 countable⟩
  rw [action, Slots.starts, if_neg counted, Slots.request, limits]
  rfl

/-- Of a checkout that is started in any state that connections come to, on a ticket that is free,
and of any steps from there on:
1. as long as no earlier turn granted or cancelled it or was due, it is told to be unavailable,
   under the origin of its URL, just when it is due at the end of the turn and was not granted in
   it, and unless the turn grants or cancels it, it waits until it is due;
2. once it is told so, no checkout on its ticket waits, is granted or has a slot of its route, until
   somebody asks under the ticket again;
3. at the end of no turn does anybody wait who is due. -/
theorem one_deadline (h : Reachable config d)
    (countable : config.maxConnectionsPerRoute ≤ Pool.slotLimit) (new : d.slots.isUsed t = false)
    (asks : s = .checkout t url ∨ s = .channelCheckout t url)
    (asked : k = ⟨t, url.origin, d.slots.clock + config.checkoutTimeout⟩) (steps : List Step) :
    (∀ early u later, d.turns (s :: steps) = early ++ u :: later →
      (∀ v ∈ early, ¬v.Resolves k ∧ ¬v.Due k) →
      (⟨k, .unavailable⟩ ∈ u.effect.notices ↔ u.Due k ∧ ⟨k, .granted⟩ ∉ u.effect.notices) ∧
      (¬u.Resolves k → (k ∈ u.after.slots.waiting ↔ ¬u.Due k)) ∧
      (⟨k, .unavailable⟩ ∈ u.effect.notices → ∀ more : List Step, (∀ x ∈ more, ¬x.Asks t) →
        (u.after.run more).1.slots.isUsed t = false ∧
          ∀ x ∈ (u.after.run more).1.slots.ranks, x.ticket ≠ t)) ∧
    ∀ u ∈ d.turns (s :: steps), ∀ x ∈ u.after.slots.waiting, ¬u.Due x := by
  have here : k ∈ d.slots.waiting ++ d.slots.starts s.action := by
    rw [starts_of_asks h countable new asks, ← asked]
    exact List.mem_append_right _ (List.mem_singleton_self k)
  have ticket : k.ticket = t := by rw [asked]
  refine ⟨fun early u later split pending => ?_, fun u member x hx => ?_⟩
  · have punctual := punctual_of_pending h here split pending
    refine ⟨punctual.told_iff, punctual.waits_iff, fun told more other => ?_⟩
    have member : u ∈ d.turns (s :: steps) := by
      rw [split]
      exact List.mem_append_right _ List.mem_cons_self
    obtain ⟨free, reachable⟩ := run_unused (h.turn member) (ticket ▸ punctual.unused told) other
    refine ⟨free, fun x ranked => Slots.ticket_ne_of_unused free ?_⟩
    -- whoever has a slot of its route is granted or waits for one of all
    rcases List.mem_append.1 ranked with held | queued
    · exact List.mem_append_right _ held
    · exact List.mem_append_left _ (reachable.sound.1.mem_queue queued)
  · exact Nat.not_le.2 ((h.turn member).timely x hx)

/-- The sample somewhat later. -/
def sampleLater : Connections := (sampleStart.run (sampleSteps ++ [.advance 400])).1

/-- What happens while a checkout waits, first for a slot of its route and from the release on for
one of all. -/
def sampleWait : List Step := [.advance 300, .release 3, .advance 600]

def sampleTurns : List Turn := sampleLater.turns (.checkout 6 (sampleUrl "b") :: sampleWait)

/-- What the wait comes to. -/
def sampleLast : Connections :=
  (sampleLater.run (.checkout 6 (sampleUrl "b") :: sampleWait)).1

/-- The turn in which time runs out. -/
def sampleTimeout : Turn :=
  ⟨.advance 200, sampleLast, (sampleLast.step (.advance 200)).2, (sampleLast.step (.advance 200)).1⟩

theorem one_deadline_sample :
    sampleLater.slots.isUsed 6 = false ∧
    (∀ v ∈ sampleTurns, ¬v.Resolves ⟨6, "https://b", 1400⟩ ∧ ¬v.Due ⟨6, "https://b", 1400⟩) ∧
    ⟨6, "https://b", 1400⟩ ∈ sampleLast.slots.total.queue ∧
    ⟨⟨6, "https://b", 1400⟩, .unavailable⟩ ∈ sampleTimeout.effect.notices ∧
    ∀ x ∈ sampleTimeout.after.slots.ranks, x.ticket ≠ 6 := by
  have reachable : Reachable sampleConfig sampleLater := sample_reachable _
  have free : sampleLater.slots.isUsed 6 = false := by decide
  have pending : ∀ v ∈ sampleTurns,
      ¬v.Resolves ⟨6, "https://b", 1400⟩ ∧ ¬v.Due ⟨6, "https://b", 1400⟩ := by decide
  obtain ⟨turn, -⟩ := one_deadline (s := .checkout 6 (sampleUrl "b")) reachable (by decide) free
    (.inl rfl) rfl (sampleWait ++ [.advance 200])
  obtain ⟨told, -, gone⟩ := turn sampleTurns sampleTimeout [] rfl pending
  have unavailable := told.2 ⟨by decide, by decide⟩
  exact ⟨free, pending, by decide, unavailable, (gone unavailable [] nofun).2⟩

end HubPublisher.Hub.Connections
