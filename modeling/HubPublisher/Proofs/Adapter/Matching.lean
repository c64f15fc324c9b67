import HubPublisher.Proofs.Adapter.History
import HubPublisher.Proofs.Adapter.Setup

/-!
Tasks that match checkouts.

The tasks of an adapter and its slots are two accounts of one thing. A task waits just when its
checkout does, and it is active just when its checkout is granted (`Matched`). Both accounts change in
a few moves: a task is submitted, its checkout enters, is granted, or leaves with the task that is
taken away. News of checkouts are such moves one after the other, so whoever is told of a grant or
that it came too late is where its checkout is (`Matched.grants`, `Matched.gives_up`).
-/
namespace HubPublisher.Pool

/-- The checkouts under other tickets. -/
def others (t : Ticket) (l : List Checkout) : List Checkout := l.filter (·.ticket ≠ t)

variable {c : Checkout} {t u : Ticket} {l m : List Checkout}

theorem others_sublist : (others t l).Sublist l := List.filter_sublist

theorem mem_tickets_others :
    u ∈ (others t l).map (·.ticket) ↔ u ∈ l.map (·.ticket) ∧ u ≠ t := by
  simp only [others, List.mem_map, List.mem_filter, decide_eq_true_eq]
  constructor
  · rintro ⟨k, ⟨member, other⟩, rfl⟩
    exact ⟨⟨k, member, rfl⟩, other⟩
  · rintro ⟨⟨k, member, rfl⟩, other⟩
    exact ⟨k, ⟨member, other⟩, rfl⟩

theorem others_eq_self (h : t ∉ l.map (·.ticket)) : others t l = l := by
  apply List.filter_eq_self.2
  intro k member
  rw [decide_eq_true_eq]
  rintro rfl
  exact h (List.mem_map_of_mem member)

/-- With distinct tickets, the other checkouts are all but one. -/
theorem others_eq_without (distinct : (m.map (·.ticket)).Nodup) (hc : c ∈ m) (sub : l ⊆ m) :
    others c.ticket l = without [c] l := by
  apply List.filter_congr
  intro k member
  have same : k.ticket = c.ticket ↔ k = c := by
    constructor
    · exact List.inj_on_of_nodup_map distinct (sub member) hc
    · rintro rfl
      rfl
  simp [same]

end HubPublisher.Pool

namespace HubPublisher.Adapter

open Hub (Connections)
open Pool (Checkout Notice Slots Ticket others without)
open Settings (Configuration)

variable {a b : Adapter} {c : Checkout} {t : Ticket} {waiting granted : List Checkout}
  {config : Configuration}

/-! ## Phases -/

/-- How far the task of a ticket has come, if it is in flight. -/
def phase? (a : Adapter) (t : Ticket) : Option Phase := (a.task? t).map (·.phase)

theorem phase?_eq_some {phase : Phase} :
    a.phase? t = some phase ↔ ∃ task, a.task? t = some task ∧ task.phase = phase :=
  Option.map_eq_some_iff

theorem phase?_setPhase (a : Adapter) (t : Ticket) (phase : Phase) (u : Ticket) :
    (a.setPhase t phase).phase? u = if u = t then (a.phase? u).map fun _ => phase
      else a.phase? u := by
  rw [phase?, task?_setPhase, phase?]
  cases found : a.task? u with
  | none => simp
  | some task =>
    have named : task.ticket = u := ticket_of_task? found
    simp only [Option.map_some, named]
    split
    · rfl
    · rfl

theorem phase?_remove (a : Adapter) (t u : Ticket) :
    (a.remove t).phase? u = if u = t then none else a.phase? u := by
  rw [phase?, task?_remove, phase?]
  split
  · rfl
  · rfl

theorem phase?_next (old : a.Sound) : a.phase? a.next = none := by
  rw [phase?, task?_next old, Option.map_none]

theorem phase?_append {task : Task} (old : a.Sound) (tasks : b.tasks = a.tasks ++ [task])
    (ticket : task.ticket = a.next) (u : Ticket) :
    b.phase? u = if u = a.next then some task.phase else a.phase? u := by
  rw [phase?, task?_append old tasks ticket, phase?]
  split
  · rfl
  · rfl

/-- With distinct tickets, no task is hidden behind another. -/
theorem phase?_iff_mem (distinct : (a.tasks.map (·.ticket)).Nodup) {phase : Phase} :
    a.phase? t = some phase ↔ ∃ task ∈ a.tasks, task.phase = phase ∧ task.ticket = t := by
  rw [phase?_eq_some]
  constructor
  · rintro ⟨task, found, rfl⟩
    exact ⟨task, mem_of_task? found, rfl, ticket_of_task? found⟩
  · -- the first task under the ticket is found, and there is no other
    rintro ⟨task, member, rfl, rfl⟩
    cases found : a.task? task.ticket with
    | none => exact absurd (beq_self_eq_true _) (List.find?_eq_none.1 found task member)
    | some other =>
      have same : other = task :=
        List.inj_on_of_nodup_map distinct (mem_of_task? found) member (ticket_of_task? found)
      exact ⟨task, by rw [same], rfl⟩

/-! ## News -/

theorem notice_granted (found : a.phase? c.ticket ≠ none) :
    (a.notice ⟨c, .granted⟩).1 = a.setPhase c.ticket .active := by
  unfold notice
  cases there : a.task? c.ticket with
  | none => exact absurd (by rw [phase?, there]; rfl) found
  | some task => simp only [ticket_of_task? there]

theorem notice_refused {ending : Pool.Ending} (found : a.phase? c.ticket ≠ none)
    (refused : ending ≠ .granted) : (a.notice ⟨c, ending⟩).1 = a.remove c.ticket := by
  unfold notice
  cases there : a.task? c.ticket with
  | none => exact absurd (by rw [phase?, there]; rfl) found
  | some task =>
    cases ending with
    | granted => exact absurd rfl refused
    | unavailable => simp only [ticket_of_task? there]
    | uncountable => simp only [ticket_of_task? there]

theorem notices_append (a : Adapter) (ns more : List Notice) :
    (a.notices (ns ++ more)).1 = ((a.notices ns).1.notices more).1 := by
  induction ns generalizing a with
  | nil => rfl
  | cons n ns ih => exact ih (a.notice n).1

/-- The slots have no say in what comes of being told. -/
theorem setSlots_notice (a : Adapter) (slots : Slots) (n : Notice) :
    ((a.setSlots slots).notice n).1 = (a.notice n).1.setSlots slots := by
  have same : (a.setSlots slots).task? n.checkout.ticket = a.task? n.checkout.ticket := rfl
  unfold notice
  rw [same]
  cases a.task? n.checkout.ticket with
  | none => rfl
  | some task =>
    cases n.ending with
    | granted => rfl
    | unavailable => rfl
    | uncountable => rfl

theorem setSlots_notices (a : Adapter) (slots : Slots) (ns : List Notice) :
    ((a.setSlots slots).notices ns).1 = (a.notices ns).1.setSlots slots := by
  induction ns generalizing a with
  | nil => rfl
  | cons n ns ih =>
    calc (((a.setSlots slots).notice n).1.notices ns).1
        = (((a.notice n).1.setSlots slots).notices ns).1 := by rw [setSlots_notice]
      _ = ((a.notice n).1.notices ns).1.setSlots slots := ih (a.notice n).1

/-! ## The match -/

/-- The route of the base URL that a configuration sets, if there is one. -/
def hubRoute? (config : Configuration) : Option String :=
  match configuredBaseUrl config with
  | none => none
  | some base => (Url.parse base).toOption.map Connections.routeOf

theorem hubRoute?_eq_some {route : String} :
    hubRoute? config = some route ↔ ∃ base u, configuredBaseUrl config = some base ∧
      Url.parse base = .ok u ∧ route = Connections.routeOf u := by
  unfold hubRoute?
  cases configuredBaseUrl config with
  | none => simp
  | some base =>
    cases parsed : Url.parse base with
    | error e => simp [parsed, Except.toOption]
    | ok u => simp [parsed, Except.toOption, eq_comm]

/-- The waiting tasks are those of the checkouts that wait, the active ones those of the checkouts
that are granted, and all of them go by the route of the base URL. -/
structure Matched (config : Configuration) (a : Adapter) (waiting granted : List Checkout) :
    Prop where
  waits_iff : ∀ t, a.phase? t = some .waiting ↔ t ∈ waiting.map (·.ticket)
  active_iff : ∀ t, a.phase? t = some .active ↔ t ∈ granted.map (·.ticket)
  tickets : ((waiting ++ granted).map (·.ticket)).Nodup
  checkouts : ∀ c ∈ waiting ++ granted, hubRoute? config = some c.route
  tasks : ∀ task ∈ a.tasks, hubRoute? config = some (Connections.routeOf task.request.url)
  old : a.Sound
  distinct : (a.tasks.map (·.ticket)).Nodup

namespace Matched

/-- Only the tasks and the next ticket are looked at. -/
theorem congr (h : Matched config a waiting granted) (tasks : b.tasks = a.tasks)
    (next : b.next = a.next) : Matched config b waiting granted := by
  obtain ⟨config', connections, baseUrl, _, _⟩ := b
  cases tasks
  cases next
  exact ⟨h.waits_iff, h.active_iff, h.tickets, h.checkouts, h.tasks, h.old, h.distinct⟩

theorem waits (h : Matched config a waiting granted) (hc : c ∈ waiting) :
    a.phase? c.ticket = some .waiting :=
  (h.waits_iff c.ticket).2 (List.mem_map_of_mem hc)

/-- Nobody waits and is granted at once. -/
theorem not_granted (h : Matched config a waiting granted) (hc : c ∈ waiting) : c ∉ granted := by
  intro held
  exact (List.nodup_append.1 h.tickets.of_map).2.2 c hc c held rfl

/-- A task that has not begun has no checkout. -/
theorem no_checkout (h : Matched config a waiting granted) (fresh : a.phase? t = some .submitted) :
    t ∉ (waiting ++ granted).map (·.ticket) := by
  rw [List.map_append, List.mem_append, ← h.waits_iff, ← h.active_iff, fresh]
  simp

/-- Whatever phase a task comes to, it is the same task. -/
theorem setPhase_tasks (h : Matched config a waiting granted) (t : Ticket) (phase : Phase) :
    (∀ task ∈ (a.setPhase t phase).tasks,
        hubRoute? config = some (Connections.routeOf task.request.url)) ∧
      (a.setPhase t phase).Sound ∧ ((a.setPhase t phase).tasks.map (·.ticket)).Nodup := by
  refine ⟨?_, h.old.setPhase t phase, ?_⟩
  · intro task member
    obtain ⟨before, there, rfl⟩ := List.mem_map.1 member
    have route := h.tasks before there
    split
    · exact route
    · exact route
  · have same : (a.setPhase t phase).tasks.map (·.ticket) = a.tasks.map (·.ticket) := by
      rw [setPhase, List.map_map]
      apply List.map_congr_left
      intro task _
      simp only [Function.comp]
      split
      · rfl
      · rfl
    rw [same]
    exact h.distinct

/-! ## Moves -/

/-- A task begins to wait, and its checkout enters. -/
theorem enter (h : Matched config a waiting granted) (fresh : a.phase? c.ticket = some .submitted)
    (route : hubRoute? config = some c.route) :
    Matched config (a.setPhase c.ticket .waiting) (waiting ++ [c]) granted := by
  obtain ⟨tasks, old, distinct⟩ := h.setPhase_tasks c.ticket .waiting
  have tickets := Pool.tickets_insert h.tickets (h.no_checkout fresh)
  refine ⟨?_, ?_, tickets, ?_, tasks, old, distinct⟩
  · intro t
    rw [phase?_setPhase, List.map_append, List.mem_append, ← h.waits_iff]
    by_cases same : t = c.ticket
    · simp [same, fresh]
    · simp [same]
  · intro t
    rw [phase?_setPhase, ← h.active_iff]
    by_cases same : t = c.ticket
    · simp [same, fresh]
    · simp [same]
  · intro k member
    have there := h.checkouts k
    simp only [List.mem_append, List.mem_singleton] at member there
    rcases member with (waits | rfl) | held
    · exact there (.inl waits)
    · exact route
    · exact there (.inr held)

/-- A checkout that waited is granted, and its task becomes active. -/
theorem grant (h : Matched config a waiting granted) (hc : c ∈ waiting) :
    Matched config (a.setPhase c.ticket .active) (without [c] waiting) (granted ++ [c]) := by
  obtain ⟨tasks, old, distinct⟩ := h.setPhase_tasks c.ticket .active
  have waits : a.phase? c.ticket = some .waiting := h.waits hc
  have rest : others c.ticket waiting = without [c] waiting :=
    Pool.others_eq_without h.tickets (List.mem_append_left _ hc) (List.subset_append_left ..)
  -- the checkout only moves from one list to the other
  have perm : (without [c] waiting ++ (granted ++ [c])).Perm (waiting ++ granted) := by
    have nodup : waiting.Nodup := (List.nodup_append.1 h.tickets.of_map).1
    rw [← Pool.erase_eq_without nodup, ← List.append_assoc]
    exact (List.perm_append_singleton c _).trans
      ((List.perm_cons_erase hc).symm.append_right granted)
  refine ⟨?_, ?_, ?_, ?_, tasks, old, distinct⟩
  · intro t
    rw [phase?_setPhase, ← rest, Pool.mem_tickets_others, ← h.waits_iff]
    by_cases same : t = c.ticket
    · simp [same, waits]
    · simp [same]
  · intro t
    rw [phase?_setPhase, List.map_append, List.mem_append, ← h.active_iff]
    by_cases same : t = c.ticket
    · simp [same, waits]
    · simp [same]
  · rw [(perm.map _).nodup_iff]
    exact h.tickets
  · intro k member
    exact h.checkouts k (perm.mem_iff.1 member)

/-- A task is taken away with its checkout, if it has one. -/
theorem remove (h : Matched config a waiting granted) (t : Ticket) :
    Matched config (a.remove t) (others t waiting) (others t granted) := by
  -- nobody is new, so what holds of all checkouts and tasks holds of those that are left
  have fewer : (others t waiting ++ others t granted).Sublist (waiting ++ granted) :=
    Pool.others_sublist.append Pool.others_sublist
  refine ⟨?_, ?_, h.tickets.sublist (fewer.map _), ?_, ?_, h.old.remove t,
    h.distinct.sublist (List.filter_sublist.map _)⟩
  · intro u
    rw [phase?_remove, Pool.mem_tickets_others, ← h.waits_iff]
    by_cases same : u = t
    · simp [same]
    · simp [same]
  · intro u
    rw [phase?_remove, Pool.mem_tickets_others, ← h.active_iff]
    by_cases same : u = t
    · simp [same]
    · simp [same]
  · intro k member
    exact h.checkouts k (fewer.subset member)
  · intro task member
    exact h.tasks task (List.mem_filter.1 member).1

theorem leave (h : Matched config a waiting granted) (hc : c ∈ waiting ++ granted) :
    Matched config (a.remove c.ticket) (without [c] waiting) (without [c] granted) := by
  rw [← Pool.others_eq_without h.tickets hc (List.subset_append_left ..),
    ← Pool.others_eq_without h.tickets hc (List.subset_append_right ..)]
  exact h.remove c.ticket

/-- A task that has not begun leaves the checkouts as they are. -/
theorem withdraw (h : Matched config a waiting granted) (fresh : a.phase? t = some .submitted) :
    Matched config (a.remove t) waiting granted := by
  have unlisted := h.no_checkout fresh
  rw [List.map_append, List.mem_append, not_or] at unlisted
  have removed := h.remove t
  rw [Pool.others_eq_self unlisted.1, Pool.others_eq_self unlisted.2] at removed
  exact removed

/-- A task is submitted under the next ticket, and has no checkout yet. -/
theorem submit {task : Task} (h : Matched config a waiting granted)
    (tasks : b.tasks = a.tasks ++ [task]) (next : b.next = a.next + 1)
    (ticket : task.ticket = a.next) (phase : task.phase = .submitted)
    (route : hubRoute? config = some (Connections.routeOf task.request.url)) :
    Matched config b waiting granted := by
  have phases := phase?_append h.old tasks ticket
  have unborn := phase?_next h.old
  refine ⟨?_, ?_, h.tickets, h.checkouts, ?_, ?_, ?_⟩
  · intro u
    rw [phases, ← h.waits_iff]
    by_cases new : u = a.next
    · simp [new, unborn, phase]
    · simp [new]
  · intro u
    rw [phases, ← h.active_iff]
    by_cases new : u = a.next
    · simp [new, unborn, phase]
    · simp [new]
  · intro other member
    rw [tasks] at member
    rcases List.mem_append.1 member with there | here
    · exact h.tasks other there
    · rw [List.mem_singleton.1 here]
      exact route
  · intro other member
    rw [tasks] at member
    rw [next]
    rcases List.mem_append.1 member with there | here
    · exact Nat.lt_succ_of_lt (h.old other there)
    · rw [List.mem_singleton.1 here, ticket]
      exact Nat.lt_succ_self a.next
  · -- the next ticket is newer than all that are in use
    have unlisted : a.next ∉ a.tasks.map (·.ticket) := by
      intro listed
      obtain ⟨other, member, same⟩ := List.mem_map.1 listed
      exact absurd same (Nat.ne_of_lt (h.old other member))
    rw [tasks, List.map_append, List.map_singleton, ticket]
    exact List.nodup_append.2 ⟨h.distinct, List.nodup_singleton _,
      fun u listed v new same => unlisted (List.mem_singleton.1 new ▸ same ▸ listed)⟩

/-! ## Several moves -/

/-- Those who are told of their grants have moved, in this order. -/
theorem grants {gs : List Checkout} (h : Matched config a waiting granted)
    (sub : ∀ c ∈ gs, c ∈ waiting) (nodup : gs.Nodup) :
    Matched config (a.notices (Slots.granting gs)).1 (without gs waiting) (granted ++ gs) := by
  induction gs generalizing a waiting granted with
  | nil =>
    rw [Pool.without_nil, List.append_nil]
    exact h
  | cons c cs ih =>
    have hc : c ∈ waiting := sub c List.mem_cons_self
    have first : Matched config (a.notice ⟨c, .granted⟩).1 (without [c] waiting)
        (granted ++ [c]) := by
      rw [notice_granted (by simp [h.waits hc])]
      exact h.grant hc
    -- the others are told when the first has moved
    have rest := ih first (Pool.mem_without_first sub nodup) (List.nodup_cons.1 nodup).2
    rw [Pool.without_without, List.append_assoc] at rest
    exact rest

/-- Those who are told that they came too late are gone with their tasks. -/
theorem gives_up {late : List Checkout} (h : Matched config a waiting granted)
    (sub : ∀ c ∈ late, c ∈ waiting) (nodup : late.Nodup) :
    Matched config (a.notices (Slots.givingUp late)).1 (without late waiting) granted := by
  induction late generalizing a waiting with
  | nil =>
    rw [Pool.without_nil]
    exact h
  | cons c cs ih =>
    have hc : c ∈ waiting := sub c List.mem_cons_self
    have first : Matched config (a.notice ⟨c, .unavailable⟩).1 (without [c] waiting) granted := by
      -- who waits holds nothing, so nobody is taken from those that are granted
      have left := h.leave (List.mem_append_left granted hc)
      rw [Pool.without_single (h.not_granted hc)] at left
      rw [notice_refused (by simp [h.waits hc]) (by decide)]
      exact left
    have rest := ih first (Pool.mem_without_first sub nodup) (List.nodup_cons.1 nodup).2
    rw [Pool.without_without] at rest
    exact rest

end Matched

end HubPublisher.Adapter
