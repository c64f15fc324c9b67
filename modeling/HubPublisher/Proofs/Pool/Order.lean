import HubPublisher.Proofs.Pool.Runs
import Mathlib.Data.List.Dedup

/-!
Nobody is overtaken.

On a route, those that are granted came before those that queue for a slot of all, and these before
those in line: an act lets some of them go and appends whoever enters, so the order is that in which
they were started (`Flow.roll_eq`). Over all routes the same holds of those that are granted and
those that queue for a slot of all, by when they got the slot of their route (`Flow.ranks_eq`). A
history of both orders is kept beside the slots, and at the end of every run nobody has a permit
before somebody who was first (`no_overtaking`).
-/
namespace HubPublisher.Pool

/-! ## Logs -/

/-- The last time that `a` is in a log comes before the last time that `b` is. -/
def Before (log : List Checkout) (a b : Checkout) : Prop := [a, b].Sublist log.dedup

theorem dedup_append {new : List Checkout} (nodup : new.Nodup) (log : List Checkout) :
    (log ++ new).dedup = without new log.dedup ++ new := by
  -- an entry stays if it is the last of its kind, in the log and in what is new
  induction log with
  | nil => simp [without, List.dedup_eq_self.2 nodup]
  | cons a log ih =>
    rw [List.cons_append]
    by_cases old : a ∈ log
    · rw [List.dedup_cons_of_mem old, List.dedup_cons_of_mem (List.mem_append_left _ old), ih]
    · rw [List.dedup_cons_of_notMem old]
      by_cases again : a ∈ new
      · rw [List.dedup_cons_of_mem (List.mem_append_right _ again), ih]
        simp [without, again]
      · have first : a ∉ log ++ new := by simp [old, again]
        rw [List.dedup_cons_of_notMem first, ih]
        simp [without, again]

/-- Whoever is logged last stands behind all others. -/
theorem append_sublist_dedup {l m log new : List Checkout} (h : l.Sublist log.dedup)
    (nodup : new.Nodup) (apart : ∀ k ∈ l, k ∉ new) (hm : m.Sublist new) :
    (l ++ m).Sublist (log ++ new).dedup := by
  have stays : l.Sublist (without new log.dedup) := by
    rw [← without_eq_self apart]
    exact h.filter _
  rw [dedup_append nodup]
  exact stays.append hm

/-- What happened, in the order in which it happened. -/
structure History where
  /-- The checkouts that were started. -/
  started : List Checkout
  /-- The checkouts that got a slot of their route. -/
  seated : List Checkout

def History.after (log : History) (es ss : List Checkout) : History :=
  ⟨log.started ++ es, log.seated ++ ss⟩

theorem History.after_after (log : History) (es ss es' ss' : List Checkout) :
    (log.after es ss).after es' ss' = log.after (es ++ es') (ss ++ ss') := by
  simp [after]

/-- The checkouts that the news is good for. -/
def grantsIn (ns : List Notice) : List Checkout :=
  (ns.filter (·.ending = .granted)).map (·.checkout)

namespace Slots

variable {p q : Slots} {r : String} {log : History}

/-! ## What an act does to the order -/

/-- The checkouts of a route: those that are granted, and then those that wait. -/
def roll (p : Slots) (r : String) : List Checkout := onRoute r (p.granted ++ p.waiting)

/-- The checkouts that have a slot of their route: those that are granted, and then those that queue
for a slot of all. -/
def ranks (p : Slots) : List Checkout := p.granted ++ p.total.queue

/-- The order is that of the history. -/
structure Ordered (p : Slots) (log : History) : Prop where
  roll : ∀ r, (p.roll r).Sublist log.started.dedup
  ranks : p.ranks.Sublist log.seated.dedup

theorem Ordered.start (limits : Limits) (log : History) : (Slots.start limits).Ordered log :=
  ⟨fun _ => List.nil_sublist _, List.nil_sublist _⟩

namespace Flow

variable {gone entered seats grants : List Checkout}

theorem roll_eq (f : Flow p q gone entered seats grants) (h : p.Sound) (hq : q.Sound) (r : String) :
    q.roll r = without gone (p.roll r) ++ onRoute r entered :=
  calc q.roll r
      = onRoute r q.granted ++ (q.seatedOn r ++ (q.routes r).queue) := by
        rw [roll, onRoute_append, hq.waiting_on]
    _ = without gone (p.grantedOn r) ++
          (onRoute r grants ++ (q.seatedOn r ++ (q.routes r).queue)) := by
        rw [f.granted, onRoute_append, onRoute_without, List.append_assoc, grantedOn]
    _ = without gone (p.grantedOn r) ++ onRoute r (without gone p.waiting ++ entered) := by
        rw [f.places h]
    _ = without gone (p.roll r) ++ onRoute r entered := by
        rw [roll, onRoute_append, onRoute_append, without_append, onRoute_without, grantedOn,
          List.append_assoc]

theorem ranks_eq (f : Flow p q gone entered seats grants) :
    q.ranks = without gone p.ranks ++ seats := by
  rw [ranks, f.granted, List.append_assoc, ← f.queue, ranks, without_append, List.append_assoc]

/-- Whoever gets a slot of its route queued for one or enters. -/
theorem mem_line_of_seat (f : Flow p q gone entered seats grants) {k : Checkout} (hk : k ∈ seats) :
    k ∈ (p.routes k.route).queue ∨ k ∈ entered := by
  have place : k ∈ without gone (p.routes k.route).queue ++ onRoute k.route entered := by
    rw [f.line]
    exact List.mem_append_left _ (mem_onRoute.2 ⟨hk, rfl⟩)
  rcases List.mem_append.1 place with hl | he
  · exact .inl (mem_without.1 hl).1
  · exact .inr (mem_onRoute.1 he).1

theorem seats_nodup (f : Flow p q gone entered seats grants) (h : p.Sound)
    (new : (p.waiting ++ entered).Nodup) : seats.Nodup := by
  refine nodup_of_onRoute fun r => ?_
  have stay_sub : (without gone (p.routes r).queue ++ onRoute r entered).Sublist
      (onRoute r (p.waiting ++ entered)) := by
    rw [onRoute_append, h.waiting_on]
    exact (without_sublist.trans (List.sublist_append_right ..)).append (List.Sublist.refl _)
  have nodup := (new.filter _).sublist stay_sub
  rw [f.line] at nodup
  exact (List.nodup_append.1 nodup).1

/-- An act keeps the order, as whoever enters is the last to start, and whoever gets a slot of its
route the last to get one. -/
theorem ordered (f : Flow p q gone entered seats grants) (h : p.Sound)
    (new : ((p.waiting ++ entered ++ p.granted).map (·.ticket)).Nodup) (o : p.Ordered log) :
    q.Ordered (log.after entered seats) := by
  obtain ⟨waiting_nodup, -, not_granted⟩ := List.nodup_append.1 new.of_map
  obtain ⟨-, entered_nodup, not_waiting⟩ := List.nodup_append.1 waiting_nodup
  have not_entered : ∀ k ∈ p.granted ++ p.waiting, k ∉ entered := by
    intro k hk he
    rcases List.mem_append.1 hk with hg | hw
    · exact not_granted k (List.mem_append_right _ he) k hg rfl
    · exact not_waiting k hw k he rfl
  constructor
  · intro r
    rw [f.roll_eq h (f.sound h new)]
    refine append_sublist_dedup (without_sublist.trans (o.roll r)) entered_nodup ?_
      List.filter_sublist
    intro k hk
    exact not_entered k (mem_onRoute.1 (mem_without.1 hk).1).1
  · rw [f.ranks_eq]
    refine append_sublist_dedup (without_sublist.trans o.ranks) (f.seats_nodup h waiting_nodup) ?_
      (List.Sublist.refl _)
    -- whoever gets a slot of its route was in line or enters, and so had none before
    intro k hk hs
    have ranked := (mem_without.1 hk).1
    rcases f.mem_line_of_seat hs with line | enters
    · rcases List.mem_append.1 ranked with hg | hq
      · exact h.not_granted (h.mem_line line).1 hg
      · exact h.not_mem_line hq line
    · refine not_entered k ?_ enters
      rcases List.mem_append.1 ranked with hg | hq
      · exact List.mem_append_left _ hg
      · exact List.mem_append_right _ (h.mem_queue hq)

end Flow

/-! ## Runs -/

theorem Course.ordered {es ss : List Checkout} {ns : List Notice} (course : Course p q es ss ns)
    (h : p.Sound) (o : p.Ordered log) : q.Ordered (log.after es ss) := by
  induction course with
  | stay => simpa [History.after] using o
  | act course flow new ih =>
    rw [← History.after_after]
    exact flow.ordered (course.sound h) new ih
  | tell _ _ ih => exact ih
  | tick n _ ih => exact ⟨ih.roll, ih.ranks⟩

/-- Those that are granted stand in the order of the news. -/
theorem Course.granted_sublist {es ss : List Checkout} {ns : List Notice}
    (course : Course p q es ss ns) : q.granted.Sublist (p.granted ++ grantsIn ns) := by
  induction course with
  | stay => simp [grantsIn]
  | act _ flow _ ih =>
    rw [flow.granted, grantsIn, List.filter_append, List.map_append, ← List.append_assoc]
    refine (without_sublist.trans ih).append ?_
    simp [granting, List.filter_map, Function.comp_def]
  | tell _ other ih => simpa [grantsIn, other] using ih
  | tick _ _ ih => exact ih

/-- The history of a run. -/
def chronicle (p : Slots) (log : History) : List Action → History
  | [] => log
  | a :: as => (p.perform a).1.chronicle (log.after (p.starts a) (p.seats a)) as

theorem run_ordered (h : p.Sound) (o : p.Ordered log) (as : List Action) :
    (p.run as).1.Ordered (p.chronicle log as) := by
  induction as generalizing p log with
  | nil => exact o
  | cons a as ih =>
    have course := perform_course h a
    exact ih (course.sound h) (course.ordered h o)

/-- On one route, whoever is granted was started before whoever waits. -/
theorem Ordered.started (o : p.Ordered log) {g w : Checkout} (hg : g ∈ p.granted)
    (hw : w ∈ p.waiting) (route : g.route = w.route) : Before log.started g w := by
  have first : [g].Sublist (onRoute w.route p.granted) :=
    List.singleton_sublist.2 (mem_onRoute.2 ⟨hg, route⟩)
  have second : [w].Sublist (onRoute w.route p.waiting) :=
    List.singleton_sublist.2 (mem_onRoute.2 ⟨hw, rfl⟩)
  have both := o.roll w.route
  rw [Slots.roll, onRoute_append] at both
  exact (first.append second).trans both

theorem Ordered.seated (o : p.Ordered log) : p.ranks.Pairwise (Before log.seated) :=
  List.pairwise_iff_forall_sublist.2 fun both => both.trans o.ranks

end Slots

end HubPublisher.Pool

namespace HubPublisher.Hub.Connections

open Pool (Before History Slots)
open Trust (Store)

/-- Which checkouts were started in a run of steps, and which got a slot of their route. -/
def history (c : Connections) (steps : List Step) : History :=
  c.slots.chronicle ⟨[], []⟩ (steps.map Step.action)

variable {config : Settings.Configuration} {trust : Store} {c : Connections}
  {logs : List Log.Event}

/-- Wherever connections come to from their start:
1. whoever is granted was started before all that wait for the same route;
2. those that are granted, as they were granted, and then those that queue for a slot of all, as
   they queue, stand in the order in which they got a slot of their route;
3. a step lets some of those that were granted go and appends those that it grants. -/
theorem no_overtaking (started : start config trust = .ok (c, logs)) (steps : List Step) :
    (∀ g ∈ (c.run steps).1.slots.granted, ∀ w ∈ (c.run steps).1.slots.waiting,
      g.route = w.route → Before (c.history steps).started g w) ∧
    ((c.run steps).1.slots.granted ++ (c.run steps).1.slots.total.queue).Pairwise
      (Before (c.history steps).seated) ∧
    ∀ s, ((c.run steps).1.step s).1.slots.granted.Sublist
      ((c.run steps).1.slots.granted ++ Pool.grantsIn ((c.run steps).1.step s).2.notices) := by
  obtain ⟨slots, buildable⟩ := start_eq started
  obtain ⟨run, -, buildable⟩ := run_slots buildable steps
  have sound := (Slots.run_sound (Slots.Sound.start (limitsOf config)) (steps.map Step.action)).1
  have ordered := Slots.run_ordered (Slots.Sound.start (limitsOf config))
    (Slots.Ordered.start (limitsOf config) ⟨[], []⟩) (steps.map Step.action)
  rw [← slots, ← run] at sound ordered
  refine ⟨fun g hg w hw route => ordered.started hg hw route, ordered.seated, fun s => ?_⟩
  obtain ⟨slots, answer, -⟩ := step_slots buildable s
  have notices : ((c.run steps).1.step s).2.notices = _ := congrArg Pool.Answer.notices answer
  rw [slots, notices]
  exact (Slots.perform_course sound s.action).granted_sublist

theorem no_overtaking_sample :
    Before (sampleStart.history sampleSteps).started
      ⟨4, "https://c", 1000⟩ ⟨5, "https://c", 1000⟩ ∧
    Before (sampleStart.history sampleSteps).seated
      ⟨4, "https://c", 1000⟩ ⟨2, "https://a", 1000⟩ ∧
    (sampleEnd.step (.release 3)).1.slots.granted.Sublist
      (sampleEnd.slots.granted ++ [⟨2, "https://a", 1000⟩]) := by
  obtain ⟨started, seated, granted⟩ := no_overtaking sample_started sampleSteps
  have ranks : sampleEnd.slots.granted ++ sampleEnd.slots.total.queue =
      [⟨3, "https://b", 1000⟩, ⟨4, "https://c", 1000⟩, ⟨2, "https://a", 1000⟩] := by decide
  refine ⟨started _ (by decide) _ (by decide) rfl, ?_, granted (.release 3)⟩
  exact List.pairwise_iff_forall_sublist.1 (ranks ▸ seated) (by decide)

end HubPublisher.Hub.Connections
