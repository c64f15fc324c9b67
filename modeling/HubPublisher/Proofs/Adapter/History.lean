import HubPublisher.Adapter.Run

/-!
The history of a run: what happened to each request, as marks in the order in which it happened.

A step marks the requests that it submits, sends and ends (`stepMarks`). The marks account for all
that the run shows beside its log, and for nothing else (`run_told`): a request shows what its marks
show. They also tell one story of each ticket. It is not yet born, then in flight, then gone for
good, and the marks about it are one for its submission and one for its end, with one in between if
the hub saw the request (`Story`). Nothing here depends on who is granted a slot.
-/
namespace HubPublisher.Adapter

open Event (Context CorrelationId Payload)
open Hub (Exchange Operation Reply Request)
open Pool (Notice Ticket)
open Telemetry (Signal)

/-! ## Marks -/

/-- How a request ended. -/
inductive Ending where
  /-- The hub's answer was read to its end. -/
  | replied (r : Reply)
  /-- There was no slot in time, or no answer. -/
  | unreplied (e : ServerError)
  /-- The task was dropped when it had come so far. -/
  | dropped (phase : Phase)

/-- The task as it was when it was submitted. -/
def Task.asSubmitted (t : Task) : Task := { t with phase := .submitted }

/-- What came back from the hub, as an ending. -/
def Task.endingOf (t : Task) (x : Exchange) : Ending :=
  match t.request.exchange x with
  | .ok reply => .replied reply
  | .error e => .unreplied (.transport e)

/-- What happens to a request, which is named by its task as submitted. -/
inductive Mark where
  | submitted (call : Step) (t : Task)
  /-- The hub saw the request. -/
  | sent (t : Task)
  | ended (t : Task) (e : Ending)

def Mark.task : Mark → Task
  | submitted _ t => t
  | sent t => t
  | ended t _ => t

/-- The marks about one ticket. -/
def about (t : Ticket) (marks : List Mark) : List Mark := marks.filter (·.task.ticket == t)

/-! ## What is shown -/

def isRecord : Signal → Bool
  | .log _ => false
  | _ => true

/-- What is shown beside the log. -/
def records (signals : List Signal) : List Signal := signals.filter isRecord

/-- What a mark shows beside the log. -/
def Mark.records : Mark → List Signal
  | submitted _ t => Adapter.records t.announcement
  | sent t => [.sent t.request]
  | ended t (.replied r) => Adapter.records (t.answered r).1
  | ended t (.unreplied e) => Adapter.records (t.failed e).1
  | ended t (.dropped phase) => Adapter.records { t with phase := phase }.dropped.1

/-! ## The marks of a step -/

def noticeMarks (a : Adapter) (n : Notice) : List Mark :=
  match a.task? n.checkout.ticket with
  | none => []
  | some task =>
    match n.ending with
    | .granted => []
    | .unavailable =>
      [.ended task.asSubmitted (.unreplied (.connectionUnavailable n.checkout.route))]
    | .uncountable => [.ended task.asSubmitted (.dropped task.phase)]

def noticesMarks (a : Adapter) : List Notice → List Mark
  | [] => []
  | n :: ns => a.noticeMarks n ++ (a.notice n).1.noticesMarks ns

def beginMarks (a : Adapter) (t : Ticket) : List Mark :=
  match a.task? t with
  | some task =>
    match task.phase with
    | .submitted =>
      let (slots, ns) :=
        a.connections.slots.checkout t (Hub.Connections.routeOf task.request.url)
      ((a.setPhase t .waiting).setSlots slots).noticesMarks ns
    | _ => []
  | none => []

def freedMarks (a : Adapter) (t : Ticket) : List Mark :=
  let (slots, _, ns) := a.connections.slots.release t
  (a.setSlots slots).noticesMarks ns

def finishMarks (a : Adapter) (t : Ticket) (x : Exchange) : List Mark :=
  match a.task? t with
  | some task =>
    match task.phase with
    | .active =>
      (if task.request.isSeen x then [.sent task.asSubmitted] else [])
        ++ [.ended task.asSubmitted (task.endingOf x)] ++ (a.remove t).freedMarks t
    | _ => []
  | none => []

def dropMarks (a : Adapter) (t : Ticket) : List Mark :=
  match a.task? t with
  | none => []
  | some task =>
    let ended := [Mark.ended task.asSubmitted (.dropped task.phase)]
    match task.phase with
    | .submitted => ended
    | .waiting =>
      let (slots, _, ns) := a.connections.slots.cancel t
      ended ++ ((a.remove t).setSlots slots).noticesMarks ns
    | .active => ended ++ (a.remove t).freedMarks t

def advanceMarks (a : Adapter) (ms : Nat) : List Mark :=
  let (slots, ns) := a.connections.slots.advance ms
  (a.setSlots slots).noticesMarks ns

/-- A call that is not refused submits a task. -/
def Submission.marks (call : Step) (s : Submission) : List Mark :=
  match s.result with
  | .ok task => [.submitted call task]
  | .error _ => []

def stepMarks (a : Adapter) : Step → List Mark
  | .dispatch payload context fresh =>
    (a.dispatch payload context fresh).marks (.dispatch payload context fresh)
  | .publish payload context fresh =>
    (a.publish payload context fresh).marks (.publish payload context fresh)
  | .manage eventUri tenant operation correlation fresh =>
    (a.manage eventUri tenant operation correlation fresh).marks
      (.manage eventUri tenant operation correlation fresh)
  | .begin t => a.beginMarks t
  | .finish t x => a.finishMarks t x
  | .drop t => a.dropMarks t
  | .advance ms => a.advanceMarks ms
  | .stop => []

/-- The marks of a run in order. -/
def history (a : Adapter) : List Step → List Mark
  | [] => []
  | s :: ss => a.stepMarks s ++ (a.step s).1.history ss

/-! ## Stories -/

/-- Where a ticket stands. -/
inductive Standing where
  | unborn
  | inFlight (t : Task)
  | gone

def standing (a : Adapter) (t : Ticket) : Standing :=
  match a.task? t with
  | some task => .inFlight task.asSubmitted
  | none => if a.next ≤ t then .unborn else .gone

/-- Whether a task is what a call asks for. -/
def Step.Submits : Step → Task → Prop
  | .dispatch _ context _, c =>
    c.purpose = .publish context.tenant ∧ c.request.operation = .publish
  | .publish _ context _, c =>
    c.purpose = .publish context.tenant ∧ c.request.operation = .publish
  | .manage _ _ operation _ _, c => c.purpose = .manage ∧ c.request.operation = operation
  | _, _ => False

/-- The marks that take a ticket from one standing to another. -/
inductive Story : Standing → List Mark → Standing → Prop
  | still (s : Standing) : Story s [] s
  | submit {call : Step} {c : Task} (asked : call.Submits c) {marks : List Mark} {s : Standing}
      (more : Story (.inFlight c) marks s) : Story .unborn (.submitted call c :: marks) s
  | finish {c : Task} {sent : List Mark} (seen : sent = [] ∨ sent = [.sent c]) (e : Ending) :
      Story (.inFlight c) (sent ++ [.ended c e]) .gone

theorem Story.trans {s t u : Standing} {first more : List Mark} (h : Story s first t)
    (h' : Story t more u) : Story s (first ++ more) u := by
  induction h with
  | still s => exact h'
  | submit asked _ ih => exact .submit asked (ih h')
  | finish seen e =>
    cases h'
    rw [List.append_nil]
    exact .finish seen e

/-- What a run shows and where it leaves the tickets is told by its marks. -/
structure Told (a : Adapter) (marks : List Mark) (signals : List Signal) (b : Adapter) : Prop where
  records : records signals = marks.flatMap Mark.records
  story : ∀ t, Story (a.standing t) (about t marks) (b.standing t)

namespace Told

variable {a b c : Adapter} {first more : List Mark} {s s' : List Signal}

theorem of_standing (h : ∀ t, b.standing t = a.standing t) (quiet : Adapter.records s = []) :
    Told a [] s b := by
  refine ⟨quiet, fun t => ?_⟩
  rw [h t]
  exact .still _

theorem refl (a : Adapter) : Told a [] [] a := of_standing (fun _ => rfl) rfl

theorem trans (h : Told a first s b) (h' : Told b more s' c) :
    Told a (first ++ more) (s ++ s') c := by
  constructor
  · rw [Adapter.records, List.filter_append, List.flatMap_append, ← h.records, ← h'.records]
    rfl
  · intro t
    rw [about, List.filter_append]
    exact (h.story t).trans (h'.story t)

/-- Standings are all that is asked of the adapter before. -/
theorem of_eq_standing {a' : Adapter} (h : Told a first s b)
    (same : ∀ t, a'.standing t = a.standing t) : Told a' first s b :=
  (of_standing (s := []) (fun t => (same t).symm) rfl).trans h

end Told

/-! ## Adapters and their tickets -/

/-- Every ticket in use is older than the next. -/
def Sound (a : Adapter) : Prop := ∀ task ∈ a.tasks, task.ticket < a.next

variable {a : Adapter} {t : Ticket} {task : Task}

theorem mem_of_task? (found : a.task? t = some task) : task ∈ a.tasks :=
  List.mem_of_find?_eq_some found

theorem ticket_of_task? (found : a.task? t = some task) : task.ticket = t := by
  simpa using List.find?_some found

theorem Sound.remove (sound : a.Sound) (t : Ticket) : (a.remove t).Sound :=
  fun task member => sound task (List.mem_filter.1 member).1

theorem Sound.setPhase (sound : a.Sound) (t : Ticket) (phase : Phase) :
    (a.setPhase t phase).Sound := by
  intro task member
  obtain ⟨before, there, rfl⟩ := List.mem_map.1 member
  have old : before.ticket < a.next := sound before there
  split
  · exact old
  · exact old

theorem task?_setPhase (a : Adapter) (u : Ticket) (phase : Phase) (t : Ticket) :
    (a.setPhase u phase).task? t = (a.task? t).map fun task =>
      if task.ticket = u then { task with phase := phase } else task := by
  rw [task?, setPhase, List.find?_map, task?]
  congr 2
  funext task
  simp only [Function.comp]
  split <;> rfl

theorem standing_setPhase (a : Adapter) (u : Ticket) (phase : Phase) (t : Ticket) :
    (a.setPhase u phase).standing t = a.standing t := by
  rw [standing, task?_setPhase, standing]
  cases a.task? t with
  | none => rfl
  | some task =>
    simp only [Option.map_some]
    split <;> rfl

theorem task?_remove (a : Adapter) (u t : Ticket) :
    (a.remove u).task? t = if t = u then none else a.task? t := by
  rw [task?, remove, List.find?_filter, task?]
  split
  · rename_i same
    subst same
    apply List.find?_eq_none.2
    intro task _
    simp
  · rename_i other
    congr 1
    funext task
    by_cases h : task.ticket = t
    · simp [h, other]
    · simp [h]

/-- A task that is removed is gone, and no other ticket is concerned. -/
theorem standing_remove (sound : a.Sound) (found : a.task? t = some task) (u : Ticket) :
    (a.remove t).standing u = if u = t then .gone else a.standing u := by
  rw [standing, task?_remove]
  by_cases same : u = t
  · have old : u < a.next := by
      rw [same, ← ticket_of_task? found]
      exact sound task (mem_of_task? found)
    rw [if_pos same, if_pos same]
    exact if_neg (Nat.not_le.2 old)
  · rw [if_neg same, if_neg same]
    rfl

theorem standing_of_task? (found : a.task? t = some task) :
    a.standing t = .inFlight task.asSubmitted := by
  rw [standing, found]

/-- The end of a task, whether or not the hub saw its request. -/
theorem Told.ended (sent : List Mark) {e : Ending} {signals : List Signal} (sound : a.Sound)
    (found : a.task? t = some task) (seen : sent = [] ∨ sent = [.sent task.asSubmitted])
    (shown : Adapter.records signals
      = sent.flatMap Mark.records ++ (Mark.ended task.asSubmitted e).records) :
    Told a (sent ++ [.ended task.asSubmitted e]) signals (a.remove t) := by
  have named : task.asSubmitted.ticket = t := show task.ticket = t from ticket_of_task? found
  refine ⟨by rw [shown, List.flatMap_append, List.flatMap_singleton], fun u => ?_⟩
  rw [standing_remove sound found]
  by_cases same : u = t
  · rw [if_pos same, same, standing_of_task? found]
    have whole : about t (sent ++ [.ended task.asSubmitted e])
        = sent ++ [.ended task.asSubmitted e] := by
      rcases seen with rfl | rfl <;> simp [about, Mark.task, named]
    rw [whole]
    exact .finish seen e
  · rw [if_neg same]
    have other : about u (sent ++ [.ended task.asSubmitted e]) = [] := by
      have apart : t ≠ u := fun h => same h.symm
      rcases seen with rfl | rfl <;> simp [about, Mark.task, named, apart]
    rw [other]
    exact .still _

/-! ## Steps -/

theorem notice_told (sound : a.Sound) (n : Notice) :
    Told a (a.noticeMarks n) (a.notice n).2.signals (a.notice n).1 ∧ (a.notice n).1.Sound := by
  unfold noticeMarks notice
  cases found : a.task? n.checkout.ticket with
  | none => exact ⟨.refl a, sound⟩
  | some task =>
    have named : task.ticket = n.checkout.ticket := ticket_of_task? found
    simp only [named]
    cases n.ending with
    | granted => exact ⟨.of_standing (standing_setPhase a _ .active) rfl, sound.setPhase _ .active⟩
    | unavailable => exact ⟨.ended [] sound found (.inl rfl) rfl, sound.remove _⟩
    | uncountable => exact ⟨.ended [] sound found (.inl rfl) rfl, sound.remove _⟩

theorem notices_told (sound : a.Sound) (ns : List Notice) :
    Told a (a.noticesMarks ns) (a.notices ns).2.signals (a.notices ns).1 ∧
      (a.notices ns).1.Sound := by
  induction ns generalizing a with
  | nil => exact ⟨.refl a, sound⟩
  | cons n ns ih =>
    obtain ⟨here, sound'⟩ := notice_told sound n
    obtain ⟨after, sound''⟩ := ih sound'
    exact ⟨here.trans after, sound''⟩

theorem begin_told (sound : a.Sound) (t : Ticket) :
    Told a (a.beginMarks t) (a.begin t).2.signals (a.begin t).1 ∧ (a.begin t).1.Sound := by
  unfold beginMarks begin
  cases found : a.task? t with
  | none => exact ⟨.refl a, sound⟩
  | some task =>
    cases phase : task.phase with
    | submitted =>
      simp only [phase]
      obtain ⟨after, sound'⟩ := notices_told (a := (a.setPhase t .waiting).setSlots
        (a.connections.slots.checkout t (Hub.Connections.routeOf task.request.url)).1)
        (sound.setPhase t .waiting)
        (a.connections.slots.checkout t (Hub.Connections.routeOf task.request.url)).2
      exact ⟨after.of_eq_standing fun u => (standing_setPhase a t .waiting u).symm, sound'⟩
    | waiting =>
      simp only [phase]
      exact ⟨.refl a, sound⟩
    | active =>
      simp only [phase]
      exact ⟨.refl a, sound⟩

theorem freeSlot_told (sound : a.Sound) (t : Ticket) :
    Told a (a.freedMarks t) (a.freeSlot t).2.signals (a.freeSlot t).1 ∧ (a.freeSlot t).1.Sound := by
  obtain ⟨after, sound'⟩ := notices_told (a := a.setSlots (a.connections.slots.release t).1) sound
    (a.connections.slots.release t).2.2
  exact ⟨after.of_eq_standing fun _ => rfl, sound'⟩

theorem finish_told (sound : a.Sound) (t : Ticket) (x : Exchange) :
    Told a (a.finishMarks t x) (a.finish t x).2.signals (a.finish t x).1 ∧
      (a.finish t x).1.Sound := by
  unfold finishMarks finish
  cases found : a.task? t with
  | none => exact ⟨.refl a, sound⟩
  | some task =>
    cases phase : task.phase with
    | submitted =>
      simp only [phase]
      exact ⟨.refl a, sound⟩
    | waiting =>
      simp only [phase]
      exact ⟨.refl a, sound⟩
    | active =>
      simp only [phase]
      -- the task ends first, and only then is its slot free for whoever waits
      obtain ⟨after, sound'⟩ := freeSlot_told (sound.remove t) t
      refine ⟨Told.trans (.ended _ sound found ?_ ?_) after, sound'⟩
      · split
        · exact .inr rfl
        · exact .inl rfl
      · rw [Task.endingOf]
        cases task.request.exchange x <;> split <;> rfl

theorem drop_told (sound : a.Sound) (t : Ticket) :
    Told a (a.dropMarks t) (a.drop t).2.signals (a.drop t).1 ∧ (a.drop t).1.Sound := by
  unfold dropMarks drop
  cases found : a.task? t with
  | none => exact ⟨.refl a, sound⟩
  | some task =>
    have here : Told a [.ended task.asSubmitted (.dropped task.phase)] task.dropped.1
        (a.remove t) :=
      .ended [] sound found (.inl rfl) rfl
    cases phase : task.phase with
    | submitted =>
      simp only [phase] at here ⊢
      exact ⟨here, sound.remove t⟩
    | waiting =>
      obtain ⟨after, sound'⟩ := notices_told
        (a := (a.remove t).setSlots (a.connections.slots.cancel t).1) (sound.remove t)
        (a.connections.slots.cancel t).2.2
      simp only [phase] at here ⊢
      exact ⟨here.trans (after.of_eq_standing fun _ => rfl), sound'⟩
    | active =>
      obtain ⟨after, sound'⟩ := freeSlot_told (sound.remove t) t
      simp only [phase] at here ⊢
      exact ⟨here.trans after, sound'⟩

theorem advance_told (sound : a.Sound) (ms : Nat) :
    Told a (a.advanceMarks ms) (a.advance ms).2.signals (a.advance ms).1 ∧
      (a.advance ms).1.Sound := by
  obtain ⟨after, sound'⟩ := notices_told (a := a.setSlots (a.connections.slots.advance ms).1) sound
    (a.connections.slots.advance ms).2
  exact ⟨after.of_eq_standing fun _ => rfl, sound'⟩

/-! ## Calls -/

/-- Log events are no records. -/
theorem records_logs (logs : List Log.Event) : records (logs.map Signal.log) = [] := by
  apply List.filter_eq_nil_iff.2
  intro signal member
  obtain ⟨e, -, rfl⟩ := List.mem_map.1 member
  exact Bool.false_ne_true

theorem records_append (s s' : List Signal) : records (s ++ s') = records s ++ records s' :=
  List.filter_append ..

/-- What comes of a call: it is refused, shows no record and submits nothing, or it submits a task
under the next ticket and announces it. -/
inductive Submission.Fair (a : Adapter) (purpose : Purpose) (operation : Operation)
    (s : Submission) : Prop
  | refused {e : AdapterError} (result : s.result = .error e) (quiet : records s.signals = [])
      (tasks : s.adapter.tasks = a.tasks) (next : s.adapter.next = a.next)
  | submitted {task : Task} (result : s.result = .ok task)
      (announced : records s.signals = records task.announcement)
      (tasks : s.adapter.tasks = a.tasks ++ [task]) (next : s.adapter.next = a.next + 1)
      (ticket : task.ticket = a.next) (phase : task.phase = .submitted)
      (aim : task.purpose = purpose) (asked : task.request.operation = operation)

/-- The base URL is looked up without touching the tasks. -/
theorem resolve_fair (a : Adapter) :
    a.resolve.1.tasks = a.tasks ∧ a.resolve.1.next = a.next ∧ records a.resolve.2.1 = [] := by
  unfold resolve
  split
  · exact ⟨rfl, rfl, rfl⟩
  · split
    · exact ⟨rfl, rfl, rfl⟩
    · exact ⟨rfl, rfl, rfl⟩

theorem submit_fair (a : Adapter) (topic : Event.Topic) {operation : Operation} (purpose : Purpose)
    {request : Url → Request} (asked : ∀ url, (request url).operation = operation) :
    (a.submit topic operation purpose request).Fair a purpose operation := by
  obtain ⟨tasks, next, quiet⟩ := resolve_fair a
  unfold submit
  split
  · exact .refused rfl rfl rfl rfl
  · split
    · rename_i b signals resolved
      rw [resolved] at tasks next quiet
      exact .refused rfl quiet tasks next
    · rename_i b signals baseUrl resolved
      rw [resolved] at tasks next quiet
      split
      · exact .refused rfl quiet tasks next
      · rename_i url _
        split
        · rename_i logs _
          refine .refused rfl ?_ tasks next
          rw [records_append, records_logs, quiet]
          rfl
        · rename_i logs _
          refine .submitted rfl ?_ ?_ ?_ next rfl rfl (asked url)
          · rw [records_append, records_append, records_logs, quiet]
            rfl
          · rw [← tasks]
          · rw [← next]

theorem dispatch_fair (a : Adapter) (payload : Payload) (context : Context)
    (fresh : CorrelationId) :
    (a.dispatch payload context fresh).Fair a (.publish context.tenant) .publish :=
  submit_fair a _ _ fun _ => rfl

theorem manage_fair (a : Adapter) (eventUri tenant : String) (operation : Operation)
    (correlation : Option CorrelationId) (fresh : CorrelationId) :
    (a.manage eventUri tenant operation correlation fresh).Fair a .manage operation :=
  submit_fair a _ _ fun _ => rfl

/-- A publish is a dispatch that logs why it was refused. -/
theorem publish_fair (a : Adapter) (payload : Payload) (context : Context)
    (fresh : CorrelationId) :
    (a.publish payload context fresh).Fair a (.publish context.tenant) .publish := by
  have fair := dispatch_fair a payload context fresh
  unfold publish
  cases fair with
  | refused result quiet tasks next =>
    simp only [result]
    refine .refused rfl ?_ tasks next
    rw [records_append, quiet]
    rfl
  | submitted result announced tasks next ticket phase aim asked =>
    simp only [result]
    exact .submitted result announced tasks next ticket phase aim asked

theorem task?_next (sound : a.Sound) : a.task? a.next = none := by
  apply List.find?_eq_none.2
  intro task member same
  have named : task.ticket = a.next := by simpa using same
  exact Nat.lt_irrefl a.next (named ▸ sound task member)

theorem standing_next (sound : a.Sound) : a.standing a.next = .unborn := by
  rw [standing, task?_next sound]
  exact if_pos (Nat.le_refl a.next)

/-- A task under the next ticket is found there, and no other ticket is concerned. -/
theorem task?_append {b : Adapter} (sound : a.Sound) (tasks : b.tasks = a.tasks ++ [task])
    (ticket : task.ticket = a.next) (u : Ticket) :
    b.task? u = if u = a.next then some task else a.task? u := by
  rw [task?, tasks, List.find?_append, List.find?_singleton, ticket]
  show (a.task? u).or _ = _
  by_cases new : u = a.next
  · rw [new, task?_next sound]
    simp
  · have apart : (a.next == u) = false := by simpa using fun h => new h.symm
    rw [if_neg new, apart]
    simp

theorem standing_append {b : Adapter} (sound : a.Sound) (tasks : b.tasks = a.tasks ++ [task])
    (next : b.next = a.next + 1) (ticket : task.ticket = a.next) (u : Ticket) :
    b.standing u = if u = a.next then .inFlight task.asSubmitted else a.standing u := by
  rw [standing, task?_append sound tasks ticket, next]
  by_cases new : u = a.next
  · rw [if_pos new, if_pos new]
  · have order : a.next + 1 ≤ u ↔ a.next ≤ u :=
      ⟨Nat.le_of_succ_le, fun h => Nat.lt_of_le_of_ne h fun same => new same.symm⟩
    rw [if_neg new, if_neg new, standing]
    simp only [order]

theorem asSubmitted_of_phase (phase : task.phase = .submitted) : task.asSubmitted = task := by
  rw [Task.asSubmitted, ← phase]

theorem Submission.Fair.told {s : Submission} {purpose : Purpose} {operation : Operation}
    {call : Step} (fair : s.Fair a purpose operation) (sound : a.Sound)
    (submits : ∀ task : Task, task.purpose = purpose → task.request.operation = operation →
      call.Submits task) :
    Told a (s.marks call) s.signals s.adapter ∧ s.adapter.Sound := by
  cases fair with
  | refused result quiet tasks next =>
    rw [Submission.marks, result]
    refine ⟨.of_standing (fun t => ?_) quiet, ?_⟩
    · rw [standing, task?, tasks, next]
      rfl
    · intro task member
      rw [tasks] at member
      rw [next]
      exact sound task member
  | @submitted task result announced tasks next ticket phase aim asked =>
    rw [Submission.marks, result]
    refine ⟨⟨?_, fun u => ?_⟩, ?_⟩
    · rw [announced, List.flatMap_singleton]
      rfl
    · rw [standing_append sound tasks next ticket]
      by_cases new : u = a.next
      -- nothing was under the next ticket, so its story begins here
      · have whole : about u [Mark.submitted call task] = [.submitted call task] := by
          simp [about, Mark.task, ticket, new]
        rw [if_pos new, whole, new, standing_next sound, asSubmitted_of_phase phase]
        exact .submit (submits task aim asked) (.still _)
      · have other : about u [Mark.submitted call task] = [] := by
          have apart : a.next ≠ u := fun h => new h.symm
          simp [about, Mark.task, ticket, apart]
        rw [if_neg new, other]
        exact .still _
    · intro other member
      rw [tasks] at member
      rw [next]
      rcases List.mem_append.1 member with old | new
      · exact Nat.lt_succ_of_lt (sound other old)
      · rw [List.mem_singleton.1 new, ticket]
        exact Nat.lt_succ_self a.next

/-! ## Runs -/

theorem step_told (sound : a.Sound) (s : Step) :
    Told a (a.stepMarks s) (a.step s).2.signals (a.step s).1 ∧ (a.step s).1.Sound := by
  cases s with
  | dispatch payload context fresh =>
    exact (dispatch_fair a payload context fresh).told sound fun _ aim asked => ⟨aim, asked⟩
  | publish payload context fresh =>
    exact (publish_fair a payload context fresh).told sound fun _ aim asked => ⟨aim, asked⟩
  | manage eventUri tenant operation correlation fresh =>
    exact (manage_fair a eventUri tenant operation correlation fresh).told sound
      fun _ aim asked => ⟨aim, asked⟩
  | begin t => exact begin_told sound t
  | finish t x => exact finish_told sound t x
  | drop t => exact drop_told sound t
  | advance ms => exact advance_told sound ms
  | stop => exact ⟨.of_standing (fun _ => rfl) (records_logs _), sound⟩

theorem run_told (sound : a.Sound) (steps : List Step) :
    Told a (a.history steps) (a.run steps).2.signals (a.run steps).1 := by
  induction steps generalizing a with
  | nil => exact .refl a
  | cons s steps ih =>
    obtain ⟨here, sound'⟩ := step_told sound s
    exact here.trans (ih sound')

/-- An adapter that has just started has no tickets in use. -/
theorem startWith_unborn {config : Settings.Configuration} {trust : Trust.Store}
    {logs : List Log.Event} (started : startWith config trust = .ok (a, logs)) :
    a.Sound ∧ ∀ t, a.standing t = .unborn := by
  unfold startWith at started
  split at started
  · cases started
  · cases started
    refine ⟨fun task none => absurd none List.not_mem_nil, fun t => ?_⟩
    show (if 0 ≤ t then Standing.unborn else .gone) = .unborn
    exact if_pos (Nat.zero_le t)

end HubPublisher.Adapter
