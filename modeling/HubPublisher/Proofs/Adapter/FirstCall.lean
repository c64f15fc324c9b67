import HubPublisher.Proofs.Adapter.Refusal
import HubPublisher.Proofs.Settings.Numbers

/-!
The first call on an adapter, from the settings that describe it to the end of its one request.

With all slots free, a task that begins is granted its slot at once, however short the time to wait
for one is; only where the slots of a route cannot be counted it is dropped. So when the adapter
goes on by itself, the task comes to its end in two steps, and what is shown on the way is what the
way to the hub brought for its request (`settle_of_single`). Of the settings, all that is asked is
whether they make a request possible (`Prepared`): if they do the call submits it, and if they do
not the hub sees nothing (`firstCall`).
-/
namespace HubPublisher.Pool.Slots

open Semaphore

variable {limits : Limits}

/-- The first checkout is granted while it begins. -/
theorem checkout_start (room : 0 < limits.total) (room' : 0 < limits.perRoute)
    (countable : limits.perRoute ≤ slotLimit) (t : Ticket) (r : String) :
    ((start limits).checkout t r).2 = [⟨(start limits).request t r, .granted⟩] := by
  have new : (start limits).isUsed t = false := rfl
  have unlisted : (start limits).request t r ∉ (start limits).waiting := List.not_mem_nil
  obtain ⟨granted, flow⟩ := enter_of_free (c := (start limits).request t r) (.start limits) unlisted
    room' room
  -- whoever entered was granted, so nobody is left to give up
  have nobody : ((start limits).enter ((start limits).request t r)).1.expired = [] := by
    rw [expired, flow.waiting]
    simp [start, without]
  rw [checkout_of_new new countable, granted, expire, nobody]
  rfl

end HubPublisher.Pool.Slots

namespace HubPublisher.Adapter

open Event (Topic)
open Hub (Connections Exchange Operation Request)
open Pool (Limits Notice Slots Ticket slotLimit)
open Settings (Configuration SettingsFile)
open Telemetry (Signal requestOf?)

variable {a : Adapter} {t : Task} {limits : Limits} {config : Configuration} {files : Files}
  {settings : SettingsFile} {topic : Topic} {operation : Operation} {purpose : Purpose}
  {request : Url → Request} {url : Url} {logs : List Log.Event}

/-! ## Effects -/

@[simp]
theorem Effect.append_none (e : Effect) : e ++ Effect.none = e := by
  show Effect.mk (e.signals ++ []) (e.ended ++ []) = e
  rw [List.append_nil, List.append_nil]

@[simp]
theorem Effect.none_append (e : Effect) : Effect.none ++ e = e := rfl

/-! ## Nothing on its way -/

theorem notices_of_idle (idle : a.tasks = []) (ns : List Notice) : a.notices ns = (a, .none) := by
  induction ns with
  | nil => rfl
  | cons n ns ih =>
    have nobody : a.notice n = (a, .none) := by rw [notice, task?, idle, List.find?_nil]
    simp only [notices, nobody, ih]
    rfl

theorem settleWithin_of_idle (idle : a.tasks = []) (network : Request → Exchange) (n : Nat) :
    a.settleWithin network n = (a, .none) := by
  cases n with
  | zero => rfl
  | succ n => simp only [settleWithin, next?, idle, List.find?_nil]

/-! ## One task -/

theorem task?_of_single (single : a.tasks = [t]) : a.task? t.ticket = some t := by
  rw [task?, single, List.find?_singleton, beq_self_eq_true]
  rfl

theorem tasks_setPhase_of_single (single : a.tasks = [t]) (phase : Phase) :
    (a.setPhase t.ticket phase).tasks = [{ t with phase := phase }] := by
  rw [setPhase, single, List.map_singleton, if_pos rfl]

theorem tasks_remove_of_single (single : a.tasks = [t]) : (a.remove t.ticket).tasks = [] := by
  rw [remove, single]
  simp

/-- The hub saw the request of a task, or it did not. -/
def Task.seen (t : Task) (x : Exchange) : List Signal :=
  if t.request.isSeen x then [.sent t.request] else []

/-- How a task ends when this came back for its request. -/
def Task.ending (t : Task) (x : Exchange) : List Signal × Outcome :=
  match t.request.exchange x with
  | .ok reply => t.answered reply
  | .error e => t.failed (.transport e)

/-- What is shown and ended when this came back for the request of a task. -/
def Task.exchanged (t : Task) (x : Exchange) : Effect :=
  .ofSignals (t.seen x) ++ .ofEnd t (t.ending x)

theorem begin_of_single (single : a.tasks = [t]) (submitted : t.phase = .submitted) :
    ∃ b : Adapter, b.tasks = [{ t with phase := .waiting }] ∧ a.begin t.ticket
      = b.notices
          (a.connections.slots.checkout t.ticket (Connections.routeOf t.request.url)).2 := by
  refine ⟨(a.setPhase t.ticket .waiting).setSlots
    (a.connections.slots.checkout t.ticket (Connections.routeOf t.request.url)).1,
    tasks_setPhase_of_single single .waiting, ?_⟩
  unfold begin
  simp only [task?_of_single single, submitted]

/-- A task that begins while all slots are free holds one, or is dropped where the slots of its
route cannot be counted. -/
theorem begin_of_free (single : a.tasks = [t]) (submitted : t.phase = .submitted)
    (free : a.connections.slots = Slots.start limits) (room : 0 < limits.total)
    (room' : 0 < limits.perRoute) :
    (limits.perRoute ≤ slotLimit → (a.begin t.ticket).2 = .none ∧
      (a.begin t.ticket).1.tasks = [{ t with phase := .active }]) ∧
    (slotLimit < limits.perRoute →
      (a.begin t.ticket).2 = .ofEnd { t with phase := .waiting }
          ({ t with phase := .waiting } : Task).dropped ∧
      (a.begin t.ticket).1.tasks = []) := by
  obtain ⟨b, waits, begun⟩ := begin_of_single single submitted
  have found : b.task? t.ticket = some { t with phase := .waiting } := task?_of_single waits
  rw [begun, free]
  constructor
  · intro countable
    rw [Slots.checkout_start room room' countable]
    have granted : b.notice ⟨(Slots.start limits).request t.ticket
        (Connections.routeOf t.request.url), .granted⟩ = (b.setPhase t.ticket .active, .none) := by
      simp only [notice, Slots.request, found]
    simp only [notices, granted, Effect.append_none]
    exact ⟨trivial, tasks_setPhase_of_single waits .active⟩
  · intro uncountable
    rw [Slots.checkout_of_uncountable rfl uncountable]
    have refused : b.notice ⟨(Slots.start limits).request t.ticket
        (Connections.routeOf t.request.url), .uncountable⟩
          = (b.remove t.ticket, .ofEnd { t with phase := .waiting }
              ({ t with phase := .waiting } : Task).dropped) := by
      simp only [notice, Slots.request, found]
    simp only [notices, refused, Effect.append_none]
    exact ⟨trivial, tasks_remove_of_single (t := { t with phase := .waiting }) waits⟩

/-- When the answer is there nobody waits for the slot that comes free. -/
theorem finish_of_single (single : a.tasks = [t]) (active : t.phase = .active) (x : Exchange) :
    (a.finish t.ticket x).2 = t.exchanged x ∧ (a.finish t.ticket x).1.tasks = [] := by
  have idle : ∀ slots, ((a.remove t.ticket).setSlots slots).tasks = [] :=
    fun _ => tasks_remove_of_single single
  have freed : (a.remove t.ticket).freeSlot t.ticket
      = ((a.remove t.ticket).setSlots ((a.remove t.ticket).connections.slots.release t.ticket).1,
          .none) := notices_of_idle (idle _) _
  unfold finish
  simp only [task?_of_single single, active, freed, Effect.append_none]
  exact ⟨rfl, idle _⟩

/-! ## To its end -/

/-- The one task of an adapter with all slots free comes to its end: with what came back for its
request, or dropped where the slots of its route cannot be counted. -/
theorem settle_of_single (network : Request → Exchange) (single : a.tasks = [t])
    (submitted : t.phase = .submitted) (free : a.connections.slots = Slots.start limits)
    (room : 0 < limits.total) (room' : 0 < limits.perRoute) :
    (limits.perRoute ≤ slotLimit → (a.settle network).2
      = ({ t with phase := .active } : Task).exchanged (network t.request)) ∧
    (slotLimit < limits.perRoute → (a.settle network).2
      = .ofEnd { t with phase := .waiting } ({ t with phase := .waiting } : Task).dropped) := by
  obtain ⟨granted, dropped⟩ := begin_of_free single submitted free room room'
  have first : a.next? network = some (.begin t.ticket) := by
    simp only [next?, single, List.find?_singleton, submitted, beq_self_eq_true, if_true]
  have steps : (a.settle network).2
      = (a.begin t.ticket).2 ++ ((a.begin t.ticket).1.settleWithin network 1).2 := by
    simp only [settle, single, List.length_singleton, settleWithin, first, step]
  rw [steps]
  constructor
  · intro countable
    obtain ⟨quiet, active⟩ := granted countable
    have second : (a.begin t.ticket).1.next? network
        = some (.finish t.ticket (network t.request)) := by
      simp [next?, active]
    obtain ⟨finished, -⟩ := finish_of_single (t := { t with phase := .active }) active rfl
      (network t.request)
    simp only [quiet, settleWithin, second, step, finished, Effect.none_append, Effect.append_none]
  · intro uncountable
    obtain ⟨ended, idle⟩ := dropped uncountable
    rw [settleWithin_of_idle idle, ended]
    exact Effect.append_none _

/-! ## Requests among the signals -/

/-- The requests that the hub saw. -/
def requests (signals : List Signal) : List Request := signals.filterMap requestOf?

theorem requests_append (s s' : List Signal) : requests (s ++ s') = requests s ++ requests s' :=
  List.filterMap_append

/-- Requests are records, so they are not among log events. -/
theorem requests_records (signals : List Signal) :
    requests (records signals) = requests signals := by
  unfold requests records
  rw [List.filterMap_filter]
  congr
  funext s
  cases s <;> rfl

theorem requests_logs (logs : List Log.Event) : requests (logs.map .log) = [] := by
  rw [← requests_records, records_logs]
  rfl

theorem Task.requests_announcement (t : Task) : requests t.announcement = [] := by
  unfold announcement
  cases t.purpose <;> rfl

theorem Task.requests_dropped (t : Task) : requests t.dropped.1 = [] := by
  unfold dropped
  cases t.phase <;> rfl

theorem Task.requests_answered (t : Task) (r : Hub.Reply) : requests (t.answered r).1 = [] := by
  unfold answered
  cases t.purpose with
  | publish tenant =>
    show requests (ite _ _ _ : List Signal × Outcome).1 = []
    split <;> rfl
  | manage => rfl

theorem Task.requests_failed (t : Task) (e : ServerError) : requests (t.failed e).1 = [] := by
  unfold failed
  cases t.purpose <;> rfl

/-- The end of a request shows no request. -/
theorem Task.requests_ending (t : Task) (x : Exchange) : requests (t.ending x).1 = [] := by
  unfold ending
  cases t.request.exchange x with
  | ok reply => exact t.requests_answered reply
  | error e => exact t.requests_failed (.transport e)

/-! ## From settings to a request -/

/-- The settings give an enabled adapter that starts and has a base URL, and behind that the
operation and the topic make a URL. -/
structure Prepared (files : Files) (settings : SettingsFile) (topic : Topic)
    (operation : Operation) (config : Configuration) (url : Url) : Prop where
  described : ∃ warnings, settings.configuration = .ok (config, warnings)
  starts : ∃ a logs, start files config = .ok (a, logs)
  on : config.enabled = true
  addressed : ∃ base, configuredBaseUrl config = some base ∧
    Hub.topicUrl topic base operation = .ok url

/-- Settings describe one configuration. -/
theorem Prepared.config_eq {config' : Configuration} {warnings : List Log.Event}
    (h : Prepared files settings topic operation config url)
    (described : settings.configuration = .ok (config', warnings)) : config' = config := by
  obtain ⟨warnings', described'⟩ := h.described
  cases described.symm.trans described'
  rfl

theorem Prepared.unique {config' : Configuration} {url' : Url}
    (h : Prepared files settings topic operation config url)
    (h' : Prepared files settings topic operation config' url') :
    config' = config ∧ url' = url := by
  obtain ⟨warnings', described'⟩ := h'.described
  obtain rfl := h.config_eq described'
  obtain ⟨base, configured, made⟩ := h.addressed
  obtain ⟨base', configured', made'⟩ := h'.addressed
  cases configured.symm.trans configured'
  cases made.symm.trans made'
  exact ⟨rfl, rfl⟩

theorem Prepared.not_refuses (h : Prepared files settings topic operation config url)
    (e : AdapterError) : ¬Refuses config e := by
  intro refuses
  obtain ⟨base, configured, made⟩ := h.addressed
  cases parsed : Url.parse base with
  | error fault =>
    rw [Hub.topicUrl_of_error parsed] at made
    cases made
  | ok u => exact refuses.elim h.on configured parsed

/-- What comes of a task whose request could be made, when the adapter goes on by itself. -/
structure Settles (config : Configuration) (t : Task) (b : Adapter) : Prop where
  /-- With slots for its route, the task ends with what came back for its request. -/
  exchanged (network : Request → Exchange) (countable : config.maxConnectionsPerRoute ≤ slotLimit) :
    (b.settle network).2 = ({ t with phase := .active } : Task).exchanged (network t.request)
  /-- The task is dropped where the slots of its route cannot be counted. -/
  dropped (network : Request → Exchange) (uncountable : slotLimit < config.maxConnectionsPerRoute) :
    (b.settle network).2
      = .ofEnd { t with phase := .waiting } ({ t with phase := .waiting } : Task).dropped

theorem settles_of_single (single : a.tasks = [t]) (submitted : t.phase = .submitted)
    (free : a.connections.slots = Slots.start (Connections.limitsOf config))
    (room : 0 < config.maxConnections) (room' : 0 < config.maxConnectionsPerRoute) :
    Settles config t a where
  exchanged network := (settle_of_single network single submitted free room room').1
  dropped network := (settle_of_single network single submitted free room room').2

/-- What comes of one call on the adapter that settings describe. -/
inductive FirstCall (files : Files) (settings : SettingsFile) (topic : Topic)
    (operation : Operation) (purpose : Purpose) (request : Url → Request) : Prop
  | unassembled {e : AssemblyFault} {logs : List Log.Event}
      (failed : ofSettings files settings = (.error e, logs))
      (unprepared : ¬∃ config url, Prepared files settings topic operation config url)
  | refused {a : Adapter} {logs : List Log.Event} {e : AdapterError}
      (built : ofSettings files settings = (.ok a, logs))
      (result : (a.submit topic operation purpose request).result = .error e)
      (unseen : requests (a.submit topic operation purpose request).signals = [])
      (unprepared : ¬∃ config url, Prepared files settings topic operation config url)
  | submitted {a : Adapter} {logs : List Log.Event} {config : Configuration} {url : Url} {t : Task}
      (built : ofSettings files settings = (.ok a, logs))
      (prepared : Prepared files settings topic operation config url)
      (made : t = ⟨0, topic, purpose, request url, .submitted⟩)
      (result : (a.submit topic operation purpose request).result = .ok t)
      (unseen : requests (a.submit topic operation purpose request).signals = [])
      (settles : Settles config t (a.submit topic operation purpose request).adapter)

theorem exists_startWith (started : start files config = .ok (a, logs)) :
    ∃ trust, startWith config trust = .ok (a, logs) := by
  unfold start at started
  split at started
  · cases started
  · exact ⟨_, started⟩

/-- A call shows no request to the hub. -/
theorem Submission.Fair.unseen {s : Submission} (h : s.Fair a purpose operation) :
    requests s.signals = [] := by
  rw [← requests_records]
  cases h with
  | refused result quiet =>
    rw [quiet]
    rfl
  | @submitted t result announced =>
    rw [announced, requests_records]
    exact t.requests_announcement

theorem firstCall (files : Files) (settings : SettingsFile) (topic : Topic) (purpose : Purpose)
    (request : Url → Request) (asked : ∀ url, (request url).operation = operation) :
    FirstCall files settings topic operation purpose request := by
  cases described : settings.configuration with
  | error e =>
    refine .unassembled (by rw [ofSettings, described]) ?_
    rintro ⟨config, url, prepared⟩
    obtain ⟨warnings, described'⟩ := prepared.described
    cases described.symm.trans described'
  | ok r =>
    obtain ⟨config, warnings⟩ := r
    cases started : start files config with
    | error e =>
      have failed : ofSettings files settings = (.error (.ofStart e), warnings) := by
        simp only [ofSettings, described, started]
      refine .unassembled failed ?_
      rintro ⟨config', url, prepared⟩
      obtain rfl := prepared.config_eq described
      obtain ⟨a, logs, started'⟩ := prepared.starts
      cases started.symm.trans started'
    | ok r =>
      obtain ⟨a, logs⟩ := r
      have built : ofSettings files settings = (.ok a, warnings ++ logs) := by
        simp only [ofSettings, described, started]
      obtain ⟨trust, startedWith⟩ := exists_startWith started
      have unseen := (submit_fair a topic purpose asked).unseen
      cases submit_ruled (.start startedWith) topic operation purpose request with
      | refused result why traceless =>
        refine .refused built result unseen ?_
        rintro ⟨config', url, prepared⟩
        obtain rfl := prepared.config_eq described
        exact prepared.not_refuses _ why
      | @submitted base u running t on configured parsed result made adapter =>
        obtain ⟨c, logs', opened, fresh⟩ := eq_of_startWith startedWith
        obtain ⟨-, room, room'⟩ := Configuration.numbers_pos_of_ofProperties described
        -- nothing was on its way, so the task has the adapter and its slots for itself
        have single : (a.submit topic operation purpose request).adapter.tasks = [t] := by
          rw [adapter, fresh]
          rfl
        have free : (a.submit topic operation purpose request).adapter.connections.slots
            = Slots.start (Connections.limitsOf config) := by
          rw [adapter, fresh]
          exact (Connections.start_eq opened).1
        have url := Hub.topicUrl_of_ok parsed topic operation
        have next : a.next = 0 := by rw [fresh]
        exact .submitted built ⟨⟨_, described⟩, ⟨_, _, started⟩, on, _, configured, url⟩
          (by rw [made, next]) result unseen
          (settles_of_single single (by rw [made]) free room room')

end HubPublisher.Adapter
