import HubPublisher.Cli.Command
import HubPublisher.Proofs.Adapter.FirstCall
import HubPublisher.Proofs.Adapter.Outcome

/-!
What a command reports, and what the hub saw of it.

A command that fails before its request is submitted shows the hub nothing. One that submits its
request shows it to the hub once at most, and what it reports is what the reply says: the command is
done when the reply is one that grants the request, and it fails when there is no reply (`Tells`).
-/
namespace HubPublisher.Cli

open Adapter (Effect Ended Outcome Phase Prepared PublishOutcome Settles Task requests
  requests_append requests_logs)
open Event (Context CorrelationId Payload PayloadFile Topic)
open Hub (Exchange Operation Reply Request)
open Pool (slotLimit)
open Settings (Configuration SettingsFile)
open Telemetry (Signal)

variable {w : Surroundings} {settings : SettingsFile} {config : Configuration} {t : Task}

/-! ## Reports -/

/-- A reply of the hub got through to the one who sent the request: there was a slot for the
request, it has a form that can be sent, and the hub answered it. -/
structure Received (w : Surroundings) (config : Configuration) (request : Request) (status : Nat)
    (body : List UInt8) : Prop where
  countable : config.maxConnectionsPerRoute ≤ slotLimit
  faultless : request.fault? = none
  answered : w.network request = .answered status body

/-- A command failed and the hub saw nothing of it. -/
def Report.Vain (r : Report) : Prop := r.ending ≠ .done ∧ requests r.signals = []

/-- A report tells what became of a request, which is granted by some replies and not by others. -/
structure Tells (w : Surroundings) (config : Configuration) (request : Request)
    (granted : Nat → String → Prop) (r : Report) : Prop where
  /-- When a reply was received, the hub saw the request once, and the reply decides. -/
  received : ∀ status body, Received w config request status body →
    requests r.signals = [request] ∧
      (r.ending = .done ↔ granted status (String.ofList (Text.Utf8.decodeLossy body)))
  lost : (∀ status body, ¬Received w config request status body) → r.ending ≠ .done
  once : requests r.signals = [] ∨ requests r.signals = [request]

/-! ## Ends -/

theorem publishEnding_signals (lines : List Line) (signals : List Signal) (o : PublishOutcome) :
    (publishEnding lines signals o).signals = signals := by
  cases o <;> rfl

theorem publishEnding_lines (lines : List Line) (signals : List Signal) (o : PublishOutcome) :
    lines <+: (publishEnding lines signals o).lines := by
  cases o with
  | delivered status => exact List.prefix_append _ _
  | rejected status body => exact List.prefix_append _ _
  | failed reason => exact List.prefix_rfl
  | cancelled => exact List.prefix_rfl

theorem publishEnding_done (lines : List Line) (signals : List Signal) (o : PublishOutcome) :
    (publishEnding lines signals o).ending = .done ↔ o.isDelivered = true := by
  cases o with
  | delivered status => exact iff_of_true rfl rfl
  | rejected status body => exact iff_of_false nofun nofun
  | failed reason => exact iff_of_false nofun nofun
  | cancelled => exact iff_of_false nofun nofun

theorem topicEnding_signals (lines : List Line) (signals : List Signal)
    (result : Except AdapterError Hub.TopicOutcome) :
    (topicEnding lines signals result).signals = signals := by
  rcases result with e | (_ | status) <;> rfl

theorem topicEnding_done (lines : List Line) (signals : List Signal)
    (result : Except AdapterError Hub.TopicOutcome) :
    (topicEnding lines signals result).ending = .done ↔ ∃ o, result = .ok o := by
  rcases result with e | (_ | status)
  · exact iff_of_false nofun nofun
  · exact iff_of_true rfl ⟨_, rfl⟩
  · exact iff_of_true rfl ⟨_, rfl⟩

/-! ## Outcomes -/

/-- An outcome that a command takes for success. -/
def Good : Outcome → Prop
  | .published o => o.isDelivered = true
  | .managed r => ∃ o, r = .ok o

/-- The replies that grant what a task is for. -/
def Grants (t : Task) (status : Nat) (body : String) : Prop :=
  match t.purpose with
  | .publish _ => status ∈ [200, 201, 202, 204]
  | .manage => ∃ o, (Hub.classify status body t.topic t.request.operation).result = .ok o

/-- Of a publish, the outcome is one of a publish. -/
def Fits (t : Task) : Outcome → Prop
  | .published _ => ∃ tenant, t.purpose = .publish tenant
  | .managed _ => t.purpose = .manage

theorem answered_good (t : Task) (r : Reply) :
    Fits t (t.answered r).2 ∧ (Good (t.answered r).2 ↔ Grants t r.status r.body) := by
  unfold Task.answered Grants
  cases purpose : t.purpose with
  | publish tenant =>
    simp only
    rw [← Adapter.isPublished_iff]
    split
    · rename_i accepted
      exact ⟨⟨tenant, purpose⟩, iff_of_true rfl accepted⟩
    · rename_i refused
      exact ⟨⟨tenant, purpose⟩, iff_of_false nofun refused⟩
  | manage => exact ⟨purpose, Iff.rfl⟩

theorem failed_bad (t : Task) (e : ServerError) : Fits t (t.failed e).2 ∧ ¬Good (t.failed e).2 := by
  unfold Task.failed
  cases purpose : t.purpose with
  | publish tenant => exact ⟨⟨tenant, purpose⟩, nofun⟩
  | manage => exact ⟨purpose, nofun⟩

theorem dropped_bad (t : Task) : Fits t t.dropped.2 ∧ ¬Good t.dropped.2 := by
  unfold Task.dropped
  cases purpose : t.purpose with
  | publish tenant => exact ⟨⟨tenant, purpose⟩, nofun⟩
  | manage => exact ⟨purpose, nofun⟩

/-! ## From a submitted task to the report -/

/-- A request is answered, or there is no reply to it. -/
theorem exchange_cases (r : Request) (x : Exchange) :
    (∃ status body, r.fault? = none ∧ x = .answered status body ∧ r.isSeen x = true ∧
      r.exchange x = .ok ⟨status, Hub.phrase? status, String.ofList (Text.Utf8.decodeLossy body)⟩) ∨
    (∀ status body, r.fault? = none → x ≠ .answered status body) ∧
      ∃ e, r.exchange x = .error e := by
  unfold Request.exchange Request.isSeen
  cases fault : r.fault? with
  | some e => exact .inr ⟨nofun, e, rfl⟩
  | none =>
    cases x with
    | answered status body => exact .inl ⟨status, body, rfl, rfl, rfl, rfl⟩
    | unreachable => exact .inr ⟨nofun, _, rfl⟩
    | unanswered => exact .inr ⟨nofun, _, rfl⟩
    | cutShort => exact .inr ⟨nofun, _, rfl⟩

/-- The end of a task as its command sees it. -/
structure Ends (w : Surroundings) (config : Configuration) (t : Task) (e : Effect) (o : Outcome) :
    Prop where
  found : (e.ended.find? (·.task.ticket == t.ticket)).map (·.outcome) = some o
  fits : Fits t o
  received : ∀ status body, Received w config t.request status body →
    requests e.signals = [t.request] ∧
      (Good o ↔ Grants t status (String.ofList (Text.Utf8.decodeLossy body)))
  lost : (∀ status body, ¬Received w config t.request status body) → ¬Good o
  once : requests e.signals = [] ∨ requests e.signals = [t.request]

/-- How far a task had come does not matter for its end. -/
theorem Ends.of_phase {phase : Phase} {e : Effect} {o : Outcome}
    (h : Ends w config { t with phase := phase } e o) : Ends w config t e o :=
  ⟨h.found, h.fits, h.received, h.lost, h.once⟩

/-- Where the slots cannot be counted no reply is received, and the task is dropped unseen. -/
theorem ends_of_dropped (t : Task) (uncountable : slotLimit < config.maxConnectionsPerRoute) :
    Ends w config t (.ofEnd t t.dropped) t.dropped.2 := by
  obtain ⟨fits, bad⟩ := dropped_bad t
  refine ⟨?found, fits, ?received, fun _ => bad, .inl t.requests_dropped⟩
  case found => simp [Effect.ofEnd]
  case received =>
    intro status body received
    exact absurd uncountable (Nat.not_lt.2 received.countable)

theorem requests_exchanged (t : Task) (x : Exchange) :
    requests (t.exchanged x).signals = requests (t.seen x) := by
  show requests (t.seen x ++ (t.ending x).1) = _
  rw [requests_append, t.requests_ending, List.append_nil]

/-- Where the slots can be counted, a reply is received when the hub answers. -/
theorem ends_of_exchanged (t : Task) (countable : config.maxConnectionsPerRoute ≤ slotLimit) :
    Ends w config t (t.exchanged (w.network t.request)) (t.ending (w.network t.request)).2 := by
  have found : ((t.exchanged (w.network t.request)).ended.find? (·.task.ticket == t.ticket)).map
      (·.outcome) = some (t.ending (w.network t.request)).2 := by
    show ([(⟨t, (t.ending _).2⟩ : Ended)].find? _).map _ = _
    simp
  have shown := requests_exchanged t (w.network t.request)
  have once : requests (t.seen (w.network t.request)) = [] ∨
      requests (t.seen (w.network t.request)) = [t.request] := by
    unfold Task.seen
    split
    · exact .inr rfl
    · exact .inl rfl
  rcases exchange_cases t.request (w.network t.request) with
    ⟨status, body, faultless, answered, seen, replied⟩ | ⟨unanswered, e, failed⟩
  · have ending : t.ending (w.network t.request) = t.answered ⟨status, Hub.phrase? status,
        String.ofList (Text.Utf8.decodeLossy body)⟩ := by
      rw [Task.ending, replied]
    obtain ⟨fits, good⟩ := answered_good t ⟨status, Hub.phrase? status,
      String.ofList (Text.Utf8.decodeLossy body)⟩
    refine ⟨found, ending ▸ fits, ?received, ?lost, shown ▸ once⟩
    case received =>
      intro status' body' received
      -- the hub answers once, so this is the reply that ended the task
      cases answered.symm.trans received.answered
      refine ⟨?_, ending ▸ good⟩
      rw [shown, Task.seen, seen]
      rfl
    case lost =>
      intro none
      exact absurd ⟨countable, faultless, answered⟩ (none status body)
  · have ending : t.ending (w.network t.request) = t.failed (.transport e) := by
      rw [Task.ending, failed]
    obtain ⟨fits, bad⟩ := failed_bad t (.transport e)
    refine ⟨found, ending ▸ fits, ?received, fun _ => ending ▸ bad, shown ▸ once⟩
    case received =>
      intro status body received
      exact absurd received.answered (unanswered status body received.faultless)

theorem ends_of_settles {b : Adapter} (h : Settles config t b) :
    ∃ o, Ends w config t (b.settle w.network).2 o := by
  rcases Nat.lt_or_ge slotLimit config.maxConnectionsPerRoute with uncountable | countable
  · rw [h.dropped w.network uncountable]
    exact ⟨_, (ends_of_dropped { t with phase := .waiting } uncountable).of_phase⟩
  · rw [h.exchanged w.network countable]
    exact ⟨_, (ends_of_exchanged { t with phase := .active } countable).of_phase⟩

theorem publishOutcome_of_ends {e : Effect} {o : Outcome} {tenant : String}
    (ends : Ends w config t e o) (publish : t.purpose = .publish tenant) :
    Good o ↔ (publishOutcome t e).isDelivered = true := by
  obtain ⟨⟨u, ended⟩, found, rfl⟩ := Option.map_eq_some_iff.1 ends.found
  cases ended with
  | published o => rw [publishOutcome, found, Good]
  | managed r =>
    have manage : t.purpose = .manage := ends.fits
    rw [publish] at manage
    cases manage

theorem topicOutcome_of_ends {e : Effect} {o : Outcome} (ends : Ends w config t e o)
    (manage : t.purpose = .manage) : Good o ↔ ∃ result, topicOutcome t e = .ok result := by
  obtain ⟨⟨u, ended⟩, found, rfl⟩ := Option.map_eq_some_iff.1 ends.found
  cases ended with
  | published o =>
    obtain ⟨tenant, publish⟩ := ends.fits
    rw [publish] at manage
    cases manage
  | managed r => rw [topicOutcome, found, Good]

/-- A report that shows the end of a task, and is done if it is a good one, tells what became of the
task's request. -/
theorem tells_of_ends {e : Effect} {o : Outcome} {r : Report} (ends : Ends w config t e o)
    (done : r.ending = .done ↔ Good o) (shown : requests r.signals = requests e.signals) :
    Tells w config t.request (Grants t) r where
  received status body received := by
    rw [shown, done]
    exact ends.received status body received
  lost none := by
    rw [ne_eq, done]
    exact ends.lost none
  once := by
    rw [shown]
    exact ends.once

/-! ## Commands -/

theorem unassembled_vain (logs : List Log.Event) (e : AssemblyFault) :
    (Report.unassembled logs e).Vain := by
  cases e with
  | uncountable => exact ⟨nofun, requests_logs logs⟩
  | failed e => exact ⟨nofun, requests_logs logs⟩

/-- What is reported about a register or deregister command. -/
structure TopicTold (w : Surroundings) (settings : SettingsFile) (args : TopicArguments)
    (operation : Operation) (r : Report) : Prop where
  vain : (¬∃ config url,
    Prepared w.files settings (Topic.of args.tenant args.eventUri) operation config url) → r.Vain
  tells : ∀ config url,
    Prepared w.files settings (Topic.of args.tenant args.eventUri) operation config url →
      Tells w config ⟨url, operation, none, w.freshCorrelation⟩ (fun status body =>
        ∃ o, (Hub.classify status body (Topic.of args.tenant args.eventUri) operation).result
          = .ok o) r

theorem manage_told (w : Surroundings) (settings : SettingsFile) (args : TopicArguments)
    (operation : Operation) :
    TopicTold w settings args operation (manage w settings args operation) := by
  let request (url : Url) := Request.topic url operation w.freshCorrelation none
  have called (a : Adapter) : a.manage args.eventUri args.tenant operation none w.freshCorrelation
      = a.submit (Topic.of args.tenant args.eventUri) operation .manage request := rfl
  have call := Adapter.firstCall w.files settings (Topic.of args.tenant args.eventUri) .manage
    request (fun _ => rfl)
  cases call with
  | unassembled failed unprepared =>
    refine ⟨fun _ => ?_, fun config url prepared => absurd ⟨config, url, prepared⟩ unprepared⟩
    simp only [manage, failed]
    exact unassembled_vain _ _
  | refused built result unseen unprepared =>
    refine ⟨fun _ => ?_, fun config url prepared => absurd ⟨config, url, prepared⟩ unprepared⟩
    simp only [manage, built, called, result]
    refine ⟨fun done => ?_, ?_⟩
    · obtain ⟨o, good⟩ := (topicEnding_done _ _ _).1 done
      cases good
    · rw [topicEnding_signals, requests_append, requests_logs, unseen]
      rfl
  | submitted built prepared made result unseen settles =>
    refine ⟨fun unprepared => absurd ⟨_, _, prepared⟩ unprepared, fun config' url' prepared' => ?_⟩
    obtain ⟨rfl, rfl⟩ := prepared.unique prepared'
    subst made
    obtain ⟨o, ends⟩ := ends_of_settles (w := w) settles
    simp only [manage, built, called, result]
    refine tells_of_ends ends ?_ ?_
    · rw [topicEnding_done, topicOutcome_of_ends ends rfl]
    · rw [topicEnding_signals, requests_append, requests_append, requests_logs, unseen]
      rfl

/-- What is known about the event of a publish command besides its payload. -/
def PublishArguments.context (args : PublishArguments) : Context :=
  ⟨args.topic.tenant, args.topic.eventUri, args.correlationId.map CorrelationId.mk⟩

/-- What is reported about a publish command. -/
structure PublishTold (w : Surroundings) (settings : SettingsFile) (args : PublishArguments)
    (r : Report) : Prop where
  vain : (¬∃ payload config url,
    PayloadFile.loadPayload w.files args.payload w.freshEvent w.now = .ok payload ∧
      Prepared w.files settings (Topic.of args.topic.tenant args.topic.eventUri) .publish config
        url) → r.Vain
  /-- The id that is printed is the one that the request has in its header. -/
  tells : ∀ payload config url,
    PayloadFile.loadPayload w.files args.payload w.freshEvent w.now = .ok payload →
    Prepared w.files settings (Topic.of args.topic.tenant args.topic.eventUri) .publish config url →
      ∃ request : Request, ∃ id : CorrelationId,
        request = ⟨url, .publish, some payload.body, id⟩ ∧
        Tells w config request (fun status _ => status ∈ [200, 201, 202, 204]) r ∧
        request.headers.lookup Hub.correlationHeader = some id.text ∧
        Line.field "Correlation id" id.text ∈ r.lines ∧
        ∀ given, args.correlationId = some given → Text.isBlank given = false → id.text = given

variable {args : PublishArguments} {payload : Payload} {a : Adapter} {logs : List Log.Event}

theorem publish_of_refused {e : AdapterError}
    (loaded : PayloadFile.loadPayload w.files args.payload w.freshEvent w.now = .ok payload)
    (built : Adapter.ofSettings w.files settings = (.ok a, logs))
    (refused : (a.dispatch payload args.context w.freshCorrelation).result = .error e) :
    publish w settings args = .failed []
      (logs.map .log ++ (a.dispatch payload args.context w.freshCorrelation).signals)
      (Failure.adapter e).chain := by
  unfold PublishArguments.context at refused ⊢
  simp only [publish, loaded, built, refused]

theorem publish_of_submitted
    (loaded : PayloadFile.loadPayload w.files args.payload w.freshEvent w.now = .ok payload)
    (built : Adapter.ofSettings w.files settings = (.ok a, logs))
    (submitted : (a.dispatch payload args.context w.freshCorrelation).result = .ok t) :
    ∃ e : Effect,
      e = ((a.dispatch payload args.context w.freshCorrelation).adapter.settle w.network).2 ∧
      publish w settings args = publishEnding (publishLines args.context t.request.correlation)
        (logs.map .log ++ (a.dispatch payload args.context w.freshCorrelation).signals ++ e.signals)
        (publishOutcome t e) := by
  refine ⟨_, rfl, ?_⟩
  unfold PublishArguments.context at submitted ⊢
  simp only [publish, loaded, built, submitted]

/-- An id that is given and not blank is the one of the request. -/
theorem reuseOr_of_given {fresh : CorrelationId} {given : String}
    (supplied : args.correlationId = some given) (nonblank : Text.isBlank given = false) :
    (CorrelationId.reuseOr fresh args.context.correlation).text = given := by
  have reused : CorrelationId.isReused (some ⟨given⟩) = true := by
    rw [CorrelationId.isReused, nonblank]
    rfl
  rw [PublishArguments.context, supplied, Option.map_some, CorrelationId.reuseOr_of_isReused reused]

theorem publish_told (w : Surroundings) (settings : SettingsFile) (args : PublishArguments) :
    PublishTold w settings args (publish w settings args) := by
  cases loaded : PayloadFile.loadPayload w.files args.payload w.freshEvent w.now with
  | error e =>
    have report : publish w settings args = .failed [] [] (e.message :: e.cause.toList) := by
      simp only [publish, loaded]
    refine ⟨fun _ => ?_, fun payload config url loaded' => ?_⟩
    · rw [report]
      exact ⟨nofun, rfl⟩
    · cases loaded.symm.trans loaded'
  | ok payload =>
    let request (url : Url) :=
      Request.publish url payload w.freshCorrelation args.context.correlation
    have called (a : Adapter) :
        a.submit args.context.topic .publish (.publish args.context.tenant) request
          = a.dispatch payload args.context w.freshCorrelation := rfl
    have call := Adapter.firstCall w.files settings args.context.topic
      (.publish args.context.tenant) request (fun _ => rfl)
    cases call with
    | unassembled failed unprepared =>
      refine ⟨fun _ => ?_, fun _ config url _ prepared =>
        absurd ⟨config, url, prepared⟩ unprepared⟩
      simp only [publish, loaded, failed]
      exact unassembled_vain _ _
    | @refused a logs e built result unseen unprepared =>
      refine ⟨fun _ => ?_, fun _ config url _ prepared =>
        absurd ⟨config, url, prepared⟩ unprepared⟩
      rw [called] at result unseen
      rw [publish_of_refused loaded built result]
      refine ⟨nofun, ?_⟩
      show requests (logs.map .log ++ _) = []
      rw [requests_append, requests_logs, unseen]
      rfl
    | @submitted a logs config url t built prepared made result unseen settles =>
      refine ⟨fun unprepared => absurd ⟨_, _, _, loaded, prepared⟩ unprepared, ?_⟩
      intro payload' config' url' loaded' prepared'
      -- one payload is in the file, and one URL comes of these settings
      cases loaded.symm.trans loaded'
      obtain ⟨rfl, rfl⟩ := prepared.unique prepared'
      rw [called] at result unseen settles
      obtain ⟨o, ends⟩ := ends_of_settles (w := w) settles
      obtain ⟨e, rfl, report⟩ := publish_of_submitted loaded built result
      subst made
      rw [report]
      refine ⟨_, _, rfl, tells_of_ends ends ?_ ?_, rfl, ?_, fun _ => reuseOr_of_given⟩
      · rw [publishEnding_done, publishOutcome_of_ends ends rfl]
      · rw [publishEnding_signals, requests_append, requests_append, requests_logs, unseen]
        rfl
      · -- the id stands among the lines that are printed before the outcome is known
        apply (publishEnding_lines _ _ _).subset
        exact List.mem_append_right _ (List.mem_cons_of_mem _ List.mem_cons_self)

/-- Commands report what the hub said of their requests. A publish is done when its file describes
a payload and the reply has one of four statuses, and a request about a topic when its reply is read
as a grant. Each shows the hub one request at most, to the URL of its own topic and operation, and
none if it fails before. -/
theorem commands_report_verdict (w : Surroundings) (settings : SettingsFile) :
    (∀ args, PublishTold w settings args ((Command.publish args).run w settings)) ∧
    (∀ args, TopicTold w settings args .register ((Command.register args).run w settings)) ∧
    (∀ args, TopicTold w settings args .deregister ((Command.deregister args).run w settings)) :=
  ⟨publish_told w settings, fun args => manage_told w settings args .register,
    fun args => manage_told w settings args .deregister⟩

def sampleSettings : SettingsFile where
  logging := Settings.Logging.standard
  properties := (Settings.Properties.empty.insert Configuration.enabledKey "true").insert
    Configuration.baseUrlKey "http://[::1]/hub"

/-- A hub that takes every event and knows every topic. -/
def sampleSurroundings : Surroundings where
  files path :=
    if path = "event.json" then
      .ok (Text.Utf8.encode "\x7b\"iss\":\"i\",\"aud\":\"a\"\x7d".toList)
    else .error .notFound
  network r := if r.operation = .publish then .answered 202 [] else .answered 409 []
  freshEvent := "event-1"
  freshCorrelation := ⟨"fresh"⟩
  now := 0

def sampleUrl : Url where
  scheme := "http"
  authority := some ⟨"", "", some (.pieces [0, 0, 0, 0, 0, 0, 0, 1]), none⟩
  path := "/hub"
  query := none
  fragment := none

def sampleConfig : Configuration := .enabledOn "http://[::1]/hub"

def sampleTopic : TopicArguments := ⟨"wso2.com", "urn:a&b"⟩

theorem parse_sample : Url.parse "http://[::1]/hub" = .ok sampleUrl := rfl

theorem sample_prepared (topic : Topic) (operation : Operation) :
    Prepared sampleSurroundings.files sampleSettings topic operation sampleConfig
      (sampleUrl.withPairs (Hub.topicPairs topic operation)) where
  described := ⟨[], rfl⟩
  starts := ⟨_, _, rfl⟩
  on := rfl
  addressed := ⟨_, rfl, Hub.topicUrl_of_ok parse_sample topic operation⟩

/-- A publish with an id of its own is done, and a deregistration is refused. -/
theorem commands_report_verdict_sample :
    let args : PublishArguments := ⟨sampleTopic, "event.json", some "id-1"⟩
    let published := (Command.publish args).run sampleSurroundings sampleSettings
    let kept := (Command.deregister sampleTopic).run sampleSurroundings sampleSettings
    (published.ending = .done ∧ Line.field "Correlation id" "id-1" ∈ published.lines ∧
      (requests published.signals).length = 1) ∧
    kept.ending ≠ .done ∧ (requests kept.signals).length = 1 := by
  intro args published kept
  obtain ⟨publish, -, deregister⟩ := commands_report_verdict sampleSurroundings sampleSettings
  constructor
  · cases loaded : PayloadFile.loadPayload sampleSurroundings.files args.payload "event-1" 0 with
    | error e =>
      have accepted : (PayloadFile.loadPayload sampleSurroundings.files args.payload "event-1"
        0).toOption.isSome = true := by decide +kernel
      rw [loaded] at accepted
      cases accepted
    | ok payload =>
      obtain ⟨request, id, rfl, tells, -, printed, given⟩ :=
        (publish args).tells payload _ _ loaded (sample_prepared _ _)
      have same : id = ⟨"id-1"⟩ := congrArg CorrelationId.mk (given "id-1" rfl (by decide))
      subst same
      have faultless : (⟨sampleUrl.withPairs (Hub.topicPairs (Topic.of "wso2.com" "urn:a&b")
        .publish), .publish, none, ⟨"id-1"⟩⟩ : Request).fault? = none := by decide +kernel
      obtain ⟨once, done⟩ := tells.received 202 [] ⟨by decide, faultless, rfl⟩
      exact ⟨done.2 (by decide), printed, by rw [once]; rfl⟩
  · have tells := (deregister sampleTopic).tells _ _ (sample_prepared _ _)
    obtain ⟨once, done⟩ := tells.received 409 [] ⟨by decide, by decide +kernel, rfl⟩
    refine ⟨fun succeeded => ?_, by rw [once]; rfl⟩
    obtain ⟨o, granted⟩ := done.1 succeeded
    simp [Hub.classify, Hub.isUnchanged] at granted

end HubPublisher.Cli
