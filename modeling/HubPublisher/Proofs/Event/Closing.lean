import HubPublisher.Proofs.Event.Filing
import Mathlib.Data.List.Induction

/-!
What a draft is closed to, read off the settings that made it.

Of several settings of one claim the last one counts, also when it is empty
(`Draft.text_ofSettings`); events are kept as they come. So the settings tell whether a draft is
refused and why (`Refusal`), and what its claims are otherwise (`Claims.Final`). Neither depends on
anything but the last value of each claim and, where nothing is refused, on which events were added:
settings that end alike are closed alike (`EndAlike.claims_eq`).
-/
namespace HubPublisher.Event

open Json (Value)

/-! ## What is set last -/

/-- The claims that are set to a text. -/
inductive TextClaim where
  | iss
  | aud
  | jti
  | txn
  | rci

/-- The text that a setting gives to a claim, if it is about this claim. -/
def Setting.text? : TextClaim → Setting → Option String
  | .iss, .iss v => some v
  | .aud, .aud v => some v
  | .jti, .jti v => some v
  | .txn, .txn v => some v
  | .rci, .rci v => some v
  | _, _ => none

def Setting.time? : Setting → Option Int64
  | .iat t => some t
  | _ => none

/-- The event that a setting adds, as it was given. -/
def Setting.event? : Setting → Option (String × Value)
  | .event uri claims => some (uri, claims)
  | _ => none

/-- The text that a claim is set to last. -/
def lastText (settings : List Setting) (claim : TextClaim) : Option String :=
  (settings.filterMap (Setting.text? claim)).getLast?

/-- The time that is set last. -/
def lastTime (settings : List Setting) : Option Int64 :=
  (settings.filterMap Setting.time?).getLast?

/-- The events that settings add, in order and as they were given. -/
def eventsOf (settings : List Setting) : List (String × Value) :=
  settings.filterMap Setting.event?

/-- A claim was never set, or it was set to the empty text in the end. -/
def Missing (settings : List Setting) (claim : TextClaim) : Prop :=
  lastText settings claim = none ∨ lastText settings claim = some ""

namespace Draft

def text (d : Draft) : TextClaim → Option String
  | .iss => d.iss
  | .aud => d.aud
  | .jti => d.jti
  | .txn => d.txn
  | .rci => d.rci

/-- What each setting either replaces or leaves as it is has the value that it was given last. -/
theorem field_foldl {α : Type} (field : Draft → Option α) {pick : Setting → Option α}
    (step : ∀ d s, field (d.set s) = (pick s).or (field d)) (settings : List Setting) (d : Draft) :
    field (settings.foldl set d) = ((settings.filterMap pick).getLast?).or (field d) := by
  induction settings generalizing d with
  | nil => rfl
  | cons s rest ih =>
    rw [List.foldl_cons, ih, step, ← Option.or_assoc]
    congr 1
    cases picked : pick s with
    | none => rw [List.filterMap_cons_none picked, Option.or_none]
    | some a => rw [List.filterMap_cons_some picked, List.getLast?_cons, Option.or_some]

variable {settings others : List Setting}

theorem text_ofSettings (settings : List Setting) (claim : TextClaim) :
    (ofSettings settings).text claim = lastText settings claim := by
  have step : ∀ d s, (set d s).text claim = (s.text? claim).or (d.text claim) := by
    intro d s
    cases s <;> cases claim <;> rfl
  have start : empty.text claim = none := by cases claim <;> rfl
  rw [ofSettings, field_foldl (text · claim) step, start, Option.or_none, lastText]

theorem iat_ofSettings (settings : List Setting) :
    (ofSettings settings).iat = lastTime settings := by
  have step : ∀ d s, (set d s).iat = s.time?.or d.iat := by
    intro d s
    cases s <;> rfl
  rw [ofSettings, field_foldl Draft.iat step]
  exact Option.or_none

/-- What is added to a draft are the given events without their null members. -/
theorem filterMap_added (settings : List Setting) :
    settings.filterMap Setting.added
      = (eventsOf settings).map fun e => (e.1, withoutNulls e.2) := by
  rw [eventsOf, List.map_filterMap]
  congr
  funext s
  cases s <;> rfl

theorem uris_ofSettings (settings : List Setting) :
    (ofSettings settings).events.map (·.1) = (eventsOf settings).map (·.1) := by
  rw [events_ofSettings, filterMap_added, List.map_map]
  rfl

theorem given_eq_filter (o : Option String) : given o = o.filter (· ≠ "") := by
  cases o with
  | none => rfl
  | some v =>
    by_cases empty : v = ""
    · rw [empty]
      rfl
    · rw [given_of_ne empty, Option.filter_some, if_pos (decide_eq_true empty)]

theorem given_eq_none_iff {o : Option String} : given o = none ↔ o = none ∨ o = some "" := by
  cases o with
  | none => simp [given]
  | some v => simp [given]

/-! ## Refusals -/

theorem exists_of_fileEvents_error {filed : Keyed Value} {pending : List (String × Value)}
    {e : PayloadError} (h : fileEvents filed pending = .error e) :
    ∃ uri, e = .duplicateEvent uri := by
  induction pending generalizing filed with
  | nil => cases h
  | cons p rest ih =>
    rw [fileEvents] at h
    split at h
    · cases h
      exact ⟨p.1, rfl⟩
    · exact ih h

/-- Among keys that are not all different there is one that was there before, and a first such. -/
theorem exists_firstRepeat_iff {keys : List String} :
    (∃ key, FirstRepeat keys key) ↔ ¬keys.Nodup := by
  constructor
  · rintro ⟨key, before, after, rfl, -, early⟩ apart
    exact (List.nodup_append.1 apart).2.2 key early key List.mem_cons_self rfl
  · induction keys using List.reverseRecOn with
    | nil => exact fun repeated => absurd List.nodup_nil repeated
    | append_singleton keys last ih =>
      intro repeated
      by_cases apart : keys.Nodup
      · by_cases early : last ∈ keys
        · exact ⟨last, keys, [], rfl, apart, early⟩
        · refine absurd (List.nodup_append.2 ⟨apart, List.pairwise_singleton _ _, ?_⟩) repeated
          rintro key there _ same rfl
          exact early (List.mem_singleton.1 same ▸ there)
      · obtain ⟨key, before, after, rfl, first, early⟩ := ih apart
        exact ⟨key, before, after ++ [last], by simp, first, early⟩

/-- A draft is refused for its issuer, then for its audience, then for the first event whose type
was there before, and for nothing else. -/
theorem payload_eq_error_iff {d : Draft} {subject : Option Subject} {fresh : String} {now : Int64}
    {e : PayloadError} :
    d.payload subject fresh now = .error e ↔
      given d.iss = none ∧ e = .missingClaim "iss" ∨
      given d.iss ≠ none ∧ given d.aud = none ∧ e = .missingClaim "aud" ∨
      given d.iss ≠ none ∧ given d.aud ≠ none ∧
        ∃ uri, FirstRepeat (d.events.map (·.1)) uri ∧ e = .duplicateEvent uri := by
  simp only [← fileEvents_eq_error, payload, close, required]
  cases given d.iss with
  | none => simp [Except.map, eq_comm]
  | some iss =>
    cases given d.aud with
    | none => simp [Except.map, eq_comm]
    | some aud =>
      cases filed : fileEvents Keyed.empty d.events with
      | ok events => simp [Except.map]
      | error e' =>
        obtain ⟨uri, rfl⟩ := exists_of_fileEvents_error filed
        simp [Except.map, eq_comm]

theorem iat_of_close {d : Draft} {fresh : String} {now : Int64} {c : Claims}
    (h : d.close fresh now = .ok c) : c.iat = d.iat.getD now := by
  unfold close at h
  split at h
  · cases h
  · split at h
    · cases h
    · split at h
      · cases h
      · cases h
        rfl

end Draft

/-- Why settings are refused: for the issuer before the audience, and for events last. -/
inductive Refusal (settings : List Setting) : PayloadError → Prop
  | noIssuer (missing : Missing settings .iss) : Refusal settings (.missingClaim "iss")
  | noAudience (issuer : ¬Missing settings .iss) (missing : Missing settings .aud) :
      Refusal settings (.missingClaim "aud")
  | repeated (issuer : ¬Missing settings .iss) (audience : ¬Missing settings .aud) {uri : String}
      (first : Draft.FirstRepeat ((eventsOf settings).map (·.1)) uri) :
      Refusal settings (.duplicateEvent uri)

variable {settings others : List Setting} {subject : Option Subject} {fresh fresh' : String}
  {now now' : Int64}

theorem missing_iff (settings : List Setting) (claim : TextClaim) :
    Missing settings claim ↔ Draft.given ((Draft.ofSettings settings).text claim) = none := by
  rw [Draft.given_eq_none_iff, Draft.text_ofSettings, Missing]

/-- The settings tell whether their draft is refused, and for what. -/
theorem payload_eq_error {e : PayloadError} :
    (Draft.ofSettings settings).payload subject fresh now = .error e ↔ Refusal settings e := by
  have issuer := missing_iff settings .iss
  have audience := missing_iff settings .aud
  simp only [Draft.text] at issuer audience
  rw [Draft.payload_eq_error_iff, Draft.uris_ofSettings, ne_eq, ← issuer, ne_eq, ← audience]
  constructor
  · rintro (⟨missing, rfl⟩ | ⟨given, missing, rfl⟩ | ⟨given, given', uri, first, rfl⟩)
    · exact .noIssuer missing
    · exact .noAudience given missing
    · exact .repeated given given' first
  · intro refusal
    cases refusal with
    | noIssuer missing => exact .inl ⟨missing, rfl⟩
    | noAudience given missing => exact .inr (.inl ⟨given, missing, rfl⟩)
    | repeated given given' first => exact .inr (.inr ⟨given, given', _, first, rfl⟩)

theorem exists_payload_iff :
    (∃ p, (Draft.ofSettings settings).payload subject fresh now = .ok p) ↔
      ¬∃ e, Refusal settings e := by
  have refused : ∀ e, Refusal settings e ↔
      (Draft.ofSettings settings).payload subject fresh now = .error e := fun e =>
    payload_eq_error.symm
  simp only [refused]
  cases (Draft.ofSettings settings).payload subject fresh now with
  | error e => simp
  | ok p => simp

theorem refusal_missingClaim_iff {claim : String} :
    Refusal settings (.missingClaim claim) ↔
      Missing settings .iss ∧ claim = "iss" ∨
      ¬Missing settings .iss ∧ Missing settings .aud ∧ claim = "aud" := by
  constructor
  · intro refusal
    cases refusal with
    | noIssuer missing => exact .inl ⟨missing, rfl⟩
    | noAudience given missing => exact .inr ⟨given, missing, rfl⟩
  · rintro (⟨missing, rfl⟩ | ⟨given, missing, rfl⟩)
    · exact .noIssuer missing
    · exact .noAudience given missing

theorem refusal_duplicateEvent_iff {uri : String} :
    Refusal settings (.duplicateEvent uri) ↔
      ¬Missing settings .iss ∧ ¬Missing settings .aud ∧
        Draft.FirstRepeat ((eventsOf settings).map (·.1)) uri := by
  constructor
  · intro refusal
    cases refusal with
    | repeated given given' first => exact ⟨given, given', first⟩
  · intro ⟨given, given', first⟩
    exact .repeated given given' first

theorem exists_refusal_iff :
    (∃ e, Refusal settings e) ↔ Missing settings .iss ∨ Missing settings .aud ∨
      ¬((eventsOf settings).map (·.1)).Nodup := by
  rw [← Draft.exists_firstRepeat_iff]
  constructor
  · rintro ⟨e, refusal⟩
    cases refusal with
    | noIssuer missing => exact .inl missing
    | noAudience given missing => exact .inr (.inl missing)
    | repeated given given' first => exact .inr (.inr ⟨_, first⟩)
  · intro reason
    by_cases issuer : Missing settings .iss
    · exact ⟨_, .noIssuer issuer⟩
    · by_cases audience : Missing settings .aud
      · exact ⟨_, .noAudience issuer audience⟩
      · obtain ⟨uri, first⟩ := (reason.resolve_left issuer).resolve_left audience
        exact ⟨_, .repeated issuer audience first⟩

/-! ## Claims -/

/-- What claims are made of: of each text and of the time what was set last, of events all that were
added, under their types. -/
structure Claims.Final (settings : List Setting) (fresh : String) (now : Int64) (c : Claims) :
    Prop where
  iss : lastText settings .iss = some c.iss
  aud : lastText settings .aud = some c.aud
  iat : c.iat = (lastTime settings).getD now
  jti : c.jti = ((lastText settings .jti).filter (· ≠ "")).getD fresh
  txn : c.txn = (lastText settings .txn).filter (· ≠ "")
  rci : c.rci = (lastText settings .rci).filter (· ≠ "")
  events : ∀ uri v, c.events.get? uri = some v ↔
    ∃ w, (uri, w) ∈ eventsOf settings ∧ v = withoutNulls w

theorem Draft.final_of_close {c : Claims} (h : (ofSettings settings).close fresh now = .ok c) :
    c.Final settings fresh now := by
  obtain ⟨iss, aud, jti, txn, rci, filed⟩ := close_eq_ok h
  have said (claim : TextClaim) :
      given ((ofSettings settings).text claim) = (lastText settings claim).filter (· ≠ "") := by
    rw [given_eq_filter, text_ofSettings]
  refine ⟨?_, ?_, ?_, ?_, ?_, ?_, ?_⟩
  · exact (Option.filter_eq_some_iff.1 ((said .iss).symm.trans iss)).1
  · exact (Option.filter_eq_some_iff.1 ((said .aud).symm.trans aud)).1
  · rw [iat_of_close h, iat_ofSettings]
  · rw [jti]
    exact congrArg (·.getD fresh) (said .jti)
  · rw [txn]
    exact said .txn
  · rw [rci]
    exact said .rci
  · intro uri v
    rw [← Keyed.mem_entries_iff (e := (uri, v)), mem_entries_close h, filterMap_added]
    constructor
    · intro added
      obtain ⟨⟨_, w⟩, there, same⟩ := List.mem_map.1 added
      cases same
      exact ⟨w, there, rfl⟩
    · rintro ⟨w, there, rfl⟩
      exact List.mem_map.2 ⟨(uri, w), there, rfl⟩

theorem Payload.eq_of_parts {p q : Payload} (claims : p.claims = q.claims)
    (subject : p.subject = q.subject) : p = q := by
  cases p with
  | base c =>
    cases q with
    | base d => exact congrArg base claims
    | caep d s => cases subject
  | caep c s =>
    cases q with
    | base d => cases subject
    | caep d t =>
      cases claims
      cases subject
      rfl

theorem Draft.final_of_payload {p : Payload}
    (h : (ofSettings settings).payload subject fresh now = .ok p) :
    p.subject = subject ∧ p.claims.Final settings fresh now := by
  obtain ⟨closed, about⟩ := payload_eq_ok.1 h
  exact ⟨about, final_of_close closed⟩

/-! ## Settings that end alike -/

/-- Settings that come, in whatever order, to the same last text of each claim, the same last time
and the same events, each as often. -/
structure EndAlike (settings others : List Setting) : Prop where
  texts : ∀ claim, lastText others claim = lastText settings claim
  time : lastTime others = lastTime settings
  events : (eventsOf others).Perm (eventsOf settings)

namespace EndAlike

theorem missing (alike : EndAlike settings others) (claim : TextClaim) :
    Missing others claim ↔ Missing settings claim := by
  rw [Missing, Missing, alike.texts]

theorem exists_refusal (alike : EndAlike settings others) :
    (∃ e, Refusal others e) ↔ ∃ e, Refusal settings e := by
  rw [exists_refusal_iff, exists_refusal_iff, alike.missing, alike.missing,
    (alike.events.map (·.1)).nodup_iff]

theorem missingClaim (alike : EndAlike settings others) (claim : String) :
    Refusal others (.missingClaim claim) ↔ Refusal settings (.missingClaim claim) := by
  rw [refusal_missingClaim_iff, refusal_missingClaim_iff, alike.missing, alike.missing]

/-- Where nothing is left to be filled in, the claims are the same. -/
theorem claims_eq (alike : EndAlike settings others) {c c' : Claims}
    (final : c.Final settings fresh now) (final' : c'.Final others fresh' now')
    (timed : lastTime settings ≠ none) {id : String} (named : lastText settings .jti = some id)
    (present : id ≠ "") : c' = c := by
  obtain ⟨t, time⟩ := Option.ne_none_iff_exists'.1 timed
  have iss : c'.iss = c.iss := by
    rw [← Option.some_inj, ← final.iss, ← final'.iss, alike.texts]
  have aud : c'.aud = c.aud := by
    rw [← Option.some_inj, ← final.aud, ← final'.aud, alike.texts]
  have iat : c'.iat = c.iat := by
    rw [final.iat, final'.iat, alike.time, time, Option.getD_some, Option.getD_some]
  have jti : c'.jti = c.jti := by
    have kept : (some id).filter (· ≠ "") = some id := by simp [present]
    rw [final.jti, final'.jti, alike.texts, named, kept, Option.getD_some, Option.getD_some]
  have txn : c'.txn = c.txn := by rw [final.txn, final'.txn, alike.texts]
  have rci : c'.rci = c.rci := by rw [final.rci, final'.rci, alike.texts]
  have events : c'.events = c.events := by
    refine Keyed.eq_of_get? fun uri => Option.ext fun v => ?_
    rw [final.events, final'.events]
    simp only [alike.events.mem_iff]
  cases c
  cases c'
  rw [Claims.mk.injEq]
  exact ⟨iss, jti, iat, aud, txn, rci, events⟩

end EndAlike

/-- Settings decide what their draft is closed to, whatever the order in which they come. The draft
is refused exactly when the last issuer or audience is missing or empty or a type of event comes
again; the issuer is looked at first, then the audience, and of the events the first that repeats a
type is named. Otherwise the claims are what was set last, with all events that were added. Settings
that end alike are refused together, for the same missing claim if it is one, and where they set a
time and an id the text of their payloads is the same. -/
theorem closed_to_last_settings (settings : List Setting) (subject : Option Subject)
    (fresh : String) (now : Int64) :
    let made := (Draft.ofSettings settings).payload subject fresh now
    let types := (eventsOf settings).map (·.1)
    ((∃ e, made = .error e) ↔
      Missing settings .iss ∨ Missing settings .aud ∨ ¬types.Nodup) ∧
    (made = .error (.missingClaim "iss") ↔ Missing settings .iss) ∧
    (made = .error (.missingClaim "aud") ↔ ¬Missing settings .iss ∧ Missing settings .aud) ∧
    (∀ uri, made = .error (.duplicateEvent uri) ↔
      ¬Missing settings .iss ∧ ¬Missing settings .aud ∧ Draft.FirstRepeat types uri) ∧
    (∀ p, made = .ok p → p.subject = subject ∧ p.claims.Final settings fresh now) ∧
    ∀ others fresh' now', EndAlike settings others →
      let made' := (Draft.ofSettings others).payload subject fresh' now'
      ((∃ p, made' = .ok p) ↔ ∃ p, made = .ok p) ∧
      (∀ claim, made' = .error (.missingClaim claim) ↔ made = .error (.missingClaim claim)) ∧
      ∀ p p' id, made = .ok p → made' = .ok p' → lastTime settings ≠ none →
        lastText settings .jti = some id → id ≠ "" → p'.body = p.body := by
  simp only [payload_eq_error]
  refine ⟨exists_refusal_iff, ?_, ?_, fun uri => refusal_duplicateEvent_iff,
    fun p => Draft.final_of_payload, ?_⟩
  · simp [refusal_missingClaim_iff]
  · simp [refusal_missingClaim_iff]
  · intro others fresh' now' alike
    refine ⟨?_, alike.missingClaim, ?_⟩
    · rw [exists_payload_iff, exists_payload_iff, alike.exists_refusal]
    · intro p p' id made made' timed named present
      obtain ⟨about, final⟩ := Draft.final_of_payload made
      obtain ⟨about', final'⟩ := Draft.final_of_payload made'
      have claims := alike.claims_eq final final' timed named present
      rw [Payload.eq_of_parts claims (about'.trans about.symm)]

/-- Settings that come to an issuer after an empty one, and to no `txn` after one. -/
def scrambled : List Setting := [
  .event "urn:b" (.object [("gone", .null), ("kept", .text "1")]), .iss "", .txn "x", .iat 1,
  .aud "https://rp.example", .iss "https://idp.example", .event "urn:a" (.object []), .txn "",
  .jti "t-1"]

/-- The same in the end, each claim set once. -/
def straight : List Setting := [
  .iss "https://idp.example", .jti "t-1", .iat 1, .aud "https://rp.example", .txn "",
  .event "urn:a" (.object []), .event "urn:b" (.object [("gone", .null), ("kept", .text "1")])]

theorem closed_to_last_settings_sample :
    EndAlike scrambled straight ∧
    (∃ p p', (Draft.ofSettings scrambled).payload none "f" 7 = .ok p ∧
      (Draft.ofSettings straight).payload none "g" 8 = .ok p' ∧
      lastTime scrambled ≠ none ∧ lastText scrambled .jti = some "t-1" ∧ p'.body = p.body) ∧
    (Draft.ofSettings (scrambled ++ [.iss ""])).payload none "f" 7
      = .error (.missingClaim "iss") := by
  have alike : EndAlike scrambled straight := by
    refine ⟨?_, rfl, .swap _ _ _⟩
    intro claim
    cases claim <;> rfl
  obtain ⟨-, -, -, -, -, together⟩ := closed_to_last_settings scrambled none "f" 7
  obtain ⟨-, -, same⟩ := together straight "g" 8 alike
  obtain ⟨-, issuer, -⟩ := closed_to_last_settings (scrambled ++ [.iss ""]) none "f" 7
  have timed : lastTime scrambled ≠ none := nofun
  exact ⟨alike, ⟨_, _, rfl, rfl, timed, rfl, same _ _ "t-1" rfl rfl timed rfl (by decide)⟩,
    issuer.2 (.inr rfl)⟩

end HubPublisher.Event
