import HubPublisher.Event.Payload
import HubPublisher.Proofs.Keyed

/-!
What closing a draft leaves in its claims, and that claims so made close to themselves again.

Closing refuses an empty issuer or audience, replaces an empty id and drops an empty `txn` or
`rci`. The events of the claims are those that the settings added, each without its null members
(`Draft.mem_entries_close`), and closing stops at the first whose type was there before
(`Draft.fileEvents_eq_error`). All this has been done once and changes nothing the second time, so a
draft that states the claims is closed to them whatever id and time are at hand.
-/
namespace HubPublisher.Event

open Json (Value)

/-! ## Values without null members -/

theorem isNull_withoutNulls (v : Value) : (withoutNulls v).isNull = v.isNull := by
  cases v <;> rfl

mutual
theorem withoutNulls_idem (v : Value) : withoutNulls (withoutNulls v) = withoutNulls v := by
  cases v with
  | object members => rw [withoutNulls, withoutNulls, withoutNullMembers_idem members]
  | _ => rfl
theorem withoutNullMembers_idem (members : List (String × Value)) :
    withoutNullMembers (withoutNullMembers members) = withoutNullMembers members := by
  match members with
  | [] => rfl
  | (key, v) :: rest =>
    have more := withoutNullMembers_idem rest
    rw [withoutNullMembers]
    split
    · exact more
    · rename_i kept
      rw [withoutNullMembers, isNull_withoutNulls, if_neg kept, withoutNulls_idem v, more]
end

/-- The members that are null are left out, and the others lose the null members in them. -/
theorem withoutNullMembers_eq (members : List (String × Value)) :
    withoutNullMembers members
      = (members.filter fun m => !m.2.isNull).map fun m => (m.1, withoutNulls m.2) := by
  induction members with
  | nil => rfl
  | cons m rest ih =>
    rw [withoutNullMembers]
    by_cases null : m.2.isNull = true
    · simp [null, ih]
    · simp [null, ih]

theorem ascending_withoutNullMembers {members : List (String × Value)} (h : Ascending members) :
    Ascending (withoutNullMembers members) := by
  rw [withoutNullMembers_eq, Ascending, List.pairwise_map]
  exact List.Pairwise.filter _ h

mutual
theorem canonical_withoutNulls (v : Value) (h : v.Canonical) : (withoutNulls v).Canonical := by
  cases v with
  | object members =>
    rw [Value.Canonical] at h
    rw [withoutNulls, Value.Canonical]
    exact ⟨ascending_withoutNullMembers h.1, canonical_withoutNullMembers members h.2⟩
  | _ => exact h
theorem canonical_withoutNullMembers (members : List (String × Value))
    (h : Value.CanonicalMembers members) : Value.CanonicalMembers (withoutNullMembers members) := by
  match members with
  | [] => exact h
  | (key, v) :: rest =>
    rw [Value.CanonicalMembers] at h
    have more := canonical_withoutNullMembers rest h.2
    rw [withoutNullMembers]
    split
    · exact more
    · rw [Value.CanonicalMembers]
      exact ⟨canonical_withoutNulls v h.1, more⟩
end

/-- The event that a setting adds, which has lost its null members. -/
def Setting.added : Setting → Option (String × Value)
  | .event uri claims => some (uri, withoutNulls claims)
  | _ => none

namespace Draft

/-! ## Given texts -/

theorem given_of_ne {s : String} (h : s ≠ "") : given (some s) = some s := if_neg h

theorem ne_of_given {o : Option String} {s : String} (h : given o = some s) : s ≠ "" := by
  rintro rfl
  cases o with
  | none => cases h
  | some t =>
    by_cases empty : t = ""
    · simp [given, empty] at h
    · simp [given, empty] at h

theorem given_given {o : Option String} : given (given o) = given o := by
  cases h : given o with
  | none => rfl
  | some s => exact given_of_ne (ne_of_given h)

theorem required_eq_ok {claim : String} {o : Option String} {s : String}
    (h : required claim o = .ok s) : given o = some s := by
  unfold required at h
  split at h
  · cases h
    assumption
  · cases h

theorem required_of_ne {claim s : String} (h : s ≠ "") : required claim (some s) = .ok s := by
  rw [required, given_of_ne h]

/-! ## Events -/

/-- Whatever is filed is there in the end, and nothing else is. -/
theorem mem_fileEvents {filed m : Keyed Value} {pending : List (String × Value)}
    (h : fileEvents filed pending = .ok m) {e : String × Value} :
    e ∈ m.entries ↔ e ∈ filed.entries ∨ e ∈ pending := by
  induction pending generalizing filed with
  | nil =>
    cases h
    simp
  | cons p rest ih =>
    rw [fileEvents] at h
    split at h
    · cases h
    · rename_i absent
      rw [ih h, Keyed.mem_insert_of_absent (Bool.eq_false_iff.2 absent), List.mem_cons, or_comm
        (a := e = p), or_assoc]

/-- Events in ascending order of their types are filed as they stand. -/
theorem fileEvents_of_entries {m : Keyed Value} (pending : List (String × Value))
    (filed : Keyed Value) (h : m.entries = filed.entries ++ pending) :
    fileEvents filed pending = .ok m := by
  induction pending generalizing filed with
  | nil =>
    rw [fileEvents, Keyed.eq_of_entries (h.trans (List.append_nil _))]
  | cons e rest ih =>
    have fresh : filed.contains e.1 = false := Keyed.contains_of_last h
    rw [fileEvents, fresh]
    apply ih
    rw [Keyed.entries_insert_of_last h, h, List.append_assoc, List.singleton_append]

/-- The first of several keys that was there before is `key`. -/
def FirstRepeat (keys : List String) (key : String) : Prop :=
  ∃ before after, keys = before ++ key :: after ∧ before.Nodup ∧ key ∈ before

/-- Filing stops at the first event whose type is there already, and at nothing else. The induction
carries the types that were filed before. -/
theorem fileEvents_eq_error_behind {pending : List (String × Value)} {uri : String}
    (filed : Keyed Value) (seen : List String) (known : ∀ k, filed.contains k = true ↔ k ∈ seen)
    (apart : seen.Nodup) :
    fileEvents filed pending = .error (.duplicateEvent uri) ↔
      ∃ before after, pending.map (·.1) = before ++ uri :: after ∧ (seen ++ before).Nodup ∧
        uri ∈ seen ++ before := by
  induction pending generalizing filed seen with
  | nil => simp [fileEvents]
  | cons p rest ih =>
    rw [fileEvents, List.map_cons]
    by_cases there : p.1 ∈ seen
    · rw [if_pos ((known p.1).2 there)]
      constructor
      · rintro ⟨⟩
        exact ⟨[], rest.map (·.1), rfl, by simpa using apart, by simpa using there⟩
      · rintro ⟨before, after, split, nodup, -⟩
        cases before with
        | nil => rw [(List.cons.inj split).1]
        | cons k before =>
          -- the type that stopped the filing cannot be among those that passed
          have same : p.1 = k := (List.cons.inj split).1
          exact absurd rfl ((List.nodup_append.1 nodup).2.2 _ there _ (same ▸ List.mem_cons_self))
    · rw [if_neg (mt (known p.1).1 there), ih (filed.insert p.1 p.2) (seen ++ [p.1])]
      · constructor
        · rintro ⟨before, after, split, nodup, mem⟩
          exact ⟨p.1 :: before, after, by rw [split, List.cons_append], by simpa using nodup,
            by simpa using mem⟩
        · rintro ⟨before, after, split, nodup, mem⟩
          cases before with
          | nil =>
            rw [← (List.cons.inj split).1, List.append_nil] at mem
            exact absurd mem there
          | cons k before =>
            obtain ⟨rfl, later⟩ := List.cons.inj split
            exact ⟨before, after, later, by simpa using nodup, by simpa using mem⟩
      · intro k
        rw [Keyed.contains_insert, known, List.mem_append, List.mem_singleton, or_comm]
      · refine List.nodup_append.2 ⟨apart, List.pairwise_singleton _ _, ?_⟩
        rintro k early _ last rfl
        exact there (List.mem_singleton.1 last ▸ early)

theorem fileEvents_eq_error {pending : List (String × Value)} {uri : String} :
    fileEvents Keyed.empty pending = .error (.duplicateEvent uri) ↔
      FirstRepeat (pending.map (·.1)) uri := by
  rw [fileEvents_eq_error_behind Keyed.empty [] (by simp [Keyed.contains, Keyed.empty])
    List.nodup_nil]
  rfl

/-! ## Events that settings add -/

theorem events_foldl (settings : List Setting) (d : Draft) :
    (settings.foldl set d).events = d.events ++ settings.filterMap Setting.added := by
  induction settings generalizing d with
  | nil => simp
  | cons s rest ih =>
    rw [List.foldl_cons, ih]
    cases s with
    | event uri claims => exact List.append_assoc d.events [_] _
    | _ => rfl

theorem events_ofSettings (settings : List Setting) :
    (ofSettings settings).events = settings.filterMap Setting.added := events_foldl settings empty

/-- Settings that add events change nothing else. -/
theorem foldl_event (entries : List (String × Value)) (d : Draft) :
    (entries.map fun e => Setting.event e.1 e.2).foldl set d
      = { d with events := d.events ++ entries.map fun e => (e.1, withoutNulls e.2) } := by
  induction entries generalizing d with
  | nil => simp
  | cons e rest ih => simp [ih, set]

end Draft

/-! ## Claims of a closed draft -/

/-- Claims as closing a draft leaves them. -/
structure Claims.Drafted (c : Claims) : Prop where
  iss : c.iss ≠ ""
  jti : c.jti ≠ ""
  aud : c.aud ≠ ""
  txn : Draft.given c.txn = c.txn
  rci : Draft.given c.rci = c.rci
  events : ∀ e ∈ c.events.entries, withoutNulls e.2 = e.2

/-- The parts of claims are what closing makes of the parts of the draft. -/
theorem Draft.close_eq_ok {d : Draft} {fresh : String} {now : Int64} {c : Claims}
    (h : d.close fresh now = .ok c) :
    given d.iss = some c.iss ∧ given d.aud = some c.aud ∧ c.jti = (given d.jti).getD fresh ∧
      c.txn = given d.txn ∧ c.rci = given d.rci ∧
      fileEvents Keyed.empty d.events = .ok c.events := by
  unfold close at h
  split at h
  · cases h
  · rename_i iss issuer
    split at h
    · cases h
    · rename_i aud audience
      split at h
      · cases h
      · rename_i events filed
        cases h
        exact ⟨required_eq_ok issuer, required_eq_ok audience, rfl, rfl, rfl, filed⟩

/-- A payload is what its claims are closed to, with the subject that is there. -/
theorem Draft.payload_eq_ok {d : Draft} {subject : Option Subject} {fresh : String} {now : Int64}
    {p : Payload} :
    d.payload subject fresh now = .ok p ↔ d.close fresh now = .ok p.claims ∧ p.subject = subject := by
  unfold payload
  cases d.close fresh now with
  | error e => simp [Except.map]
  | ok c =>
    cases subject <;> cases p <;>
      simp [Except.map, Payload.claims, Payload.subject, eq_comm]

/-- The events of the claims of a draft are those that its settings add. -/
theorem Draft.mem_entries_close {settings : List Setting} {fresh : String} {now : Int64}
    {c : Claims} (h : (ofSettings settings).close fresh now = .ok c) {e : String × Value} :
    e ∈ c.events.entries ↔ e ∈ settings.filterMap Setting.added := by
  obtain ⟨-, -, -, -, -, filed⟩ := close_eq_ok h
  rw [mem_fileEvents filed, events_ofSettings]
  exact or_iff_right List.not_mem_nil

theorem Setting.mem_added {settings : List Setting} {e : String × Value} :
    e ∈ settings.filterMap added ↔
      ∃ v, Setting.event e.1 v ∈ settings ∧ e.2 = withoutNulls v := by
  obtain ⟨uri, w⟩ := e
  rw [List.mem_filterMap]
  constructor
  · rintro ⟨s, there, adds⟩
    cases s with
    | event uri v =>
      cases adds
      exact ⟨v, there, rfl⟩
    | _ => cases adds
  · rintro ⟨v, there, rfl⟩
    exact ⟨_, there, rfl⟩

/-- An event of the claims of a draft was added by a setting, and has lost its null members. -/
theorem Draft.mem_events_close {settings : List Setting} {fresh : String} {now : Int64} {c : Claims}
    (h : (ofSettings settings).close fresh now = .ok c) {e : String × Value}
    (there : e ∈ c.events.entries) :
    ∃ v, Setting.event e.1 v ∈ settings ∧ e.2 = withoutNulls v :=
  Setting.mem_added.1 ((mem_entries_close h).1 there)

theorem Draft.drafted_of_close {settings : List Setting} {fresh : String} {now : Int64} {c : Claims}
    (named : fresh ≠ "") (h : (ofSettings settings).close fresh now = .ok c) : c.Drafted := by
  obtain ⟨iss, aud, jti, txn, rci, -⟩ := close_eq_ok h
  constructor
  · exact ne_of_given iss
  · rw [jti]
    cases id : given (ofSettings settings).jti with
    | none => exact named
    | some s => exact ne_of_given id
  · exact ne_of_given aud
  · rw [txn, given_given]
  · rw [rci, given_given]
  · intro e there
    obtain ⟨v, -, value⟩ := mem_events_close h there
    rw [value, withoutNulls_idem]

/-- The draft that states claims as they are. -/
def Claims.draft (c : Claims) : Draft where
  iss := some c.iss
  aud := some c.aud
  jti := some c.jti
  iat := some c.iat
  txn := c.txn
  rci := c.rci
  events := c.events.entries

theorem Claims.Drafted.close_draft {c : Claims} (h : c.Drafted) (fresh : String) (now : Int64) :
    c.draft.close fresh now = .ok c := by
  simp only [Draft.close, draft, Draft.required_of_ne h.iss, Draft.required_of_ne h.aud,
    Draft.fileEvents_of_entries c.events.entries Keyed.empty rfl, Draft.given_of_ne h.jti, h.txn,
    h.rci, Option.getD_some]

end HubPublisher.Event
