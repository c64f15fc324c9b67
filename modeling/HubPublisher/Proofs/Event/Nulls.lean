import HubPublisher.Proofs.Event.File

/-!
Which null members are sent to the hub.

An event loses its null members when it is added, and so do the objects in it, but what stands in an
array stays as it is (`holdsNull_withoutNulls`), and so does an event that is nothing but null. All
else that a payload consists of is texts and a time (`Payload.holdsNull_json`). So the body of a
payload holds an object with a null member exactly when one of the events was null, or had an array
with such an object in it.
-/
namespace HubPublisher.Json.Value

/-! ## Where objects stand -/

/-- What stands in a value at any depth: the value itself, and whatever stands in its items or
members. -/
inductive Part : Value → Value → Prop
  | self (v : Value) : Part v v
  | item {items : List Value} {v w : Value} (there : v ∈ items) (inner : Part v w) :
      Part (.array items) w
  | member {members : List (String × Value)} {m : String × Value} {w : Value}
      (there : m ∈ members) (inner : Part m.2 w) : Part (.object members) w

/-- What is reached in a value by members of objects alone. -/
inductive Along : Value → Value → Prop
  | self (v : Value) : Along v v
  | member {members : List (String × Value)} {m : String × Value} {w : Value}
      (there : m ∈ members) (inner : Along m.2 w) : Along (.object members) w

/-- Whether an object in the value, at any depth, has a member that is null. -/
def HoldsNull (v : Value) : Prop :=
  ∃ members, Part v (.object members) ∧ ∃ key, (key, .null) ∈ members

/-- Whether an array that is reached by members of objects alone has such an object in it. -/
def HoldsNullInArray (v : Value) : Prop :=
  ∃ items, Along v (.array items) ∧ (array items).HoldsNull

variable {members : List (String × Value)} {v : Value}

theorem holdsNull_object :
    (object members).HoldsNull ↔ ∃ m ∈ members, m.2 = .null ∨ m.2.HoldsNull := by
  constructor
  · rintro ⟨inner, part, key, null⟩
    cases part with
    | self => exact ⟨(key, .null), null, .inl rfl⟩
    | member there part => exact ⟨_, there, .inr ⟨inner, part, key, null⟩⟩
  · rintro ⟨⟨key, v⟩, there, null | ⟨inner, part, null⟩⟩
    · exact ⟨members, .self _, key, null ▸ there⟩
    · exact ⟨inner, .member there part, null⟩

theorem holdsNullInArray_object :
    (object members).HoldsNullInArray ↔ ∃ m ∈ members, m.2.HoldsNullInArray := by
  constructor
  · rintro ⟨items, along, null⟩
    cases along with
    | member there along => exact ⟨_, there, items, along, null⟩
  · rintro ⟨m, there, items, along, null⟩
    exact ⟨items, .member there along, null⟩

theorem holdsNullInArray_array {items : List Value} :
    (array items).HoldsNullInArray ↔ (array items).HoldsNull := by
  constructor
  · rintro ⟨_, along, null⟩
    cases along
    exact null
  · exact fun null => ⟨items, .self _, null⟩

/-- Whether a value is neither an array nor an object. -/
def Scalar : Value → Prop
  | array _ => False
  | object _ => False
  | _ => True

theorem Scalar.not_holdsNull (scalar : v.Scalar) : ¬v.HoldsNull := by
  rintro ⟨members, part, -⟩
  cases part with
  | self => exact scalar
  | item => exact scalar
  | member => exact scalar

theorem Scalar.not_holdsNullInArray (scalar : v.Scalar) : ¬v.HoldsNullInArray := by
  rintro ⟨items, along, -⟩
  cases along with
  | self => exact scalar
  | member => exact scalar

end HubPublisher.Json.Value

namespace HubPublisher.Event

open Json (Value)
open Json.Value (holdsNull_object holdsNullInArray_object holdsNullInArray_array)

/-! ## What is left without null members -/

theorem withoutNulls_of_scalar {v : Value} (scalar : v.Scalar) : withoutNulls v = v := by
  cases v with
  | object members => exact scalar.elim
  | _ => rfl

theorem withoutNulls_eq_null {v : Value} : withoutNulls v = .null ↔ v = .null := by
  cases v <;> simp [withoutNulls]

mutual
/-- Null members that are left are in arrays. The induction goes down the members of objects, where
each member that is null has been left out before the others are looked at. -/
theorem holdsNull_withoutNulls (v : Value) :
    (withoutNulls v).HoldsNull ↔ v.HoldsNullInArray := by
  by_cases scalar : v.Scalar
  · rw [withoutNulls_of_scalar scalar]
    exact iff_of_false scalar.not_holdsNull scalar.not_holdsNullInArray
  · cases v with
    | object members =>
      rw [withoutNulls, holdsNull_object, holdsNullInArray_object]
      exact holdsNull_withoutNullMembers members
    | array items => exact holdsNullInArray_array.symm
    | _ => exact absurd trivial scalar
theorem holdsNull_withoutNullMembers (members : List (String × Value)) :
    (∃ m ∈ withoutNullMembers members, m.2 = .null ∨ m.2.HoldsNull) ↔
      ∃ m ∈ members, m.2.HoldsNullInArray := by
  match members with
  | [] => simp [withoutNullMembers]
  | (key, v) :: rest =>
    have more := holdsNull_withoutNullMembers rest
    have here := holdsNull_withoutNulls v
    simp only [withoutNullMembers, List.mem_cons (l := rest), exists_eq_or_imp]
    by_cases null : v.isNull = true
    · have none : ¬v.HoldsNullInArray := by
        cases v with
        | null => exact Value.Scalar.not_holdsNullInArray trivial
        | _ => cases null
      rw [if_pos null, more, or_iff_right none]
    · have kept : withoutNulls v ≠ .null := by
        rintro same
        rw [withoutNulls_eq_null.1 same] at null
        exact null rfl
      simp only [if_neg null, List.mem_cons, exists_eq_or_imp, more, here]
      rw [or_iff_right kept]
end

/-! ## The body of a payload -/

theorem Subject.not_holdsNull_json (s : Subject) : ¬s.json.HoldsNull := by
  rw [Subject.json_eq, holdsNull_object]
  rintro ⟨m, member, null⟩
  -- the format and the properties are texts
  have text : ∃ t, m.2 = .text t := by
    rcases List.mem_cons.1 member with rfl | property
    · exact ⟨_, rfl⟩
    · exact (Subject.mem_propertyMembers property).2
  obtain ⟨t, text⟩ := text
  rw [text] at null
  rcases null with none | none
  · cases none
  · exact Value.Scalar.not_holdsNull (v := .text t) trivial none

/-- Of what a payload consists of, only the events can hold a null. -/
theorem Payload.holdsNull_json (p : Payload) :
    p.json.HoldsNull ↔ ∃ e ∈ p.claims.events.entries, e.2 = .null ∨ e.2.HoldsNull := by
  rw [Payload.json_eq, holdsNull_object]
  constructor
  · rintro ⟨m, member, null⟩
    rcases List.mem_append.1 member with claim | about
    · rcases Claims.member_cases claim with ⟨-, t, text⟩ | rfl | rfl
      · rw [text] at null
        rcases null with none | none
        · cases none
        · exact absurd none (Value.Scalar.not_holdsNull trivial)
      · rcases null with none | none
        · cases none
        · exact absurd none (Value.Scalar.not_holdsNull trivial)
      · rcases null with none | inner
        · cases none
        · exact holdsNull_object.1 inner
    · obtain ⟨s, -, rfl⟩ := Option.map_eq_some_iff.1 (Option.mem_toList.1 about)
      rcases null with none | none
      · cases none
      · exact absurd none s.not_holdsNull_json
  · rintro ⟨e, there, null⟩
    have some : p.claims.events.isEmpty = false := by
      rw [Keyed.isEmpty, List.isEmpty_eq_false_iff]
      exact List.ne_nil_of_mem there
    refine ⟨("events", .object p.claims.events.entries), ?_, .inr (holdsNull_object.2 ⟨e, there,
      null⟩)⟩
    simp [Payload.members, Claims.members, eventsMember, some]

/-- The body of a payload that a draft was closed to is the text of a value that has an object with
a null member in it exactly when an event was added that is null or that has such an object in an
array. -/
theorem body_holds_null_iff (settings : List Setting) (subject : Option Subject) (fresh : String)
    (now : Int64) (p : Payload)
    (built : (Draft.ofSettings settings).payload subject fresh now = .ok p) :
    p.body = p.json.write ∧
    (p.json.HoldsNull ↔
      ∃ uri v, Setting.event uri v ∈ settings ∧ (v = .null ∨ v.HoldsNullInArray)) := by
  obtain ⟨closed, -⟩ := Draft.payload_eq_ok.1 built
  refine ⟨rfl, ?_⟩
  rw [Payload.holdsNull_json]
  constructor
  · rintro ⟨e, there, null⟩
    obtain ⟨v, added, value⟩ := Draft.mem_events_close closed there
    rw [value, holdsNull_withoutNulls] at null
    exact ⟨e.1, v, added, null.imp_left withoutNulls_eq_null.1⟩
  · rintro ⟨uri, v, added, null⟩
    refine ⟨(uri, withoutNulls v), ?_, ?_⟩
    · exact (Draft.mem_entries_close closed).2 (Setting.mem_added.2 ⟨v, added, rfl⟩)
    · rw [holdsNull_withoutNulls]
      refine null.imp_left fun none => ?_
      rw [none]
      rfl

/-- Settings that add one event, with a null member in an array. -/
def listingSettings : List Setting := [
  .iss "https://idp.example", .aud "https://rp.example", .jti "t-1", .iat 1,
  .event "urn:e" (.object [("a", .array [.object [("k", .null)]])])]

/-- The payload they are closed to. -/
def listingPayload : Payload :=
  .base {
    iss := "https://idp.example"
    jti := "t-1"
    iat := 1
    aud := "https://rp.example"
    txn := none
    rci := none
    events := Keyed.empty.insert "urn:e" (.object [("a", .array [.object [("k", .null)]])]) }

theorem listingPayload_built :
    (Draft.ofSettings listingSettings).payload none "fresh" 0 = .ok listingPayload := rfl

theorem body_holds_null_iff_listing :
    (Draft.ofSettings listingSettings).payload none "fresh" 0 = .ok listingPayload ∧
    listingPayload.body = listingPayload.json.write ∧
    (listingPayload.json.HoldsNull ↔
      ∃ uri v, Setting.event uri v ∈ listingSettings ∧ (v = .null ∨ v.HoldsNullInArray)) :=
  ⟨listingPayload_built, body_holds_null_iff _ none "fresh" 0 _ listingPayload_built⟩

/-- A null member in an array is sent. -/
theorem null_in_array_sent :
    (Draft.ofSettings listingSettings).payload none "fresh" 0 = .ok listingPayload ∧
    listingPayload.json.HoldsNull ∧
    listingPayload.body = "\x7b\"iss\":\"https://idp.example\",\"jti\":\"t-1\",\"iat\":1," ++
      "\"aud\":\"https://rp.example\",\"events\":\x7b\"urn:e\":" ++
      "\x7b\"a\":[\x7b\"k\":null\x7d]\x7d\x7d\x7d" := by
  refine ⟨listingPayload_built, ?_, by decide⟩
  rw [Payload.holdsNull_json]
  refine ⟨("urn:e", _), List.mem_singleton_self _, .inr ?_⟩
  exact ⟨_, .member (List.mem_singleton_self _) (.item (List.mem_singleton_self _) (.self _)), "k",
    List.mem_singleton_self _⟩

end HubPublisher.Event
