import HubPublisher.Proofs.Event.Drafts

/-!
Taking the null members out of an event takes nothing else away.

Whatever stands in a value has an address: which item or which member to go to, step by step from
the root. `Json.Value.remove` takes out members by their addresses and keeps all else in its order.
The value without null members is the value with those members removed whose address leads by
members of objects alone to a null (`withoutNulls_eq_remove`). An address that goes through an array
leads to none of them, and the root is no member, so it stays even if it is null. Seen from the
keys, what is found at a path is what was found there and is not null, with the same members removed
from it (`under_withoutNulls`).
-/
namespace HubPublisher.Json.Value

variable {members : List (String × Value)} {v w : Value}

/-! ## Addresses -/

/-- A step from a value to one that stands in it, by the order of the items or members. -/
inductive Place where
  | item (i : Nat)
  | member (i : Nat)

def Place.isMember : Place → Bool
  | item _ => false
  | member _ => true

/-- What stands at an address. -/
def at? : Value → List Place → Option Value
  | v, [] => some v
  | array items, .item i :: rest => items[i]?.bind fun v => v.at? rest
  | object members, .member i :: rest => members[i]?.bind fun m => m.2.at? rest
  | _, _ :: _ => none

/-- Of a set of addresses those that go through a place, as seen from there. -/
def through (gone : List Place → Bool) (p : Place) (rest : List Place) : Bool := gone (p :: rest)

mutual
/-- The value without the members at the addresses that are gone. -/
def remove (gone : List Place → Bool) : Value → Value
  | array items => array (removeInItems gone 0 items)
  | object members => object (removeMembers gone 0 members)
  | v => v
/-- The first of the items is the one at place `i`. -/
def removeInItems (gone : List Place → Bool) (i : Nat) : List Value → List Value
  | [] => []
  | v :: rest => remove (through gone (.item i)) v :: removeInItems gone (i + 1) rest
/-- The first of the members is the one at place `i`. -/
def removeMembers (gone : List Place → Bool) (i : Nat) :
    List (String × Value) → List (String × Value)
  | [] => []
  | (key, v) :: rest =>
    if gone [.member i] then removeMembers gone (i + 1) rest
    else (key, remove (through gone (.member i)) v) :: removeMembers gone (i + 1) rest
end

/-- Whether an address leads to a null, and by members of objects alone. -/
def leadsToNull (v : Value) (address : List Place) : Bool :=
  address.all Place.isMember && (v.at? address).any isNull

theorem not_isNull_iff : (!v.isNull) = true ↔ v ≠ null := by
  cases v <;> simp [isNull]

mutual
theorem remove_never (v : Value) : v.remove (fun _ => false) = v := by
  cases v with
  | array items => exact congrArg array (removeInItems_never items 0)
  | object members => exact congrArg object (removeMembers_never members 0)
  | _ => rfl
theorem removeInItems_never (items : List Value) (i : Nat) :
    removeInItems (fun _ => false) i items = items := by
  match items with
  | [] => rfl
  | v :: rest =>
    have here : v.remove (through (fun _ => false) (.item i)) = v := remove_never v
    rw [removeInItems, here, removeInItems_never rest]
theorem removeMembers_never (members : List (String × Value)) (i : Nat) :
    removeMembers (fun _ => false) i members = members := by
  match members with
  | [] => rfl
  | (key, v) :: rest =>
    have here : v.remove (through (fun _ => false) (.member i)) = v := remove_never v
    rw [removeMembers, here, removeMembers_never rest]
    rfl
end

/-- No address leads out of an array by members alone. -/
theorem leadsToNull_array (items : List Value) : (array items).leadsToNull = fun _ => false := by
  funext address
  cases address with
  | nil => rfl
  | cons p rest => cases p <;> simp [leadsToNull, at?, Place.isMember]

/-- Whether an address leads to a null through a member is a question about the member's value. -/
theorem through_leadsToNull {i : Nat} {m : String × Value} (there : members[i]? = some m) :
    through (object members).leadsToNull (.member i) = m.2.leadsToNull := by
  funext rest
  simp [through, leadsToNull, at?, Place.isMember, there]

/-! ## Paths of keys -/

/-- What is found by following keys through members of objects. Where a key comes twice, both
members count. -/
inductive Under : Value → List String → Value → Prop
  | here (v : Value) : Under v [] v
  | member {members : List (String × Value)} {key : String} {v : Value} {path : List String}
      {w : Value} (there : (key, v) ∈ members) (inner : Under v path w) :
      Under (object members) (key :: path) w

/-- The value at a path of keys; of two members with one key the first counts. -/
def under? : Value → List String → Option Value
  | v, [] => some v
  | object members, key :: path => (members.lookup key).bind fun v => v.under? path
  | _, _ :: _ => none

theorem under_nil : Under v [] w ↔ w = v := by
  refine ⟨?_, ?_⟩
  · intro found
    cases found
    rfl
  · intro same
    rw [same]
    exact .here v

theorem under_cons {key : String} {path : List String} :
    Under (object members) (key :: path) w ↔ ∃ v, (key, v) ∈ members ∧ Under v path w := by
  refine ⟨?_, ?_⟩
  · intro found
    cases found with
    | member there inner => exact ⟨_, there, inner⟩
  · intro ⟨v, there, inner⟩
    exact .member there inner

/-- Only in an object is anything found under a key. -/
theorem not_under_cons (other : ∀ members, v ≠ object members) {key : String}
    {path : List String} : ¬Under v (key :: path) w := by
  intro found
  cases found
  exact other _ rfl

theorem under?_cons_of_other (other : ∀ members, v ≠ object members) (key : String)
    (path : List String) : v.under? (key :: path) = none := by
  cases v with
  | object members => exact absurd rfl (other members)
  | _ => rfl

/-- Nothing is found in a null but the null itself. -/
theorem ne_null_of_under {path : List String} (found : Under v path w) (notNull : w ≠ null) :
    v ≠ null := by
  intro same
  rw [same] at found
  cases found
  exact notNull rfl

theorem canonical_of_mem (canonical : CanonicalMembers members) {m : String × Value}
    (there : m ∈ members) : m.2.Canonical := by
  induction members with
  | nil => cases there
  | cons e rest ih =>
    rw [CanonicalMembers] at canonical
    rcases List.mem_cons.1 there with here | more
    · rw [here]
      exact canonical.1
    · exact ih canonical.2 more

/-- In a canonical value at most one value is found at a path. -/
theorem under?_eq_some_iff {path : List String} (canonical : v.Canonical) :
    v.under? path = some w ↔ Under v path w := by
  induction path generalizing v with
  | nil =>
    rw [under_nil, under?, Option.some_inj]
    exact eq_comm
  | cons key path ih =>
    by_cases anObject : ∃ members, v = object members
    · obtain ⟨members, rfl⟩ := anObject
      rw [Canonical] at canonical
      obtain ⟨ascending, inner⟩ := canonical
      rw [under?, under_cons, Option.bind_eq_some_iff]
      apply exists_congr
      intro u
      have found : members.lookup key = some u ↔ (key, u) ∈ members :=
        (mem_iff_lookup (e := (key, u)) ascending.nodup_keys).symm
      rw [found]
      apply and_congr_right
      intro there
      exact ih (canonical_of_mem inner there)
    · have other := not_exists.1 anObject
      rw [under?_cons_of_other other]
      exact iff_of_false nofun (not_under_cons other)

end HubPublisher.Json.Value

namespace HubPublisher.Event

open Json (Value)
open Json.Value (Under under_nil under_cons not_under_cons under?_eq_some_iff)

/-! ## Which members are removed -/

theorem withoutNulls_of_other {v : Value} (other : ∀ members, v ≠ .object members) :
    withoutNulls v = v := by
  cases v with
  | object members => exact absurd rfl (other members)
  | _ => rfl

mutual
/-- In an object the null members go and the others are walked; an array is left alone, and so is
all that stands in it. -/
theorem withoutNulls_eq_remove (v : Value) : withoutNulls v = v.remove v.leadsToNull := by
  cases v with
  | object members =>
    rw [withoutNulls, Value.remove]
    exact congrArg Value.object (withoutNullMembers_eq_removeMembers [] members)
  | array items =>
    have unchanged : (Value.array items).remove (Value.array items).leadsToNull = .array items := by
      rw [Value.leadsToNull_array, Value.remove_never]
    exact unchanged.symm
  | _ => rfl
/-- The induction is on the members that are still to come, and carries those before them: places
are counted from the first member of the object. -/
theorem withoutNullMembers_eq_removeMembers (before members : List (String × Value)) :
    withoutNullMembers members
      = Value.removeMembers (Value.object (before ++ members)).leadsToNull before.length
          members := by
  match members with
  | [] => rfl
  | (key, v) :: rest =>
    have there : (before ++ (key, v) :: rest)[before.length]? = some (key, v) := by simp
    have inner := Value.through_leadsToNull there
    have here : (Value.object (before ++ (key, v) :: rest)).leadsToNull [.member before.length]
        = v.isNull := congrFun inner []
    have more := withoutNullMembers_eq_removeMembers (before ++ [(key, v)]) rest
    rw [List.append_assoc, List.singleton_append, List.length_append, List.length_singleton] at more
    rw [withoutNullMembers, Value.removeMembers, here, inner, more, withoutNulls_eq_remove v]
end

/-! ## What is found at a path -/

theorem mem_withoutNullMembers {members : List (String × Value)} {key : String} {w : Value} :
    (key, w) ∈ withoutNullMembers members ↔
      ∃ v, (key, v) ∈ members ∧ v ≠ .null ∧ w = withoutNulls v := by
  rw [withoutNullMembers_eq, List.mem_map]
  refine ⟨?_, ?_⟩
  · intro ⟨m, kept, same⟩
    obtain ⟨there, stays⟩ := List.mem_filter.1 kept
    obtain ⟨rfl, rfl⟩ := Prod.mk.inj same
    exact ⟨m.2, there, Value.not_isNull_iff.1 stays, rfl⟩
  · intro ⟨v, there, notNull, same⟩
    exact ⟨(key, v), List.mem_filter.2 ⟨there, Value.not_isNull_iff.2 notNull⟩, by rw [same]⟩

/-- What is found in a value without null members is what was found in the value and is not null.
The induction goes down the path: a member through which something else is found is not null, so it
is still there. -/
theorem under_withoutNulls {v w : Value} {path : List String} (notNull : v ≠ .null) :
    Under (withoutNulls v) path w ↔ ∃ u, Under v path u ∧ u ≠ .null ∧ w = withoutNulls u := by
  induction path generalizing v with
  | nil =>
    simp only [under_nil]
    refine ⟨?_, ?_⟩
    · intro same
      exact ⟨v, rfl, notNull, same⟩
    · intro ⟨u, here, _, same⟩
      rw [same, here]
  | cons key path ih =>
    by_cases anObject : ∃ members, v = .object members
    · obtain ⟨members, rfl⟩ := anObject
      rw [withoutNulls, under_cons]
      refine ⟨?_, ?_⟩
      · intro ⟨x, kept, inner⟩
        obtain ⟨y, there, notNull, rfl⟩ := mem_withoutNullMembers.1 kept
        obtain ⟨u, found, rest⟩ := (ih notNull).1 inner
        exact ⟨u, .member there found, rest⟩
      · intro ⟨u, found, stays, same⟩
        obtain ⟨y, there, inner⟩ := under_cons.1 found
        have notNull : y ≠ .null := Value.ne_null_of_under inner stays
        have kept := mem_withoutNullMembers.2 ⟨y, there, notNull, rfl⟩
        exact ⟨withoutNulls y, kept, (ih notNull).2 ⟨u, inner, stays, same⟩⟩
    · have other := not_exists.1 anObject
      rw [withoutNulls_of_other other]
      refine iff_of_false (not_under_cons other) ?_
      intro ⟨u, found, _⟩
      exact not_under_cons other found

/-- Under a key nothing is found in a null, before or after. -/
theorem under_cons_withoutNulls {v w : Value} {key : String} {path : List String} :
    Under (withoutNulls v) (key :: path) w ↔
      ∃ u, Under v (key :: path) u ∧ u ≠ .null ∧ w = withoutNulls u := by
  by_cases null : v = .null
  · rw [null]
    refine iff_of_false nofun ?_
    intro ⟨u, found, _⟩
    cases found
  · exact under_withoutNulls null

/-- The value at a path of keys is what it was, without its own null members, and none if it was
null. -/
theorem under?_withoutNulls {v : Value} (canonical : v.Canonical) (key : String)
    (path : List String) :
    (withoutNulls v).under? (key :: path)
      = ((v.under? (key :: path)).filter fun u => !u.isNull).map withoutNulls := by
  apply Option.ext
  intro w
  rw [under?_eq_some_iff (canonical_withoutNulls v canonical), under_cons_withoutNulls,
    Option.map_eq_some_iff]
  apply exists_congr
  intro u
  rw [Option.filter_eq_some_iff, under?_eq_some_iff canonical, Value.not_isNull_iff, and_assoc,
    eq_comm (a := w)]

/-! ## Nothing else is touched -/

/-- Of any value those members are removed that are null and stand in an object to which members of
objects alone lead, and nothing else is: no member that has become empty and nothing in an array. At
a path of keys there is the value that was there, with such members of its own removed, unless it
was null; then there is none. Nothing is left to remove a second time. -/
theorem only_null_members_removed (v : Value) :
    withoutNulls v = v.remove v.leadsToNull ∧
    (∀ key path w, Under (withoutNulls v) (key :: path) w ↔
      ∃ u, Under v (key :: path) u ∧ u ≠ .null ∧ w = withoutNulls u) ∧
    (v.Canonical → ∀ key path, (withoutNulls v).under? (key :: path)
      = ((v.under? (key :: path)).filter fun u => !u.isNull).map withoutNulls) ∧
    withoutNulls (withoutNulls v) = withoutNulls v := by
  refine ⟨withoutNulls_eq_remove v, ?_, ?_, withoutNulls_idem v⟩
  · intro key path w
    exact under_cons_withoutNulls
  · intro canonical key path
    exact under?_withoutNulls canonical key path

/-- A value with nulls as members of its object, of an object in that and of one in an array. -/
def scattered : Value := .object [
  ("a", .null), ("b", .object [("c", .null)]), ("d", .array [.null, .object [("e", .null)]]),
  ("f", .text "")]

/-- What is left of it. -/
def gathered : Value := .object [
  ("b", .object []), ("d", .array [.null, .object [("e", .null)]]), ("f", .text "")]

theorem only_null_members_removed_scattered :
    scattered.Canonical ∧ withoutNulls scattered = gathered ∧
    gathered = scattered.remove scattered.leadsToNull ∧
    (∀ key path w, Under gathered (key :: path) w ↔
      ∃ u, Under scattered (key :: path) u ∧ u ≠ .null ∧ w = withoutNulls u) ∧
    (∀ key path, gathered.under? (key :: path)
      = ((scattered.under? (key :: path)).filter fun u => !u.isNull).map withoutNulls) ∧
    withoutNulls gathered = gathered := by
  have left : withoutNulls scattered = gathered := rfl
  have canonical : scattered.Canonical := by
    have outer : Ascending [("a", Value.null), ("b", .object [("c", .null)]),
        ("d", .array [.null, .object [("e", .null)]]), ("f", .text "")] := by
      rw [Ascending]
      decide
    exact ⟨outer, trivial, ⟨List.pairwise_singleton _ _, trivial, trivial⟩,
      ⟨trivial, ⟨List.pairwise_singleton _ _, trivial, trivial⟩, trivial⟩, trivial, trivial⟩
  obtain ⟨removed, found, value, again⟩ := only_null_members_removed scattered
  rw [left] at removed found value again
  exact ⟨canonical, left, removed, found, value canonical, again⟩

end HubPublisher.Event
