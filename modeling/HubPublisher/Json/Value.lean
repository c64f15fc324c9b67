import HubPublisher.Keyed
import HubPublisher.Number.Shortest

/-!
JSON values and their text.

An object is the list of its members as they stand. A value is canonical when every object in it
has its members in ascending order of their keys, each key once; `Value.sorted` brings a value to
that form, the last of several members with one key staying.

The text has no white space. It escapes the quotation mark, the backslash and the control
characters below U+0020, those with a short escape by it, and nothing else.
-/
namespace HubPublisher.Json

/-- A whole number that sixty-four bits can hold, with or without a sign. -/
structure Integer where
  val : Int
  lower : -0x8000000000000000 ≤ val
  upper : val < 0x10000000000000000
  deriving DecidableEq

/-- The whole number, if it is in range. -/
def Integer.ofInt? (n : Int) : Option Integer :=
  if h : -0x8000000000000000 ≤ n ∧ n < 0x10000000000000000 then some ⟨n, h.1, h.2⟩ else none

inductive Value where
  | null
  | boolean (b : Bool)
  | integer (n : Integer)
  | float (x : Number.Binary64)
  | text (s : String)
  | array (items : List Value)
  | object (members : List (String × Value))

namespace Value

def isNull : Value → Bool
  | null => true
  | _ => false

mutual
/-- The value with the members of every object in ascending order of their keys. -/
def sorted : Value → Value
  | array items => array (sortedItems items)
  | object members => object (sortedMembers members)
  | v => v
def sortedItems : List Value → List Value
  | [] => []
  | v :: rest => sorted v :: sortedItems rest
/-- A member whose key comes again further on is left out. -/
def sortedMembers : List (String × Value) → List (String × Value)
  | [] => []
  | (key, v) :: rest => insertAbsent key (sorted v) (sortedMembers rest)
end

mutual
/-- Whether the members of every object stand in ascending order, each key once. -/
def Canonical : Value → Prop
  | array items => CanonicalItems items
  | object members => Ascending members ∧ CanonicalMembers members
  | _ => True
def CanonicalItems : List Value → Prop
  | [] => True
  | v :: rest => Canonical v ∧ CanonicalItems rest
def CanonicalMembers : List (String × Value) → Prop
  | [] => True
  | (_, v) :: rest => Canonical v ∧ CanonicalMembers rest
end

mutual
/-- How deep the containers of a value nest. -/
def depth : Value → Nat
  | array items => depthItems items + 1
  | object members => depthMembers members + 1
  | _ => 0
def depthItems : List Value → Nat
  | [] => 0
  | v :: rest => max (depth v) (depthItems rest)
def depthMembers : List (String × Value) → Nat
  | [] => 0
  | (_, v) :: rest => max (depth v) (depthMembers rest)
end

theorem insertAbsent_of_ascending {α : Type} {key : String} {v : α} {rest : List (String × α)}
    (h : Ascending ((key, v) :: rest)) : insertAbsent key v rest = (key, v) :: rest := by
  cases rest with
  | nil => rfl
  | cons e rest =>
    have : key < e.1 := (List.pairwise_cons.1 h).1 e List.mem_cons_self
    simp [insertAbsent, this]

mutual
/-- A canonical value is already sorted. -/
theorem sorted_of_canonical (v : Value) (h : v.Canonical) : v.sorted = v := by
  cases v with
  | array items => rw [sorted, sortedItems_of_canonical items (by simpa [Canonical] using h)]
  | object members =>
    rw [Canonical] at h
    rw [sorted, sortedMembers_of_canonical members h.1 h.2]
  | _ => rfl
theorem sortedItems_of_canonical (items : List Value) (h : CanonicalItems items) :
    sortedItems items = items := by
  cases items with
  | nil => rfl
  | cons v rest =>
    rw [CanonicalItems] at h
    rw [sortedItems, sorted_of_canonical v h.1, sortedItems_of_canonical rest h.2]
theorem sortedMembers_of_canonical (members : List (String × Value)) (ha : Ascending members)
    (h : CanonicalMembers members) : sortedMembers members = members := by
  match members with
  | [] => rfl
  | (key, v) :: rest =>
    rw [CanonicalMembers] at h
    rw [sortedMembers, sorted_of_canonical v h.1,
      sortedMembers_of_canonical rest (List.pairwise_cons.1 ha).2 h.2,
      insertAbsent_of_ascending ha]
end

end Value

/-! ## Text -/

/-- How floating-point numbers are written: positional from `1e-5` up to below `1e16`. -/
def floatFormat : Number.FloatFormat := ⟨-4, 16⟩

/-- A character inside a quoted text. -/
def escapeChar (c : Char) : List Char :=
  if c = '"' then ['\\', '"']
  else if c = '\\' then ['\\', '\\']
  else if c = '\n' then ['\\', 'n']
  else if c = '\r' then ['\\', 'r']
  else if c = '\t' then ['\\', 't']
  else if c = Char.ofNat 8 then ['\\', 'b']
  else if c = Char.ofNat 12 then ['\\', 'f']
  else if c.toNat < 32 then
    ['\\', 'u', '0', '0', Char.ofNat (48 + c.toNat / 16),
      Char.ofNat (if c.toNat % 16 < 10 then 48 + c.toNat % 16 else 87 + c.toNat % 16)]
  else [c]

def quoteChars (cs : List Char) : List Char := '"' :: (cs.flatMap escapeChar ++ ['"'])

def quote (s : String) : String := String.ofList (quoteChars s.toList)

namespace Value

mutual
/-- The characters of a value's text. -/
def chars : Value → List Char
  | null => ['n', 'u', 'l', 'l']
  | boolean true => ['t', 'r', 'u', 'e']
  | boolean false => ['f', 'a', 'l', 's', 'e']
  | integer n => (toString n.val).toList
  | float x => (floatFormat.write x).toList
  | text s => quoteChars s.toList
  | array items => '[' :: (charsItems items ++ [']'])
  | object members => '{' :: (charsMembers members ++ ['}'])
/-- Items with commas between them. -/
def charsItems : List Value → List Char
  | [] => []
  | [v] => chars v
  | v :: w :: rest => chars v ++ ',' :: charsItems (w :: rest)
/-- Members with commas between them. -/
def charsMembers : List (String × Value) → List Char
  | [] => []
  | [(key, v)] => quoteChars key.toList ++ ':' :: chars v
  | (key, v) :: m :: rest =>
    quoteChars key.toList ++ ':' :: (chars v ++ ',' :: charsMembers (m :: rest))
end

/-- The text of a value. -/
def write (v : Value) : String := String.ofList v.chars

end Value

end HubPublisher.Json
