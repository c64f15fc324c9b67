/-!
Values filed under text keys, in ascending key order.

The order is part of the type, so two collections are equal exactly when they hold the same value
under every key, and whatever is written out of one comes out sorted.
-/
namespace HubPublisher

variable {α : Type}

/-- Pairs in strictly ascending order of their keys. -/
def Ascending (entries : List (String × α)) : Prop :=
  entries.Pairwise (fun a b => a.1 < b.1)

/-- Files a value under a key; one already there is replaced. -/
def insertEntry (key : String) (value : α) : List (String × α) → List (String × α)
  | [] => [(key, value)]
  | e :: rest =>
    if key < e.1 then (key, value) :: e :: rest
    else if key = e.1 then (key, value) :: rest
    else e :: insertEntry key value rest

/-- Files a value under a key unless the key is taken. -/
def insertAbsent (key : String) (value : α) : List (String × α) → List (String × α)
  | [] => [(key, value)]
  | e :: rest =>
    if key < e.1 then (key, value) :: e :: rest
    else if key = e.1 then e :: rest
    else e :: insertAbsent key value rest

theorem lt_of_not_lt_of_ne {a b : String} (h : ¬a < b) (h' : a ≠ b) : b < a := by
  have hle : b ≤ a := h
  apply Decidable.byContradiction
  intro hn
  exact h' (String.le_antisymm hn hle)

theorem mem_insertEntry {key : String} {value : α} {entries : List (String × α)}
    {e : String × α} (h : e ∈ insertEntry key value entries) : e = (key, value) ∨ e ∈ entries := by
  induction entries with
  | nil => simpa [insertEntry] using h
  | cons a rest ih =>
    unfold insertEntry at h
    split at h
    · simpa using h
    · split at h
      · rcases List.mem_cons.1 h with h | h
        · exact .inl h
        · exact .inr (List.mem_cons_of_mem _ h)
      · rcases List.mem_cons.1 h with h | h
        · exact .inr (h ▸ List.mem_cons_self)
        · exact (ih h).imp id (List.mem_cons_of_mem _)

theorem Ascending.insertEntry {key : String} {value : α} {entries : List (String × α)}
    (h : Ascending entries) : Ascending (insertEntry key value entries) := by
  induction entries with
  | nil => simp [HubPublisher.insertEntry, Ascending]
  | cons a rest ih =>
    obtain ⟨ha, hrest⟩ := List.pairwise_cons.1 h
    unfold HubPublisher.insertEntry
    split
    · rename_i hlt
      refine List.pairwise_cons.2 ⟨fun e he => ?_, h⟩
      rcases List.mem_cons.1 he with rfl | he
      · exact hlt
      · exact String.lt_trans hlt (ha e he)
    · split
      · rename_i heq
        exact List.pairwise_cons.2 ⟨fun e he => by simpa [heq] using ha e he, hrest⟩
      · rename_i hnlt hne
        refine List.pairwise_cons.2 ⟨fun e he => ?_, ih hrest⟩
        rcases mem_insertEntry he with rfl | he
        · exact lt_of_not_lt_of_ne hnlt hne
        · exact ha e he

/-- A collection of values under text keys, each key once and the keys ascending. -/
structure Keyed (α : Type) where
  entries : List (String × α)
  ascending : Ascending entries

namespace Keyed

def empty : Keyed α := ⟨[], List.Pairwise.nil⟩

instance : Inhabited (Keyed α) := ⟨empty⟩

/-- Files a value under a key; one already there is replaced. -/
def insert (m : Keyed α) (key : String) (value : α) : Keyed α :=
  ⟨insertEntry key value m.entries, m.ascending.insertEntry⟩

/-- Files pairs from left to right, so that of two with one key the later stays. -/
def ofList (pairs : List (String × α)) : Keyed α :=
  pairs.foldl (fun m p => m.insert p.1 p.2) empty

def get? (m : Keyed α) (key : String) : Option α := m.entries.lookup key

def contains (m : Keyed α) (key : String) : Bool := m.entries.any (·.1 == key)

def keys (m : Keyed α) : List String := m.entries.map (·.1)

def size (m : Keyed α) : Nat := m.entries.length

def isEmpty (m : Keyed α) : Bool := m.entries.isEmpty

theorem lookup_cons_eq_ite (k : String) (e : String × α) (rest : List (String × α)) :
    (e :: rest).lookup k = if k = e.1 then some e.2 else rest.lookup k := by
  obtain ⟨a, v⟩ := e
  by_cases h : k = a
  · simp [h]
  · have : (k == a) = false := by simpa using h
    simp [List.lookup_cons, this, h]

theorem lookup_insertEntry (key k : String) (value : α) (entries : List (String × α)) :
    (insertEntry key value entries).lookup k
      = if k = key then some value else entries.lookup k := by
  induction entries with
  | nil => simp only [insertEntry, lookup_cons_eq_ite]
  | cons e rest ih =>
    unfold insertEntry
    split
    · simp only [lookup_cons_eq_ite]
    · split
      · rename_i heq
        simp only [lookup_cons_eq_ite, ← heq]
        split <;> rfl
      · rename_i hne
        simp only [lookup_cons_eq_ite, ih]
        by_cases he : k = e.1
        · rw [if_pos he, if_pos he, if_neg (fun h : k = key => hne (h ▸ he))]
        · rw [if_neg he, if_neg he]

@[simp] theorem get?_empty (k : String) : (empty : Keyed α).get? k = none := rfl

/-- What was filed last under a key is what the key gives. -/
theorem get?_insert (m : Keyed α) (key k : String) (value : α) :
    (m.insert key value).get? k = if k = key then some value else m.get? k :=
  lookup_insertEntry key k value m.entries

end Keyed

end HubPublisher
