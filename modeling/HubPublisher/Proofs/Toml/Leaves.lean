import HubPublisher.Proofs.Toml.Ordered

/-!
The leaves of a table.

A leaf is a value that is no table, at the end of the keys on the way to it (`Leaf`). A walk through
the table meets them all, in an ordered table in the order of the first keys that differ
(`walk_ascending`), so that no two leaves have the same keys on the way.
-/
namespace HubPublisher.Toml

/-- A value in a table or in the tables inside it that is no table itself, with the keys on the way
to it. -/
inductive Leaf : List (String × Value) → List String → Value → Prop
  | here {entries : List (String × Value)} {key : String} {v : Value}
      (there : (key, v) ∈ entries) (plain : ∀ inner, v ≠ .table inner) : Leaf entries [key] v
  | inside {entries : List (String × Value)} {key : String} {inner : List (String × Value)}
      {path : List String} {v : Value} (there : (key, .table inner) ∈ entries)
      (leaf : Leaf inner path v) : Leaf entries (key :: path) v

variable {entries : List (String × Value)} {path : List String} {v : Value}

theorem Leaf.ne_nil (h : Leaf entries path v) : path ≠ [] := by
  cases h <;> exact List.cons_ne_nil _ _

/-! ## Walking through a table -/

mutual
/-- The leaves of a table in the order in which they stand. -/
def walk : List (String × Value) → List (List String × Value)
  | [] => []
  | (key, v) :: rest => (walkOf v).map (fun l => (key :: l.1, l.2)) ++ walk rest
/-- The leaves of a value, which is one itself unless it is a table. -/
def walkOf : Value → List (List String × Value)
  | .table entries => walk entries
  | v => [([], v)]
end

theorem walkOf_of_plain (plain : ∀ inner, v ≠ .table inner) : walkOf v = [([], v)] := by
  cases v with
  | table inner => exact absurd rfl (plain inner)
  | _ => rfl

theorem walk_eq_flatMap (entries : List (String × Value)) :
    walk entries = entries.flatMap fun e => (walkOf e.2).map fun l => (e.1 :: l.1, l.2) := by
  induction entries with
  | nil => rfl
  | cons e entries ih => rw [walk, List.flatMap_cons, ih]

theorem mem_walk {l : List String × Value} : l ∈ walk entries ↔
    ∃ e ∈ entries, ∃ l' ∈ walkOf e.2, (e.1 :: l'.1, l'.2) = l := by
  simp only [walk_eq_flatMap, List.mem_flatMap, List.mem_map]

/-- The walk meets the leaves and nothing else. -/
theorem mem_walk_iff : (path, v) ∈ walk entries ↔ Leaf entries path v := by
  constructor
  · -- every step of the walk leaves one key of the path behind
    intro met
    induction path generalizing entries with
    | nil =>
      obtain ⟨e, -, l, -, same⟩ := mem_walk.1 met
      cases same
    | cons key path ih =>
      obtain ⟨⟨k, w⟩, there, l, inside, same⟩ := mem_walk.1 met
      cases same
      by_cases table : ∃ inner, w = .table inner
      · obtain ⟨inner, rfl⟩ := table
        exact .inside there (ih inside)
      · have plain := not_exists.1 table
        rw [walkOf_of_plain plain] at inside
        cases List.mem_singleton.1 inside
        exact .here there plain
  · intro leaf
    induction leaf with
    | @here entries key v there plain =>
      refine mem_walk.2 ⟨(key, v), there, ([], v), ?_, rfl⟩
      rw [walkOf_of_plain plain]
      exact List.mem_singleton.2 rfl
    | @inside entries key inner path v there leaf ih =>
      exact mem_walk.2 ⟨(key, .table inner), there, (path, v), ih, rfl⟩

/-- Leaves come in the order of the first keys on the way that differ. -/
def Precedes (path path' : List String) : Prop := List.Lex (· < ·) path path'

theorem Precedes.asymm {path path' : List String} (h : Precedes path path') :
    ¬Precedes path' path := List.lt_asymm h

theorem Precedes.ne {path path' : List String} (h : Precedes path path') : path ≠ path' := by
  rintro rfl
  exact h.asymm h

/-- The walk through an ordered table meets the leaves in this order. -/
theorem walk_ascending (h : Ordered entries) :
    (walk entries).Pairwise fun l l' => Precedes l.1 l'.1 := by
  induction h with
  | @intro entries ascending below ih =>
    have within : ∀ e ∈ entries, (walkOf e.2).Pairwise fun l l' => Precedes l.1 l'.1 := by
      intro e there
      by_cases table : ∃ inner, e.2 = .table inner
      · obtain ⟨inner, same⟩ := table
        rw [same]
        exact ih e.1 inner (same ▸ there)
      · rw [walkOf_of_plain (not_exists.1 table)]
        exact List.pairwise_singleton _ _
    rw [walk_eq_flatMap, List.pairwise_flatMap]
    refine ⟨?_, ascending.imp ?_⟩
    · intro e there
      rw [List.pairwise_map]
      exact (within e there).imp List.Lex.cons
    · intro e e' lt l met l' met'
      obtain ⟨_, -, rfl⟩ := List.mem_map.1 met
      obtain ⟨_, -, rfl⟩ := List.mem_map.1 met'
      exact List.Lex.rel lt

/-- No two leaves of an ordered table have the same keys on the way. -/
theorem paths_nodup (h : Ordered entries) : ((walk entries).map (·.1)).Nodup :=
  List.pairwise_map.2 ((walk_ascending h).imp Precedes.ne)

end HubPublisher.Toml
