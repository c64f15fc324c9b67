import HubPublisher.Keyed

/-!
What a collection gives under a key, and what becomes of it when it is filed again.

The entries of a collection are what it gives under their keys. A collection filed from pairs gives
the last of those under a key (`Keyed.get?_ofList`, `Keyed.get?_ofList_eq_some_iff`). Filing keys in
ascending order appends, so a collection filed again from its own entries, in their order, is the
collection it was.
-/
namespace HubPublisher

variable {α β : Type}

/-! ## The last of several -/

/-- The last member of a list that has a property. -/
def IsLast (P : α → Prop) (l : List α) (a : α) : Prop :=
  ∃ before after, l = before ++ a :: after ∧ P a ∧ ∀ b ∈ after, ¬P b

/-- The last one is the last one of the rest, or else it is the first. -/
theorem isLast_cons {P : α → Prop} {x a : α} {l : List α} :
    IsLast P (x :: l) a ↔ IsLast P l a ∨ a = x ∧ P a ∧ ∀ b ∈ l, ¬P b := by
  constructor
  · rintro ⟨before, after, split, has, none⟩
    cases before with
    | nil =>
      obtain ⟨rfl, rfl⟩ := List.cons.inj split
      exact .inr ⟨rfl, has, none⟩
    | cons y before =>
      obtain ⟨-, rest⟩ := List.cons.inj split
      exact .inl ⟨before, after, rest, has, none⟩
  · rintro (⟨before, after, rfl, has, none⟩ | ⟨rfl, has, none⟩)
    · exact ⟨x :: before, after, rfl, has, none⟩
    · exact ⟨[], l, rfl, has, none⟩

theorem not_isLast_nil {P : α → Prop} {a : α} : ¬IsLast P [] a := by
  rintro ⟨before, after, split, -⟩
  exact List.append_ne_nil_of_right_ne_nil before (List.cons_ne_nil a after) split.symm

theorem isLast_map {P : β → Prop} {f : α → β} {l : List α} {b : β} :
    IsLast P (l.map f) b ↔ ∃ a, IsLast (fun x => P (f x)) l a ∧ f a = b := by
  induction l with
  | nil => simp [not_isLast_nil]
  | cons x l ih =>
    simp only [List.map_cons, isLast_cons, ih, List.forall_mem_map, or_and_right, exists_or]
    refine or_congr Iff.rfl ⟨?_, ?_⟩
    · rintro ⟨rfl, rest⟩
      exact ⟨x, ⟨rfl, rest⟩, rfl⟩
    · rintro ⟨a, ⟨rfl, rest⟩, rfl⟩
      exact ⟨rfl, rest⟩

/-- The last one of those that were kept is the last one that both was kept and has the property. -/
theorem isLast_filter {P : α → Prop} {kept : α → Bool} {l : List α} {a : α} :
    IsLast P (l.filter kept) a ↔ IsLast (fun x => kept x = true ∧ P x) l a := by
  induction l with
  | nil => simp [not_isLast_nil]
  | cons x l ih =>
    rw [List.filter_cons, isLast_cons, ← ih]
    by_cases keeps : kept x = true
    · rw [if_pos keeps, isLast_cons]
      refine or_congr Iff.rfl (and_congr_right ?_)
      rintro rfl
      simp [keeps]
    · rw [if_neg keeps]
      refine (or_iff_left ?_).symm
      rintro ⟨rfl, ⟨kept, -⟩, -⟩
      exact keeps kept

/-- Where the members of a list ascend, the last one with a property is the greatest. -/
theorem isLast_iff_of_pairwise {R : α → α → Prop} {P : α → Prop} {l : List α} {a : α}
    (ascending : l.Pairwise R) (asymm : ∀ a b, R a b → ¬R b a) :
    IsLast P l a ↔ a ∈ l ∧ P a ∧ ∀ b ∈ l, P b → ¬R a b := by
  constructor
  · rintro ⟨before, after, rfl, has, none⟩
    refine ⟨List.mem_append_right _ List.mem_cons_self, has, fun b there hasToo greater => ?_⟩
    rcases List.mem_append.1 there with early | late
    · have less := (List.pairwise_append.1 ascending).2.2 b early a List.mem_cons_self
      exact asymm b a less greater
    · rcases List.mem_cons.1 late with rfl | behind
      · exact asymm b b greater greater
      · exact none b behind hasToo
  · rintro ⟨there, has, greatest⟩
    obtain ⟨before, after, rfl⟩ := List.append_of_mem there
    refine ⟨before, after, rfl, has, fun b behind hasToo => ?_⟩
    have less := List.rel_of_pairwise_cons (List.pairwise_append.1 ascending).2.1 behind
    exact greatest b (List.mem_append_right _ (List.mem_cons_of_mem a behind)) hasToo less

theorem insertEntry_of_last {key : String} (value : α) {entries : List (String × α)}
    (last : ∀ e ∈ entries, e.1 < key) :
    insertEntry key value entries = entries ++ [(key, value)] := by
  induction entries with
  | nil => rfl
  | cons e rest ih =>
    have before : e.1 < key := last e List.mem_cons_self
    have more := ih fun e' h => last e' (List.mem_cons_of_mem e h)
    rw [insertEntry, if_neg (String.lt_asymm before), if_neg (String.ne_of_lt before).symm, more]
    rfl

theorem mem_of_lookup {pairs : List (String × α)} {key : String} {a : α}
    (found : pairs.lookup key = some a) : (key, a) ∈ pairs := by
  obtain ⟨before, after, rfl, -⟩ := List.lookup_eq_some_iff.1 found
  exact List.mem_append_right _ List.mem_cons_self

/-- Where no key comes twice, a pair is there exactly when it is found under its key. -/
theorem mem_iff_lookup {pairs : List (String × α)} (apart : (pairs.map (·.1)).Nodup)
    {e : String × α} : e ∈ pairs ↔ pairs.lookup e.1 = some e.2 := by
  rw [List.lookup_eq_some_iff]
  constructor
  · intro member
    obtain ⟨before, after, split⟩ := List.append_of_mem member
    refine ⟨before, after, split, ?_⟩
    intro p early
    rw [split, List.map_append, List.map_cons] at apart
    have other : p.1 ≠ e.1 := (List.nodup_append.1 apart).2.2 p.1 (List.mem_map_of_mem early) e.1
      List.mem_cons_self
    exact bne_iff_ne.2 other.symm
  · intro ⟨before, after, split, _⟩
    rw [split]
    exact List.mem_append_right _ List.mem_cons_self

theorem Ascending.nodup_keys {entries : List (String × α)} (h : Ascending entries) :
    (entries.map (·.1)).Nodup := by
  rw [List.Nodup, List.pairwise_map]
  exact h.imp fun lt => String.ne_of_lt lt

namespace Keyed

/-- The key after the filed ones is greater than each of them. -/
theorem lt_of_entries {m filed : Keyed α} {e : String × α} {more : List (String × α)}
    (h : m.entries = filed.entries ++ e :: more) : ∀ e' ∈ filed.entries, e'.1 < e.1 := by
  intro e' filed
  have ascending := m.ascending
  rw [h] at ascending
  exact (List.pairwise_append.1 ascending).2.2 e' filed e List.mem_cons_self

theorem entries_insert_of_last {m filed : Keyed α} {e : String × α} {more : List (String × α)}
    (h : m.entries = filed.entries ++ e :: more) :
    (filed.insert e.1 e.2).entries = filed.entries ++ [e] :=
  insertEntry_of_last e.2 (lt_of_entries h)

theorem contains_of_last {m filed : Keyed α} {e : String × α} {more : List (String × α)}
    (h : m.entries = filed.entries ++ e :: more) : filed.contains e.1 = false := by
  rw [contains, List.any_eq_false]
  intro e' filed same
  have before : e'.1 < e.1 := lt_of_entries h e' filed
  exact String.ne_of_lt before (by simpa using same)

theorem eq_of_entries {m m' : Keyed α} (h : m.entries = m'.entries) : m = m' := by
  cases m
  cases m'
  congr

/-- Filing the entries that are still missing completes the collection. -/
theorem foldl_insert {m : Keyed α} (more : List (String × α)) (filed : Keyed α)
    (h : m.entries = filed.entries ++ more) :
    more.foldl (fun m p => m.insert p.1 p.2) filed = m := by
  induction more generalizing filed with
  | nil =>
    apply eq_of_entries
    rw [List.foldl_nil, h, List.append_nil]
  | cons e more ih =>
    apply ih
    rw [entries_insert_of_last h, h, List.append_assoc, List.singleton_append]

theorem ofList_entries (m : Keyed α) : ofList m.entries = m := foldl_insert m.entries empty rfl

/-! ## What a collection gives -/

/-- No key is there twice, so every entry is found under its key. -/
theorem mem_entries_iff {m : Keyed α} {e : String × α} :
    e ∈ m.entries ↔ m.get? e.1 = some e.2 :=
  mem_iff_lookup m.ascending.nodup_keys

theorem nodup_entries (m : Keyed α) : m.entries.Nodup :=
  m.ascending.imp fun lt equal => String.ne_of_lt lt (congrArg Prod.fst equal)

/-- Collections that give the same under every key are the same. -/
theorem eq_of_get? {m m' : Keyed α} (same : ∀ k, m.get? k = m'.get? k) : m = m' := by
  have members : ∀ e, e ∈ m.entries ↔ e ∈ m'.entries := by
    intro e
    rw [mem_entries_iff, mem_entries_iff, same]
  apply eq_of_entries
  apply List.Perm.eq_of_pairwise _ m.ascending m'.ascending
  · exact (List.perm_ext_iff_of_nodup m.nodup_entries m'.nodup_entries).2 members
  · intro a b _ _ lt gt
    exact absurd gt (String.lt_asymm lt)

theorem contains_eq_isSome (m : Keyed α) (k : String) : m.contains k = (m.get? k).isSome := by
  rw [Bool.eq_iff_iff, contains, get?, List.lookup_isSome_iff, List.any_eq_true]
  simp only [beq_iff_eq, @eq_comm _ k]

/-- A key that was not there adds its entry. -/
theorem mem_insert_of_absent {m : Keyed α} {k : String} {v : α} (absent : m.contains k = false)
    {e : String × α} : e ∈ (m.insert k v).entries ↔ e = (k, v) ∨ e ∈ m.entries := by
  rw [contains_eq_isSome, Option.isSome_eq_false_iff, Option.isNone_iff_eq_none] at absent
  obtain ⟨key, value⟩ := e
  rw [mem_entries_iff, mem_entries_iff, get?_insert]
  by_cases same : key = k
  · simp [same, absent, eq_comm]
  · simp [same]

theorem contains_insert (m : Keyed α) (k key : String) (v : α) :
    (m.insert k v).contains key = true ↔ key = k ∨ m.contains key = true := by
  rw [contains_eq_isSome, contains_eq_isSome, get?_insert]
  by_cases same : key = k
  · simp [same]
  · simp [same]

theorem get?_foldl_insert (pairs : List (String × α)) (m : Keyed α) (k : String) :
    (pairs.foldl (fun m p => m.insert p.1 p.2) m).get? k
      = (pairs.reverse.lookup k).or (m.get? k) := by
  induction pairs generalizing m with
  | nil => rfl
  | cons p rest ih =>
    rw [List.foldl_cons, ih, get?_insert, List.reverse_cons, List.lookup_append, Option.or_assoc,
      lookup_cons_eq_ite]
    congr 1
    split
    · rfl
    · rfl

/-- Of several pairs under one key the last is given. -/
theorem get?_ofList (pairs : List (String × α)) (k : String) :
    (ofList pairs).get? k = pairs.reverse.lookup k := by
  rw [ofList, get?_foldl_insert, get?_empty, Option.or_none]

/-- What is given under a key is the value behind which the key does not come again. -/
theorem lookup_reverse_of_last {before after : List (String × α)} {e : String × α}
    (last : e.1 ∉ after.map (·.1)) : (before ++ e :: after).reverse.lookup e.1 = some e.2 := by
  rw [List.lookup_eq_some_iff]
  refine ⟨after.reverse, before.reverse, by simp, ?_⟩
  intro p later
  have other : e.1 ≠ p.1 := by
    intro same
    apply last
    rw [same]
    exact List.mem_map_of_mem (List.mem_reverse.1 later)
  exact bne_iff_ne.2 other

/-- What is given under a key is the value of the last pair under it. -/
theorem get?_ofList_eq_some_iff {pairs : List (String × α)} {k : String} {v : α} :
    (ofList pairs).get? k = some v ↔ IsLast (·.1 = k) pairs (k, v) := by
  rw [get?_ofList]
  constructor
  · intro found
    obtain ⟨later, earlier, split, other⟩ := List.lookup_eq_some_iff.1 found
    refine ⟨earlier.reverse, later.reverse, ?_, rfl, ?_⟩
    · rw [← pairs.reverse_reverse, split]
      simp
    · intro p behind same
      exact bne_iff_ne.1 (other p (List.mem_reverse.1 behind)) same.symm
  · rintro ⟨before, after, rfl, -, none⟩
    have last : k ∉ after.map (·.1) := by
      intro listed
      obtain ⟨p, behind, same⟩ := List.mem_map.1 listed
      exact none p behind same
    exact lookup_reverse_of_last (e := (k, v)) last

/-- Nothing is given under a key that no pair has. -/
theorem get?_ofList_eq_none_iff {pairs : List (String × α)} {k : String} :
    (ofList pairs).get? k = none ↔ ∀ p ∈ pairs, p.1 ≠ k := by
  simp only [get?_ofList, List.lookup_eq_none_iff, List.mem_reverse, bne_iff_ne, ne_comm]

/-- A collection filed from pairs whose keys are all different has as many entries. -/
theorem size_ofList {pairs : List (String × α)} (apart : (pairs.map (·.1)).Nodup) :
    (ofList pairs).size = pairs.length := by
  have backwards : (pairs.reverse.map (·.1)).Nodup := by
    rw [List.map_reverse, List.Nodup, List.pairwise_reverse]
    exact apart.imp Ne.symm
  have distinct : pairs.Nodup :=
    List.Pairwise.of_map (·.1) (fun _ _ other same => other (congrArg Prod.fst same)) apart
  have members : ∀ e, e ∈ (ofList pairs).entries ↔ e ∈ pairs := by
    intro e
    rw [mem_entries_iff, get?_ofList, ← mem_iff_lookup backwards, List.mem_reverse]
  exact ((List.perm_ext_iff_of_nodup (nodup_entries _) distinct).2 members).length_eq

/-! ## Leaving a key out -/

theorem lookup_filter_ne (key : String) (pairs : List (String × α)) (k : String) :
    (pairs.filter (·.1 ≠ key)).lookup k = if k = key then none else pairs.lookup k := by
  induction pairs with
  | nil => simp
  | cons p rest ih =>
    rw [List.filter_cons, lookup_cons_eq_ite]
    by_cases left : p.1 = key
    · rw [if_neg (by simpa using left), ih]
      by_cases asked : k = key
      · rw [if_pos asked, if_pos asked]
      · rw [if_neg asked, if_neg asked, if_neg fun same => asked (same.trans left)]
    · rw [if_pos (by simpa using left), lookup_cons_eq_ite, ih]
      by_cases same : k = p.1
      · rw [if_pos same, if_pos same, if_neg fun asked => left (same.symm.trans asked)]
      · rw [if_neg same, if_neg same]

/-! ## Changing the values -/

theorem lookup_map_values (f : α → β) (pairs : List (String × α)) (k : String) :
    (pairs.map fun p => (p.1, f p.2)).lookup k = (pairs.lookup k).map f := by
  induction pairs with
  | nil => rfl
  | cons p rest ih =>
    rw [List.map_cons, lookup_cons_eq_ite, lookup_cons_eq_ite, ih]
    split
    · rfl
    · rfl

/-- The collection with each value changed, under the keys that it had. -/
def mapValues (f : α → β) (m : Keyed α) : Keyed β where
  entries := m.entries.map fun e => (e.1, f e.2)
  ascending := by
    rw [Ascending, List.pairwise_map]
    exact m.ascending

theorem get?_mapValues (f : α → β) (m : Keyed α) (k : String) :
    (m.mapValues f).get? k = (m.get? k).map f :=
  lookup_map_values f m.entries k

end Keyed

end HubPublisher
