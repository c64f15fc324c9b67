import HubPublisher.Proofs.Keyed
import HubPublisher.Toml.Reader

/-!
Tables in key order.

The list of a table's entries says no more than the table if no key comes twice and the keys ascend,
in the table and in every table inside it (`Ordered`). That is so of every table that is read from
text (`ordered_of_parse?`): a table comes into being by filing one entry after the other, and filing
keeps the order.
-/
namespace HubPublisher.Toml

/-- The keys of a table ascend, and so do those of the tables inside it. -/
inductive Ordered : List (String × Value) → Prop
  | intro {entries : List (String × Value)} (ascending : Ascending entries)
      (below : ∀ key inner, (key, Value.table inner) ∈ entries → Ordered inner) : Ordered entries

/-- The same of a table that is being built. What will be an array does not count. -/
inductive ItemsOrdered : Items → Prop
  | intro {items : Items} (ascending : Ascending items)
      (tables : ∀ key origin inner, (key, Item.table origin inner) ∈ items → ItemsOrdered inner)
      (values : ∀ key inner, (key, Item.value (.table inner)) ∈ items → Ordered inner) :
      ItemsOrdered items

variable {entries : List (String × Value)} {items : Items} {s s' : Section} {v : Value}

/-- A value that is a table is an ordered one. -/
def Value.Tidy (v : Value) : Prop := ∀ inner, v = .table inner → Ordered inner

theorem Ordered.ascending (h : Ordered entries) : Ascending entries := by
  cases h
  assumption

theorem Ordered.of_tidy (ascending : Ascending entries) (tidy : ∀ e ∈ entries, e.2.Tidy) :
    Ordered entries :=
  .intro ascending fun key inner there => tidy (key, .table inner) there inner rfl

theorem ItemsOrdered.nil : ItemsOrdered [] := .intro .nil nofun nofun

/-! ## Filing -/

/-- What may be filed in a table that is ordered. -/
structure Item.Tidy (item : Item) : Prop where
  table : ∀ origin inner, item = .table origin inner → ItemsOrdered inner
  value : ∀ v, item = .value v → v.Tidy

theorem Item.tidy_value (h : v.Tidy) : (Item.value v).Tidy where
  table := nofun
  value := by
    rintro _ ⟨⟩
    exact h

theorem Item.tidy_table (origin : Origin) (h : ItemsOrdered items) :
    (Item.table origin items).Tidy where
  table := by
    rintro _ _ ⟨⟩
    exact h
  value := nofun

theorem Item.tidy_tables (newestFirst : List Items) : (Item.tables newestFirst).Tidy where
  table := nofun
  value := nofun

theorem ItemsOrdered.insert (h : ItemsOrdered items) (key : String) {item : Item}
    (tidy : item.Tidy) : ItemsOrdered (insertEntry key item items) := by
  obtain ⟨ascending, tables, values⟩ := h
  refine .intro ascending.insertEntry ?_ ?_
  · intro k origin inner there
    rcases mem_insertEntry there with new | old
    · cases new
      exact tidy.table origin inner rfl
    · exact tables k origin inner old
  · intro k inner there
    rcases mem_insertEntry there with new | old
    · cases new
      exact tidy.value _ rfl inner rfl
    · exact values k inner old

theorem ItemsOrdered.table (h : ItemsOrdered items) {key : String} {origin : Origin}
    {inner : Items} (found : items.lookup key = some (.table origin inner)) :
    ItemsOrdered inner := by
  obtain ⟨-, tables, -⟩ := h
  exact tables key origin inner (mem_of_lookup found)

/-- A change deep in a table keeps the order if it keeps it where it is made. -/
theorem changeAt_ordered {made : Origin} {change : Section → Option Section}
    (keeps : ∀ s s', ItemsOrdered s.2 → change s = some s' → ItemsOrdered s'.2)
    (path : List String) (h : ItemsOrdered s.2) (changed : changeAt made change path s = some s') :
    ItemsOrdered s'.2 := by
  induction path generalizing s s' with
  | nil => exact keeps s s' h changed
  | cons key path ih =>
    obtain ⟨origin, items⟩ := s
    rw [changeAt] at changed
    split at changed
    · obtain ⟨t, below, rfl⟩ := Option.map_eq_some_iff.1 changed
      exact h.insert key (Item.tidy_table t.1 (ih .nil below))
    · rename_i o inner found
      split at changed
      · cases changed
      · obtain ⟨t, below, rfl⟩ := Option.map_eq_some_iff.1 changed
        exact h.insert key (Item.tidy_table t.1 (ih (h.table found) below))
    · obtain ⟨t, -, rfl⟩ := Option.map_eq_some_iff.1 changed
      exact h.insert key (Item.tidy_tables _)
    · cases changed

theorem addValue_ordered {path : List String} {key : String} (tidy : v.Tidy)
    (h : ItemsOrdered s.2) (added : addValue path key v s = some s') : ItemsOrdered s'.2 := by
  refine changeAt_ordered (fun s s' h filed => ?_) path h added
  obtain ⟨origin, items⟩ := s
  simp only at filed
  split at filed
  · cases filed
  · split at filed
    · cases filed
    · cases filed
      exact h.insert key (Item.tidy_value tidy)

theorem openTable_ordered {path : List String} {key : String} (h : ItemsOrdered s.2)
    (opened : openTable path key s = some s') : ItemsOrdered s'.2 := by
  refine changeAt_ordered (fun s s' h filed => ?_) path h opened
  obtain ⟨origin, items⟩ := s
  simp only at filed
  split at filed
  · cases filed
    exact h.insert key (Item.tidy_table .header .nil)
  · rename_i inner found
    cases filed
    exact h.insert key (Item.tidy_table .header (h.table found))
  · cases filed

theorem openTables_ordered {path : List String} {key : String} (h : ItemsOrdered s.2)
    (opened : openTables path key s = some s') : ItemsOrdered s'.2 := by
  refine changeAt_ordered (fun s s' h filed => ?_) path h opened
  obtain ⟨origin, items⟩ := s
  simp only at filed
  split at filed
  · cases filed
    exact h.insert key (Item.tidy_tables _)
  · cases filed
    exact h.insert key (Item.tidy_tables _)
  · cases filed

theorem finishEntries_eq_map (items : Items) :
    finishEntries items = items.map fun e => (e.1, e.2.finish) := by
  induction items with
  | nil => rfl
  | cons e items ih => rw [finishEntries, List.map_cons, ih]

/-- A finished table is in order. -/
theorem ItemsOrdered.finish (h : ItemsOrdered items) : Ordered (finishEntries items) := by
  induction h with
  | intro ascending tables values ih =>
    rw [finishEntries_eq_map]
    refine .intro (List.pairwise_map.2 ascending) ?_
    intro key inner there
    obtain ⟨⟨k, item⟩, filed, same⟩ := List.mem_map.1 there
    obtain ⟨rfl, finished⟩ := Prod.mk.inj same
    cases item with
    | value v =>
      obtain rfl : v = .table inner := finished
      exact values _ inner filed
    | table origin below =>
      obtain rfl : finishEntries below = inner := Value.table.inj finished
      exact ih _ origin below filed
    | tables newestFirst => cases finished

/-! ## Reading -/

variable {cs rest : List Char} {negative : Bool}

theorem tidy_of_signed? {n : Int} (read : signed? n = some v) : v.Tidy := by
  unfold signed? at read
  split at read
  · cases read
    nofun
  · cases read

theorem tidy_of_floatOf {ds : List Char} {e : Int} (read : floatOf negative ds e = some v) :
    v.Tidy := by
  unfold floatOf at read
  simp only at read
  split at read
  · cases read
  · cases read
    nofun

theorem tidy_of_specialAt? (read : specialAt? negative cs = some (v, rest)) : v.Tidy := by
  unfold specialAt? at read
  split at read
  · cases read
    nofun
  · cases read
    nofun
  · cases read

/-- What a reader makes of what it found is tidy if it makes no tables. -/
theorem tidy_of_map {α : Type} {o : Option α} {make : α → Value × List Char}
    (plain : ∀ a inner, (make a).1 ≠ .table inner) (read : o.map make = some (v, rest)) :
    v.Tidy := by
  obtain ⟨a, -, made⟩ := Option.map_eq_some_iff.1 read
  intro inner table
  have same : (make a).1 = v := congrArg Prod.fst made
  exact absurd (same.trans table) (plain a inner)

/-- What was read is a value that was made, with the characters after it. -/
theorem exists_of_map_pair {α β : Type} {o : Option α} {b : β} {a : α} {after : β}
    (read : o.map (·, b) = some (a, after)) : o = some a := by
  obtain ⟨a', made, same⟩ := Option.map_eq_some_iff.1 read
  obtain ⟨rfl, -⟩ := Prod.mk.inj same
  exact made

theorem tidy_of_decimalAt? (read : decimalAt? negative cs = some (v, rest)) : v.Tidy := by
  unfold decimalAt? at read
  simp only at read
  split at read
  · cases read
  · split at read
    · cases read
    · split at read
      · cases read
      · exact tidy_of_floatOf (exists_of_map_pair read)
  · split at read
    · cases read
    · exact tidy_of_floatOf (exists_of_map_pair read)
    · exact tidy_of_signed? (exists_of_map_pair read)

/-- A number, a date or a time is no table. -/
theorem tidy_of_numberAt? (read : numberAt? cs = some (v, rest)) : v.Tidy := by
  have special_or_decimal {negative : Bool} {cs : List Char}
      (read : (specialAt? negative cs).or (decimalAt? negative cs) = some (v, rest)) : v.Tidy := by
    rcases Option.or_eq_some_iff.1 read with special | ⟨-, decimal⟩
    · exact tidy_of_specialAt? special
    · exact tidy_of_decimalAt? decimal
  have in_base {base : Nat} {cs : List Char} (read : ((digits? base cs).bind fun r =>
      (signed? (valueIn base r.1)).map (·, r.2)) = some (v, rest)) : v.Tidy := by
    obtain ⟨r, -, made⟩ := Option.bind_eq_some_iff.1 read
    exact tidy_of_signed? (exists_of_map_pair made)
  unfold numberAt? at read
  split at read
  · exact tidy_of_map (by simp) read
  · split at read
    · exact special_or_decimal read
    · exact special_or_decimal read
    · exact in_base read
    · exact in_base read
    · exact in_base read
    · exact special_or_decimal read

/-- What a reader of values gives is tidy, and so is what a reader of entries makes of a table. -/
structure ReadsInOrder (fuel : Nat) : Prop where
  value : ∀ {depth cs v rest}, valueAt? fuel depth cs = some (v, rest) → v.Tidy
  entries : ∀ {depth first s cs s' rest}, ItemsOrdered s.2 →
    entriesAt? fuel depth first s cs = some (s', rest) → ItemsOrdered s'.2

/-- Of the values that are read only a table on one line is a table. -/
theorem ReadsInOrder.tidy_valueAt? {fuel depth : Nat} (ih : ReadsInOrder fuel)
    (read : valueAt? (fuel + 1) depth cs = some (v, rest)) : v.Tidy := by
  unfold valueAt? at read
  split at read
  · cases read
  · exact tidy_of_map (by simp) read
  · exact tidy_of_map (by simp) read
  · split at read
    · cases read
    · exact tidy_of_map (by simp) read
  · cases read
    nofun
  · cases read
    nofun
  · split at read
    · split at read
      · cases read
      · obtain ⟨r, table, same⟩ := Option.map_eq_some_iff.1 read
        cases same
        rintro _ ⟨⟩
        exact (ih.entries .nil table).finish
    · exact tidy_of_numberAt? read

theorem ReadsInOrder.ordered_entriesAt? {fuel depth : Nat} {first : Bool} (ih : ReadsInOrder fuel)
    (h : ItemsOrdered s.2) (read : entriesAt? (fuel + 1) depth first s cs = some (s', rest)) :
    ItemsOrdered s'.2 := by
  unfold entriesAt? at read
  split at read
  · cases read
  · split at read
    · cases read
      exact h
    · split at read
      · split at read
        · cases read
        · rename_i v after valued
          split at read
          · rename_i added _
            exact ih.entries (addValue_ordered (ih.value valued) h added) read
          · rename_i added _
            split at read
            · cases read
              exact addValue_ordered (ih.value valued) h added
            · cases read
          · cases read
      · cases read

theorem readsInOrder (fuel : Nat) : ReadsInOrder fuel := by
  induction fuel with
  | zero =>
    refine ⟨fun read => ?_, fun _ read => ?_⟩
    · rw [valueAt?] at read
      cases read
    · rw [entriesAt?] at read
      cases read
  | succ fuel ih => exact ⟨ih.tidy_valueAt?, ih.ordered_entriesAt?⟩

theorem lineAt?_ordered {d d' : Draft} (h : ItemsOrdered d.root.2)
    (read : lineAt? d cs = some (d', rest)) : ItemsOrdered d'.root.2 := by
  unfold lineAt? at read
  split at read
  · split at read
    · obtain ⟨root, opened, same⟩ := Option.map_eq_some_iff.1 read
      cases same
      exact openTables_ordered h opened
    · cases read
  · split at read
    · obtain ⟨root, opened, same⟩ := Option.map_eq_some_iff.1 read
      cases same
      exact openTable_ordered h opened
    · cases read
  · split at read
    · split at read
      · cases read
      · rename_i valued
        obtain ⟨root, changed, same⟩ := Option.map_eq_some_iff.1 read
        cases same
        exact changeAt_ordered
          (fun s s' h added => addValue_ordered ((readsInOrder _).value valued) h added) _ h changed
    · cases read

theorem linesOf?_ordered {fuel : Nat} {d d' : Draft} (h : ItemsOrdered d.root.2)
    (read : linesOf? fuel d cs = some d') : ItemsOrdered d'.root.2 := by
  induction fuel generalizing d cs with
  | zero => cases read
  | succ fuel ih =>
    unfold linesOf? at read
    split at read
    · cases read
      exact h
    · split at read
      · cases read
      · rename_i line
        obtain ⟨rest, -, more⟩ := Option.bind_eq_some_iff.1 read
        exact ih (lineAt?_ordered h line) more

/-- Every table that is read from a text is in order. -/
theorem ordered_of_parse? {text : String} (read : parse? text = some entries) :
    Ordered entries := by
  obtain ⟨d, lines, rfl⟩ := Option.map_eq_some_iff.1 read
  exact (linesOf?_ordered .nil lines).finish

end HubPublisher.Toml
