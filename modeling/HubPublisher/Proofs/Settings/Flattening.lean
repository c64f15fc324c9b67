import HubPublisher.Proofs.Keyed
import HubPublisher.Proofs.Settings.Usable
import HubPublisher.Proofs.Toml.Leaves
import HubPublisher.Settings.File
import Mathlib.Data.Set.Card

/-!
What is left of a table of settings when its keys are joined.

The properties of a table are its leaves under their joined keys; of several leaves with one joined
key the last counts, in the order in which a walk through the table meets them (`Flattened`). Where
no key has a dot in it, the keys can be told from what they are joined to, and no leaf is lost
(`Apart`). What a settings file says about logging is left out beforehand.
-/
namespace HubPublisher.Settings

open Toml (Leaf Ordered Precedes Value mem_walk_iff paths_nodup walk walkOf walkOf_of_plain
  walk_ascending)

variable {entries entries' : List (String × Value)} {path path' : List String} {v v' : Value}

/-! ## Joined keys -/

/-- The keys on the way to a leaf, with dots between them. -/
def joined (path : List String) : String := ".".intercalate path

theorem joined_joinKey (above : Option String) (key : String) (path : List String) :
    joined (Properties.joinKey above key :: path) = joined (above.toList ++ key :: path) := by
  cases above <;> rfl

/-- Without dots in the keys, the keys can be told from what they are joined to. -/
theorem joined_injective (some : path ≠ []) (some' : path' ≠ [])
    (undotted : ∀ key ∈ path, '.' ∉ key.toList) (undotted' : ∀ key ∈ path', '.' ∉ key.toList)
    (same : joined path = joined path') : path = path' := by
  have parts {path : List String} (some : path ≠ []) (undotted : ∀ key ∈ path, '.' ∉ key.toList) :
      (joined path).toList.splitOn '.' = path.map String.toList := by
    rw [joined, String.toList_intercalate]
    exact List.splitOn_intercalate '.' (List.forall_mem_map.2 undotted)
      (mt List.map_eq_nil_iff.1 some)
  have texts : path.map String.toList = path'.map String.toList := by
    rw [← parts some undotted, ← parts some' undotted', same]
  exact List.map_injective_iff.2 (fun _ _ => String.toList_inj.1) texts

/-- Flattening writes what a walk through the table meets. -/
theorem leaves_eq_walk (above : Option String) (entries : List (String × Value)) :
    Properties.leaves above entries = (walk entries).map fun l =>
      (joined (above.toList ++ l.1), Properties.leafText l.2) := by
  refine Properties.leaves.induct
    (fun above entries => Properties.leaves above entries = (walk entries).map fun l =>
      (joined (above.toList ++ l.1), Properties.leafText l.2))
    (fun key v => Properties.leavesOf key v = (walkOf v).map fun l =>
      (joined (key :: l.1), Properties.leafText l.2)) ?_ ?_ ?_ ?_ above entries
  · intro key inner below
    exact below
  · intro key v plain
    rw [walkOf_of_plain plain, Properties.leavesOf.eq_2 key v plain]
    rfl
  · intro above
    rfl
  · intro above key v rest first others
    rw [Properties.leaves, first, others, walk, List.map_append, List.map_map]
    simp only [joined_joinKey, Function.comp_def]

/-! ## Properties of a table -/

/-- Of the leaves with one joined key, the one that comes last in the order of a walk. -/
structure LastLeaf (entries : List (String × Value)) (k : String) (path : List String) (v : Value) :
    Prop where
  leaf : Leaf entries path v
  key : joined path = k
  last : ∀ path' v', Leaf entries path' v' → joined path' = k → ¬Precedes path path'

/-- What properties have of a table. -/
structure Flattened (entries : List (String × Value)) (p : Properties) : Prop where
  keys : ∀ k, p.values.contains k = true ↔ ∃ path v, Leaf entries path v ∧ joined path = k
  texts : ∀ k text, p.values.get? k = some text ↔
    ∃ path v, LastLeaf entries k path v ∧ Properties.leafText v = text

theorem flattened_ofTable (h : Ordered entries) :
    Flattened entries (Properties.ofTable entries) := by
  constructor
  · intro k
    rw [Keyed.contains_eq_isSome, Properties.ofTable, ← not_iff_not, Bool.not_eq_true,
      Option.isSome_eq_false_iff, Option.isNone_iff_eq_none, Keyed.get?_ofList_eq_none_iff,
      leaves_eq_walk, List.forall_mem_map]
    constructor
    · rintro other ⟨path, v, leaf, same⟩
      exact other (path, v) (mem_walk_iff.2 leaf) same
    · rintro none ⟨path, v⟩ met same
      exact none ⟨path, v, mem_walk_iff.1 met, same⟩
  · intro k text
    have asymm : ∀ l l' : List String × Value, Precedes l.1 l'.1 → ¬Precedes l'.1 l.1 :=
      fun _ _ => Precedes.asymm
    rw [Properties.ofTable, Keyed.get?_ofList_eq_some_iff, leaves_eq_walk, isLast_map]
    simp only [isLast_iff_of_pairwise (walk_ascending h) asymm, Prod.mk.injEq]
    constructor
    · rintro ⟨⟨path, v⟩, ⟨met, same, last⟩, -, written⟩
      refine ⟨path, v, ⟨mem_walk_iff.1 met, same, fun path' v' leaf same' => ?_⟩, written⟩
      exact last (path', v') (mem_walk_iff.2 leaf) same'
    · rintro ⟨path, v, ⟨leaf, same, last⟩, written⟩
      refine ⟨(path, v), ⟨mem_walk_iff.2 leaf, same, fun l met same' => ?_⟩, same, written⟩
      exact last l.1 l.2 (mem_walk_iff.1 met) same'

/-! ## Keys without dots -/

/-- No key on the way to a leaf has a dot in it. -/
def Undotted (entries : List (String × Value)) : Prop :=
  ∀ path v, Leaf entries path v → ∀ key ∈ path, '.' ∉ key.toList

instance : Decidable (Undotted entries) :=
  decidable_of_iff (∀ l ∈ walk entries, ∀ key ∈ l.1, '.' ∉ key.toList) <| by
    constructor
    · intro met path v leaf
      exact met (path, v) (mem_walk_iff.2 leaf)
    · intro undotted l met
      exact undotted l.1 l.2 (mem_walk_iff.1 met)

/-- What properties have of a table whose leaves do not meet under one key. -/
structure Apart (entries : List (String × Value)) (p : Properties) : Prop where
  distinct : ∀ path v path' v', Leaf entries path v → Leaf entries path' v' →
    joined path = joined path' → path = path' ∧ v = v'
  size : p.size = {leaf : List String × Value | Leaf entries leaf.1 leaf.2}.ncard
  /-- Every leaf is there under its key, and reads as absent just if it is blank. -/
  there : ∀ path v, Leaf entries path v →
    p.values.get? (joined path) = some (Properties.leafText v) ∧
    p.get? (joined path)
      = if Text.isBlank (Properties.leafText v) then none else some (Properties.leafText v)

/-- No two leaves have a joined key in common. -/
theorem leaf_eq_of_joined (h : Ordered entries) (undotted : Undotted entries)
    (leaf : Leaf entries path v) (leaf' : Leaf entries path' v')
    (same : joined path = joined path') : path = path' ∧ v = v' := by
  obtain rfl := joined_injective leaf.ne_nil leaf'.ne_nil (undotted path v leaf)
    (undotted path' v' leaf') same
  cases List.inj_on_of_nodup_map (paths_nodup h) (mem_walk_iff.2 leaf) (mem_walk_iff.2 leaf') rfl
  exact ⟨rfl, rfl⟩

/-- The walk counts the leaves. -/
theorem ncard_leaves (h : Ordered entries) :
    {leaf : List String × Value | Leaf entries leaf.1 leaf.2}.ncard = (walk entries).length := by
  have met : {leaf : List String × Value | Leaf entries leaf.1 leaf.2}
      = ((⟨walk entries, (paths_nodup h).of_map⟩ : Finset (List String × Value)) : Set _) := by
    ext ⟨path, v⟩
    exact mem_walk_iff.symm
  rw [met, Set.ncard_coe_finset]
  rfl

theorem size_ofTable (h : Ordered entries) (undotted : Undotted entries) :
    (Properties.ofTable entries).size = (walk entries).length := by
  have apart : ((Properties.leaves none entries).map (·.1)).Nodup := by
    rw [leaves_eq_walk, List.map_map]
    refine List.Nodup.map_on ?_ (paths_nodup h).of_map
    rintro ⟨path, v⟩ met ⟨path', v'⟩ met' same
    obtain ⟨rfl, rfl⟩ := leaf_eq_of_joined h undotted (mem_walk_iff.1 met) (mem_walk_iff.1 met')
      same
    rfl
  rw [Properties.size, Properties.ofTable, Keyed.size_ofList apart, leaves_eq_walk,
    List.length_map]

theorem apart_ofTable (h : Ordered entries) (undotted : Undotted entries) :
    Apart entries (Properties.ofTable entries) where
  distinct _ _ _ _ leaf leaf' same := leaf_eq_of_joined h undotted leaf leaf' same
  size := (size_ofTable h undotted).trans (ncard_leaves h).symm
  there path v leaf := by
    have stored : (Properties.ofTable entries).values.get? (joined path)
        = some (Properties.leafText v) := by
      refine ((flattened_ofTable h).texts _ _).2 ⟨path, v, ⟨leaf, rfl, ?_⟩, rfl⟩
      intro path' v' leaf' same
      rw [(leaf_eq_of_joined h undotted leaf' leaf same).1]
      exact fun before => before.ne rfl
    exact ⟨stored, by rw [Properties.get?, stored]⟩

/-! ## Quoting -/

/-- The values that read the same when they are quoted. -/
inductive Quotable : Value → Prop
  | integer (n : Int) : Quotable (.integer n)
  | boolean (b : Bool) : Quotable (.boolean b)

/-- A whole number or a truth value in a table, or in a table inside it, was put in quotes. -/
inductive Quoted : List (String × Value) → List (String × Value) → Prop
  | leaf (before after : List (String × Value)) (key : String) {v : Value} (h : Quotable v) :
      Quoted (before ++ (key, v) :: after) (before ++ (key, .text v.write) :: after)
  | inside (before after : List (String × Value)) (key : String)
      {inner inner' : List (String × Value)} (h : Quoted inner inner') :
      Quoted (before ++ (key, .table inner) :: after) (before ++ (key, .table inner') :: after)

theorem leaves_append (above : Option String) (before after : List (String × Value)) :
    Properties.leaves above (before ++ after)
      = Properties.leaves above before ++ Properties.leaves above after := by
  induction before with
  | nil => rfl
  | cons e before ih => rw [List.cons_append, Properties.leaves, Properties.leaves, ih,
      List.append_assoc]

theorem Quoted.leaves_eq (h : Quoted entries entries') (above : Option String) :
    Properties.leaves above entries' = Properties.leaves above entries := by
  induction h generalizing above with
  | leaf before after key quotable =>
    rw [leaves_append, leaves_append]
    cases quotable <;> rfl
  | inside before after key h ih =>
    rw [leaves_append, leaves_append, Properties.leaves, Properties.leaves, Properties.leavesOf,
      Properties.leavesOf, ih]

/-! ## Settings files -/

/-- What a settings file says about logging, if it can be read. -/
def logging? (entries : List (String × Value)) : Option Logging :=
  match entries.lookup loggingKey with
  | none => some Logging.standard
  | some v => Logging.ofValue? v

/-- What a settings file says about all else. -/
def besides (entries : List (String × Value)) : List (String × Value) :=
  entries.filter (·.1 ≠ loggingKey)

/-- Of a table whose logging can be read, the properties are those of all that it says besides. -/
theorem settings_ofTable (entries : List (String × Value)) : SettingsFile.ofTable entries
    = match logging? entries with
      | some logging => .ok ⟨logging, Properties.ofTable (besides entries)⟩
      | none => .error (.invalidValue loggingKey "") := by
  rw [SettingsFile.ofTable, logging?]
  cases entries.lookup loggingKey with
  | none => rfl
  | some v =>
    simp only
    cases Logging.ofValue? v <;> rfl

theorem mem_besides {e : String × Value} :
    e ∈ besides entries ↔ e ∈ entries ∧ e.1 ≠ loggingKey := by
  rw [besides, List.mem_filter, decide_eq_true_iff]

theorem ordered_besides (h : Ordered entries) : Ordered (besides entries) := by
  obtain ⟨ascending, below⟩ := h
  exact .intro (ascending.filter _) fun key inner there => below key inner (mem_besides.1 there).1

/-- Ordered tables with the same values under all keys but the one about logging have the same
besides. -/
theorem besides_eq (h : Ordered entries) (h' : Ordered entries')
    (same : ∀ key, key ≠ loggingKey → entries.lookup key = entries'.lookup key) :
    besides entries = besides entries' := by
  have equal : (⟨besides entries, (ordered_besides h).ascending⟩ : Keyed Value)
      = ⟨besides entries', (ordered_besides h').ascending⟩ := by
    refine Keyed.eq_of_get? fun key => ?_
    show (besides entries).lookup key = (besides entries').lookup key
    rw [besides, besides, Keyed.lookup_filter_ne, Keyed.lookup_filter_ne]
    by_cases about : key = loggingKey
    · rw [if_pos about, if_pos about]
    · rw [if_neg about, if_neg about, same key about]
  exact congrArg Keyed.entries equal

theorem parse_eq_ok_iff {s : String} {f : SettingsFile} : SettingsFile.parse s = .ok f ↔
    ∃ entries, Toml.parse? s = some entries ∧ logging? entries = some f.logging ∧
      f.properties = Properties.ofTable (besides entries) := by
  obtain ⟨logging, properties⟩ := f
  rw [SettingsFile.parse]
  cases Toml.parse? s with
  | none => simp
  | some entries =>
    simp only [settings_ofTable, Option.some.injEq, exists_eq_left']
    cases logging? entries with
    | none => simp
    | some logging' => simp [eq_comm]

/-! ## All of it -/

/-- The keys of a table's properties are the joined keys of its leaves, and under each is the text
of the last leaf. Without dots in the keys no leaf is lost, and each is given under its own key
unless it is blank. Quoting whole numbers and truth values changes neither the properties nor the
configuration that they describe. A settings file has the properties of what it says besides
logging, so that files which say the same besides, and of which the logging can be read, describe
one configuration. -/
theorem properties_keep_leaves :
    (∀ entries, Ordered entries → Flattened entries (Properties.ofTable entries) ∧
      (Undotted entries → Apart entries (Properties.ofTable entries))) ∧
    (∀ entries entries', Relation.ReflTransGen Quoted entries entries' →
      Properties.ofTable entries' = Properties.ofTable entries ∧
      Configuration.ofProperties (Properties.ofTable entries')
        = Configuration.ofProperties (Properties.ofTable entries)) ∧
    (∀ s f, SettingsFile.parse s = .ok f → ∃ entries rest, Toml.parse? s = some entries ∧
      Ordered entries ∧ Ordered rest ∧
      (∀ e, e ∈ rest ↔ e ∈ entries ∧ e.1 ≠ loggingKey) ∧
      f.properties = Properties.ofTable rest) ∧
    ∀ s s' entries entries' logging logging', Toml.parse? s = some entries →
      Toml.parse? s' = some entries' →
      (∀ key, key ≠ loggingKey → entries.lookup key = entries'.lookup key) →
      logging? entries = some logging → logging? entries' = some logging' →
      ∃ f f', SettingsFile.parse s = .ok f ∧ SettingsFile.parse s' = .ok f' ∧
        f.configuration = f'.configuration := by
  refine ⟨fun entries h => ⟨flattened_ofTable h, apart_ofTable h⟩, ?_, ?_, ?_⟩
  · intro entries entries' quoted
    have same : Properties.ofTable entries' = Properties.ofTable entries := by
      induction quoted with
      | refl => rfl
      | tail _ one ih => rw [← ih, Properties.ofTable, Properties.ofTable, one.leaves_eq]
    exact ⟨same, congrArg Configuration.ofProperties same⟩
  · intro s f parsed
    obtain ⟨entries, read, -, properties⟩ := parse_eq_ok_iff.1 parsed
    have ordered := Toml.ordered_of_parse? read
    exact ⟨entries, besides entries, read, ordered, ordered_besides ordered, fun e => mem_besides,
      properties⟩
  · intro s s' entries entries' logging logging' read read' same valid valid'
    refine ⟨⟨logging, Properties.ofTable (besides entries)⟩,
      ⟨logging', Properties.ofTable (besides entries')⟩,
      parse_eq_ok_iff.2 ⟨entries, read, valid, rfl⟩,
      parse_eq_ok_iff.2 ⟨entries', read', valid', rfl⟩, ?_⟩
    rw [SettingsFile.configuration, SettingsFile.configuration, besides_eq
      (Toml.ordered_of_parse? read) (Toml.ordered_of_parse? read') same]

/-- A blank leaf is a property, but it reads as absent. -/
theorem blank_leaf_reads_as_absent :
    Ordered [("a", .text "")] ∧ Undotted [("a", .text "")] ∧
      Leaf [("a", .text "")] ["a"] (.text "") ∧
      (Properties.ofTable [("a", .text "")]).size = 1 ∧
      (Properties.ofTable [("a", .text "")]).get? (joined ["a"])
        ≠ some (Properties.leafText (.text "")) :=
  ⟨.of_tidy (List.pairwise_singleton _ _) (by simp [Value.Tidy]), by decide,
    .here List.mem_cons_self nofun, rfl, by decide⟩

/-- A dotted key and a quoted one that looks like it. -/
def dottedTable : List (String × Value) :=
  [("a", .table [("b", .integer 1)]), ("a.b", .boolean true)]

/-- The same with the number in quotes. -/
def quotedTable : List (String × Value) :=
  [("a", .table [("b", .text "1")]), ("a.b", .boolean true)]

/-- Three leaves under keys without dots, of which one is blank. -/
def plainTable : List (String × Value) :=
  [("hub", .table [("limit", .integer 20), ("url", .text "http://hub")]), ("note", .text " ")]

def debugSettings : String := "[logging]\nlevel = \"debug\"\n"

/-- Of two leaves with one joined key the later counts, and the other may be quoted or not. Without
dots there is a property for each leaf, and only the blank one reads as absent. What is said about
logging is nothing to the adapter. -/
theorem properties_keep_leaves_sample :
    (∃ path v, LastLeaf dottedTable "a.b" path v ∧ Properties.leafText v = "true") ∧
    (Undotted plainTable ∧
      {leaf : List String × Value | Leaf plainTable leaf.1 leaf.2}.ncard = 3 ∧
      (Properties.ofTable plainTable).get? "hub.limit" = some "20" ∧
      (Properties.ofTable plainTable).values.get? "note" = some " " ∧
      (Properties.ofTable plainTable).get? "note" = none) ∧
    Properties.ofTable quotedTable = Properties.ofTable dottedTable ∧
    ∃ f f', SettingsFile.parse "" = .ok f ∧ SettingsFile.parse debugSettings = .ok f' ∧
      f.configuration = f'.configuration := by
  obtain ⟨flattens, quotes, -, alike⟩ := properties_keep_leaves
  refine ⟨?_, ?_, ?_, ?_⟩
  · have below : Ordered [("b", .integer 1)] :=
      .of_tidy (List.pairwise_singleton _ _) (by simp [Value.Tidy])
    have ordered : Ordered dottedTable :=
      .of_tidy (by unfold Ascending dottedTable; decide) (by simp [dottedTable, Value.Tidy, below])
    exact ((flattens dottedTable ordered).1.texts "a.b" "true").1 (by decide)
  · have below : Ordered [("limit", .integer 20), ("url", .text "http://hub")] :=
      .of_tidy (by unfold Ascending; decide) (by simp [Value.Tidy])
    have ordered : Ordered plainTable :=
      .of_tidy (by unfold Ascending plainTable; decide) (by simp [plainTable, Value.Tidy, below])
    have undotted : Undotted plainTable := by decide
    have apart := (flattens plainTable ordered).2 undotted
    have limit : Leaf plainTable ["hub", "limit"] (.integer 20) :=
      .inside List.mem_cons_self (.here List.mem_cons_self nofun)
    have note : Leaf plainTable ["note"] (.text " ") :=
      .here (List.mem_cons_of_mem _ List.mem_cons_self) nofun
    have three : (Properties.ofTable plainTable).size = 3 := by decide
    exact ⟨undotted, apart.size.symm.trans three, (apart.there _ _ limit).2,
      apart.there _ _ note⟩
  · have quoted : Quoted dottedTable quotedTable :=
      .inside [] [("a.b", .boolean true)] "a" (.leaf [] [] "b" (.integer 1))
    exact (quotes dottedTable quotedTable (.single quoted)).1
  · obtain ⟨entries, read, keys⟩ : ∃ entries, Toml.parse? debugSettings = some entries ∧
        entries.map (·.1) = [loggingKey] := Option.map_eq_some_iff.1 (by decide +kernel)
    have valid : (Toml.parse? debugSettings).bind logging? = some ⟨"debug", "pretty"⟩ := by
      decide +kernel
    rw [read, Option.bind_some] at valid
    refine alike "" debugSettings [] entries Logging.standard _ rfl read ?_ rfl valid
    intro key other
    refine (List.lookup_eq_none_iff.2 fun e there => bne_iff_ne.2 ?_).symm
    have named := List.mem_map_of_mem (f := (·.1)) there
    rw [keys, List.mem_singleton] at named
    exact fun same => other (same.trans named)

end HubPublisher.Settings
