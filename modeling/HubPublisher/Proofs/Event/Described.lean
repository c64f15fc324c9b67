import HubPublisher.Event.Reading
import HubPublisher.Proofs.Json.Records
import HubPublisher.Proofs.Keyed
import Mathlib.Data.List.Perm.Basic

/-!
Which values describe a subject.

A value describes a subject when it is an object that has the format and the properties once each,
in any order and among other members, or an array of the format and the values
(`Subject.DescribedBy`). The properties are found one by one and put in order afterwards, so what
is found is the subject's own properties up to order (`Subject.ofMembers_eq_ok`). The values can be
any texts, whereas a subject made from values has none that is empty (`Subject.make?_values`).
-/
namespace HubPublisher.Event

open Json (Value map_eq_ok)
open Json.Value (Floatless FloatlessMembers floatlessMembers_iff)

/-! ## Formats and values -/

theorem SubjectFormat.ofName?_eq_some {s : String} {f : SubjectFormat} :
    ofName? s = some f ↔ s = f.name := by
  constructor
  · intro found
    have same := List.find?_some found
    exact (beq_iff_eq.1 same).symm
  · intro same
    rw [same, ofName?_name]

theorem SubjectFormat.properties_nodup (f : SubjectFormat) : f.properties.Nodup := by
  cases f <;> decide

namespace Subject

/-- A subject is made of values unless one of its own is empty. -/
theorem make?_eq_some {f : SubjectFormat} {vs : List String} {s : Subject} :
    make? f vs = some s ↔ ofValues f vs = s ∧ ∀ v ∈ s.values, v ≠ "" := by
  simp only [make?, Option.ite_none_right_eq_some, List.all_eq_true, decide_eq_true_eq,
    Option.some.injEq]
  constructor
  · intro ⟨given, made⟩
    exact ⟨made, made ▸ given⟩
  · intro ⟨made, given⟩
    exact ⟨made.symm ▸ given, made⟩

theorem make?_values {s : Subject} :
    make? s.format s.values = some s ↔ ∀ v ∈ s.values, v ≠ "" := by
  rw [make?_eq_some, and_iff_right s.ofValues_values]

theorem ofValues_eq_iff {f : SubjectFormat} {s : Subject} {vs : List String}
    (complete : vs.length = f.properties.length) :
    ofValues f vs = s ↔ s.format = f ∧ vs = s.values := by
  constructor
  · intro made
    subst made
    cases f <;> simp only [SubjectFormat.properties, List.length_cons, List.length_nil] at complete
    case issuerSubject =>
      obtain ⟨i, s, rfl⟩ := List.length_eq_two.1 complete
      exact ⟨rfl, rfl⟩
    all_goals
      obtain ⟨v, rfl⟩ := List.length_eq_one_iff.1 complete
      exact ⟨rfl, rfl⟩
  · intro ⟨format, values⟩
    rw [← format, values, ofValues_values]

/-- The members of a written subject behind its format. -/
def propertyMembers (s : Subject) : List (String × Value) :=
  s.format.properties.zipWith (fun k v => (k, Value.text v)) s.values

theorem json_eq (s : Subject) :
    s.json = .object (("format", .text s.format.name) :: s.propertyMembers) := rfl

theorem mem_propertyMembers {s : Subject} {m : String × Value} (h : m ∈ s.propertyMembers) :
    m.1 ≠ "format" ∧ ∃ v, m.2 = .text v := by
  have key : ∀ f : SubjectFormat, ∀ k ∈ f.properties, k ≠ "format" := by
    intro f
    cases f <;> decide
  obtain ⟨i, hi, rfl⟩ := List.getElem_of_mem h
  simp only [propertyMembers, List.getElem_zipWith]
  exact ⟨key _ _ (List.getElem_mem _), _, rfl⟩

theorem floatless_json (s : Subject) : s.json.Floatless := by
  rw [json_eq, Floatless, FloatlessMembers]
  refine ⟨trivial, floatlessMembers_iff.2 fun m member => ?_⟩
  obtain ⟨-, v, text⟩ := mem_propertyMembers member
  rw [text]
  exact trivial

/-- The properties of a subject with their values. -/
def propertyTexts (s : Subject) : List (String × String) := s.format.properties.zip s.values

/-- A text under its key, as a member of an object. -/
def textUnder (p : String × String) : String × Value := (p.1, .text p.2)

theorem cons_eq_map_textUnder {key : String} {v : Value} {kept : List (String × Value)}
    {found : List (String × String)} :
    (key, v) :: kept = found.map textUnder ↔
      ∃ t found', v = .text t ∧ kept = found'.map textUnder ∧ found = (key, t) :: found' := by
  constructor
  · intro same
    obtain ⟨⟨k, t⟩, found', split, here, more⟩ := List.map_eq_cons_iff.1 same.symm
    cases here
    exact ⟨t, found', rfl, more.symm, split⟩
  · intro ⟨t, found', text, more, split⟩
    rw [text, more, split]
    rfl

theorem propertyMembers_eq (s : Subject) : s.propertyMembers = s.propertyTexts.map textUnder := by
  rw [propertyTexts, List.zip, List.map_zipWith]
  rfl

/-! ## Properties taken from members -/

theorem string?_eq_ok {v : Value} {t : String} : v.string? = .ok t ↔ v = .text t := by
  cases v <;> simp [Value.string?]

/-- Keys that differ from each other and from those that were seen before. -/
def Fresh (seen keys : List String) : Prop := keys.Nodup ∧ ∀ k ∈ keys, k ∉ seen

theorem fresh_cons {seen keys : List String} {key : String} :
    Fresh seen (key :: keys) ↔ key ∉ seen ∧ Fresh (key :: seen) keys := by
  simp only [Fresh, List.nodup_cons, List.mem_cons, not_or, forall_eq_or_imp]
  constructor
  · intro ⟨⟨apart, distinct⟩, unseen, fresh⟩
    exact ⟨unseen, distinct, fun k there => ⟨fun same => apart (same ▸ there), fresh k there⟩⟩
  · intro ⟨unseen, distinct, fresh⟩
    exact ⟨⟨fun there => (fresh key there).1 rfl, distinct⟩, unseen, fun k there => (fresh k there).2⟩

/-- The properties that are found are texts, and none comes twice or was seen before. -/
theorem checkProperties_eq_ok {names seen : List String} {members : List (String × Value)}
    {found : List (String × String)} :
    checkProperties names seen members = .ok found ↔
      members.filter (fun m => names.contains m.1) = found.map textUnder ∧
        Fresh seen (found.map (·.1)) := by
  induction members generalizing seen found with
  | nil =>
    constructor
    · intro ended
      cases ended
      exact ⟨rfl, List.nodup_nil, nofun⟩
    · intro ⟨empty, _⟩
      rw [List.map_eq_nil_iff.1 empty.symm]
      rfl
  | cons m rest ih =>
    obtain ⟨key, v⟩ := m
    rw [checkProperties, List.filter_cons]
    by_cases known : names.contains key = true
    · rw [if_pos known, if_pos known, cons_eq_map_textUnder]
      by_cases before : key ∈ seen
      · -- a property that was seen before is refused
        rw [if_pos (List.contains_iff_mem.2 before)]
        refine iff_of_false nofun fun ⟨⟨t, found', _, _, split⟩, fresh⟩ => ?_
        rw [split, List.map_cons, fresh_cons] at fresh
        exact fresh.1 before
      · rw [if_neg (mt List.contains_iff_mem.1 before)]
        cases read : v.string? with
        | error e =>
          refine iff_of_false nofun fun ⟨⟨t, found', text, _⟩, _⟩ => ?_
          rw [string?_eq_ok.2 text] at read
          cases read
        | ok t =>
          obtain rfl := string?_eq_ok.1 read
          simp only [map_eq_ok, ih]
          constructor
          · intro ⟨found', ⟨kept, fresh⟩, split⟩
            exact ⟨⟨t, found', rfl, kept, split.symm⟩, split ▸ fresh_cons.2 ⟨before, fresh⟩⟩
          · intro ⟨⟨t', found', text, kept, split⟩, fresh⟩
            cases text
            rw [split, List.map_cons, fresh_cons] at fresh
            exact ⟨found', ⟨kept, fresh.2⟩, split.symm⟩
    · rw [if_neg known, if_neg known, ih]

/-- The texts of named properties are those under their names. -/
theorem textsOfProperties_eq_ok {found : List (String × String)} {names vs : List String} :
    textsOfProperties found names = .ok vs ↔
      names.map (fun name => List.lookup name found) = vs.map some := by
  induction names generalizing vs with
  | nil =>
    rw [textsOfProperties, List.map_nil, Except.ok.injEq]
    exact ⟨fun empty => empty ▸ rfl, fun empty => (List.map_eq_nil_iff.1 empty.symm).symm⟩
  | cons name names ih =>
    rw [textsOfProperties, List.map_cons]
    cases there : List.lookup name found with
    | none =>
      refine iff_of_false nofun fun same => ?_
      obtain ⟨v, ts, -, absent, -⟩ := List.map_eq_cons_iff.1 same.symm
      cases absent
    | some t =>
      simp only [map_eq_ok, ih]
      constructor
      · intro ⟨ts, more, split⟩
        rw [more, ← split]
        rfl
      · intro same
        obtain ⟨v, ts, split, here, more⟩ := List.map_eq_cons_iff.1 same.symm
        rw [split, Option.some.inj here]
        exact ⟨ts, more.symm, rfl⟩

theorem map_lookup_zip {names vs : List String} (complete : vs.length = names.length)
    (distinct : names.Nodup) :
    names.map (fun name => List.lookup name (names.zip vs)) = vs.map some := by
  induction names generalizing vs with
  | nil =>
    rw [List.length_eq_zero_iff.1 complete]
    rfl
  | cons name names ih =>
    obtain ⟨v, vs, rfl⟩ := List.exists_cons_of_length_eq_add_one complete
    obtain ⟨apart, distinct⟩ := List.nodup_cons.1 distinct
    rw [List.zip_cons_cons, List.map_cons, List.map_cons, List.lookup_cons_self,
      ← ih (Nat.succ.inj complete) distinct]
    congr 1
    apply List.map_congr_left
    intro other there
    rw [Keyed.lookup_cons_eq_ite, if_neg]
    intro same
    exact apart ((show other = name from same) ▸ there)

/-- Texts that are found under names, each name once, are the names with those texts in some
order. -/
theorem lookups_iff_perm {found : List (String × String)} {names vs : List String}
    (complete : vs.length = names.length) (distinct : names.Nodup)
    (apart : (found.map (·.1)).Nodup) (named : ∀ p ∈ found, p.1 ∈ names) :
    names.map (fun name => List.lookup name found) = vs.map some ↔ found.Perm (names.zip vs) := by
  have keys : ((names.zip vs).map (·.1)).Nodup := by
    rw [List.map_fst_zip (Nat.le_of_eq complete.symm)]
    exact distinct
  have once : ∀ {pairs : List (String × String)}, (pairs.map (·.1)).Nodup → pairs.Nodup :=
    fun keys => (List.pairwise_map.1 keys).imp fun ne same => ne (congrArg Prod.fst same)
  rw [← map_lookup_zip complete distinct, List.map_inj_left,
    List.perm_ext_iff_of_nodup (once apart) (once keys)]
  constructor
  · intro alike e
    rw [mem_iff_lookup apart, mem_iff_lookup keys]
    -- a pair on either side has one of the names, and there both sides give the same
    constructor
    · intro there
      rw [← alike e.1 (named e ((mem_iff_lookup apart).2 there))]
      exact there
    · intro there
      rw [alike e.1 (List.of_mem_zip ((mem_iff_lookup keys).2 there)).1]
      exact there
  · intro same name _
    apply Option.ext
    intro v
    have here := same (name, v)
    rw [mem_iff_lookup apart, mem_iff_lookup keys] at here
    exact here

/-- Members make a subject of the format when those under its properties are the properties with
their texts, in any order. -/
theorem ofMembers_eq_ok {f : SubjectFormat} {s : Subject} {members : List (String × Value)} :
    ofMembers f members = .ok s ↔
      s.format = f ∧
        (members.filter fun m => f.properties.contains m.1).Perm s.propertyMembers := by
  constructor
  · intro made
    rw [ofMembers] at made
    split at made
    · cases made
    · rename_i found checked
      obtain ⟨vs, texts, made⟩ := map_eq_ok.1 made
      obtain ⟨kept, apart, -⟩ := checkProperties_eq_ok.1 checked
      rw [textsOfProperties_eq_ok] at texts
      have complete : vs.length = f.properties.length := by
        simpa using (congrArg List.length texts).symm
      have named : ∀ p ∈ found, p.1 ∈ f.properties := by
        intro p there
        have member : textUnder p ∈ members.filter fun m => f.properties.contains m.1 := by
          rw [kept]
          exact List.mem_map_of_mem there
        exact List.contains_iff_mem.1 (List.mem_filter.1 member).2
      obtain ⟨format, values⟩ := (ofValues_eq_iff complete).1 made
      refine ⟨format, ?_⟩
      rw [kept, propertyMembers_eq, propertyTexts, format, ← values]
      exact ((lookups_iff_perm complete f.properties_nodup apart named).1 texts).map textUnder
  · intro ⟨format, perm⟩
    subst format
    rw [propertyMembers_eq] at perm
    obtain ⟨found, kept, order⟩ : ∃ found : List (String × String),
        (members.filter fun m => s.format.properties.contains m.1) = found.map textUnder ∧
          found.Perm s.propertyTexts :=
      (congrFun₂ (List.eq_map_comp_perm textUnder) _ _).mpr perm
    have complete : s.values.length = s.format.properties.length := s.length_values
    have keys : (found.map (·.1)).Perm s.format.properties := by
      have order := order.map (·.1)
      rw [propertyTexts, List.map_fst_zip (Nat.le_of_eq complete.symm)] at order
      exact order
    have apart : (found.map (·.1)).Nodup := keys.nodup_iff.2 s.format.properties_nodup
    have named : ∀ p ∈ found, p.1 ∈ s.format.properties :=
      fun p there => keys.mem_iff.1 (List.mem_map_of_mem there)
    have texts := textsOfProperties_eq_ok.2
      ((lookups_iff_perm complete s.format.properties_nodup apart named).2 order)
    rw [ofMembers, checkProperties_eq_ok.2 ⟨kept, apart, fun _ _ => List.not_mem_nil⟩]
    exact map_eq_ok.2 ⟨s.values, texts, s.ofValues_values⟩

/-! ## Values taken from items -/

theorem textsOfItems_eq_ok {f : SubjectFormat} {total index : Nat} {names vs : List String}
    {items : List Value} :
    textsOfItems f total index names items = .ok vs ↔
      items = vs.map Value.text ∧ vs.length = names.length := by
  induction names generalizing index items vs with
  | nil =>
    cases items with
    | nil =>
      rw [textsOfItems, Except.ok.injEq]
      constructor
      · intro empty
        subst empty
        exact ⟨rfl, rfl⟩
      · intro ⟨empty, _⟩
        exact (List.map_eq_nil_iff.1 empty.symm).symm
    | cons v rest =>
      refine iff_of_false nofun fun ⟨same, complete⟩ => ?_
      rw [List.length_eq_zero_iff.1 complete] at same
      cases same
  | cons name names ih =>
    cases items with
    | nil =>
      refine iff_of_false nofun fun ⟨same, complete⟩ => ?_
      rw [List.map_eq_nil_iff.1 same.symm] at complete
      cases complete
    | cons v rest =>
      rw [textsOfItems]
      cases read : v.string? with
      | error e =>
        refine iff_of_false nofun fun ⟨same, _⟩ => ?_
        obtain ⟨t, ts, -, text, -⟩ := List.map_eq_cons_iff.1 same.symm
        rw [string?_eq_ok.2 text.symm] at read
        cases read
      | ok t =>
        obtain rfl := string?_eq_ok.1 read
        simp only [map_eq_ok, ih]
        constructor
        · intro ⟨ts, ⟨more, complete⟩, split⟩
          rw [more, ← split]
          exact ⟨rfl, congrArg (· + 1) complete⟩
        · intro ⟨same, complete⟩
          obtain ⟨t', ts, split, here, more⟩ := List.map_eq_cons_iff.1 same.symm
          cases here
          rw [split] at complete
          exact ⟨ts, ⟨more.symm, Nat.succ.inj complete⟩, split.symm⟩

theorem ofItems_eq_ok {f : SubjectFormat} {s : Subject} {items : List Value} :
    ofItems f items = .ok s ↔ s.format = f ∧ items = s.values.map Value.text := by
  rw [ofItems, map_eq_ok]
  constructor
  · intro ⟨vs, texts, made⟩
    obtain ⟨same, complete⟩ := textsOfItems_eq_ok.1 texts
    obtain ⟨format, values⟩ := (ofValues_eq_iff complete).1 made
    exact ⟨format, values ▸ same⟩
  · intro ⟨format, same⟩
    subst format
    exact ⟨s.values, textsOfItems_eq_ok.2 ⟨same, s.length_values⟩, s.ofValues_values⟩

/-! ## Values that describe a subject -/

/-- The value describes the subject: an object whose members under the format and the properties
are those that the subject is written with, in any order, or an array of the format and the
values. -/
def DescribedBy (s : Subject) : Value → Prop
  | .object members =>
    (members.filter fun m => m.1 == "format" || s.format.properties.contains m.1).Perm
      (("format", .text s.format.name) :: s.propertyMembers)
  | .array items => items = .text s.format.name :: s.values.map Value.text
  | _ => False

theorem describedBy_json (s : Subject) : s.DescribedBy s.json := by
  cases s <;> exact List.Perm.refl _

/-- In an object that describes a subject the format stands in one place, and the members before
and behind it make a subject of that format. -/
theorem describedBy_object {s : Subject} {members : List (String × Value)} :
    s.DescribedBy (.object members) ↔
      ∃ before after, members = before ++ ("format", .text s.format.name) :: after ∧
        (∀ m ∈ before ++ after, m.1 ≠ "format") ∧
          ofMembers s.format (before ++ after) = .ok s := by
  let named (m : String × Value) : Bool := m.1 == "format" || s.format.properties.contains m.1
  have properties : ∀ {others : List (String × Value)}, (∀ m ∈ others, m.1 ≠ "format") →
      others.filter named = others.filter fun m => s.format.properties.contains m.1 := by
    intro others apart
    apply List.filter_congr
    intro m there
    simp [named, apart m there]
  have split : ∀ before after : List (String × Value),
      ((before ++ ("format", .text s.format.name) :: after).filter named).Perm
        (("format", .text s.format.name) :: (before ++ after).filter named) := by
    intro before after
    rw [List.filter_append, List.filter_append, List.filter_cons_of_pos (by simp [named])]
    exact List.perm_middle
  show (members.filter named).Perm _ ↔ _
  constructor
  · intro perm
    have format : ("format", Value.text s.format.name) ∈ members.filter named :=
      perm.mem_iff.2 List.mem_cons_self
    obtain ⟨before, after, rfl⟩ := List.append_of_mem (List.mem_filter.1 format).1
    have others := (List.perm_cons _).1 ((split before after).symm.trans perm)
    have apart : ∀ m ∈ before ++ after, m.1 ≠ "format" := by
      intro m there same
      have property := others.mem_iff.1 (List.mem_filter.2 ⟨there, by simp [named, same]⟩)
      exact (mem_propertyMembers property).1 same
    rw [properties apart] at others
    exact ⟨before, after, rfl, apart, ofMembers_eq_ok.2 ⟨rfl, others⟩⟩
  · intro ⟨before, after, same, apart, made⟩
    subst same
    refine (split before after).trans (List.Perm.cons _ ?_)
    rw [properties apart]
    exact (ofMembers_eq_ok.1 made).2

end Subject

end HubPublisher.Event
