import HubPublisher.Hub.Response
import HubPublisher.Proofs.Keyed
import HubPublisher.Proofs.Url.Form

/-!
The form of an answer's body, against writing and reading any form.

Reading any form finds a pair in every part that is not empty, while an answer's form takes only the
parts with one equals sign. Such a part is never empty, and written pairs are such parts
(`isPair_encodePair`): so the form of written pairs files exactly them (`form_write`), and the form
of any body is what reading finds once the parts that are no pairs are gone (`form_eq_read`).
-/
namespace HubPublisher.Hub

open Text Url.Form

variable {part : List Char}

/-- A part is a pair when there is an equals sign with no other one on either side. -/
theorem isPair_iff : isPair part = true ↔ ∃ k v, part = k ++ '=' :: v ∧ '=' ∉ k ∧ '=' ∉ v := by
  rw [isPair, beq_iff_eq]
  constructor
  · intro one
    have here : '=' ∈ part := List.count_pos_iff.1 (by omega)
    obtain ⟨k, v, rfl, first⟩ := List.eq_append_cons_of_mem here
    rw [List.count_append, List.count_cons_self, List.count_eq_zero.2 first] at one
    exact ⟨k, v, rfl, first, List.count_eq_zero.1 (by omega)⟩
  · rintro ⟨k, v, rfl, key, value⟩
    rw [List.count_append, List.count_cons_self, List.count_eq_zero.2 key,
      List.count_eq_zero.2 value]

theorem isPair_encodePair (p : String × String) : isPair (encodePair p) = true :=
  isPair_iff.2 ⟨_, _, rfl, equals_not_mem_encode _, equals_not_mem_encode _⟩

theorem not_empty_of_isPair (pair : isPair part = true) : part.isEmpty = false := by
  obtain ⟨k, v, rfl, -⟩ := isPair_iff.1 pair
  simp

theorem ampersand_not_mem_of_split {cs : List Char} (h : part ∈ splitBy (· == '&') cs) :
    '&' ∉ part := fun listed => by simpa using none_of_mem_splitBy h '&' listed

/-- The form of a body files the pairs among its parts. -/
theorem form_intercalate {parts : List (List Char)} (plain : ∀ q ∈ parts, '&' ∉ q) :
    form (String.ofList (['&'].intercalate parts))
      = Keyed.ofList ((parts.filter isPair).map readPair) := by
  rw [form, String.toList_ofList, filter_splitBy_intercalate (by decide) (by decide)]
  intro q listed c hc
  exact beq_eq_false_iff_ne.2 fun same => plain q listed (same ▸ hc)

/-- The form of written pairs files these pairs. -/
theorem form_write (pairs : List (String × String)) :
    form (String.ofList (write pairs)) = Keyed.ofList pairs := by
  have plain : ∀ q ∈ pairs.map encodePair, '&' ∉ q := by
    intro q listed
    obtain ⟨p, -, rfl⟩ := List.mem_map.1 listed
    exact ampersand_not_mem_encodePair p
  have all : (pairs.map encodePair).filter isPair = pairs.map encodePair := by
    refine List.filter_eq_self.2 fun q listed => ?_
    obtain ⟨p, -, rfl⟩ := List.mem_map.1 listed
    exact isPair_encodePair p
  have back : readPair ∘ encodePair = id := funext readPair_encodePair
  rw [write_eq_intercalate, form_intercalate plain, all, List.map_map, back, List.map_id]

/-- A body without its parts that are no pairs. -/
def pairsOnly (body : String) : String :=
  String.ofList (['&'].intercalate ((splitBy (· == '&') body.toList).filter isPair))

/-- What is left of a body without its parts that are no pairs is read as what its form files. -/
theorem form_eq_read (body : String) :
    form body = Keyed.ofList (read (pairsOnly body).toList) := by
  have plain : ∀ q ∈ (splitBy (· == '&') body.toList).filter isPair, '&' ∉ q :=
    fun q listed => ampersand_not_mem_of_split (List.mem_filter.1 listed).1
  have full : ∀ q ∈ (splitBy (· == '&') body.toList).filter isPair, (!q.isEmpty) = true := by
    intro q listed
    rw [not_empty_of_isPair (List.mem_filter.1 listed).2]
    rfl
  rw [pairsOnly, String.toList_ofList, read_intercalate plain, List.filter_eq_self.2 full, form]

/-- The form of written pairs is the collection of these pairs, and the form of any body is the
collection of what any form reader finds in it once the parts that are no pairs are gone. In both a
key gives the value of the last pair under it, and no other key gives any. -/
theorem form_reads_pairs :
    (∀ pairs : List (String × String),
      form (String.ofList (write pairs)) = Keyed.ofList pairs ∧
      ∀ key value, (form (String.ofList (write pairs))).get? key = some value ↔
        IsLast (·.1 = key) pairs (key, value)) ∧
    ∀ body : String,
      form body = Keyed.ofList (read (pairsOnly body).toList) ∧
      ∀ key value, (form body).get? key = some value ↔
        IsLast (·.1 = key) (read (pairsOnly body).toList) (key, value) := by
  refine ⟨fun pairs => ⟨form_write pairs, fun key value => ?_⟩,
    fun body => ⟨form_eq_read body, fun key value => ?_⟩⟩
  · rw [form_write, Keyed.get?_ofList_eq_some_iff]
  · rw [form_eq_read, Keyed.get?_ofList_eq_some_iff]

end HubPublisher.Hub
