import HubPublisher.Text.Blank
import Mathlib.Data.List.DropRight

/-!
Trimming: what is dropped from the ends of a text, and what is left of it.

What is dropped are members of a class of characters (`exists_trimBy`), and what is left neither
starts nor ends with one (`head_trimBy`, `last_trimBy`). The two together determine the result
(`trimBy_append`), and nothing is left just when there was nothing else (`trimBy_eq_nil_iff`).
-/
namespace HubPublisher.Text

variable {p : Char → Bool} {cs before mid after : List Char} {c : Char}

/-! ## What is dropped -/

theorem trimBy_eq_rdropWhile (p : Char → Bool) (cs : List Char) :
    trimBy p cs = (cs.dropWhile p).rdropWhile p := rfl

theorem dropWhile_append (front : ∀ c ∈ before, p c = true) (first : ∀ c ∈ mid.head?, p c = false) :
    (before ++ mid).dropWhile p = mid := by
  rw [List.dropWhile_append_of_pos front]
  cases mid with
  | nil => rfl
  | cons c cs => rw [List.dropWhile_cons, first c rfl, if_neg Bool.false_ne_true]

/-- Members of the class around a text that neither starts nor ends with one are dropped. -/
theorem trimBy_append (front : ∀ c ∈ before, p c = true) (back : ∀ c ∈ after, p c = true)
    (present : mid ≠ []) (first : ∀ c ∈ mid.head?, p c = false)
    (last : ∀ c ∈ mid.getLast?, p c = false) : trimBy p (before ++ mid ++ after) = mid := by
  have head : (mid ++ after).head? = mid.head? := by
    obtain ⟨c, cs, rfl⟩ := List.exists_cons_of_ne_nil present
    rfl
  have start : (before ++ mid ++ after).dropWhile p = mid ++ after := by
    rw [List.append_assoc]
    exact dropWhile_append front (head ▸ first)
  -- what stands at the end is dropped in the same way from the reversed text
  have finish : (after.reverse ++ mid.reverse).dropWhile p = mid.reverse := by
    apply dropWhile_append
    · intro c there
      exact back c (List.mem_reverse.1 there)
    · rw [List.head?_reverse]
      exact last
  rw [trimBy, start, List.reverse_append, finish, List.reverse_reverse]

/-- What trimming drops are members of the class at both ends. -/
theorem exists_trimBy (p : Char → Bool) (cs : List Char) :
    ∃ before after, cs = before ++ trimBy p cs ++ after ∧ (∀ c ∈ before, p c = true) ∧
      ∀ c ∈ after, p c = true := by
  let rest := cs.dropWhile p
  refine ⟨cs.takeWhile p, (rest.reverse.takeWhile p).reverse, ?_, fun c => List.mem_takeWhile_imp,
    fun c there => List.mem_takeWhile_imp (List.mem_reverse.1 there)⟩
  calc cs = cs.takeWhile p ++ rest := (List.takeWhile_append_dropWhile).symm
    _ = cs.takeWhile p ++ rest.reverse.reverse := by rw [List.reverse_reverse]
    _ = cs.takeWhile p ++ (rest.reverse.takeWhile p ++ rest.reverse.dropWhile p).reverse := by
        rw [List.takeWhile_append_dropWhile]
    _ = cs.takeWhile p ++ trimBy p cs ++ (rest.reverse.takeWhile p).reverse := by
        rw [List.reverse_append, List.append_assoc]
        rfl

/-- Trimming leaves nothing exactly when there is nothing but members of the class. -/
theorem trimBy_eq_nil_iff : trimBy p cs = [] ↔ ∀ c ∈ cs, p c = true := by
  rw [trimBy_eq_rdropWhile, List.rdropWhile_eq_nil_iff]
  constructor
  · intro rest c there
    rw [← List.takeWhile_append_dropWhile (p := p) (l := cs), List.mem_append] at there
    rcases there with front | there
    · exact List.mem_takeWhile_imp front
    · exact rest c there
  · intro all c there
    exact all c ((List.dropWhile_suffix p).mem there)

/-- A text is blank if nothing of it is left when it is trimmed. -/
theorem isBlank_iff_trim {s : String} : isBlank s = true ↔ trim s = "" := by
  rw [isBlank, List.all_eq_true, ← trimBy_eq_nil_iff, trim, ← String.toList_inj,
    String.toList_ofList]
  rfl

/-! ## What is left -/

/-- What trimming leaves starts with no member of the class. -/
theorem head_trimBy (first : c ∈ (trimBy p cs).head?) : p c = false := by
  rw [trimBy_eq_rdropWhile] at first
  have kept : (cs.dropWhile p).head? = some c := by
    obtain ⟨rest, split⟩ := List.rdropWhile_prefix p (cs.dropWhile p)
    rw [← split, List.head?_append, Option.mem_def.1 first]
    rfl
  have stopped := List.head?_dropWhile_not p cs
  rwa [kept] at stopped

/-- What trimming leaves ends with no member of the class. -/
theorem last_trimBy (last : c ∈ (trimBy p cs).getLast?) : p c = false := by
  rw [trimBy, List.getLast?_reverse] at last
  have stopped := List.head?_dropWhile_not p (cs.dropWhile p).reverse
  rwa [Option.mem_def.1 last] at stopped

/-- A text with no white space at its ends. -/
def Trimmed (s : String) : Prop :=
  (∀ c ∈ s.toList.head?, isBlankChar c = false) ∧ ∀ c ∈ s.toList.getLast?, isBlankChar c = false

theorem trimmed_trim (s : String) : Trimmed (trim s) := by
  rw [Trimmed, trim, String.toList_ofList]
  exact ⟨fun _ => head_trimBy, fun _ => last_trimBy⟩

/-- A text that is trimmed is left as it is. -/
theorem trim_of_trimmed {s : String} (trimmed : Trimmed s) (present : s ≠ "") : trim s = s := by
  have some : s.toList ≠ [] := mt String.toList_eq_nil_iff.1 present
  have same : trimBy isBlankChar ([] ++ s.toList ++ []) = s.toList :=
    trimBy_append nofun nofun some trimmed.1 trimmed.2
  rw [List.nil_append, List.append_nil] at same
  rw [trim, same, String.ofList_toList]

end HubPublisher.Text
