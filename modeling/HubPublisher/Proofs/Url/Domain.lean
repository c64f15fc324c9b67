import HubPublisher.Url.Domain
import Mathlib.Tactic.SplitIfs
import Mathlib.Tactic.Tauto

/-!
The characters of a domain name in its ASCII form.

A label is written as it is, behind the mark of Punycode as the code that it was read from, or
encoded. Whatever stands in a code is a character of the label, a digit or a hyphen
(`mem_of_decode?`, `mem_of_encode`). The label has no character that is forbidden, and no digit and
no hyphen is one, so the name has none either (`domainToAscii?_plain`). Above all it has no colon
and no bracket.
-/
namespace HubPublisher.Url

open Text

/-! ## Characters -/

/-- Letters and digits of ASCII are not forbidden. -/
theorem plain_of_alphanumeric {c : Char}
    (h : 48 ≤ c.toNat ∧ c.toNat ≤ 57 ∨ 65 ≤ c.toNat ∧ c.toNat ≤ 90
      ∨ 97 ≤ c.toNat ∧ c.toNat ≤ 122) : isForbiddenInDomain c = false := by
  have hall : ∀ n ∈ List.range 123, 48 ≤ n ∧ n ≤ 57 ∨ 65 ≤ n ∧ n ≤ 90 ∨ 97 ≤ n ∧ n ≤ 122 →
      isForbiddenInDomain (Char.ofNat n) = false := by decide +kernel
  have here := hall c.toNat (List.mem_range.2 (by omega)) h
  rwa [Char.ofNat_toNat] at here

theorem plain_of_isDigit {c : Char} (h : c.isDigit = true) : isForbiddenInDomain c = false :=
  plain_of_alphanumeric (.inl (Char.isDigit_iff_toNat.1 h))

namespace Punycode

variable {here : Place} {bias position weight d : Nat} {isFirst : Bool} {c : Char}
  {cs rest text t : List Char}

theorem plain_of_value? (h : (value? c).isSome) : isForbiddenInDomain c = false := by
  refine plain_of_alphanumeric ?_
  unfold value? at h
  simp only [Bool.and_eq_true, decide_eq_true_eq] at h
  split_ifs at h
  all_goals first | omega | cases h

/-! ## Reading a code -/

/-- What is taken off a code for a distance are digits. -/
theorem digits_of_readDistance? (h : readDistance? bias position weight cs = some (d, rest)) :
    ∀ c ∈ cs, c ∈ rest ∨ (value? c).isSome := by
  induction cs generalizing position weight d rest with
  | nil => exact fun c hc => absurd hc List.not_mem_nil
  | cons x cs ih =>
    rw [readDistance?] at h
    split at h
    · cases h
    · rename_i v digit
      rw [List.forall_mem_cons]
      refine ⟨.inr (digit ▸ rfl), ?_⟩
      split_ifs at h
      · cases h
        exact fun c hc => .inl hc
      · split at h
        · rename_i read
          split_ifs at h
          cases h
          exact ih read
        · cases h

/-- Insertions keep the text and are told by digits. -/
theorem mem_of_readPlaces? (h : readPlaces? here bias isFirst text cs = some t) :
    (∀ c ∈ text, c ∈ t) ∧ ∀ c ∈ cs, (value? c).isSome := by
  -- each insertion takes at least one digit off the code
  induction size : cs.length using Nat.strongRecOn generalizing here bias isFirst text cs with
  | _ size ih =>
    subst size
    rw [readPlaces?.eq_def] at h
    split at h
    · cases h
      exact ⟨fun _ hc => hc, List.forall_mem_nil _⟩
    · split at h
      · cases h
      · rename_i d rest read
        dsimp only at h
        split_ifs at h
        obtain ⟨kept, digits⟩ := ih _ (length_readDistance? read) h rfl
        constructor
        · intro c hc
          refine kept c ?_
          rw [← List.take_append_drop ((here.index + d) % (text.length + 1)) text] at hc
          simp only [List.mem_append, List.mem_cons] at hc ⊢
          tauto
        · intro c hc
          rcases digits_of_readDistance? read c hc with later | digit
          · exact digits c later
          · exact digit

/-- What stands in a code is in its text, or a digit or a hyphen. -/
theorem mem_of_decode? (h : decode? cs = some text) (hc : c ∈ cs) :
    c ∈ text ∨ c = '-' ∨ (value? c).isSome := by
  unfold decode? at h
  dsimp only at h
  split_ifs at h
  obtain ⟨kept, digits⟩ := mem_of_readPlaces? h
  simp only [List.mem_reverse] at kept digits
  have place := List.mem_reverse.2 hc
  rw [← List.takeWhile_append_dropWhile (p := fun c => decide (c ≠ '-')) (l := cs.reverse),
    List.mem_append] at place
  rcases place with behind | before
  · exact .inr (.inr (digits c behind))
  · -- what stands before the digits is a hyphen with the ASCII characters before it
    cases hyphen : cs.reverse.dropWhile (fun c => decide (c ≠ '-')) with
    | nil =>
      rw [hyphen] at before
      exact absurd before List.not_mem_nil
    | cons x ascii =>
      rw [hyphen] at before kept
      rcases List.mem_cons.1 before with rfl | before
      · have stops := List.head?_dropWhile_not (fun c => decide (c ≠ '-')) cs.reverse
        rw [hyphen] at stops
        exact .inr (.inl (by simpa using stops))
      · exact .inl (kept c before)

/-! ## Writing a code -/

theorem value?_of_writeDistance (bias position distance : Nat) :
    ∀ c ∈ writeDistance bias position distance, (value? c).isSome := by
  induction distance using Nat.strongRecOn generalizing position with
  | _ distance ih =>
    have pos := threshold_pos bias position
    have lt := threshold_lt bias position
    rw [writeDistance]
    split_ifs with last
    · rw [List.forall_mem_singleton, value?_digit (by omega)]
      rfl
    · have part : (distance - threshold bias position) % (36 - threshold bias position)
          < 36 - threshold bias position := Nat.mod_lt _ (by omega)
      have less := Nat.div_le_self (distance - threshold bias position)
        (36 - threshold bias position)
      rw [List.forall_mem_cons, value?_digit (by omega)]
      exact ⟨rfl, ih _ (by omega) _⟩

theorem value?_of_writePlaces (here : Place) (length bias : Nat) (isFirst : Bool)
    (places : List Place) :
    ∀ c ∈ writePlaces here length bias isFirst places, (value? c).isSome := by
  induction places generalizing here length bias isFirst with
  | nil => exact List.forall_mem_nil _
  | cons p rest ih =>
    rw [writePlaces, List.forall_mem_append]
    exact ⟨value?_of_writeDistance _ _ _, ih _ _ _ _⟩

/-- A code is made of characters of its text, digits and hyphens. -/
theorem mem_of_encode (h : c ∈ encode cs) : c ∈ cs ∨ c = '-' ∨ (value? c).isSome := by
  unfold encode at h
  rw [List.mem_append, List.mem_append] at h
  rcases h with (ascii | hyphen) | places
  · exact .inl (List.mem_filter.1 ascii).1
  · split_ifs at hyphen
    · cases hyphen
    · exact .inr (.inl (List.mem_singleton.1 hyphen))
  · exact .inr (.inr (value?_of_writePlaces _ _ _ _ _ c places))

/-- Characters of a code are forbidden no more than those of its text. -/
theorem plain_of_mem (plain : ∀ c ∈ text, isForbiddenInDomain c = false)
    (h : c ∈ text ∨ c = '-' ∨ (value? c).isSome) : isForbiddenInDomain c = false := by
  rcases h with listed | rfl | digit
  · exact plain c listed
  · decide
  · exact plain_of_value? digit

end Punycode

/-! ## Names -/

/-- Whatever is read from the members of a list is read from one of them. -/
theorem exists_of_mem_mapM {α β : Type} {f : α → Option β} {l : List α} {m : List β} {b : β}
    (h : l.mapM f = some m) (hb : b ∈ m) : ∃ a ∈ l, f a = some b := by
  induction l generalizing m with
  | nil =>
    cases h
    exact absurd hb List.not_mem_nil
  | cons a l ih =>
    simp only [List.mapM_cons, Option.bind_eq_bind, Option.bind_eq_some_iff] at h
    obtain ⟨first, here, rest, later, read⟩ := h
    cases read
    rcases List.mem_cons.1 hb with rfl | hb
    · exact ⟨a, List.mem_cons_self, here⟩
    · obtain ⟨x, hx, found⟩ := ih later hb
      exact ⟨x, List.mem_cons_of_mem a hx, found⟩

theorem plain_of_isAllowed {text : List Char} (h : Label.isAllowed text = true) :
    ∀ c ∈ text, isForbiddenInDomain c = false := by
  simp only [Label.isAllowed, Bool.and_eq_true, Bool.not_eq_true', List.any_eq_false] at h
  intro c hc
  simpa using h.1.1 c hc

theorem punycodeMark_plain : ∀ c ∈ punycodeMark, isForbiddenInDomain c = false := by
  simp only [punycodeMark, List.forall_mem_cons]
  exact ⟨rfl, rfl, rfl, rfl, List.forall_mem_nil _⟩

theorem Label.ofChars?_plain {cs : List Char} {l : Label} (h : Label.ofChars? cs = some l) :
    ∀ c ∈ l.ascii, isForbiddenInDomain c = false := by
  unfold Label.ofChars? at h
  split at h
  · rename_i code marked
    split_ifs at h
    split at h
    · rename_i text decoded
      split_ifs at h with accepted
      cases h
      simp only [Bool.and_eq_true] at accepted
      rw [dropStart?_eq_some_iff.1 marked, List.forall_mem_append]
      refine ⟨punycodeMark_plain, fun c hc => ?_⟩
      exact Punycode.plain_of_mem (plain_of_isAllowed accepted.1.1)
        (Punycode.mem_of_decode? decoded hc)
    · cases h
  · split_ifs at h with refused ascii short
    · cases h
      exact plain_of_isAllowed (by simpa using refused)
    · cases h
      rw [List.forall_mem_append]
      refine ⟨punycodeMark_plain, fun c hc => ?_⟩
      exact Punycode.plain_of_mem (plain_of_isAllowed (by simpa using refused))
        (Punycode.mem_of_encode hc)

theorem joinLabels_plain {labels : List (List Char)}
    (h : ∀ l ∈ labels, ∀ c ∈ l, isForbiddenInDomain c = false) :
    ∀ c ∈ joinLabels labels, isForbiddenInDomain c = false := by
  induction labels with
  | nil => exact List.forall_mem_nil _
  | cons l rest ih =>
    obtain ⟨first, others⟩ := List.forall_mem_cons.1 h
    cases rest with
    | nil => exact first
    | cons m rest =>
      rw [joinLabels, List.forall_mem_append, List.forall_mem_cons]
      · exact ⟨first, by decide, ih others⟩
      · exact nofun

/-- No ASCII form of a name has a character that is forbidden in names. -/
theorem domainToAscii?_plain {cs name : List Char} (h : domainToAscii? cs = some name) :
    ∀ c ∈ name, isForbiddenInDomain c = false := by
  simp only [domainToAscii?, Option.bind_eq_bind, Option.bind_eq_some_iff] at h
  obtain ⟨plain, -, labels, read, joined⟩ := h
  split_ifs at joined
  cases joined
  refine joinLabels_plain (List.forall_mem_map.2 fun l hl => ?_)
  -- every label was read from a part of the plain form
  obtain ⟨part, -, ofPart⟩ := exists_of_mem_mapM read hl
  exact Label.ofChars?_plain ofPart

end HubPublisher.Url
