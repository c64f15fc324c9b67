import HubPublisher.Proofs.Url.Domain
import HubPublisher.Proofs.Url.Form
import HubPublisher.Url.Parser
import Mathlib.Data.List.Basic
import Mathlib.Data.List.TakeWhile

/-!
Hosts told by their text.

A host that is read is a name that is no number, an address of thirty-two bits or eight pieces
(`readDomainHost_formed`), and such a host is told by its text (`Host.write_inj`). Only pieces start
with a bracket, and only an address ends in a number. An address is cut at its dots into its octets.
Pieces are cut at their colons: what stands before the first empty part and what stands behind the
last one are the pieces around the run of zeros that was left out, and that they are eight tells how
long the run was. Whatever follows a host in an authority is read apart from it
(`splitHost_write`), since no host has a colon outside brackets.
-/
namespace HubPublisher.Text.Hex

theorem digit?_digitChar {d : Nat} (h : d < 16) : digit? d.digitChar = some d := by
  have hall : ∀ d ∈ List.range 16, digit? (Nat.digitChar d) = some d := by decide
  exact hall d (List.mem_range.2 h)

theorem value?_append (cs : List Char) (c : Char) :
    value? (cs ++ [c]) = (value? cs).bind fun v => (digit? c).map (v * 16 + ·) :=
  List.foldl_append ..

/-- A number is read back from its digits. -/
theorem value?_toDigits (n : Nat) : value? (Nat.toDigits 16 n) = some n := by
  induction n using Nat.strongRecOn with
  | _ n ih =>
    rw [Nat.toDigits_eq_if (by decide)]
    split_ifs with small
    · simp [value?, digit?_digitChar small]
    · rw [value?_append, ih (n / 16) (by omega), digit?_digitChar (by omega)]
      simp only [Option.bind_some, Option.map_some]
      congr 1
      omega

theorem toDigits_injective : Function.Injective (Nat.toDigits 16) := by
  intro m n same
  have values := congrArg value? same
  rwa [value?_toDigits, value?_toDigits, Option.some.injEq] at values

theorem exists_of_mem_toDigits {n : Nat} {c : Char} (h : c ∈ Nat.toDigits 16 n) :
    ∃ d < 16, c = Nat.digitChar d := by
  induction n using Nat.strongRecOn with
  | _ n ih =>
    rw [Nat.toDigits_eq_if (by decide)] at h
    split_ifs at h with small
    · exact ⟨n, small, List.mem_singleton.1 h⟩
    · rcases List.mem_append.1 h with before | last
      · exact ih (n / 16) (by omega) before
      · exact ⟨n % 16, by omega, List.mem_singleton.1 last⟩

end HubPublisher.Text.Hex

namespace HubPublisher.Url

open Text

theorem toDigits_ten_injective : Function.Injective (Nat.toDigits 10) := by
  intro m n same
  have values := congrArg (Nat.ofDigitChars 10 · 0) same
  rwa [Nat.ofDigitChars_ten_toDigits, Nat.ofDigitChars_ten_toDigits] at values

theorem plain_of_mem_toDigits_ten {n : Nat} {c : Char} (h : c ∈ Nat.toDigits 10 n) :
    isForbiddenInDomain c = false :=
  plain_of_isDigit (Nat.isDigit_of_mem_toDigits (by decide) (by decide) h)

theorem plain_of_mem_toDigits_hex {n : Nat} {c : Char} (h : c ∈ Nat.toDigits 16 n) :
    isForbiddenInDomain c = false := by
  have hall : ∀ d ∈ List.range 16, isForbiddenInDomain (Nat.digitChar d) = false := by decide
  obtain ⟨d, small, rfl⟩ := Hex.exists_of_mem_toDigits h
  exact hall d (List.mem_range.2 small)

/-! ## Addresses of version 4 -/

/-- The octets of an address, in order. -/
def octetsOf (n : Nat) : List Nat :=
  [n / 0x1000000 % 256, n / 0x10000 % 256, n / 256 % 256, n % 256]

theorem toList_writeAddress (n : Nat) :
    (writeAddress n).toList = ['.'].intercalate ((octetsOf n).map (Nat.toDigits 10)) := by
  simp only [writeAddress, octetsOf, String.toList_intercalate, List.map_cons, List.map_nil,
    Nat.toString_eq_repr, Nat.toList_repr]
  rfl

theorem splitBy_writeAddress (n : Nat) :
    splitBy (· == '.') (writeAddress n).toList = (octetsOf n).map (Nat.toDigits 10) := by
  rw [toList_writeAddress]
  refine splitBy_intercalate rfl (by simp [octetsOf]) (List.forall_mem_map.2 fun b _ c hc => ?_)
  rw [beq_eq_false_iff_ne]
  rintro rfl
  exact absurd (Nat.isDigit_of_mem_toDigits (by decide) (by decide) hc) (by decide)

/-- The octets are all that there is to an address. -/
theorem octetsOf_inj {m n : Nat} (hm : m < 0x100000000) (hn : n < 0x100000000)
    (h : octetsOf m = octetsOf n) : m = n := by
  simp only [octetsOf, List.cons.injEq, and_true] at h
  omega

theorem writeAddress_inj {m n : Nat} (hm : m < 0x100000000) (hn : n < 0x100000000)
    (h : writeAddress m = writeAddress n) : m = n := by
  have parts := congrArg (fun s => splitBy (· == '.') s.toList) h
  simp only [splitBy_writeAddress] at parts
  exact octetsOf_inj hm hn (toDigits_ten_injective.list_map parts)

theorem endsInNumber_writeAddress (n : Nat) : endsInNumber (writeAddress n).toList = true := by
  have digits : (Nat.toDigits 10 (n % 256)).all Char.isDigit = true :=
    List.all_eq_true.2 fun c hc => Nat.isDigit_of_mem_toDigits (by decide) (by decide) hc
  cases last : Nat.toDigits 10 (n % 256) with
  | nil => exact absurd last Nat.toDigits_ne_nil
  | cons d ds =>
    rw [last] at digits
    simp [endsInNumber, splitBy_writeAddress, octetsOf, last, digits]

/-- What stands in parts with a separator between them is the separator or stands in one of them. -/
theorem of_mem_intercalate {sep c : Char} {parts : List (List Char)}
    (h : c ∈ [sep].intercalate parts) : c = sep ∨ ∃ part ∈ parts, c ∈ part := by
  induction parts with
  | nil => exact absurd h List.not_mem_nil
  | cons part rest ih =>
    cases rest with
    | nil =>
      rw [List.intercalate_singleton] at h
      exact .inr ⟨part, List.mem_cons_self, h⟩
    | cons next rest =>
      rw [List.intercalate_cons_cons, List.mem_append, List.mem_append, List.mem_singleton] at h
      rcases h with (here | between) | later
      · exact .inr ⟨part, List.mem_cons_self, here⟩
      · exact .inl between
      · refine (ih later).imp_right ?_
        rintro ⟨other, member, hc⟩
        exact ⟨other, List.mem_cons_of_mem part member, hc⟩

theorem writeAddress_plain (n : Nat) :
    ∀ c ∈ (writeAddress n).toList, isForbiddenInDomain c = false := by
  rw [toList_writeAddress]
  intro c hc
  rcases of_mem_intercalate hc with rfl | ⟨part, member, hc⟩
  · decide
  · obtain ⟨b, -, rfl⟩ := List.mem_map.1 member
    exact plain_of_mem_toDigits_ten hc

/-- The number that parts make fits in thirty-two bits. -/
theorem lt_of_joinParts {parts : List Nat} {n : Nat} (h : joinParts parts = some n) :
    n < 0x100000000 := by
  unfold joinParts at h
  split at h
  · cases h
  · rename_i last before _
    dsimp only at h
    split_ifs at h with fits
    obtain ⟨few, small, last_lt⟩ := fits
    cases h
    -- there are at most three octets before the last part
    rcases octets : before.reverse with _ | ⟨a, _ | ⟨b, _ | ⟨c, _ | ⟨d, more⟩⟩⟩⟩
    all_goals
      rw [octets] at few small last_lt
      simp at few small last_lt ⊢
      try omega

/-! ## Addresses of version 6 -/

variable {A B ps qs : List Nat}

theorem toList_hexTexts (ps : List Nat) :
    (String.intercalate ":" (ps.map hexText)).toList
      = [':'].intercalate (ps.map (Nat.toDigits 16)) := by
  rw [String.toList_intercalate, List.map_map]
  congr 1
  exact List.map_congr_left fun n _ => String.toList_ofList

/-- The parts between the colons of pieces; of none there is an empty one. -/
def hexParts (ps : List Nat) : List (List Char) :=
  if ps = [] then [[]] else ps.map (Nat.toDigits 16)

theorem splitBy_hexTexts (ps : List Nat) :
    splitBy (· == ':') (String.intercalate ":" (ps.map hexText)).toList = hexParts ps := by
  rw [toList_hexTexts]
  unfold hexParts
  split_ifs with none
  · rw [none]
    rfl
  · refine splitBy_intercalate rfl (by simpa using none) ?_
    refine List.forall_mem_map.2 fun n _ c hc => ?_
    have plain := plain_of_mem_toDigits_hex hc
    rw [beq_eq_false_iff_ne]
    rintro rfl
    cases plain

/-- What is read from the front up to the first empty part. -/
def untilEmpty (parts : List (List Char)) : List (List Char) := parts.takeWhile (!·.isEmpty)

theorem untilEmpty_map (ps : List Nat) (rest : List (List Char)) :
    untilEmpty (ps.map (Nat.toDigits 16) ++ rest)
      = ps.map (Nat.toDigits 16) ++ untilEmpty rest := by
  refine List.takeWhile_append_of_pos (List.forall_mem_map.2 fun n _ => ?_)
  simp [Nat.toDigits_ne_nil]

theorem untilEmpty_hexParts (ps : List Nat) (rest : List (List Char)) :
    untilEmpty (hexParts ps ++ [] :: rest) = ps.map (Nat.toDigits 16) := by
  unfold hexParts
  split_ifs with none
  · rw [none]
    rfl
  · rw [untilEmpty_map]
    exact List.append_nil _

theorem reverse_hexParts (ps : List Nat) : (hexParts ps).reverse = hexParts ps.reverse := by
  unfold hexParts
  by_cases none : ps = []
  · simp [none]
  · simp [none]

/-- Where the longest run of zeros is, zeros are. -/
theorem longestZeroRun_spec (j : Nat) (ps : List Nat) (some : 0 < (longestZeroRun j ps).2) :
    ∃ A B, ps = A ++ List.replicate (longestZeroRun j ps).2 0 ++ B ∧
      (longestZeroRun j ps).1 = j + A.length := by
  induction ps generalizing j with
  | nil => exact absurd some (Nat.lt_irrefl 0)
  | cons x rest ih =>
    rw [longestZeroRun] at some ⊢
    split_ifs at some ⊢ with here
    · -- the run starts here
      refine ⟨[], (x :: rest).dropWhile (· == 0), ?_, rfl⟩
      have zeros : (x :: rest).takeWhile (· == 0) = List.replicate (zeroRun (x :: rest)) 0 :=
        List.eq_replicate_of_mem fun b hb => by simpa using List.mem_takeWhile_imp hb
      rw [List.nil_append, ← zeros, List.takeWhile_append_dropWhile]
    · obtain ⟨A, B, split, start⟩ := ih (j + 1) some
      refine ⟨x :: A, B, ?_, ?_⟩
      · rw [List.cons_append, List.cons_append, ← split]
      · rw [start, List.length_cons]
        omega

/-- The text of pieces is cut at its colons into the parts of all of them, or into those around a
run of zeros with an empty part for each end of the run. -/
theorem splitBy_writePieces (ps : List Nat) :
    splitBy (· == ':') (writePieces ps).toList = hexParts ps ∨
      ∃ A B n, 2 ≤ n ∧ ps = A ++ List.replicate n 0 ++ B ∧
        splitBy (· == ':') (writePieces ps).toList = hexParts A ++ [] :: hexParts B := by
  have spec := longestZeroRun_spec 0 ps
  unfold writePieces
  generalize longestZeroRun 0 ps = run at spec ⊢
  obtain ⟨i, n⟩ := run
  dsimp only at spec ⊢
  split_ifs with short
  · exact .inl (splitBy_hexTexts ps)
  · obtain ⟨A, B, split, start⟩ := spec (by omega)
    rw [Nat.zero_add] at start
    subst start
    refine .inr ⟨A, B, n, by omega, split, ?_⟩
    have before : ps.take A.length = A := by rw [split, List.append_assoc, List.take_left]
    have behind : ps.drop (A.length + n) = B := by
      rw [split, List.drop_append_of_le_length (by simp), List.drop_of_length_le (by simp),
        List.nil_append]
    have text : (String.intercalate ":" (A.map hexText) ++ "::"
        ++ String.intercalate ":" (B.map hexText)).toList
        = (String.intercalate ":" (A.map hexText)).toList
          ++ ':' :: ':' :: (String.intercalate ":" (B.map hexText)).toList := by
      simp
    rw [before, behind, text, splitBy_append rfl, splitBy_cons_of_pos rfl, splitBy_hexTexts,
      splitBy_hexTexts]

/-- Eight pieces are all that is read up to the first empty part of their text, or fewer than eight
are read there and from behind, and zeros are between. -/
theorem pieces_of_text (eight : ps.length = 8) :
    let parts := splitBy (· == ':') (writePieces ps).toList
    untilEmpty parts = ps.map (Nat.toDigits 16) ∨
      ∃ A B, A.length + B.length < 8 ∧ untilEmpty parts = A.map (Nat.toDigits 16) ∧
        untilEmpty parts.reverse = B.reverse.map (Nat.toDigits 16) ∧
        ps = A ++ List.replicate (8 - (A.length + B.length)) 0 ++ B := by
  intro parts
  rcases splitBy_writePieces ps with all | ⟨A, B, n, two, split, around⟩
  · have some : ps ≠ [] := by
      rintro rfl
      cases eight
    refine .inl ?_
    have whole := untilEmpty_map ps []
    rw [List.append_nil] at whole
    rw [show parts = hexParts ps from all, hexParts, if_neg some, whole]
    exact List.append_nil _
  · have size : A.length + (n + B.length) = 8 := by
      rw [← eight, split]
      simp
    refine .inr ⟨A, B, by omega, ?_, ?_, ?_⟩
    · rw [show parts = _ from around, untilEmpty_hexParts]
    · rw [show parts = _ from around, List.reverse_append, List.reverse_cons, reverse_hexParts,
        List.append_assoc, List.singleton_append, untilEmpty_hexParts]
    · rw [show 8 - (A.length + B.length) = n by omega]
      exact split

theorem writePieces_inj (hp : ps.length = 8) (hq : qs.length = 8)
    (h : writePieces ps = writePieces qs) : ps = qs := by
  have injective := Hex.toDigits_injective.list_map
  have of_p := pieces_of_text hp
  have of_q := pieces_of_text hq
  rw [← h] at of_q
  rcases of_p with whole | ⟨A, B, few, front, back, rfl⟩
  · rcases of_q with whole' | ⟨A', B', few', front', -, -⟩
    · exact injective (whole.symm.trans whole')
    · -- eight pieces are not fewer than eight
      have same := injective (whole.symm.trans front')
      rw [same] at hp
      omega
  · rcases of_q with whole' | ⟨A', B', -, front', back', rfl⟩
    · have same := injective (front.symm.trans whole')
      rw [← same] at hq
      omega
    · have first := injective (front.symm.trans front')
      have last := List.reverse_injective (injective (back.symm.trans back'))
      rw [first, last]

theorem writePieces_chars (ps : List Nat) :
    ∀ c ∈ (writePieces ps).toList, c = ':' ∨ isForbiddenInDomain c = false := by
  have texts (qs : List Nat) : ∀ c ∈ (String.intercalate ":" (qs.map hexText)).toList,
      c = ':' ∨ isForbiddenInDomain c = false := by
    intro c hc
    rw [toList_hexTexts] at hc
    refine (of_mem_intercalate hc).imp_right ?_
    rintro ⟨part, member, hc⟩
    obtain ⟨n, -, rfl⟩ := List.mem_map.1 member
    exact plain_of_mem_toDigits_hex hc
  unfold writePieces
  dsimp only
  split_ifs
  · exact texts ps
  · rw [String.toList_append, String.toList_append, List.forall_mem_append, List.forall_mem_append]
    exact ⟨⟨texts _, by simp⟩, texts _⟩

/-! ## Reading pieces -/

/-- There are no more than eight pieces, and what was left out was left out between them. -/
structure Pieces.Fitting (p : Pieces) : Prop where
  count : p.count ≤ 8
  gap : ∀ i, p.gap = some i → i ≤ p.read.length

namespace Pieces.Fitting

variable {p q : Pieces}

theorem leaveOut (h : p.Fitting) (none : p.gap = none) (room : p.count ≠ 8) :
    (⟨p.read, some p.read.length⟩ : Pieces).Fitting := by
  have count := h.count
  unfold Pieces.count at count room
  rw [none] at count room
  refine ⟨?_, fun i hi => Nat.le_of_eq (Option.some.inj hi).symm⟩
  simp [Pieces.count] at count room ⊢
  omega

theorem append (h : p.Fitting) {more : List Nat} (room : p.count + more.length ≤ 8) :
    (⟨p.read ++ more, p.gap⟩ : Pieces).Fitting := by
  refine ⟨?_, fun i hi => ?_⟩
  · unfold Pieces.count at room ⊢
    rw [List.length_append]
    dsimp only
    omega
  · have before := h.gap i hi
    rw [List.length_append]
    omega

theorem length_of_fillPieces (h : p.Fitting) (filled : fillPieces p = some ps) : ps.length = 8 := by
  have count := h.count
  unfold fillPieces at filled
  split at filled
  · split_ifs at filled with eight
    cases filled
    exact eight
  · rename_i i gap
    have before := h.gap i gap
    cases filled
    rw [Pieces.count, gap] at count
    simp at count ⊢
    omega

end Pieces.Fitting

theorem readPieces_fitting {fuel : Nat} {p q : Pieces} {cs : List Char} (h : p.Fitting)
    (read : readPieces fuel p cs = some q) : q.Fitting := by
  have count := h.count
  fun_induction readPieces fuel p cs with
  | case2 =>
    cases read
    exact h
  | case4 fuel p rest accepted ih =>
    -- a run of zeros is left out here
    obtain ⟨room, gap⟩ := not_or.1 accepted
    have next := h.leaveOut (by simpa using gap) room
    exact ih next read next.count
  | case7 fuel p cs _ _ _ ds rest tail _ accepted =>
    -- an address of version 4 makes the last two pieces
    obtain ⟨t, -, rfl⟩ := Option.map_eq_some_iff.1 read
    have room := (not_or.1 accepted).2
    exact h.append (by simp; omega)
  | case8 fuel p cs _ _ room =>
    obtain ⟨v, -, rfl⟩ := Option.map_eq_some_iff.1 read
    exact h.append (by simp; omega)
  | case10 fuel p cs _ _ room ds _ rest v _ _ _ ih =>
    have next : (⟨p.read ++ [v], p.gap⟩ : Pieces).Fitting := h.append (by simp; omega)
    exact ih next read next.count
  | _ => cases read

theorem length_of_piecesOf? {cs : List Char} (h : piecesOf? cs = some ps) : ps.length = 8 := by
  unfold piecesOf? at h
  dsimp only at h
  split at h
  · cases h
  · rename_i p rest start
    obtain ⟨q, read, filled⟩ := Option.bind_eq_some_iff.1 h
    have fitting : p.Fitting := by
      split at start
      · cases start
        exact ⟨by decide, by simp⟩
      · cases start
      · cases start
        exact ⟨by decide, by simp⟩
    exact (readPieces_fitting fitting read).length_of_fillPieces filled

/-! ## Hosts -/

/-- What every host is that was read as one that a URL has to have. -/
inductive Host.Formed : Host → Prop
  | name {s : String} (plain : ∀ c ∈ s.toList, isForbiddenInDomain c = false)
      (noNumber : endsInNumber s.toList = false) : Formed (.name s)
  | address {n : Nat} (bits : n < 0x100000000) : Formed (.address n)
  | pieces {ps : List Nat} (eight : ps.length = 8) : Formed (.pieces ps)

variable {h k : Host}

theorem readDomainHost_formed {cs : List Char} (read : readDomainHost cs = .ok h) : h.Formed := by
  unfold readDomainHost readPiecesHost at read
  split_ifs at read
  · split at read
    · rename_i ps bracketed
      cases read
      obtain ⟨inner, -, pieces⟩ := Option.bind_eq_some_iff.1 bracketed
      exact .pieces (length_of_piecesOf? pieces)
    · cases read
  · split at read
    · cases read
    · cases read
    · rename_i name _ ascii
      split_ifs at read with number
      · split at read
        · rename_i n address
          cases read
          obtain ⟨parts, -, joined⟩ := Option.bind_eq_some_iff.1 address
          exact .address (lt_of_joinParts joined)
        · cases read
      · cases read
        refine .name ?_ ?_
        · rw [String.toList_ofList]
          exact domainToAscii?_plain ascii
        · rw [String.toList_ofList]
          exact Bool.eq_false_iff.2 number

/-- Pieces have a bracket in their text, and a text without forbidden characters has none. -/
theorem ne_write_pieces {s : String} (plain : ∀ c ∈ s.toList, isForbiddenInDomain c = false)
    (ps : List Nat) : s ≠ (Host.pieces ps).write := by
  rintro rfl
  have bracket : '[' ∈ (Host.pieces ps).write.toList := by simp [Host.write]
  exact absurd (plain '[' bracket) (by decide)

/-- A host is told by its text. -/
theorem Host.write_inj (hh : h.Formed) (hk : k.Formed) (same : h.write = k.write) : h = k := by
  cases hh with
  | @name s plain noNumber =>
    cases hk with
    | name _ _ => exact congrArg Host.name same
    | @address n _ =>
      have number := endsInNumber_writeAddress n
      rw [← show s = writeAddress n from same, noNumber] at number
      cases number
    | pieces _ => exact absurd same (ne_write_pieces plain _)
  | @address m bits =>
    cases hk with
    | @name s _ noNumber =>
      have number := endsInNumber_writeAddress m
      rw [show writeAddress m = s from same, noNumber] at number
      cases number
    | address bits' => exact congrArg Host.address (writeAddress_inj bits bits' same)
    | pieces _ => exact absurd same (ne_write_pieces (writeAddress_plain m) _)
  | @pieces ps eight =>
    cases hk with
    | name plain _ => exact absurd same.symm (ne_write_pieces plain ps)
    | @address n _ => exact absurd same.symm (ne_write_pieces (writeAddress_plain n) ps)
    | pieces eight' =>
      refine congrArg Host.pieces (writePieces_inj eight eight' ?_)
      have texts := congrArg String.toList same
      simp only [Host.write, String.toList_append] at texts
      exact String.toList_inj.1 (List.append_cancel_left (List.append_cancel_right texts))

/-! ## Hosts in an authority -/

/-- A character that no name has forbidden neither ends a host nor is a bracket. -/
theorem stays_of_plain {c : Char} (plain : isForbiddenInDomain c = false) :
    c ≠ ':' ∧ c ≠ '[' ∧ c ≠ ']' ∧ endsAuthority true c = false := by
  simp only [isForbiddenInDomain, Bool.or_eq_false_iff, beq_eq_false_iff_ne] at plain
  simp [endsAuthority]
  tauto

variable {cs rest : List Char}

theorem splitHost_outside (plain : ∀ c ∈ cs, isForbiddenInDomain c = false)
    (cut : splitHost true false rest = ([], rest)) :
    splitHost true false (cs ++ rest) = (cs, rest) := by
  induction cs with
  | nil => exact cut
  | cons c cs ih =>
    obtain ⟨here, later⟩ := List.forall_mem_cons.1 plain
    obtain ⟨colon, opens, closes, ends⟩ := stays_of_plain here
    simp [splitHost, colon, opens, closes, ends, ih later]

/-- Between brackets a colon does not end the host. -/
theorem splitHost_inside (chars : ∀ c ∈ cs, c = ':' ∨ isForbiddenInDomain c = false)
    (cut : splitHost true false rest = ([], rest)) :
    splitHost true true (cs ++ ']' :: rest) = (cs ++ [']'], rest) := by
  induction cs with
  | nil => simp [splitHost, endsAuthority, cut]
  | cons c cs ih =>
    obtain ⟨here, later⟩ := List.forall_mem_cons.1 chars
    rcases here with rfl | plain
    · simp [splitHost, endsAuthority, ih later]
    · obtain ⟨-, opens, closes, ends⟩ := stays_of_plain plain
      simp [splitHost, opens, closes, ends, ih later]

/-- The text of a host ends where a port may begin. -/
theorem splitHost_write (hh : h.Formed) (cut : splitHost true false rest = ([], rest)) :
    splitHost true false (h.write.toList ++ rest) = (h.write.toList, rest) := by
  cases hh with
  | name plain _ => exact splitHost_outside plain cut
  | @address n _ => exact splitHost_outside (writeAddress_plain n) cut
  | @pieces ps _ =>
    have text : (Host.pieces ps).write.toList = '[' :: ((writePieces ps).toList ++ [']']) := by
      simp [Host.write]
    have inside := splitHost_inside (writePieces_chars ps) cut
    rw [text, List.cons_append, List.append_assoc, List.singleton_append]
    simp [splitHost, endsAuthority, inside]

end HubPublisher.Url
