import HubPublisher.Proofs.Text.Trim
import HubPublisher.Settings.Configuration

/-!
Which numbers the properties set.

A text spells a number when it is the number's digits, with a plus sign before them or not and with
white space around them (`Spells`). Such a text is read as the number it spells, as long as that is
positive and fits sixty-four bits (`number?_eq_some`). A numeric property that spells no such number
is its default, so a configuration holds the numbers that are spelled and defaults, and no other.
-/
namespace HubPublisher.Settings

open Text (isBlankChar trimBy)

namespace Configuration

/-! ## Numbers -/

/-- The text is the digits of a number, with a plus sign before them or not, and with white space
around them. -/
def Spells (s : String) (n : Nat) : Prop :=
  ∃ before plus digits after, s.toList = before ++ (plus ++ digits) ++ after ∧
    (∀ c ∈ before, isBlankChar c = true) ∧ (∀ c ∈ after, isBlankChar c = true) ∧
    (plus = [] ∨ plus = ['+']) ∧ digits ≠ [] ∧ (∀ d ∈ digits, d.isDigit = true) ∧
    Nat.ofDigitChars 10 digits 0 = n

theorem isBlankChar_of_isDigit {d : Char} (digit : d.isDigit = true) : isBlankChar d = false := by
  have bounds : 48 ≤ d.toNat ∧ d.toNat ≤ 57 := Char.isDigit_iff_toNat.1 digit
  simp only [isBlankChar, Bool.or_eq_false_iff, Bool.and_eq_false_iff, decide_eq_false_iff_not,
    beq_eq_false_iff_ne]
  omega

theorem dropPlus_digits {digits : List Char} (all : ∀ d ∈ digits, d.isDigit = true) :
    dropPlus digits = digits := by
  unfold dropPlus
  split
  · exact absurd (all '+' List.mem_cons_self) (by decide)
  · rfl

theorem exists_dropPlus (cs : List Char) :
    ∃ plus, cs = plus ++ dropPlus cs ∧ (plus = [] ∨ plus = ['+']) := by
  unfold dropPlus
  split
  · exact ⟨['+'], rfl, .inr rfl⟩
  · exact ⟨[], rfl, .inl rfl⟩

/-- A text is read as the number it spells if that is positive and fits sixty-four bits. -/
theorem number?_eq_some {s : String} {n : Nat} :
    number? s = some n ↔ Spells s n ∧ 0 < n ∧ n < 0x10000000000000000 := by
  let digits := dropPlus (trimBy isBlankChar s.toList)
  have value : number? s = some n ↔ (digits ≠ [] ∧ ∀ d ∈ digits, d.isDigit = true) ∧
      Nat.ofDigitChars 10 digits 0 = n ∧ 0 < n ∧ n < 0x10000000000000000 := by
    show (if digits.isEmpty || !digits.all Char.isDigit then none else _) = some n ↔ _
    by_cases form : digits ≠ [] ∧ ∀ d ∈ digits, d.isDigit = true
    · rw [if_neg (by simpa using form), Option.ite_none_right_eq_some, Option.some.injEq]
      constructor
      · intro ⟨bounds, number⟩
        exact ⟨form, number, number ▸ bounds⟩
      · intro ⟨_, number, bounds⟩
        exact ⟨number ▸ bounds, number⟩
    · rw [if_pos (by simpa [Classical.or_iff_not_imp_left] using form)]
      exact iff_of_false nofun fun ⟨form', _⟩ => form form'
  rw [value]
  constructor
  · intro ⟨⟨present, all⟩, number, bounds⟩
    obtain ⟨before, after, split, front, back⟩ := Text.exists_trimBy isBlankChar s.toList
    obtain ⟨plus, mid, sign⟩ := exists_dropPlus (trimBy isBlankChar s.toList)
    exact ⟨⟨before, plus, digits, after, by rw [← mid, ← split], front, back, sign, present, all,
      number⟩, bounds⟩
  · intro ⟨⟨before, plus, spelled, after, split, front, back, sign, present, all, number⟩, bounds⟩
    have solid : ∀ c ∈ plus ++ spelled, isBlankChar c = false := by
      intro c there
      rcases List.mem_append.1 there with there | there
      · rcases sign with rfl | rfl
        · cases there
        · rw [List.mem_singleton.1 there]
          decide
      · exact isBlankChar_of_isDigit (all c there)
    have trimmed : trimBy isBlankChar s.toList = plus ++ spelled := by
      rw [split]
      exact Text.trimBy_append front back (List.append_ne_nil_of_right_ne_nil plus present)
        (fun c first => solid c (List.mem_of_head? first))
        (fun c last => solid c (List.mem_of_getLast? last))
    have same : digits = spelled := by
      show dropPlus (trimBy isBlankChar s.toList) = spelled
      rw [trimmed]
      rcases sign with rfl | rfl
      · exact dropPlus_digits all
      · rfl
    rw [same]
    exact ⟨⟨present, all⟩, number, bounds⟩

/-! ## Numeric properties -/

/-- A property sets a number: its text spells it, and it is positive and fits sixty-four bits. -/
def Sets (p : Properties) (key : String) (n : Nat) : Prop :=
  ∃ raw, p.get? key = some raw ∧ Spells raw n ∧ 0 < n ∧ n < 0x10000000000000000

/-- A number that is read was set, unless it is the default. -/
theorem readNumber_cases (p : Properties) (key : String) (default : Nat) :
    (Sets p key (readNumber p key default).1) ∨
      (readNumber p key default).1 = default ∧ ∀ n, ¬Sets p key n := by
  cases there : p.get? key with
  | none =>
    refine .inr ⟨by simp only [readNumber, there], fun n ⟨raw, here, _⟩ => ?_⟩
    rw [there] at here
    cases here
  | some raw =>
    cases number : number? raw with
    | some n =>
      have read : (readNumber p key default).1 = n := by simp only [readNumber, there, number]
      rw [read]
      exact .inl ⟨raw, there, number?_eq_some.1 number⟩
    | none =>
      refine .inr ⟨by simp only [readNumber, there, number], fun n ⟨raw', here, spelled⟩ => ?_⟩
      rw [there] at here
      cases here
      rw [number?_eq_some.2 spelled] at number
      cases number

theorem Sets.unique {p : Properties} {key : String} {m n : Nat} (h : Sets p key m)
    (h' : Sets p key n) : m = n := by
  obtain ⟨raw, there, spelled⟩ := h
  obtain ⟨raw', there', spelled'⟩ := h'
  rw [there] at there'
  cases there'
  have same := (number?_eq_some.2 spelled).symm.trans (number?_eq_some.2 spelled')
  exact Option.some.inj same

/-- A number above the default and what it may come to is there only when it is set. -/
theorem lt_readNumber {p : Properties} {key : String} {default limit : Nat}
    (moderate : default ≤ limit) :
    limit < (readNumber p key default).1 ↔ ∃ n, Sets p key n ∧ limit < n := by
  constructor
  · intro above
    rcases readNumber_cases p key default with set | ⟨same, -⟩
    · exact ⟨_, set, above⟩
    · rw [same] at above
      exact absurd moderate (Nat.not_le.2 above)
  · intro ⟨n, set, above⟩
    rcases readNumber_cases p key default with set' | ⟨-, unset⟩
    · rw [set'.unique set]
      exact above
    · exact absurd set (unset n)

/-- A number that is read is positive if its default is. -/
theorem readNumber_pos (p : Properties) (key : String) {default : Nat} (positive : 0 < default) :
    0 < (readNumber p key default).1 := by
  rcases readNumber_cases p key default with ⟨raw, -, -, set, -⟩ | ⟨same, -⟩
  · exact set
  · rw [same]
    exact positive

/-! ## Numeric settings -/

/-- A numeric setting: its key, what it is by default, and where a configuration has it. -/
structure NumericSetting where
  key : String
  default : Nat
  value : Configuration → Nat

/-- The numeric settings, in the order in which they are read. -/
def numericSettings : List NumericSetting := [
  ⟨connectTimeoutKey, defaultTimeout, (·.connectTimeout)⟩,
  ⟨readTimeoutKey, defaultTimeout, (·.readTimeout)⟩,
  ⟨checkoutTimeoutKey, defaultTimeout, (·.checkoutTimeout)⟩,
  ⟨maxConnectionsKey, defaultConnections, (·.maxConnections)⟩,
  ⟨maxConnectionsPerRouteKey, defaultConnections, (·.maxConnectionsPerRoute)⟩]

/-- Every setting is read on its own, and the warnings are put together. -/
theorem numericSettings_of_ofProperties {p : Properties} {c : Configuration}
    {warnings : List Log.Event} (h : ofProperties p = .ok (c, warnings)) :
    (∀ s ∈ numericSettings, s.value c = (readNumber p s.key s.default).1) ∧
      warnings = numericSettings.flatMap fun s => (readNumber p s.key s.default).2 := by
  simp only [ofProperties] at h
  split at h
  · cases h
  · cases h
    exact ⟨by simp [numericSettings], by simp [numericSettings]⟩

/-- The limits of a configuration are the numbers that its properties set, or the defaults. -/
theorem limits_of_ofProperties {p : Properties} {c : Configuration} {warnings : List Log.Event}
    (h : ofProperties p = .ok (c, warnings)) :
    c.maxConnections = (readNumber p maxConnectionsKey defaultConnections).1 ∧
      c.maxConnectionsPerRoute
        = (readNumber p maxConnectionsPerRouteKey defaultConnections).1 := by
  have values := (numericSettings_of_ofProperties h).1
  simp only [numericSettings, List.forall_mem_cons] at values
  obtain ⟨-, -, -, total, perRoute, -⟩ := values
  exact ⟨total, perRoute⟩

/-- Numbers that properties describe are positive. -/
theorem numbers_pos_of_ofProperties {p : Properties} {c : Configuration}
    {warnings : List Log.Event} (h : ofProperties p = .ok (c, warnings)) :
    (0 < c.connectTimeout ∧ 0 < c.readTimeout ∧ 0 < c.checkoutTimeout) ∧
      0 < c.maxConnections ∧ 0 < c.maxConnectionsPerRoute := by
  have positive : ∀ s ∈ numericSettings, 0 < s.value c := by
    have defaults : ∀ s ∈ numericSettings, 0 < s.default := by
      simp [numericSettings, defaultTimeout, defaultConnections]
    intro s member
    rw [(numericSettings_of_ofProperties h).1 s member]
    exact readNumber_pos p s.key (defaults s member)
  simp only [numericSettings, List.forall_mem_cons] at positive
  obtain ⟨connect, read, checkout, total, perRoute, -⟩ := positive
  exact ⟨⟨connect, read, checkout⟩, total, perRoute⟩

end Configuration

end HubPublisher.Settings
