import HubPublisher.Proofs.Settings.Usable

/-!
The numeric settings of a configuration, one by one.

Of a numeric property three things can be true, and they leave nothing over: its text denotes a
number, or it has a text that denotes none, or there is nothing in it. In the first case the setting
is that number, in the others it is the default, and only the second is worth a warning. The five
settings are read one after the other and none looks at the property of another, so what holds of
one holds of each of them, and the warnings come in their order (`numbers_read_exactly`).
-/
namespace HubPublisher.Settings.Configuration

variable {p q : Properties} {c : Configuration} {warnings : List Log.Event} {key raw : String}
  {n : Nat}

/-- The text spells a number that is positive and fits sixty-four bits. -/
def Denotes (raw : String) (n : Nat) : Prop :=
  Spells raw n ∧ 0 < n ∧ n < 0x10000000000000000

/-- There is something in the property, and it denotes no number. -/
def Unreadable (p : Properties) (key raw : String) : Prop :=
  p.values.get? key = some raw ∧ Text.isBlank raw = false ∧ ∀ n, ¬Denotes raw n

/-! ## One property -/

/-- A text that spells a number has a digit in it, so it is not blank. -/
theorem isBlank_of_spells (h : Spells raw n) : Text.isBlank raw = false := by
  obtain ⟨before, plus, digits, after, split, -, -, -, present, all, -⟩ := h
  obtain ⟨d, ds, rfl⟩ := List.exists_cons_of_ne_nil present
  have digit : d.isDigit = true := all d List.mem_cons_self
  have there : d ∈ raw.toList := by
    rw [split]
    simp
  refine Bool.eq_false_iff.2 fun blank => ?_
  have white : Text.isBlankChar d = true := List.all_eq_true.1 blank d there
  rw [isBlankChar_of_isDigit digit] at white
  exact Bool.false_ne_true white

theorem number?_eq_none (h : ∀ n, ¬Denotes raw n) : number? raw = none := by
  refine Option.eq_none_iff_forall_ne_some.2 fun n found => ?_
  exact h n (number?_eq_some.1 found)

theorem readNumber_of_denotes (there : p.values.get? key = some raw) (h : Denotes raw n)
    (default : Nat) : readNumber p key default = (n, []) := by
  have present : p.get? key = some raw :=
    Properties.get?_eq_some_iff.2 ⟨there, isBlank_of_spells h.1⟩
  have number : number? raw = some n := number?_eq_some.2 h
  simp only [readNumber, present, number]

theorem readNumber_of_unreadable (h : Unreadable p key raw) (default : Nat) :
    readNumber p key default = (default, [notNumber key raw default]) := by
  obtain ⟨there, solid, none⟩ := h
  have present : p.get? key = some raw := Properties.get?_eq_some_iff.2 ⟨there, solid⟩
  simp only [readNumber, present, number?_eq_none none]

theorem readNumber_of_absent (h : ∀ raw, p.values.get? key = some raw → Text.isBlank raw = true)
    (default : Nat) : readNumber p key default = (default, []) := by
  have absent : p.get? key = none := Properties.get?_eq_none_iff.2 h
  simp only [readNumber, absent]

/-- A property denotes a number, or it is unreadable, or there is nothing in it. -/
theorem denotes_or_unreadable_or_absent (p : Properties) (key : String) :
    (∃ raw n, p.values.get? key = some raw ∧ Denotes raw n) ∨ (∃ raw, Unreadable p key raw) ∨
      ∀ raw, p.values.get? key = some raw → Text.isBlank raw = true := by
  cases there : p.values.get? key with
  | none => exact .inr (.inr nofun)
  | some raw =>
    by_cases denotes : ∃ n, Denotes raw n
    · obtain ⟨n, denotes⟩ := denotes
      exact .inl ⟨raw, n, rfl, denotes⟩
    · cases blank : Text.isBlank raw with
      | true =>
        refine .inr (.inr fun raw' same => ?_)
        cases same
        exact blank
      | false => exact .inr (.inl ⟨raw, there, blank, not_exists.1 denotes⟩)

/-- What is read for a property depends on its own text alone. -/
theorem readNumber_congr (same : p.values.get? key = q.values.get? key) (default : Nat) :
    readNumber p key default = readNumber q key default := by
  have effective : p.get? key = q.get? key := by rw [Properties.get?, Properties.get?, same]
  rw [readNumber, readNumber, effective]

/-! ## All settings -/

/-- The warnings about settings, in the order of the settings: one about each that is unreadable,
with its key, its text as it stands and the default, and none about the others. -/
inductive Warned (p : Properties) : List NumericSetting → List Log.Event → Prop
  | none : Warned p [] []
  | unreadable {s : NumericSetting} {raw : String} {ss : List NumericSetting}
      {ws : List Log.Event} (here : Unreadable p s.key raw) (rest : Warned p ss ws) :
      Warned p (s :: ss) (notNumber s.key raw s.default :: ws)
  | readable {s : NumericSetting} {ss : List NumericSetting} {ws : List Log.Event}
      (here : ∀ raw, ¬Unreadable p s.key raw) (rest : Warned p ss ws) : Warned p (s :: ss) ws

theorem warned_readNumber (p : Properties) (ss : List NumericSetting) :
    Warned p ss (ss.flatMap fun s => (readNumber p s.key s.default).2) := by
  induction ss with
  | nil => exact .none
  | cons s ss ih =>
    rw [List.flatMap_cons]
    rcases denotes_or_unreadable_or_absent p s.key with
      ⟨raw, n, there, denotes⟩ | unreadable | absent
    · rw [readNumber_of_denotes there denotes]
      refine .readable (fun raw' unreadable => ?_) ih
      -- there is one text under the key, and it denotes a number
      obtain ⟨there', -, none⟩ := unreadable
      rw [there] at there'
      cases there'
      exact none n denotes
    · obtain ⟨raw, unreadable⟩ := unreadable
      rw [readNumber_of_unreadable unreadable]
      exact .unreadable unreadable ih
    · rw [readNumber_of_absent absent]
      refine .readable (fun raw unreadable => ?_) ih
      obtain ⟨there, solid, -⟩ := unreadable
      rw [absent raw there] at solid
      cases solid

/-- In every configuration that properties describe:
1. a numeric setting is the number that its property denotes;
2. if its property denotes none, or there is no property, the setting is the default;
3. there is one warning about each setting whose property has something in it and denotes no number,
   and no other;
4. a setting is the same whatever the other properties are. -/
theorem numbers_read_exactly (h : ofProperties p = .ok (c, warnings)) :
    (∀ s ∈ numericSettings, ∀ raw n, p.values.get? s.key = some raw → Denotes raw n →
      s.value c = n) ∧
    (∀ s ∈ numericSettings, (∀ raw n, p.values.get? s.key = some raw → ¬Denotes raw n) →
      s.value c = s.default) ∧
    Warned p numericSettings warnings ∧
    ∀ q d warnings', ofProperties q = .ok (d, warnings') → ∀ s ∈ numericSettings,
      p.values.get? s.key = q.values.get? s.key → s.value c = s.value d := by
  obtain ⟨values, rfl⟩ := numericSettings_of_ofProperties h
  refine ⟨?_, ?_, warned_readNumber p numericSettings, ?_⟩
  · intro s member raw n there denotes
    rw [values s member, readNumber_of_denotes there denotes]
  · intro s member none
    rw [values s member]
    rcases denotes_or_unreadable_or_absent p s.key with
      ⟨raw, n, there, denotes⟩ | unreadable | absent
    · exact absurd denotes (none raw n there)
    · obtain ⟨raw, unreadable⟩ := unreadable
      rw [readNumber_of_unreadable unreadable]
    · rw [readNumber_of_absent absent]
  · intro q d warnings' h' s member same
    rw [values s member, (numericSettings_of_ofProperties h').1 s member,
      readNumber_congr same]

/-- A number with a plus sign, leading zeros and white space, zero, a number that is one too great,
the greatest number that fits, and white space alone. -/
def oddNumbers : Properties := ⟨Keyed.ofList [
  (connectTimeoutKey, " \t+0042\n"),
  (readTimeoutKey, "0"),
  (checkoutTimeoutKey, "18446744073709551616"),
  (maxConnectionsKey, "18446744073709551615"),
  (maxConnectionsPerRouteKey, "  ")]⟩

theorem numbers_read_exactly_sample : ∃ c warnings, ofProperties oddNumbers = .ok (c, warnings) ∧
    c.connectTimeout = 42 ∧ c.maxConnections = 18446744073709551615 ∧
    c.readTimeout = defaultTimeout ∧ Warned oddNumbers numericSettings warnings ∧
    warnings = [notNumber readTimeoutKey "0" defaultTimeout,
      notNumber checkoutTimeoutKey "18446744073709551616" defaultTimeout] := by
  have accepted : ofProperties oddNumbers = .ok (⟨false, none, 42, defaultTimeout, defaultTimeout,
      18446744073709551615, defaultConnections, none, true⟩,
      [notNumber readTimeoutKey "0" defaultTimeout,
        notNumber checkoutTimeoutKey "18446744073709551616" defaultTimeout]) := by decide +kernel
  obtain ⟨exactly, otherwise, warned, -⟩ := numbers_read_exactly accepted
  refine ⟨_, _, accepted, ?_, ?_, ?_, warned, rfl⟩
  · exact exactly ⟨connectTimeoutKey, defaultTimeout, (·.connectTimeout)⟩
      (by simp [numericSettings]) " \t+0042\n" 42 (by decide) (number?_eq_some.1 (by decide))
  · exact exactly ⟨maxConnectionsKey, defaultConnections, (·.maxConnections)⟩
      (by simp [numericSettings]) "18446744073709551615" _ (by decide)
      (number?_eq_some.1 (by decide))
  · refine otherwise ⟨readTimeoutKey, defaultTimeout, (·.readTimeout)⟩ (by simp [numericSettings])
      fun raw n there denotes => ?_
    have only : raw = "0" := Option.some.inj (there.symm.trans (by decide))
    subst only
    have none : number? "0" = none := by decide
    rw [number?_eq_some.2 denotes] at none
    cases none

end HubPublisher.Settings.Configuration
