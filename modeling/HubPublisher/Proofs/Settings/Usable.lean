import HubPublisher.Proofs.Settings.Numbers
import HubPublisher.Proofs.Settings.Switches

/-!
When properties describe a configuration, and what every configuration that they describe has.

Properties are refused only when they turn the adapter on and name no hub (`ofProperties_eq_error`).
A configuration that they describe, and whatever it becomes by changing limits, diagnostics and
times, can be worked with: it has a base URL with something in it and no white space around it just
when it is enabled, and no time or limit of it is zero (`Derived.usable`).
-/
namespace HubPublisher.Settings

variable {p : Properties} {key : String}

namespace Properties

/-- A property reads as absent if it is missing or blank. -/
theorem get?_eq_none_iff :
    p.get? key = none ↔ ∀ raw, p.values.get? key = some raw → Text.isBlank raw = true := by
  unfold get?
  cases p.values.get? key with
  | none => simp
  | some raw => cases blank : Text.isBlank raw <;> simp [blank]

theorem get?_eq_some_iff {text : String} :
    p.get? key = some text ↔ p.values.get? key = some text ∧ Text.isBlank text = false := by
  unfold get?
  cases p.values.get? key with
  | none => simp
  | some raw =>
    simp only [Option.ite_none_left_eq_some, Option.some.injEq, Bool.not_eq_true]
    constructor
    · rintro ⟨solid, rfl⟩
      exact ⟨rfl, solid⟩
    · rintro ⟨rfl, solid⟩
      exact ⟨solid, rfl⟩

end Properties

namespace Configuration

variable {c : Configuration} {warnings : List Log.Event}

/-! ## What properties are refused for -/

/-- A property is a word of small letters, in capitals or not and with white space around it. -/
def SaysWord (p : Properties) (key word : String) : Prop :=
  ∃ raw, p.values.get? key = some raw ∧ Spelt word.toList (Text.trim raw).toList

theorem any_isWord_iff {word : String} (lower : word.toList.all Char.isLower = true)
    (present : word ≠ "") : (p.get? key).any (isWord word) = true ↔ SaysWord p key word := by
  have nonblank : ∀ raw, Spelt word.toList (Text.trim raw).toList → Text.isBlank raw = false := by
    intro raw spelt
    refine Bool.eq_false_iff.2 fun blank => ?_
    rw [Text.isBlank_iff_trim.1 blank, Spelt, String.toList_empty,
      List.forall₂_nil_left_iff] at spelt
    exact present (String.toList_eq_nil_iff.1 spelt)
  simp only [Option.any_eq_true, Properties.get?_eq_some_iff, isWord_iff lower, SaysWord]
  refine exists_congr fun raw => ?_
  constructor
  · rintro ⟨⟨there, -⟩, spelt⟩
    exact ⟨there, spelt⟩
  · rintro ⟨there, spelt⟩
    exact ⟨⟨there, nonblank raw spelt⟩, spelt⟩

/-- The properties turn the adapter on. -/
def TurnedOn (p : Properties) : Prop := SaysWord p enabledKey "true"

/-- The base URL is missing or blank. -/
def NamesNoHub (p : Properties) : Prop :=
  ∀ raw, p.values.get? baseUrlKey = some raw → Text.isBlank raw = true

theorem turnedOn_iff : (p.get? enabledKey).any (isWord "true") = true ↔ TurnedOn p :=
  any_isWord_iff (by decide) (by decide)

/-- Properties are refused when they turn the adapter on and name no hub, and for nothing else. -/
theorem ofProperties_eq_error {e : ClientError} :
    ofProperties p = .error e ↔ e = .baseUrlNotConfigured ∧ TurnedOn p ∧ NamesNoHub p := by
  have absent : ((p.get? baseUrlKey).map Text.trim).isNone = true ↔ NamesNoHub p := by
    rw [Option.isNone_iff_eq_none, Option.map_eq_none_iff, Properties.get?_eq_none_iff, NamesNoHub]
  rw [← turnedOn_iff, ← absent, ← Bool.and_eq_true]
  unfold ofProperties
  simp only
  split
  · rename_i refused
    rw [Except.error.injEq, eq_comm, and_iff_left refused]
  · rename_i described
    exact iff_of_false nofun fun h => described h.2

/-! ## What configurations have -/

/-- What an adapter can work with. -/
structure Usable (c : Configuration) : Prop where
  baseUrl_iff : (∃ url, c.baseUrl = some url) ↔ c.enabled = true
  /-- A base URL has something in it, and no white space around it. -/
  trimmed : ∀ url, c.baseUrl = some url → url ≠ "" ∧ Text.Trimmed url
  timeouts : 0 < c.connectTimeout ∧ 0 < c.readTimeout ∧ 0 < c.checkoutTimeout
  limits : 1 ≤ c.maxConnections ∧ 1 ≤ c.maxConnectionsPerRoute

/-- The configurations that properties describe, and what comes of them by changing them. -/
inductive Derived : Configuration → Prop
  | described {p : Properties} {c : Configuration} {warnings : List Log.Event}
      (h : ofProperties p = .ok (c, warnings)) : Derived c
  | withPoolLimits {c : Configuration} (h : Derived c) (total perRoute : Nat) :
      Derived (c.withPoolLimits total perRoute)
  | withDiagnosticLogs {c : Configuration} (h : Derived c) (on : Bool) :
      Derived (c.withDiagnosticLogs on)
  | withTimeouts {c : Configuration} (h : Derived c) {connect read checkout : Nat}
      (connects : 0 < connect) (reads : 0 < read) (checksOut : 0 < checkout) :
      Derived (c.withTimeouts connect read checkout)

theorem enabled_of_ofProperties (h : ofProperties p = .ok (c, warnings)) :
    c.enabled = true ↔ TurnedOn p := by
  rw [← turnedOn_iff]
  simp only [ofProperties] at h
  split at h
  · cases h
  · cases h
    rfl

/-- The base URL of an enabled adapter is the property's text without the white space around it. -/
theorem baseUrl_of_ofProperties (h : ofProperties p = .ok (c, warnings)) :
    c.baseUrl = if c.enabled then (p.get? baseUrlKey).map Text.trim else none := by
  simp only [ofProperties] at h
  split at h
  · cases h
  · cases h
    rfl

theorem usable_of_ofProperties (h : ofProperties p = .ok (c, warnings)) : c.Usable := by
  have base := baseUrl_of_ofProperties h
  obtain ⟨timeouts, limits⟩ := numbers_pos_of_ofProperties h
  refine ⟨?_, ?_, timeouts, limits⟩
  · rw [base]
    constructor
    · rintro ⟨url, found⟩
      by_contra off
      rw [if_neg off] at found
      cases found
    · intro on
      -- if it were missing, the properties would have been refused
      have named : ¬NamesNoHub p := by
        intro unnamed
        have refused := ofProperties_eq_error.2 ⟨rfl, (enabled_of_ofProperties h).1 on, unnamed⟩
        rw [h] at refused
        cases refused
      rw [NamesNoHub, ← Properties.get?_eq_none_iff] at named
      obtain ⟨raw, there⟩ := Option.ne_none_iff_exists'.1 named
      exact ⟨Text.trim raw, by rw [if_pos on, there, Option.map_some]⟩
  · intro url found
    rw [base, Option.ite_none_right_eq_some, Option.map_eq_some_iff] at found
    obtain ⟨-, raw, there, rfl⟩ := found
    obtain ⟨-, solid⟩ := Properties.get?_eq_some_iff.1 there
    exact ⟨fun empty => Bool.eq_false_iff.1 solid (Text.isBlank_iff_trim.2 empty),
      Text.trimmed_trim raw⟩

/-- Every change keeps what makes a configuration usable: limits are raised to one if need be, and
the times are as they are given. -/
theorem Derived.usable (h : Derived c) : c.Usable := by
  induction h with
  | described h => exact usable_of_ofProperties h
  | withPoolLimits _ total perRoute ih =>
    exact ⟨ih.baseUrl_iff, ih.trimmed, ih.timeouts, Nat.le_max_right _ _, Nat.le_max_right _ _⟩
  | withDiagnosticLogs _ on ih => exact ⟨ih.baseUrl_iff, ih.trimmed, ih.timeouts, ih.limits⟩
  | withTimeouts _ connects reads checksOut ih =>
    exact ⟨ih.baseUrl_iff, ih.trimmed, ⟨connects, reads, checksOut⟩, ih.limits⟩

end Configuration

end HubPublisher.Settings
