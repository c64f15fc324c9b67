import HubPublisher.Settings.Configuration
import Mathlib.Data.List.Forall2

/-!
Which properties turn a switch, and what the switch of the diagnostics is for a configuration.

A switch is turned by a word, in capitals or not and with white space around it (`Spelt`). Of all
that a configuration is derived from, the property about diagnostics decides that one switch and
nothing else: when properties agree on all other keys, so do what they describe, the warnings on the
way and the reason why there is none (`ofProperties_alike`).
-/
namespace HubPublisher.Settings.Configuration

/-! ## Words -/

theorem toLower_eq_iff {c l : Char} (lower : 'a'.val ≤ l.val ∧ l.val ≤ 'z'.val) :
    c.toLower = l ↔ c = l ∨ c = l.toUpper := by
  have upper : l.toUpper.val = l.val + ('A'.val - 'a'.val) := by
    show (dite _ _ _ : Char).val = _
    rw [dif_pos lower]
  by_cases capital : 'A'.val ≤ c.val ∧ c.val ≤ 'Z'.val
  · have lowered : c.toLower.val = c.val + ('a'.val - 'A'.val) := by
      show (dite _ _ _ : Char).val = _
      rw [dif_pos capital]
    rw [Char.ext_iff, Char.ext_iff, Char.ext_iff, upper, lowered]
    simp only [Char.reduceVal] at lower capital ⊢
    grind
  · have kept : c.toLower = c := dif_neg capital
    rw [kept, Char.ext_iff, Char.ext_iff, upper]
    simp only [Char.reduceVal] at lower capital ⊢
    grind

/-- Each character is the letter at its place or the capital of it. -/
def Spelt (letters characters : List Char) : Prop :=
  List.Forall₂ (fun c l => c = l ∨ c = l.toUpper) characters letters

theorem map_toLower_eq_iff {letters characters : List Char}
    (lower : ∀ l ∈ letters, 'a'.val ≤ l.val ∧ l.val ≤ 'z'.val) :
    characters.map Char.toLower = letters ↔ Spelt letters characters := by
  induction letters generalizing characters with
  | nil => rw [List.map_eq_nil_iff, Spelt, List.forall₂_nil_right_iff]
  | cons l letters ih =>
    obtain ⟨here, rest⟩ := List.forall_mem_cons.1 lower
    cases characters with
    | nil => exact iff_of_false nofun nofun
    | cons c characters =>
      rw [List.map_cons, List.cons.injEq, toLower_eq_iff here, ih rest, Spelt, Spelt,
        List.forall₂_cons]

/-- A text is a word of small letters if what is left without the white space around it spells the
word, in capitals or not. -/
theorem isWord_iff {word s : String} (lower : word.toList.all Char.isLower = true) :
    isWord word s = true ↔ Spelt word.toList (Text.trim s).toList := by
  have small : ∀ l ∈ word.toList, 'a'.val ≤ l.val ∧ l.val ≤ 'z'.val := by
    intro l member
    have bounds : (decide ('a'.val ≤ l.val) && decide (l.val ≤ 'z'.val)) = true :=
      List.all_eq_true.1 lower l member
    simpa using bounds
  rw [isWord, beq_iff_eq, map_toLower_eq_iff small]

/-! ## The switch of the diagnostics -/

/-- Whether properties leave the diagnostics on. -/
def wantsDiagnostics (p : Properties) : Bool := !(p.get? diagnosticLogsKey).any (isWord "false")

/-- Diagnostics are left out when the property is set, and to the word `false`. -/
theorem wantsDiagnostics_eq_false {p : Properties} :
    wantsDiagnostics p = false ↔ ∃ raw, p.values.get? diagnosticLogsKey = some raw ∧
      Text.isBlank raw = false ∧ Spelt "false".toList (Text.trim raw).toList := by
  have word {raw : String} : isWord "false" raw = true ↔ _ := isWord_iff (s := raw) (by decide)
  unfold wantsDiagnostics Properties.get?
  cases p.values.get? diagnosticLogsKey with
  | none => simp
  | some raw =>
    cases blank : Text.isBlank raw with
    | true => simp [blank]
    | false => simp [blank, word]

/-- The properties agree on all keys but one. -/
def Alike (key : String) (p q : Properties) : Prop := ∀ k, k ≠ key → q.get? k = p.get? k

variable {p q : Properties}

theorem Alike.readNumber {key k : String} (alike : Alike key p q) (other : k ≠ key)
    (default : Nat) : readNumber q k default = readNumber p k default := by
  unfold Configuration.readNumber
  rw [alike k other]

/-- What properties describe depends on the one about diagnostics in the switch alone. -/
theorem ofProperties_alike (alike : Alike diagnosticLogsKey p q) :
    ofProperties q
      = (ofProperties p).map fun r => (r.1.withDiagnosticLogs (wantsDiagnostics q), r.2) := by
  have number (k : String) (other : k ≠ diagnosticLogsKey) (default : Nat) :=
    alike.readNumber other default
  unfold ofProperties
  simp only [alike enabledKey (by decide), alike baseUrlKey (by decide),
    alike trustStoreKey (by decide), number connectTimeoutKey (by decide),
    number readTimeoutKey (by decide), number checkoutTimeoutKey (by decide),
    number maxConnectionsKey (by decide), number maxConnectionsPerRouteKey (by decide)]
  split
  · rfl
  · rfl

/-- The switch of a configuration is as its properties have it. -/
theorem diagnosticLogs_of_ofProperties {c : Configuration} {warnings : List Log.Event}
    (h : ofProperties p = .ok (c, warnings)) : c.diagnosticLogs = wantsDiagnostics p := by
  unfold ofProperties at h
  simp only at h
  split at h
  · cases h
  · cases h
    rfl

end HubPublisher.Settings.Configuration
