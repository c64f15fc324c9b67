import HubPublisher.Proofs.Settings.Warnings
import HubPublisher.Settings.File

/-!
What the environment makes of the settings in a file.

A variable that is set puts its text in the place of the property, whatever the text. A blank text
reads as absent, but only once it is in that place: so a variable set to nothing does not count as
one that is not set, it hides what the file says (`Hides`). An adapter that the file turns on is
turned off by a blank `WEBSUBHUB_ENABLED`, and refused by a blank `WEBSUBHUB_BASE_URL`. Apart from
that a variable gives the property its text, a property without a variable that is set is as in the
file, and all other properties are as in the file in any case (`override_hides_iff_blank`).
-/
namespace HubPublisher.Settings

variable {env : String → Option String} {p : Properties} {key : String} {o : String × String}

namespace Properties

/-! ## Texts after an override -/

/-- One variable overrides its property: a step of `override`. -/
def setFrom (env : String → Option String) (p : Properties) (o : String × String) : Properties :=
  match env o.1 with
  | some text => p.insert o.2 text
  | none => p

theorem values_setFrom (env : String → Option String) (p : Properties) (o : String × String)
    (key : String) : (setFrom env p o).values.get? key
      = if key = o.2 then (env o.1).or (p.values.get? key) else p.values.get? key := by
  unfold setFrom
  cases env o.1 with
  | none => simp
  | some text =>
    rw [Option.some_or]
    exact Keyed.get?_insert p.values o.2 key text

/-- A property that no variable overrides is as it was. -/
theorem values_foldl_of_other {os : List (String × String)} (other : ∀ o ∈ os, key ≠ o.2)
    (p : Properties) : (os.foldl (setFrom env) p).values.get? key = p.values.get? key := by
  induction os generalizing p with
  | nil => rfl
  | cons first os ih =>
    obtain ⟨here, rest⟩ := List.forall_mem_cons.1 other
    rw [List.foldl_cons, ih rest, values_setFrom, if_neg here]

/-- Where no two variables override one property, each property is as its variable has it. -/
theorem values_foldl_of_mem {os : List (String × String)} (apart : os.Pairwise (·.2 ≠ ·.2))
    (member : o ∈ os) (p : Properties) :
    (os.foldl (setFrom env) p).values.get? o.2 = (env o.1).or (p.values.get? o.2) := by
  induction os generalizing p with
  | nil => exact absurd member List.not_mem_nil
  | cons first os ih =>
    obtain ⟨alone, apart⟩ := List.pairwise_cons.1 apart
    rw [List.foldl_cons]
    rcases List.mem_cons.1 member with rfl | member
    · rw [values_foldl_of_other alone, values_setFrom, if_pos rfl]
    · rw [ih apart member, values_setFrom, if_neg (alone o member).symm]

theorem values_override (member : o ∈ overrides) :
    (p.override env).values.get? o.2 = (env o.1).or (p.values.get? o.2) :=
  values_foldl_of_mem (by decide) member p

theorem values_override_of_other (other : ∀ o ∈ overrides, key ≠ o.2) :
    (p.override env).values.get? key = p.values.get? key :=
  values_foldl_of_other other p

/-- A property with a variable that is set reads as the variable's text, and as absent if that is
blank. -/
theorem get?_override (member : o ∈ overrides) :
    (p.override env).get? o.2 = match env o.1 with
      | none => p.get? o.2
      | some text => if Text.isBlank text then none else some text := by
  rw [get?, values_override member]
  cases env o.1 with
  | none => rfl
  | some text => rfl

theorem get?_override_of_other (other : ∀ o ∈ overrides, key ≠ o.2) :
    (p.override env).get? key = p.get? key := by
  rw [get?, get?, values_override_of_other other]

/-! ## Blank variables -/

/-- What a property would read as if a blank variable counted as one that is not set. -/
def unlessBlank (env : String → Option String) (p : Properties) (o : String × String) :
    Option String :=
  match env o.1 with
  | none => p.get? o.2
  | some text => if Text.isBlank text then p.get? o.2 else some text

/-- A variable is set to a blank text. -/
def Blanked (env : String → Option String) (name : String) : Prop :=
  ∃ text, env name = some text ∧ Text.isBlank text = true

/-- A blank variable stands in the place of a property that there is something in. -/
def Hides (env : String → Option String) (p : Properties) (o : String × String) : Prop :=
  Blanked env o.1 ∧ p.get? o.2 ≠ none

theorem get?_override_eq_iff (member : o ∈ overrides) :
    (p.override env).get? o.2 = unlessBlank env p o ↔ ¬Hides env p o := by
  rw [get?_override member, unlessBlank, Hides, Blanked]
  cases env o.1 with
  | none => simp
  | some text =>
    cases blank : Text.isBlank text with
    | true =>
      have blanked : ∃ t, some text = some t ∧ Text.isBlank t = true := ⟨text, rfl, blank⟩
      simp only [blank, if_true, and_iff_right blanked, not_not]
      exact eq_comm
    | false => simp [blank]

end Properties

/-! ## Configurations -/

namespace Configuration

open Properties (Blanked overrides override values_override_of_other get?_override_of_other)

variable {c : Configuration} {warnings : List Log.Event}

def enabledVariable : String := "WEBSUBHUB_ENABLED"

def baseUrlVariable : String := "WEBSUBHUB_BASE_URL"

theorem overrides_eq :
    overrides = [(enabledVariable, enabledKey), (baseUrlVariable, baseUrlKey)] := rfl

theorem enabled_mem_overrides : (enabledVariable, enabledKey) ∈ overrides := List.mem_cons_self

theorem baseUrl_mem_overrides : (baseUrlVariable, baseUrlKey) ∈ overrides := by
  simp [overrides_eq]

/-- No variable has a say in any key but two. -/
theorem other_of_ne (enabled : key ≠ enabledKey) (baseUrl : key ≠ baseUrlKey) :
    ∀ o ∈ overrides, key ≠ o.2 := by
  simp [overrides_eq, enabled, baseUrl]

/-- A blank variable takes the property out of what is read. -/
theorem get?_of_blanked (member : o ∈ overrides) (blanked : Blanked env o.1) :
    (p.override env).get? o.2 = none := by
  obtain ⟨text, set, blank⟩ := blanked
  rw [Properties.get?_override member, set]
  exact if_pos blank

/-- Where the variables are not set, the properties describe what they describe without them. -/
theorem ofProperties_of_unset (unset : ∀ o ∈ overrides, env o.1 = none) :
    ofProperties (p.override env) = ofProperties p := by
  have same : p.override env = p := by
    simp only [overrides_eq, List.forall_mem_cons] at unset
    simp [override, overrides_eq, unset.1, unset.2.1]
  rw [same]

/-- A blank `WEBSUBHUB_ENABLED` turns an adapter off, and all else that the properties describe is
as it was. -/
theorem ofProperties_of_enabled_blanked (described : ofProperties p = .ok (c, warnings))
    (blanked : Blanked env enabledVariable) :
    ofProperties (p.override env)
      = .ok ({ c with enabled := false, baseUrl := none }, warnings) := by
  have absent := get?_of_blanked (p := p) enabled_mem_overrides blanked
  have kept {key : String} (enabled : key ≠ enabledKey) (baseUrl : key ≠ baseUrlKey) :
      (p.override env).values.get? key = p.values.get? key :=
    values_override_of_other (other_of_ne enabled baseUrl)
  have trust : (p.override env).get? trustStoreKey = p.get? trustStoreKey :=
    get?_override_of_other (other_of_ne (by decide) (by decide))
  have diagnostics : (p.override env).get? diagnosticLogsKey = p.get? diagnosticLogsKey :=
    get?_override_of_other (other_of_ne (by decide) (by decide))
  have number (key : String) (enabled : key ≠ enabledKey) (baseUrl : key ≠ baseUrlKey)
      (default : Nat) : readNumber (p.override env) key default = readNumber p key default :=
    readNumber_congr (kept enabled baseUrl) default
  simp only [ofProperties] at described
  split at described
  · cases described
  · cases described
    simp only [ofProperties, absent, Option.any_none, Bool.false_and, Bool.false_eq_true, if_false,
      trust, diagnostics, number connectTimeoutKey (by decide) (by decide),
      number readTimeoutKey (by decide) (by decide),
      number checkoutTimeoutKey (by decide) (by decide),
      number maxConnectionsKey (by decide) (by decide),
      number maxConnectionsPerRouteKey (by decide) (by decide)]

/-- A blank `WEBSUBHUB_BASE_URL` leaves an adapter that is turned on without a hub, and the
properties are refused. -/
theorem ofProperties_of_baseUrl_blanked (described : ofProperties p = .ok (c, warnings))
    (on : c.enabled = true) (unset : env enabledVariable = none)
    (blanked : Blanked env baseUrlVariable) :
    ofProperties (p.override env) = .error .baseUrlNotConfigured := by
  refine ofProperties_eq_error.2 ⟨rfl, ?_, ?_⟩
  · obtain ⟨raw, there, spelt⟩ := (enabled_of_ofProperties described).1 on
    refine ⟨raw, ?_, spelt⟩
    have kept : (p.override env).values.get? enabledKey
        = (env enabledVariable).or (p.values.get? enabledKey) :=
      Properties.values_override enabled_mem_overrides
    rw [kept, unset, Option.none_or, there]
  · exact Properties.get?_eq_none_iff.1 (get?_of_blanked baseUrl_mem_overrides blanked)

end Configuration

/-! ## Settings files -/

open Settings.Configuration (baseUrlVariable enabledVariable)
open Properties (Blanked Hides overrides unlessBlank)

/-- Settings are loaded from every file whose text can be read as settings, in any environment, and:
1. a property that a variable overrides reads as the text of the variable if that is set, and as
   absent if the text is blank; if the variable is not set the property reads as in the file;
2. all other properties are as in the file, and so is what is said about logging;
3. what a property reads as is what it would be if blank variables counted as not set, unless a
   blank variable hides what the file says;
4. variables that are not set leave an adapter that the file enables as it is; a blank
   `WEBSUBHUB_ENABLED` disables it, and a blank `WEBSUBHUB_BASE_URL` alone makes it be refused. -/
theorem override_hides_iff_blank {files : Files} {path s : String} {f : SettingsFile}
    (read : files.text path = .ok s) (parsed : SettingsFile.parse s = .ok f)
    (env : String → Option String) :
    ∃ g, SettingsFile.load files env path = .ok g ∧
      (∀ o ∈ overrides, g.properties.get? o.2 = match env o.1 with
        | none => f.properties.get? o.2
        | some text => if Text.isBlank text then none else some text) ∧
      (g.logging = f.logging ∧ ∀ key, (∀ o ∈ overrides, key ≠ o.2) →
        g.properties.values.get? key = f.properties.values.get? key ∧
          g.properties.get? key = f.properties.get? key) ∧
      (∀ o ∈ overrides, g.properties.get? o.2 = unlessBlank env f.properties o ↔
        ¬Hides env f.properties o) ∧
      ∀ c warnings, f.configuration = .ok (c, warnings) → c.enabled = true →
        ((∀ o ∈ overrides, env o.1 = none) → g.configuration = .ok (c, warnings)) ∧
        (Blanked env enabledVariable →
          g.configuration = .ok ({ c with enabled := false, baseUrl := none }, warnings)) ∧
        (env enabledVariable = none → Blanked env baseUrlVariable →
          g.configuration = .error .baseUrlNotConfigured) := by
  have loaded : SettingsFile.load files env path
      = .ok { f with properties := f.properties.override env } := by
    rw [SettingsFile.load, read]
    simp only [parsed, Except.map]
  refine ⟨_, loaded, fun o member => Properties.get?_override member, ⟨rfl, fun key other => ?_⟩,
    fun o member => Properties.get?_override_eq_iff member, fun c warnings described on => ?_⟩
  · exact ⟨Properties.values_override_of_other other, Properties.get?_override_of_other other⟩
  · refine ⟨fun unset => ?_, fun blanked => ?_, fun unset blanked => ?_⟩
    · exact (Configuration.ofProperties_of_unset unset).trans described
    · exact Configuration.ofProperties_of_enabled_blanked described blanked
    · exact Configuration.ofProperties_of_baseUrl_blanked described on unset blanked

/-! ## A sample -/

/-- Settings that enable an adapter on a base URL. -/
def hubSettings : String :=
  "[adapter.websubhub]\nenabled = true\nbaseUrl = \"https://hub.example.com/hub\"\n"

def hubFiles : Files := fun _ => .ok (Text.Utf8.encode hubSettings.toList)

/-- One variable is set, the others are not. -/
def onlySet (name text : String) : String → Option String :=
  fun n => if n = name then some text else none

theorem hubFiles_read : hubFiles.text "websubhub.toml" = .ok hubSettings := by decide +kernel

theorem hubSettings_parsed : ∃ f warnings, SettingsFile.parse hubSettings = .ok f ∧
    f.properties.get? Configuration.enabledKey = some "true" ∧
    f.configuration
      = .ok (Configuration.enabledOn "https://hub.example.com/hub", warnings) := by
  have parsed : (match SettingsFile.parse hubSettings with
      | .ok f => some (f.properties.get? Configuration.enabledKey, f.configuration)
      | .error _ => none) = some (some "true",
        .ok (Configuration.enabledOn "https://hub.example.com/hub", [])) := by decide +kernel
  cases file : SettingsFile.parse hubSettings with
  | error e =>
    rw [file] at parsed
    cases parsed
  | ok f =>
    rw [file] at parsed
    obtain ⟨enabled, configuration⟩ := Prod.mk.inj (Option.some.inj parsed)
    exact ⟨f, [], rfl, enabled, configuration⟩

theorem override_hides_iff_blank_sample :
    ∃ g, SettingsFile.load hubFiles (onlySet baseUrlVariable "  ") "websubhub.toml" = .ok g ∧
      g.properties.get? Configuration.enabledKey = some "true" ∧
      g.configuration = .error .baseUrlNotConfigured := by
  obtain ⟨f, warnings, parsed, enabled, described⟩ := hubSettings_parsed
  obtain ⟨g, loaded, overridden, -, -, configured⟩ :=
    override_hides_iff_blank hubFiles_read parsed (onlySet baseUrlVariable "  ")
  obtain ⟨-, -, refused⟩ := configured _ warnings described rfl
  refine ⟨g, loaded, ?_, refused rfl ⟨"  ", rfl, by decide⟩⟩
  exact (overridden _ Configuration.enabled_mem_overrides).trans enabled

/-- The file enables the adapter on a base URL, and a variable set to nothing disables it. -/
theorem blank_variable_disables :
    ∃ f c warnings, hubFiles.text "websubhub.toml" = .ok hubSettings ∧
      SettingsFile.parse hubSettings = .ok f ∧
      f.configuration = .ok (c, warnings) ∧ c.enabled = true ∧
      ∃ g d, SettingsFile.load hubFiles (onlySet enabledVariable "") "websubhub.toml" = .ok g ∧
        g.properties.get? Configuration.enabledKey
          ≠ unlessBlank (onlySet enabledVariable "") f.properties
            (enabledVariable, Configuration.enabledKey) ∧
        g.configuration = .ok (d, warnings) ∧ d.enabled = false := by
  obtain ⟨f, warnings, parsed, enabled, described⟩ := hubSettings_parsed
  have loaded : SettingsFile.load hubFiles (onlySet enabledVariable "") "websubhub.toml"
      = .ok { f with properties := f.properties.override (onlySet enabledVariable "") } := by
    rw [SettingsFile.load, hubFiles_read]
    simp only [parsed, Except.map]
  have blanked : Blanked (onlySet enabledVariable "") enabledVariable := ⟨"", rfl, by decide⟩
  refine ⟨f, _, warnings, hubFiles_read, parsed, described, rfl, _, _, loaded, ?_,
    Configuration.ofProperties_of_enabled_blanked described blanked, rfl⟩
  refine mt (Properties.get?_override_eq_iff Configuration.enabled_mem_overrides).1 ?_
  refine not_not_intro ⟨blanked, ?_⟩
  rw [enabled]
  exact nofun

end HubPublisher.Settings
