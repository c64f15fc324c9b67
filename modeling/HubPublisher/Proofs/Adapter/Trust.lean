import HubPublisher.Proofs.Adapter.Setup

/-!
A trust store that is configured is the only one that is used, or there is no adapter.

A store without certificates stands for the roots of the platform, so nothing that goes wrong with a
bundle may end in one. A bundle that cannot be read to its end or has no certificate gives no store,
and one with a certificate that is no anchor gives no client. What an adapter does start with are all
certificates of its bundle in order, and it keeps them (`configured_trust_fails_closed`).

How the start fails depends on more than the bundle: the slots are made before the certificates are
looked at, so slots that cannot be counted come first.
-/
namespace HubPublisher.Trust.Store

variable {files : Files} {path : String} {s : Store}

/-! ## Certificates -/

/-- Certificates are accepted if each is an anchor, and these are the anchors in their order. -/
def Accepted (certificates : List (List UInt8)) (anchors : List Anchor) : Prop :=
  List.Forall₂ (fun c a => Anchor.ofCertificate c = .ok a) certificates anchors

theorem anchors_eq_ok {cs : List (List UInt8)} {as : List Anchor} :
    anchors cs = .ok as ↔ Accepted cs as := by
  unfold Accepted
  induction cs generalizing as with
  | nil => simp [anchors, eq_comm]
  | cons c cs ih =>
    unfold anchors
    cases first : Anchor.ofCertificate c with
    | error e => simp [List.forall₂_cons_left_iff, first]
    | ok a =>
      cases rest : anchors cs with
      | error e => simp [List.forall₂_cons_left_iff, ← ih, rest]
      | ok more =>
        simp only [List.forall₂_cons_left_iff, ← ih, rest, first, Except.ok.injEq]
        constructor
        · exact fun whole => ⟨a, more, rfl, rfl, whole.symm⟩
        · rintro ⟨_, _, rfl, rfl, whole⟩
          exact whole.symm

/-- One certificate that is no anchor is enough. -/
theorem anchors_eq_error {cs : List (List UInt8)} {c : List UInt8} {e : CertificateFault}
    (member : c ∈ cs) (stranger : Anchor.ofCertificate c = .error e) :
    ∃ e', anchors cs = .error e' := by
  induction cs with
  | nil => cases member
  | cons d ds ih =>
    unfold anchors
    rcases List.mem_cons.1 member with rfl | later
    · rw [stranger]
      exact ⟨e, rfl⟩
    · -- a certificate before it may fail first
      obtain ⟨e', rest⟩ := ih later
      cases Anchor.ofCertificate d with
      | error e => exact ⟨e, rfl⟩
      | ok a =>
        rw [rest]
        exact ⟨e', rfl⟩

/-- With certificates in it, a store never stands for the platform. -/
theorem roots_of_ne_nil (some : s.certificates ≠ []) :
    s.roots = match anchors s.certificates with
      | .error e => .error (.trustRefused e.message)
      | .ok as => .ok (.anchors as) := by
  have nonempty : s.isEmpty = false := by simp [isEmpty, some]
  unfold roots
  rw [nonempty]
  rfl

theorem roots_of_accepted {as : List Anchor} (some : s.certificates ≠ [])
    (accepted : Accepted s.certificates as) : s.roots = .ok (.anchors as) := by
  rw [roots_of_ne_nil some, anchors_eq_ok.2 accepted]

theorem roots_of_stranger {c : List UInt8} {e : CertificateFault} (member : c ∈ s.certificates)
    (stranger : Anchor.ofCertificate c = .error e) :
    ∃ reason, s.roots = .error (.trustRefused reason) := by
  obtain ⟨e', fault⟩ := anchors_eq_error member stranger
  rw [roots_of_ne_nil (List.ne_nil_of_mem member), fault]
  exact ⟨e'.message, rfl⟩

/-! ## Bundles -/

/-- The certificates that a file holds: it can be read to its end, and there is one at least. -/
def Holds (files : Files) (path : String) (certificates : List (List UInt8)) : Prop :=
  ∃ bundle, files path = .ok bundle ∧ Pem.certificates bundle = .ok certificates ∧
    certificates ≠ []

theorem Holds.ne_nil {certificates : List (List UInt8)} (h : Holds files path certificates) :
    certificates ≠ [] := by
  obtain ⟨-, -, -, some⟩ := h
  exact some

theorem ofFile_eq_ok : ofFile files path = .ok s ↔ Holds files path s.certificates := by
  unfold ofFile Holds
  cases files path with
  | error e => simp
  | ok bundle =>
    unfold ofBundle
    cases read : Pem.certificates bundle with
    | error e => simp [read]
    | ok certificates =>
      cases certificates with
      | nil => simp [read]
      | cons c cs =>
        obtain ⟨own⟩ := s
        simp only [Except.ok.injEq, mk.injEq, exists_eq_left', read]
        constructor
        · rintro rfl
          exact ⟨rfl, List.cons_ne_nil c cs⟩
        · rintro ⟨same, -⟩
          exact same

/-- All else is refused. -/
theorem ofFile_refused (bare : ∀ certificates, ¬Holds files path certificates) :
    ∃ reason, ofFile files path = .error (.trustRefused reason) := by
  cases result : ofFile files path with
  | ok s => exact absurd (ofFile_eq_ok.1 result) (bare s.certificates)
  | error e =>
    -- whatever is wrong with the file or the bundle, the reason is all that differs
    unfold ofFile ofBundle at result
    split at result
    · cases result
      exact ⟨_, rfl⟩
    · split at result
      · cases result
        exact ⟨_, rfl⟩
      · cases result
        exact ⟨_, rfl⟩
      · cases result

end HubPublisher.Trust.Store

namespace HubPublisher.Adapter

open Hub (Connections)
open Settings (Configuration)
open Trust (Anchor)
open Trust.Store (Accepted Holds)

variable {files : Files} {config : Configuration} {trust : Trust.Store} {path : String}

/-! ## Starting on certificates -/

/-- What cannot be built is refused, but the slots are counted first. -/
theorem startWith_of_roots_error {e : ServerError} (fault : trust.roots = .error e) :
    startWith config trust
      = .error (if Pool.slotLimit < config.maxConnections then .uncountable else .refused e) := by
  have total : (Connections.limitsOf config).total = config.maxConnections := rfl
  unfold startWith Connections.start Pool.Slots.start? Connections.buildClient
  rw [total, fault]
  by_cases uncountable : Pool.slotLimit < config.maxConnections
  · simp only [if_pos uncountable]
  · simp only [if_neg uncountable]

theorem startWith_of_roots_ok {roots : Trust.Roots} (found : trust.roots = .ok roots)
    (countable : config.maxConnections ≤ Pool.slotLimit) :
    ∃ a logs, startWith config trust = .ok (a, logs) := by
  have total : (Connections.limitsOf config).total = config.maxConnections := rfl
  unfold startWith Connections.start Pool.Slots.start? Connections.buildClient
  rw [total, found, if_neg (Nat.not_lt.2 countable)]
  cases roots with
  | platform => exact ⟨_, _, rfl⟩
  | anchors anchors => exact ⟨_, _, rfl⟩

/-- An enabled adapter starts on the file that its configuration names. -/
theorem start_of_given (on : config.enabled = true) (given : config.trustStore = some path) :
    start files config = match Trust.Store.ofFile files path with
      | .error e => .error (.refused e)
      | .ok trust => startWith config trust := by
  have named : trustOf files config = Trust.Store.ofFile files path := by
    unfold trustOf
    rw [given]
    exact if_pos on
  cases read : Trust.Store.ofFile files path with
  | error e => simp only [start, named, read]
  | ok trust => simp only [start, named, read]

/-- An adapter that starts has anchors for all certificates of its store. -/
theorem accepted_of_startWith {a : Adapter} {logs : List Log.Event}
    (some : trust.certificates ≠ []) (started : startWith config trust = .ok (a, logs)) :
    ∃ anchors, Accepted trust.certificates anchors := by
  cases found : Trust.Store.anchors trust.certificates with
  | ok anchors => exact ⟨anchors, Trust.Store.anchors_eq_ok.1 found⟩
  | error e =>
    have fault : trust.roots = .error (.trustRefused e.message) := by
      rw [Trust.Store.roots_of_ne_nil some, found]
    rw [startWith_of_roots_error fault] at started
    cases started

/-- Of an enabled configuration that names a file of certificates:
1. if an adapter starts on it, the file holds certificates, all of them are anchors, and in every
   state the adapter checks the hub against these in the order of the file;
2. if the file holds none, as it cannot be read or is malformed or has none in it, the start is
   refused;
3. if one of them is no anchor, the start is refused, unless there are to be more slots than can be
   counted: then it fails for that;
4. if all of them are anchors and the slots can be counted, an adapter starts. -/
theorem configured_trust_fails_closed (files : Files) (config : Configuration) {path : String}
    (on : config.enabled = true) (given : config.trustStore = some path) :
    (∀ a logs, start files config = .ok (a, logs) → ∃ certificates anchors,
      Holds files path certificates ∧ Accepted certificates anchors ∧
      ∀ steps, (a.run steps).1.connections.trust.certificates = certificates ∧
        (a.run steps).1.connections.trust.roots = .ok (.anchors anchors)) ∧
    ((∀ certificates, ¬Holds files path certificates) →
      ∃ reason, start files config = .error (.refused (.trustRefused reason))) ∧
    (∀ certificates c e, Holds files path certificates → c ∈ certificates →
      Anchor.ofCertificate c = .error e →
      ∃ reason, start files config = .error
        (if Pool.slotLimit < config.maxConnections then .uncountable
          else .refused (.trustRefused reason))) ∧
    (∀ certificates anchors, Holds files path certificates → Accepted certificates anchors →
      config.maxConnections ≤ Pool.slotLimit → ∃ a logs, start files config = .ok (a, logs)) := by
  have read_of_holds : ∀ certificates, Holds files path certificates →
      Trust.Store.ofFile files path = .ok ⟨certificates⟩ := by
    intro certificates holds
    exact Trust.Store.ofFile_eq_ok.2 holds
  rw [start_of_given on given]
  refine ⟨?_, ?_, ?_, ?_⟩
  · intro a logs started
    cases read : Trust.Store.ofFile files path with
    | error e =>
      rw [read] at started
      cases started
    | ok trust =>
      rw [read] at started
      have holds := Trust.Store.ofFile_eq_ok.1 read
      obtain ⟨anchors, accepted⟩ := accepted_of_startWith holds.ne_nil started
      refine ⟨trust.certificates, anchors, holds, accepted, ?_⟩
      -- a client that is started again is built from the same store
      intro steps
      have kept := ((Reachable.start started).run steps).setUp.trust_eq
      rw [kept]
      exact ⟨rfl, Trust.Store.roots_of_accepted holds.ne_nil accepted⟩
  · intro bare
    obtain ⟨reason, refused⟩ := Trust.Store.ofFile_refused bare
    rw [refused]
    exact ⟨reason, rfl⟩
  · intro certificates c e holds member stranger
    obtain ⟨reason, fault⟩ := Trust.Store.roots_of_stranger (s := ⟨certificates⟩) member stranger
    rw [read_of_holds certificates holds]
    exact ⟨reason, startWith_of_roots_error fault⟩
  · intro certificates anchors holds accepted countable
    rw [read_of_holds certificates holds]
    exact startWith_of_roots_ok
      (Trust.Store.roots_of_accepted (s := ⟨certificates⟩) holds.ne_nil accepted) countable

/-- A bundle of one certificate, in base64. -/
def bundleOf (text : String) : List UInt8 :=
  Text.Utf8.encodeText
    ("-----BEGIN CERTIFICATE-----\n" ++ text ++ "\n-----END CERTIFICATE-----\n")

/-- A bundle with a certificate all of whose parts are empty, one with three octets of zero, and no
other file. -/
def sampleFiles : Files
  | "root.pem" => .ok (bundleOf "MBQwDQIBATAAMAAwADAAMAAwAAMBAA==")
  | "bad.pem" => .ok (bundleOf "AAAA")
  | _ => .error .notFound

/-- An adapter that is to trust a file and to have so many slots. -/
def trusting (path : String) (slots : Nat) : Configuration :=
  { (Configuration.enabledOn "https://hub.example").withPoolLimits slots 10 with
    trustStore := some path }

/-- The certificate of the first file. -/
def sampleRoot : List UInt8 :=
  [0x30, 20, 0x30, 13, 0x02, 1, 1, 0x30, 0, 0x30, 0, 0x30, 0, 0x30, 0, 0x30, 0, 0x30, 0, 0x03, 1, 0]

theorem holds_root : Holds sampleFiles "root.pem" [sampleRoot] :=
  ⟨bundleOf "MBQwDQIBATAAMAAwADAAMAAwAAMBAA==", rfl, by decide +kernel, by decide⟩

theorem holds_bad : Holds sampleFiles "bad.pem" [[0, 0, 0]] :=
  ⟨bundleOf "AAAA", rfl, by decide +kernel, by decide⟩

theorem bad_is_stranger : Anchor.ofCertificate [0, 0, 0] = .error .malformed := rfl

/-- The certificate of the first file is the anchor that the hub is checked against; the second file
and one that is not there are refused. -/
theorem configured_trust_fails_closed_sample :
    (∃ a logs certificates anchors, start sampleFiles (trusting "root.pem" 20) = .ok (a, logs) ∧
      Holds sampleFiles "root.pem" certificates ∧ Accepted certificates anchors ∧
      a.connections.trust.roots = .ok (.anchors anchors)) ∧
    (∃ reason, start sampleFiles (trusting "bad.pem" 20)
      = .error (.refused (.trustRefused reason))) ∧
    ∃ reason, start sampleFiles (trusting "missing.pem" 20)
      = .error (.refused (.trustRefused reason)) := by
  obtain ⟨sound, -, -, starts⟩ :=
    configured_trust_fails_closed sampleFiles (trusting "root.pem" 20) rfl rfl
  obtain ⟨-, -, strange, -⟩ :=
    configured_trust_fails_closed sampleFiles (trusting "bad.pem" 20) rfl rfl
  obtain ⟨-, absent, -, -⟩ :=
    configured_trust_fails_closed sampleFiles (trusting "missing.pem" 20) rfl rfl
  have accepted : Accepted [sampleRoot] [⟨[], [], none⟩] := .cons rfl .nil
  obtain ⟨a, logs, started⟩ := starts _ _ holds_root accepted (by decide)
  obtain ⟨certificates, anchors, holds, accepted, checked⟩ := sound a logs started
  refine ⟨⟨a, logs, certificates, anchors, started, holds, accepted, (checked []).2⟩, ?_, ?_⟩
  · exact strange _ _ _ holds_bad List.mem_cons_self bad_is_stranger
  · exact absent fun _ ⟨_, read, _⟩ => by cases read

/-- With more slots than can be counted, the certificate that is no anchor is not what the start
fails for. -/
theorem stranger_unreported_by_uncountable :
    Holds sampleFiles "bad.pem" [[0, 0, 0]] ∧ Anchor.ofCertificate [0, 0, 0] = .error .malformed ∧
    start sampleFiles (trusting "bad.pem" 9223372036854775807) = .error .uncountable ∧
    ∀ reason, start sampleFiles (trusting "bad.pem" 9223372036854775807)
      ≠ .error (.refused (.trustRefused reason)) := by
  have read : Trust.Store.ofFile sampleFiles "bad.pem" = .ok ⟨[[0, 0, 0]]⟩ :=
    Trust.Store.ofFile_eq_ok.2 holds_bad
  have fails : start sampleFiles (trusting "bad.pem" 9223372036854775807)
      = .error .uncountable := by
    rw [start_of_given rfl rfl, read]
    rfl
  refine ⟨holds_bad, bad_is_stranger, fails, fun reason refused => ?_⟩
  rw [fails] at refused
  cases refused

end HubPublisher.Adapter
