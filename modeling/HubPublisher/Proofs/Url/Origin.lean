import HubPublisher.Proofs.Url.Host

/-!
Origins of URLs with the scheme `http` or `https`.

The origin is written as scheme, host and port, one behind the other, with a port that the scheme
stands for left out. A URL that is read has a host that is told by its text and no port that its
scheme stands for (`located`), and the text of a host ends where that of the port begins. So the
three are read back from an origin, and two URLs have one origin just when they agree in them
(`origin_eq_iff`). The rest of a URL is not in its origin, and so it may be changed at will.
-/
namespace HubPublisher.Url

variable {u v : Url} {scheme : String} {cs rest : List Char}

/-- The port that stands in a URL. -/
def port (u : Url) : Option Nat := u.authority.bind (·.port)

/-- The port that a URL stands for: the one that stands in it, or that of its scheme. -/
def effectivePort (u : Url) : Option Nat := u.port.or (defaultPort u.scheme)

/-- URLs of the two schemes: those that are read, and whatever comes of them by changes of user,
path, query and fragment. -/
inductive IsWeb : Url → Prop
  | read {s : String} {u : Url} (parsed : parse s = .ok u)
      (scheme : u.scheme = "http" ∨ u.scheme = "https") : IsWeb u
  | changed {u v : Url} (web : IsWeb u) (scheme : v.scheme = u.scheme) (host : v.host = u.host)
      (port : v.port = u.port) : IsWeb v

/-- What scheme, host and port of such a URL are like. -/
structure Located (u : Url) : Prop where
  scheme : u.scheme = "http" ∨ u.scheme = "https"
  host : ∃ h, u.host = some h ∧ h.Formed
  port : ∀ p, u.port = some p → defaultPort u.scheme ≠ some p

/-! ## Reading -/

theorem port_of_readPort {port : Option Nat} (read : readPort scheme cs = .ok (port, rest)) :
    ∀ p, port = some p → defaultPort scheme ≠ some p := by
  unfold readPort at read
  dsimp only at read
  split_ifs at read with wrong left
  · cases read
    exact nofun
  · cases read
    rintro p ⟨⟩
    exact (not_or.1 left).2

theorem port_of_readPortAfter {port : Option Nat}
    (read : readPortAfter scheme cs = .ok (port, rest)) :
    ∀ p, port = some p → defaultPort scheme ≠ some p := by
  unfold readPortAfter at read
  split at read
  · exact port_of_readPort read
  · cases read
    exact nofun

/-- Of a scheme whose URLs have a host, an authority has one that was read as such. -/
theorem of_readAuthority {a : Authority} (special : isSpecial scheme = true)
    (read : readAuthority scheme cs = .ok (a, rest)) :
    (∃ h, a.host = some h ∧ h.Formed) ∧ ∀ p, a.port = some p → defaultPort scheme ≠ some p := by
  unfold readAuthority at read
  simp only [special, if_true] at read
  split_ifs at read with missing noHost
  split at read
  · cases read
  · rename_i host hostRead
    cases named : readDomainHost
        (splitHost true false ((Option.map (·.2) (splitUser true cs)).getD cs)).1 with
    | error e =>
      rw [named] at hostRead
      cases hostRead
    | ok h =>
      rw [named] at hostRead
      cases hostRead
      simp only [Option.isNone_some, Bool.false_and, Bool.false_eq_true, if_false] at read
      split at read
      · cases read
      · rename_i port after portRead
        cases read
        exact ⟨⟨h, rfl, readDomainHost_formed named⟩, port_of_readPortAfter portRead⟩

/-- The same of the parts that are read from an authority on. -/
theorem of_readFromAuthority {parts : Parts} (special : isSpecial scheme = true)
    (read : readFromAuthority scheme cs = .ok parts) :
    ∃ a, parts.authority = some a ∧ (∃ h, a.host = some h ∧ h.Formed) ∧
      ∀ p, a.port = some p → defaultPort scheme ≠ some p := by
  unfold readFromAuthority at read
  split at read
  · cases read
  · rename_i a after authority
    cases read
    exact ⟨a, rfl, of_readAuthority special authority⟩

theorem located_of_parse {s : String} (parsed : parse s = .ok u)
    (web : u.scheme = "http" ∨ u.scheme = "https") : u.Located := by
  unfold parse at parsed
  split at parsed
  · cases parsed
  · rename_i scheme after _
    dsimp only at parsed
    split at parsed
    · cases parsed
    · rename_i parts read
      cases parsed
      have special : isSpecial scheme = true := by
        rcases web with rfl | rfl <;> rfl
      have noFile : scheme ≠ "file" := by
        rcases web with rfl | rfl <;> decide
      unfold readParts at read
      rw [if_neg noFile, if_pos special] at read
      obtain ⟨a, authority, ⟨h, host, formed⟩, port⟩ := of_readFromAuthority special read
      refine ⟨web, ⟨h, ?_, formed⟩, ?_⟩
      · simp only [Url.host, authority, Option.bind_some, host]
      · simpa only [Url.port, authority, Option.bind_some] using port

theorem IsWeb.located (h : u.IsWeb) : u.Located := by
  induction h with
  | read parsed scheme => exact located_of_parse parsed scheme
  | changed _ scheme host port ih =>
    refine ⟨?_, ?_, ?_⟩
    · rw [scheme]
      exact ih.scheme
    · rw [host]
      exact ih.host
    · rw [scheme, port]
      exact ih.port

/-! ## Writing -/

/-- The text of a port, with the colon before it. -/
def portText (port : Option Nat) : String :=
  match port with
  | none => ""
  | some p => ":" ++ toString p

theorem portText_injective : Function.Injective portText := by
  intro p q same
  have texts := congrArg String.toList same
  cases p with
  | none =>
    cases q with
    | none => rfl
    | some q => simp [portText] at texts
  | some p =>
    cases q with
    | none => simp [portText] at texts
    | some q =>
      simp only [portText, Nat.toString_eq_repr, String.toList_append, Nat.toList_repr] at texts
      exact congrArg some (toDigits_ten_injective (List.append_cancel_left texts))

/-- No host goes on with a port. -/
theorem splitHost_portText (port : Option Nat) :
    splitHost true false (portText port).toList = ([], (portText port).toList) := by
  cases port with
  | none => rfl
  | some p => simp [portText, splitHost]

/-- Scheme, host and port are written one behind the other. -/
theorem Located.origin_eq (h : u.Located) {k : Host} (host : u.host = some k) :
    u.origin = u.scheme ++ "://" ++ (k.write ++ portText u.port) := by
  obtain ⟨scheme, authority, path, query, fragment⟩ := u
  cases authority with
  | none => cases host
  | some a =>
    have hostText : a.writeHost = k.write := by
      rw [Authority.writeHost, show a.host = some k from host]
      rfl
    have portOf : a.writePort = portText a.port := rfl
    have special : isSpecial scheme = true := by
      rcases h.scheme with rfl | rfl <;> rfl
    have noBlob : scheme ≠ "blob" := by
      rcases h.scheme with rfl | rfl <;> decide
    simp [origin, originWith, noBlob, tupleOrigin, special, hostText, portOf, String.append_assoc]
    rfl

/-- Two schemes are told apart by what stands before the slashes. -/
theorem scheme_eq_of_prefix {a b : String} (hu : u.scheme = "http" ∨ u.scheme = "https")
    (hv : v.scheme = "http" ∨ v.scheme = "https")
    (same : u.scheme ++ "://" ++ a = v.scheme ++ "://" ++ b) : u.scheme = v.scheme ∧ a = b := by
  have texts := congrArg String.toList same
  rcases hu with su | su
  · rcases hv with sv | sv
    · rw [su, sv] at texts ⊢
      exact ⟨rfl, String.toList_inj.1 (by simpa using texts)⟩
    · rw [su, sv] at texts
      simp at texts
  · rcases hv with sv | sv
    · rw [su, sv] at texts
      simp at texts
    · rw [su, sv] at texts ⊢
      exact ⟨rfl, String.toList_inj.1 (by simpa using texts)⟩

/-- Ports that no scheme stands for are told by what they stand for. -/
theorem Located.effectivePort_inj (hu : u.Located) (hv : v.Located) (scheme : u.scheme = v.scheme)
    (same : u.effectivePort = v.effectivePort) : u.port = v.port := by
  have noDefault := hu.port
  have noDefault' := hv.port
  unfold effectivePort at same
  rw [← scheme] at same noDefault'
  cases hp : u.port with
  | none =>
    cases hq : v.port with
    | none => rfl
    | some q =>
      rw [hp, hq] at same
      exact absurd same (noDefault' q hq)
  | some p =>
    cases hq : v.port with
    | none =>
      rw [hp, hq] at same
      exact absurd same.symm (noDefault p hp)
    | some q =>
      rw [hp, hq] at same
      exact same

/-- URLs have one origin just when they agree in scheme, host and port. -/
theorem origin_eq_iff (hu : u.IsWeb) (hv : v.IsWeb) :
    u.origin = v.origin ↔
      u.scheme = v.scheme ∧ u.host = v.host ∧ u.effectivePort = v.effectivePort := by
  have lu := hu.located
  have lv := hv.located
  obtain ⟨h, host, formed⟩ := lu.host
  obtain ⟨k, host', formed'⟩ := lv.host
  rw [lu.origin_eq host, lv.origin_eq host']
  constructor
  · intro same
    obtain ⟨scheme, located⟩ := scheme_eq_of_prefix lu.scheme lv.scheme same
    -- both texts are cut where the host ends
    have cut := splitHost_write formed (splitHost_portText u.port)
    have cut' := splitHost_write formed' (splitHost_portText v.port)
    rw [← String.toList_append, located, String.toList_append, cut'] at cut
    obtain ⟨hosts, ports⟩ := Prod.mk.inj cut
    have sameHost := Host.write_inj formed' formed (String.toList_inj.1 hosts)
    have samePort := portText_injective (String.toList_inj.1 ports)
    refine ⟨scheme, ?_, ?_⟩
    · rw [host, host', sameHost]
    · rw [effectivePort, effectivePort, scheme, samePort]
  · rintro ⟨scheme, hosts, ports⟩
    rw [host, host'] at hosts
    rw [Option.some.inj hosts, scheme, lu.effectivePort_inj lv scheme ports]

end HubPublisher.Url
