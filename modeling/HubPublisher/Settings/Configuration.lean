import HubPublisher.Error
import HubPublisher.Log
import HubPublisher.Settings.Properties

/-!
The configuration of an adapter, derived from properties.

An adapter is enabled by the word `true` and then needs a base URL. A number has to be positive and
fit sixty-four bits; a property that is no such number is replaced by the default, with a warning.
-/
namespace HubPublisher.Settings

structure Configuration where
  enabled : Bool
  baseUrl : Option String
  /-- Times are in milliseconds. -/
  connectTimeout : Nat
  readTimeout : Nat
  /-- How long a request waits for a free slot. -/
  checkoutTimeout : Nat
  maxConnections : Nat
  maxConnectionsPerRoute : Nat
  /-- The file with the certificates that the hub is trusted by. -/
  trustStore : Option String
  diagnosticLogs : Bool
  deriving DecidableEq, Repr

namespace Configuration

def defaultTimeout : Nat := 300

def defaultConnections : Nat := 20

/-! ## Keys -/

def enabledKey : String := "adapter.websubhub.enabled"
def baseUrlKey : String := "adapter.websubhub.baseUrl"
def connectTimeoutKey : String := "adapter.websubhub.httpConnectionTimeout"
def readTimeoutKey : String := "adapter.websubhub.httpReadTimeout"
def checkoutTimeoutKey : String := "adapter.websubhub.httpConnectionRequestTimeout"
def maxConnectionsKey : String := "adapter.websubhub.defaultMaxConnections"
def maxConnectionsPerRouteKey : String := "adapter.websubhub.defaultMaxConnectionsPerRoute"
def trustStoreKey : String := "adapter.websubhub.trustStore"
def diagnosticLogsKey : String := "adapter.websubhub.diagnosticLogs"

/-! ## Values -/

/-- Whether a text is a word, in any case and with white space around it. -/
def isWord (word s : String) : Bool := (Text.trim s).toList.map Char.toLower == word.toList

/-- The digits of a number with an optional plus sign. -/
def dropPlus : List Char → List Char
  | '+' :: ds => ds
  | ds => ds

/-- A positive number that fits sixty-four bits, with white space around it and an optional plus
sign. -/
def number? (s : String) : Option Nat :=
  let ds := dropPlus (Text.trimBy Text.isBlankChar s.toList)
  if ds.isEmpty || !ds.all Char.isDigit then none
  else
    let n := Nat.ofDigitChars 10 ds 0
    if 0 < n ∧ n < 0x10000000000000000 then some n else none

/-- The warning about a property that is no number. -/
def notNumber (key raw : String) (default : Nat) : Log.Event :=
  Log.event .warn "Invalid numeric setting, using default"
    [("key", .text key), ("value", .text raw), ("fallback", .text (toString default))]

/-- A numeric property, or its default with a warning if it is set to something else. -/
def readNumber (p : Properties) (key : String) (default : Nat) : Nat × List Log.Event :=
  match p.get? key with
  | none => (default, [])
  | some raw =>
    match number? raw with
    | some n => (n, [])
    | none => (default, [notNumber key raw default])

/-! ## Configurations -/

/-- A disabled adapter, all else by default. -/
def disabled : Configuration where
  enabled := false
  baseUrl := none
  connectTimeout := defaultTimeout
  readTimeout := defaultTimeout
  checkoutTimeout := defaultTimeout
  maxConnections := defaultConnections
  maxConnectionsPerRoute := defaultConnections
  trustStore := none
  diagnosticLogs := true

/-- An adapter enabled on a base URL, all else by default. -/
def enabledOn (baseUrl : String) : Configuration :=
  { disabled with enabled := true, baseUrl := some baseUrl }

def withTimeouts (c : Configuration) (connect read checkout : Nat) : Configuration :=
  { c with connectTimeout := connect, readTimeout := read, checkoutTimeout := checkout }

/-- Limits are at least one. -/
def withPoolLimits (c : Configuration) (total perRoute : Nat) : Configuration :=
  { c with maxConnections := max total 1, maxConnectionsPerRoute := max perRoute 1 }

def withDiagnosticLogs (c : Configuration) (enabled : Bool) : Configuration :=
  { c with diagnosticLogs := enabled }

/-- The configuration that the properties describe, with the warnings on the way. -/
def ofProperties (p : Properties) : Except ClientError (Configuration × List Log.Event) :=
  let enabled := (p.get? enabledKey).any (isWord "true")
  let baseUrl := (p.get? baseUrlKey).map Text.trim
  if enabled && baseUrl.isNone then .error .baseUrlNotConfigured
  else
    let connect := readNumber p connectTimeoutKey defaultTimeout
    let read := readNumber p readTimeoutKey defaultTimeout
    let checkout := readNumber p checkoutTimeoutKey defaultTimeout
    let total := readNumber p maxConnectionsKey defaultConnections
    let perRoute := readNumber p maxConnectionsPerRouteKey defaultConnections
    .ok ({
      enabled := enabled
      baseUrl := if enabled then baseUrl else none
      connectTimeout := connect.1
      readTimeout := read.1
      checkoutTimeout := checkout.1
      maxConnections := total.1
      maxConnectionsPerRoute := perRoute.1
      trustStore := p.get? trustStoreKey
      diagnosticLogs := !(p.get? diagnosticLogsKey).any (isWord "false") },
      connect.2 ++ read.2 ++ checkout.2 ++ total.2 ++ perRoute.2)

end Configuration

end HubPublisher.Settings
