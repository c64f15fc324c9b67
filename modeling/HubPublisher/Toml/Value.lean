import HubPublisher.Keyed
import HubPublisher.Number.Shortest
import HubPublisher.Text.Hex

/-!
TOML values and their text.

A table is the list of its entries in ascending order of their keys. A text is written between
quotation marks, but between apostrophes if it has a backslash and can be; a text with line breaks
is written on lines of its own.
-/
namespace HubPublisher.Toml

inductive Value where
  | text (s : String)
  | integer (n : Int)
  | float (x : Number.Binary64)
  | boolean (b : Bool)
  /-- A date, a time or both, in its normal spelling. -/
  | moment (s : String)
  | array (items : List Value)
  | table (entries : List (String × Value))

/-! ## Texts -/

/-- How many line marks and quotation marks stand around a text. -/
inductive Layout where
  | line
  | lineTripled
  | block
  deriving DecidableEq

/-- What is known of a text after looking at it once. -/
structure Survey where
  layout : Layout
  /-- Apostrophes right before this place. -/
  run : Nat
  longestRun : Nat
  hasBackslash : Bool
  /-- Whether the text can stand between apostrophes, where nothing is escaped. -/
  bare : Bool

/-- Looks at one more character. -/
def Survey.step (s : Survey) (c : Char) : Survey :=
  if s.bare then
    let run := if c = '\'' then s.run + 1 else 0
    { layout := if c = '\n' then .block else s.layout
      run := run
      longestRun := if c = '\'' then s.longestRun else max s.longestRun s.run
      hasBackslash := s.hasBackslash || c == '\\'
      bare := run < 3 && (c == '\t' || c == '\n' || !(c.toNat < 32 || c.toNat == 127)) }
  else if c = '\n' then { s with layout := .block }
  else s

def survey (cs : List Char) : Survey := cs.foldl Survey.step ⟨.line, 0, 0, false, true⟩

/-- A character inside quotation marks. -/
def escapeChar (layout : Layout) (c : Char) : List Char :=
  let n := c.toNat
  if n = 8 then ['\\', 'b']
  else if c = '\t' then ['\\', 't']
  else if c = '\n' then (if layout = .block then ['\n'] else ['\\', 'n'])
  else if n = 12 then ['\\', 'f']
  else if c = '\r' then ['\\', 'r']
  else if c = '"' then ['\\', '"']
  else if c = '\\' then ['\\', '\\']
  else if n < 32 || n == 127 then
    ['\\', 'u', '0', '0', Text.Hex.upper (n / 16), Text.Hex.upper (n % 16)]
  else [c]

/-- Marks around a text. -/
def enclose (layout : Layout) (mark : Char) (cs : List Char) : List Char :=
  match layout with
  | .line => mark :: (cs ++ [mark])
  | .lineTripled => List.replicate 3 mark ++ cs ++ List.replicate 3 mark
  | .block => List.replicate 3 mark ++ '\n' :: cs ++ List.replicate 3 mark

/-- A text on one line between quotation marks. -/
def quoteLine (cs : List Char) : List Char := enclose .line '"' (cs.flatMap (escapeChar .line))

/-- A text as a value. -/
def quoteText (cs : List Char) : List Char :=
  let s := survey cs
  if s.bare && s.hasBackslash && !(0 < s.run && cs.getLast? == some '\'') then
    let layout := if s.layout = .line ∧ 0 < max s.longestRun s.run then .lineTripled else s.layout
    enclose layout '\'' cs
  else enclose s.layout '"' (cs.flatMap (escapeChar s.layout))

/-- The characters that a key may have without marks around it. -/
def isKeyChar (c : Char) : Bool := c.isAlphanum || c == '_' || c == '-'

def quoteKey (key : String) : List Char :=
  let cs := key.toList
  if !cs.isEmpty && cs.all isKeyChar then cs else quoteLine cs

/-! ## Numbers -/

/-- Floating-point numbers are written without an exponent. -/
def floatFormat : Number.FloatFormat := ⟨-400, 400⟩

def writeFloat (x : Number.Binary64) : String :=
  if x.isNaN then "nan"
  else if x.isInfinite then (if x.isNegative then "-inf" else "inf")
  else floatFormat.write x

/-! ## Values -/

/-- The key under which a date or time stands where it is a value of its own. -/
def momentKey : String := "$__toml_private_datetime"

/-- Texts with a comma and a space between them. -/
def separated : List (List Char) → List Char
  | [] => []
  | [t] => t
  | t :: u :: rest => t ++ ',' :: ' ' :: separated (u :: rest)

/-- Entries between braces. -/
def braces : List (List Char) → List Char
  | [] => [Char.ofNat 0x7B, Char.ofNat 0x7D]
  | ts => Char.ofNat 0x7B :: ' ' :: (separated ts ++ [' ', Char.ofNat 0x7D])

namespace Value

mutual
/-- The text of a value inside an array or a table. -/
def chars : Value → List Char
  | text s => quoteText s.toList
  | integer n => (toString n).toList
  | float x => (writeFloat x).toList
  | boolean b => (toString b).toList
  | moment s => s.toList
  | array items => '[' :: (separated (charsItems items) ++ [']'])
  | table entries => braces (charsEntries entries)
def charsItems : List Value → List (List Char)
  | [] => []
  | v :: rest => chars v :: charsItems rest
def charsEntries : List (String × Value) → List (List Char)
  | [] => []
  | (key, v) :: rest => (quoteKey key ++ ' ' :: '=' :: ' ' :: chars v) :: charsEntries rest
end

/-- The text of a value that stands alone; a date or time is wrapped in a table of its own. -/
def write : Value → String
  | moment s => String.ofList (chars (table [(momentKey, text s)]))
  | v => String.ofList v.chars

end Value

end HubPublisher.Toml
