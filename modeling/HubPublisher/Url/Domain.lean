import HubPublisher.Text.Composed
import HubPublisher.Text.Marks
import HubPublisher.Text.Split
import HubPublisher.Url.Domain.Direction
import HubPublisher.Url.Domain.Joining
import HubPublisher.Url.Domain.Mapping
import HubPublisher.Url.Domain.Punycode

/-!
Domain names: the ASCII form of a name.

A name is first put into its plain form: every character is replaced by what it stands for, and the
result is composed. Each label of the plain form is then checked. A label of ASCII characters is
written as it is, any other one in Punycode behind the mark `xn--`; a label that has the mark
already has to be the Punycode of a label in plain form.
-/
namespace HubPublisher.Url

open Text

/-- The ASCII characters that no domain name has. -/
def isForbiddenInDomain (c : Char) : Bool :=
  c.toNat ≤ 0x20 || c.toNat == 0x7F || c == '%' || c == '#' || c == '/' || c == ':' || c == '<'
    || c == '>' || c == '?' || c == '@' || c == '[' || c == '\\' || c == ']' || c == '^'
    || c == '|'

/-- The plain form of a name. -/
def plainDomain? (cs : List Char) : Option (List Char) :=
  (cs.mapM meaning?).map fun parts => composed parts.flatten

/-- What a label in Punycode starts with. -/
def punycodeMark : List Char := ['x', 'n', '-', '-']

/-- Longer labels are written in no Punycode. -/
def labelLimit : Nat := 1000

/-- Longer codes are not read. -/
def codeLimit : Nat := 2000

/-- A label as it is read and as it is written. -/
structure Label where
  text : List Char
  ascii : List Char

namespace Label

/-- Whether a text may be a label. -/
def isAllowed (text : List Char) : Bool :=
  !text.any isForbiddenInDomain && !text.head?.any isMark && joinersMatter [] text

/-- A label of a name in plain form. -/
def ofChars? (cs : List Char) : Option Label :=
  match dropStart? punycodeMark cs with
  | some code =>
    if code.length ≤ codeLimit then
      match Punycode.decode? code with
      | some text =>
        if isAllowed text && text.any (128 ≤ ·.toNat) && plainDomain? text == some text then
          some ⟨text, cs⟩
        else none
      | none => none
    else none
  | none =>
    if !isAllowed cs then none
    else if cs.all (·.toNat < 128) then some ⟨cs, cs⟩
    else if cs.length ≤ labelLimit then some ⟨cs, punycodeMark ++ Punycode.encode cs⟩
    else none

end Label

/-- Labels with dots between them. -/
def joinLabels : List (List Char) → List Char
  | [] => []
  | [l] => l
  | l :: rest => l ++ '.' :: joinLabels rest

/-- The ASCII form of a domain name, or `none` if it has none. -/
def domainToAscii? (cs : List Char) : Option (List Char) := do
  let labels ← (splitBy (· == '.') (← plainDomain? cs)).mapM Label.ofChars?
  if labels.any (isLeftward ·.text) && !labels.all (keepsDirection ·.text) then none
  else some (joinLabels (labels.map (·.ascii)))

end HubPublisher.Url
