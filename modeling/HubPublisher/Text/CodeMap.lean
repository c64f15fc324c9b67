import HubPublisher.Text.Hex
import HubPublisher.Text.Split

/-!
Maps from characters to short texts, written as a list of rules in hexadecimal.

`df>73+73` sends one character to two, `430-432>451` every character of a range to the one as far
from the first image, and `100~12e>101` every second one.
-/
namespace HubPublisher.Text

/-- The characters `first`, `first + step`, … up to `last`, and the image of the first. -/
structure CodeRule where
  first : Nat
  step : Nat
  last : Nat
  image : List Nat

namespace CodeRule

/-- A rule for the characters between two bounds. A malformed number counts as zero. -/
def ofChars (cs : List Char) : CodeRule :=
  let number (ds : List Char) : Nat := (Hex.value? ds).getD 0
  let (source, target) := splitFirst '>' cs
  let image := (splitBy (· == '+') (target.getD [])).map number
  match splitFirst '-' source, splitFirst '~' source with
  | (a, some b), _ => ⟨number a, 1, number b, image⟩
  | _, (a, some b) => ⟨number a, 2, number b, image⟩
  | _, _ => ⟨number source, 1, number source, image⟩

def image? (r : CodeRule) (c : Char) : Option (List Char) :=
  let n := c.toNat
  if r.first ≤ n && n ≤ r.last && (n - r.first) % r.step == 0 then
    some (r.image.map fun m => Char.ofNat (m + (n - r.first)))
  else none

end CodeRule

structure CodeMap where
  rules : List CodeRule

namespace CodeMap

/-- Reads lines of rules with spaces between them. -/
def ofLines (lines : List String) : CodeMap :=
  ⟨lines.flatMap fun s =>
    ((splitBy (· == ' ') s.toList).filter (!·.isEmpty)).map CodeRule.ofChars⟩

/-- The image of a character by the first rule that has one. -/
def image? (m : CodeMap) (c : Char) : Option (List Char) := m.rules.findSome? (·.image? c)

end CodeMap

end HubPublisher.Text
