import HubPublisher.Text.Hex
import HubPublisher.Text.Split

/-!
Sets of characters, written as a list of ranges in hexadecimal: `7f-a0 ad 34f`.
-/
namespace HubPublisher.Text

/-- A set of character numbers as inclusive ranges in ascending order. -/
structure CodeSet where
  ranges : List (Nat × Nat)

namespace CodeSet

/-- One range, `a-b` or `a`. A malformed bound counts as zero. -/
def rangeOfChars (cs : List Char) : Nat × Nat :=
  match splitBy (· == '-') cs with
  | [a, b] => ((Hex.value? a).getD 0, (Hex.value? b).getD 0)
  | _ => ((Hex.value? cs).getD 0, (Hex.value? cs).getD 0)

/-- Reads lines of ranges with spaces between them. -/
def ofLines (lines : List String) : CodeSet :=
  ⟨lines.flatMap fun s => ((splitBy (· == ' ') s.toList).filter (!·.isEmpty)).map rangeOfChars⟩

def contains (s : CodeSet) (c : Char) : Bool :=
  s.ranges.any fun r => r.1 ≤ c.toNat && c.toNat ≤ r.2

end CodeSet

end HubPublisher.Text
