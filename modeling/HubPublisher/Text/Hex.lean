/-!
Hexadecimal digits: one digit of a number below sixteen and back, and octets as pairs of digits.
-/
namespace HubPublisher.Text.Hex

/-- The value of a digit, in either case. -/
def digit? (c : Char) : Option Nat :=
  let n := c.toNat
  if 48 ≤ n && n ≤ 57 then some (n - 48)
  else if 97 ≤ n && n ≤ 102 then some (n - 87)
  else if 65 ≤ n && n ≤ 70 then some (n - 55)
  else none

/-- The lower-case digit of a number below sixteen. -/
def lower (n : Nat) : Char := Char.ofNat (if n < 10 then 48 + n else 87 + n)

/-- The upper-case digit of a number below sixteen. -/
def upper (n : Nat) : Char := Char.ofNat (if n < 10 then 48 + n else 55 + n)

/-- The number that a run of digits stands for, or `none` if some character is no digit. -/
def value? (cs : List Char) : Option Nat :=
  cs.foldl (fun acc c => acc.bind fun v => (digit? c).map (v * 16 + ·)) (some 0)

/-- Octets from pairs of digits. -/
def octets? : List Char → Option (List UInt8)
  | [] => some []
  | [_] => none
  | a :: b :: rest =>
    match digit? a, digit? b, octets? rest with
    | some x, some y, some tail => some (UInt8.ofNat (x * 16 + y) :: tail)
    | _, _, _ => none

theorem digit?_lower {n : Nat} (h : n < 16) : digit? (lower n) = some n := by
  have hall : ∀ m ∈ List.range 16, digit? (lower m) = some m := by decide
  exact hall n (List.mem_range.mpr h)

theorem digit?_upper {n : Nat} (h : n < 16) : digit? (upper n) = some n := by
  have hall : ∀ m ∈ List.range 16, digit? (upper m) = some m := by decide
  exact hall n (List.mem_range.mpr h)

end HubPublisher.Text.Hex
