import HubPublisher.Number.Binary64

/-!
The shortest decimal of a floating-point number: the fewest digits that read back as it, and of
those the nearest.

The decimals that read back as a number are those in the interval of reals that round to it, whose
ends belong to it exactly when the mantissa is even. For one digit, two digits and so on up to
seventeen, the two neighbours of the number on that decimal grid are tried in exact arithmetic.
-/
namespace HubPublisher.Number

/-- A positive decimal `0.d₁d₂… · 10 ^ point`: its digits, the last of them not zero, and the place
of the point counted from before the first digit. -/
structure Decimal where
  digits : List Char
  point : Int
  deriving DecidableEq, Repr

namespace Decimal

/-- The digits without the zeros at their end. -/
def dropTrailingZeros (ds : List Char) : List Char := (ds.reverse.dropWhile (· == '0')).reverse

/-- The decimal `n · 10 ^ e`. -/
def ofScaled (n : Nat) (e : Int) : Decimal :=
  let ds := (toString n).toList
  ⟨dropTrailingZeros ds, (ds.length : Int) + e⟩

end Decimal

namespace Binary64

/-- The ends of the interval of reals that round to a positive number, each as `n · 2 ^ e` with the
common `e` given last. Below a power of two the neighbours stand twice as close. -/
def interval (x : Binary64) : Nat × Nat × Nat × Int :=
  let m := x.mantissa
  if m = fractionCount ∧ 1 < x.exponentBits then (4 * m - 1, 4 * m, 4 * m + 2, x.scale - 2)
  else (4 * m - 2, 4 * m, 4 * m + 2, x.scale - 2)

/-- `a · 2 ^ e · 10 ^ (-k)` as a ratio. -/
def onGrid (a : Nat) (e k : Int) : Nat × Nat :=
  let (num, den) := ratioOf a e
  if 0 ≤ k then (num, den * Nat.pow 10 k.toNat) else (num * Nat.pow 10 (-k).toNat, den)

/-- The neighbours of the number among the multiples of `10 ^ k` that read back as it, the nearer
one if both do. -/
def nearestOnGrid (x : Binary64) (k : Int) : Option Nat :=
  let (low, mid, high, e) := x.interval
  let closed := x.mantissa % 2 == 0
  let (lowNum, den) := onGrid low e k
  let (midNum, _) := onGrid mid e k
  let (highNum, _) := onGrid high e k
  let below := midNum / den
  let above := below + 1
  let inside (n : Nat) : Bool :=
    if closed then decide (lowNum ≤ n * den) && decide (n * den ≤ highNum)
    else decide (lowNum < n * den) && decide (n * den < highNum)
  let gapBelow := midNum - below * den
  let gapAbove := above * den - midNum
  match decide (0 < below) && inside below, inside above with
  | true, true =>
    if gapBelow < gapAbove then some below
    else if gapAbove < gapBelow then some above
    else if below % 2 = 0 then some below else some above
  | true, false => some below
  | false, true => some above
  | false, false => none

/-- The place of the point: the `t` with `10 ^ (t - 1) ≤ x < 10 ^ t`. Below one it is read off the
reciprocal, which is no power of ten because `10 ^ (-k)` is no sum of powers of two. -/
def tensOf (x : Binary64) : Int :=
  let (num, den) := ratioOf x.mantissa x.scale
  if den ≤ num then ((toString (num / den)).length : Int)
  else
    let flipped := (toString (den / num)).length
    1 - (flipped : Int)

/-- The first grid, from one digit up, on which a neighbour of the number reads back as it. -/
def shortestFrom (x : Binary64) (tens : Int) : Nat → Nat → Decimal
  | 0, n => (nearestOnGrid x (tens - n)).elim ⟨[], 0⟩ (Decimal.ofScaled · (tens - n))
  | fuel + 1, n =>
    match nearestOnGrid x (tens - n) with
    | some d => Decimal.ofScaled d (tens - n)
    | none => shortestFrom x tens fuel (n + 1)

/-- The shortest decimal that reads back as a positive finite number. -/
def shortest (x : Binary64) : Decimal := shortestFrom x x.tensOf 18 1

end Binary64

/-- How a decimal is laid out. -/
structure FloatFormat where
  /-- The least place of the point that is written without an exponent. -/
  leastPoint : Int
  /-- The greatest place of the point that is written without an exponent. -/
  greatestPoint : Int

namespace FloatFormat

/-- A decimal written without an exponent; a whole number ends in one zero after the point. -/
def positional (d : Decimal) : String :=
  if d.point ≤ 0 then
    "0." ++ String.ofList (List.replicate (-d.point).toNat '0' ++ d.digits)
  else
    let whole := d.point.toNat
    if d.digits.length ≤ whole then
      String.ofList (d.digits ++ List.replicate (whole - d.digits.length) '0') ++ ".0"
    else String.ofList (d.digits.take whole) ++ "." ++ String.ofList (d.digits.drop whole)

/-- A decimal written with one digit before the point and a signed exponent. -/
def scientific (d : Decimal) : String :=
  let e := d.point - 1
  let mark := if e < 0 then "e-" else "e+"
  let mantissa :=
    match d.digits with
    | [] => "0"
    | [c] => String.ofList [c]
    | c :: rest => String.ofList (c :: '.' :: rest)
  mantissa ++ mark ++ toString e.natAbs

/-- The text of a finite number. -/
def write (f : FloatFormat) (x : Binary64) : String :=
  let sign := if x.isNegative then "-" else ""
  if x.isZero then sign ++ "0.0"
  else
    let d := x.shortest
    let isPositional := f.leastPoint ≤ d.point ∧ d.point ≤ f.greatestPoint
    sign ++ if isPositional then positional d else scientific d

end FloatFormat

end HubPublisher.Number
