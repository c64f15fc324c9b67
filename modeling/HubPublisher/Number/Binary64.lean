/-!
Floating-point numbers of 64 bits as plain data.

A number is its sixty-four bits, so equality is decidable and nothing about it is hidden. The
operations are stated on the value `mantissa · 2 ^ exponent`: each computes the exact result as a
ratio of naturals and rounds it once to the nearest number, a tie going to the even mantissa.
-/
namespace HubPublisher.Number

/-- A floating-point number, written as its bits: one of sign, eleven of exponent, fifty-two of
fraction. -/
structure Binary64 where
  bits : UInt64
  deriving DecidableEq, Repr

namespace Binary64

/-- The bit of the sign, `2 ^ 63`. -/
def signBit : Nat := 0x8000000000000000

/-- How many fractions there are, `2 ^ 52`. -/
def fractionCount : Nat := 0x10000000000000

def isNegative (x : Binary64) : Bool := signBit ≤ x.bits.toNat

/-- The eleven bits of the exponent. -/
def exponentBits (x : Binary64) : Nat := x.bits.toNat / fractionCount % 2048

/-- The fifty-two bits of the fraction. -/
def fraction (x : Binary64) : Nat := x.bits.toNat % fractionCount

def isNaN (x : Binary64) : Bool := x.exponentBits == 2047 && x.fraction != 0

def isInfinite (x : Binary64) : Bool := x.exponentBits == 2047 && x.fraction == 0

def isZero (x : Binary64) : Bool := x.exponentBits == 0 && x.fraction == 0

/-- The mantissa: the fraction, with the leading one that a normal number leaves out. -/
def mantissa (x : Binary64) : Nat :=
  if x.exponentBits = 0 then x.fraction else x.fraction + fractionCount

/-- The power of two that the mantissa is scaled by. -/
def scale (x : Binary64) : Int :=
  if x.exponentBits = 0 then -1074 else (x.exponentBits : Int) - 1075

/-- The number with the given sign and magnitude bits. -/
def ofMagnitude (negative : Bool) (magnitude : Nat) : Binary64 :=
  ⟨UInt64.ofNat (magnitude + if negative then signBit else 0)⟩

def zero (negative : Bool) : Binary64 := ofMagnitude negative 0

def infinity (negative : Bool) : Binary64 := ofMagnitude negative (2047 * fractionCount)

def nan : Binary64 := ofMagnitude false (2047 * fractionCount + fractionCount / 2)

def neg (x : Binary64) : Binary64 := ofMagnitude (!x.isNegative) (x.bits.toNat % signBit)

/-- The natural number next to a ratio; the even one of two that are equally near. -/
def roundRatio (num den : Nat) : Nat :=
  let q := num / den
  let r := num % den
  if 2 * r < den then q
  else if den < 2 * r then q + 1
  else if q % 2 = 0 then q else q + 1

/-- The ratio `num / den` divided by a power of two, as a pair. -/
def scaleDown (num den : Nat) (e : Int) : Nat × Nat :=
  if 0 ≤ e then (num, den * Nat.pow 2 e.toNat) else (num * Nat.pow 2 (-e).toNat, den)

/-- The power of two that brings a positive ratio to between `2 ^ 52` and `2 ^ 53`, but never less
than that of the subnormal numbers. -/
def scaleOfRatio (num den : Nat) : Int :=
  let guess : Int := (Nat.log2 num : Int) - (Nat.log2 den : Int) - 52
  let (n, d) := scaleDown num den guess
  let e := if n < fractionCount * d then guess - 1 else guess
  max e (-1074)

/-- The number nearest to a ratio. A magnitude that would reach `2 ^ 1024` is infinite. -/
def ofRatio (negative : Bool) (num den : Nat) : Binary64 :=
  if num = 0 then zero negative
  else
    let e := scaleOfRatio num den
    let (n, d) := scaleDown num den e
    let m := roundRatio n d
    let magnitude := m + (e + 1074).toNat * fractionCount
    if 2047 * fractionCount ≤ magnitude then infinity negative else ofMagnitude negative magnitude

def ofNat (n : Nat) : Binary64 := ofRatio false n 1

/-- A power of ten, rounded. -/
def tenTo (k : Nat) : Binary64 := ofNat (Nat.pow 10 k)

/-- The ratio `m · 2 ^ e` as a numerator and a denominator. -/
def ratioOf (m : Nat) (e : Int) : Nat × Nat :=
  if 0 ≤ e then (m * Nat.pow 2 e.toNat, 1) else (m, Nat.pow 2 (-e).toNat)

/-- The product of two finite numbers. -/
def mul (x y : Binary64) : Binary64 :=
  let (num, den) := ratioOf (x.mantissa * y.mantissa) (x.scale + y.scale)
  ofRatio (x.isNegative != y.isNegative) num den

/-- The quotient of two finite numbers, the second not zero. -/
def div (x y : Binary64) : Binary64 :=
  let (num, den) := ratioOf x.mantissa (x.scale - y.scale)
  ofRatio (x.isNegative != y.isNegative) num (den * y.mantissa)

/-- The number nearest to `digits · 10 ^ exponent`. -/
def ofDecimal (negative : Bool) (digits : Nat) (exponent : Int) : Binary64 :=
  if 0 ≤ exponent then ofRatio negative (digits * Nat.pow 10 exponent.toNat) 1
  else ofRatio negative digits (Nat.pow 10 (-exponent).toNat)

end Binary64

end HubPublisher.Number
