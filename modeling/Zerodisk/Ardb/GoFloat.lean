import Zerodisk.Basic

/-!
# The float64 arithmetic of the jump hash

`ComputeServerIndex` computes its jump-consistent-hash step in `float64`:
it converts two integers to floats, divides, multiplies, and truncates the
product back to an `int64`. A float is a sign, a natural mantissa and a binary
exponent. Every operation computes its exact result as a fraction of naturals
and rounds it to the nearest value with a 53-bit mantissa, ties to even, as
IEEE 754 does. The values of the routing code lie between `2^-31` and `2^95`,
far from float64's overflow and subnormal ranges, so those ranges are left
out.
-/

namespace Zerodisk
namespace Ardb

/-- The number of binary digits of `n`, within `fuel` halvings. -/
def bitLengthAux : Nat → Nat → Nat
  | 0, _ => 0
  | fuel + 1, n => if n = 0 then 0 else bitLengthAux fuel (n / 2) + 1

/-- The number of binary digits of `n`: `n < 2 ^ bitLength n`. -/
def bitLength (n : Nat) : Nat := bitLengthAux n n

/-- The natural nearest to `num / den`, ties to the even one. -/
def roundHalfEven (num den : Nat) : Nat :=
  let quotient := num / den
  let twiceRest := 2 * (num % den)
  if twiceRest < den then quotient
  else if den < twiceRest then quotient + 1
  else if quotient % 2 = 0 then quotient else quotient + 1

/-- `num / (den * 2 ^ shift)` as a fraction of naturals. -/
def scaleFraction (num den : Nat) (shift : Int) : Nat × Nat :=
  if 0 ≤ shift then (num, den * 2 ^ shift.toNat) else (num * 2 ^ (-shift).toNat, den)

/-- A float64 value `(-1)^negative * mantissa * 2^exponent`. -/
structure GoFloat where
  /-- The sign bit. -/
  negative : Bool
  /-- The mantissa, below `2^53` but for a rounding up to it. -/
  mantissa : Nat
  /-- The binary exponent. -/
  exponent : Int
  deriving DecidableEq, Repr

namespace GoFloat

/-- The float nearest to `±num / den`, ties to even: the exponent puts the
quotient in `[2^52, 2^53)`, and the mantissa is the rounded quotient. -/
def ofFraction (negative : Bool) (num den : Nat) : GoFloat :=
  if num = 0 then ⟨negative, 0, 0⟩ else
  let guess : Int := (bitLength num : Int) - bitLength den - 53
  let exponent := if 2 ^ 53 ≤ (scaleFraction num den guess).1 / (scaleFraction num den guess).2
    then guess + 1 else guess
  let scaled := scaleFraction num den exponent
  ⟨negative, roundHalfEven scaled.1 scaled.2, exponent⟩

/-- `float64(x)` of an integer. -/
def ofInt (x : Int) : GoFloat := ofFraction (x < 0) x.natAbs 1

/-- The product `a * b`. -/
def mul (a b : GoFloat) : GoFloat :=
  let exact := scaleFraction (a.mantissa * b.mantissa) 1 (-(a.exponent + b.exponent))
  ofFraction (a.negative != b.negative) exact.1 exact.2

/-- The quotient `a / b`, for a nonzero `b`. -/
def div (a b : GoFloat) : GoFloat :=
  let exact := scaleFraction a.mantissa b.mantissa (b.exponent - a.exponent)
  ofFraction (a.negative != b.negative) exact.1 exact.2

/-- `int64(f)`: `f` truncated toward zero. A value outside the `int64` range
gives `-2^63`, what the conversion instruction of amd64 returns; the Go spec
leaves that case to the implementation. -/
def toInt64 (f : GoFloat) : Int :=
  let exact := scaleFraction f.mantissa 1 (-f.exponent)
  let magnitude : Int := exact.1 / exact.2
  let value := if f.negative then -magnitude else magnitude
  if InInt64Range value then value else -2 ^ 63

end GoFloat

end Ardb
end Zerodisk
