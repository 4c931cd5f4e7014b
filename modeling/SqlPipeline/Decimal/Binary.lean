/-!
# Binary fractions

A double is a sign, a whole significand and a power of two. This file takes doubles apart, and finds
the double nearest to a ratio of natural numbers (a tie goes to the even significand), which is what
reading a decimal means. Everything is exact arithmetic on natural numbers.
-/

namespace SqlPipeline.Decimal

/-- The quotient rounded to the nearest natural number, a tie to the even one. -/
def roundDiv (numerator denominator : Nat) : Nat :=
  let quotient := numerator / denominator
  let doubled := 2 * (numerator % denominator)
  if doubled < denominator then quotient
  else if denominator < doubled then quotient + 1
  else quotient + quotient % 2

/-- The bits of positive infinity; every larger magnitude overflows to it. -/
def infinityBits : Nat := 0x7FF0000000000000

/-- The ratio `numerator / (denominator * 2 ^ exponent)`, as a numerator and a denominator. -/
def scaleRatio (numerator denominator : Nat) (exponent : Int) : Nat × Nat :=
  if 0 ≤ exponent then (numerator, denominator * Nat.pow 2 exponent.toNat)
  else (numerator * Nat.pow 2 (-exponent).toNat, denominator)

/-- The largest exponent whose power of two does not exceed a positive ratio. -/
def floorLog2 (numerator denominator : Nat) : Int :=
  let estimate : Int := (numerator.log2 : Int) - denominator.log2
  let (scaled, unit) := scaleRatio numerator denominator estimate
  if unit ≤ scaled then estimate else estimate - 1

/-- The bits of the double nearest to a ratio. Below the smallest normal double the spacing stays at
`2 ^ (-1074)`; a significand that rounds up to `2 ^ 53` carries into the exponent by itself. -/
def nearestBits (numerator denominator : Nat) : Nat :=
  if numerator == 0 then 0
  else
    let spacing := max (floorLog2 numerator denominator - 52) (-1074)
    let (scaled, unit) := scaleRatio numerator denominator spacing
    let significand := roundDiv scaled unit
    let bits := (spacing + 1074).toNat * Nat.pow 2 52 + significand
    min bits infinityBits

/-- The double nearest to a ratio. -/
def nearest (numerator denominator : Nat) : Float :=
  Float.ofBits (UInt64.ofNat (nearestBits numerator denominator))

/-- A number as the library sees it. -/
inductive Shape where
  | notANumber
  | infinite (negative : Bool)
  | finite (negative : Bool) (significand : Nat) (exponent : Int)
  deriving DecidableEq, Repr

/-- Sign, significand and power of two of a double. -/
def shape (x : Float) : Shape :=
  let bits : Nat := x.toBits.toNat
  let negative := decide (Nat.pow 2 63 ≤ bits)
  let biased : Nat := bits / Nat.pow 2 52 % 2048
  let fraction : Nat := bits % Nat.pow 2 52
  if biased == 2047 then
    if fraction == 0 then .infinite negative else .notANumber
  else if biased == 0 then .finite negative fraction (-1074)
  else .finite negative (fraction + Nat.pow 2 52) ((biased : Int) - 1075)

/-- The whole number that a double stands for, if it is one. -/
def whole? (x : Float) : Option Int :=
  match shape x with
  | .finite negative significand exponent =>
    let signed (magnitude : Nat) : Int := if negative then -(magnitude : Int) else magnitude
    if 0 ≤ exponent then some (signed (significand * Nat.pow 2 exponent.toNat))
    else
      let unit := Nat.pow 2 (-exponent).toNat
      if significand % unit == 0 then some (signed (significand / unit)) else none
  | _ => none

/-- Whether a double is neither infinite nor not a number. -/
def isFinite (x : Float) : Bool :=
  match shape x with
  | .finite .. => true
  | _ => false

/-- The double nearest to a whole number, if the number is not too large for a double. -/
def ofInt? (n : Int) : Option Float :=
  let bits := nearestBits n.natAbs 1
  if bits == infinityBits then none
  else
    let magnitude := Float.ofBits (UInt64.ofNat bits)
    some (if n < 0 then -magnitude else magnitude)

end SqlPipeline.Decimal
