import SqlPipeline.Decimal.Binary

/-!
# The shortest decimal that reads back

Among the decimals that round to a given double there is a least number of digits, and among those
of that many digits a nearest one. The search tries one digit, two digits, and so on; on each
decimal grid only the two neighbours of the exact value can be the answer. `Layout` says how digits
are written out.
-/

namespace SqlPipeline.Decimal

/-- The ratios that bound the values which round to `significand * 2 ^ exponent`, with a common
denominator: lower end, the value, upper end. A power of two has its lower neighbour at half the
distance, unless it is the least normal number. -/
structure Interval where
  lower : Nat
  value : Nat
  upper : Nat
  denominator : Nat
  closed : Bool

/-- The interval of values that round to `significand * 2 ^ exponent`. -/
def interval (significand : Nat) (exponent : Int) : Interval :=
  let below := if significand == Nat.pow 2 52 && exponent != -1074 then 1 else 2
  let scale := if 0 ≤ exponent then Nat.pow 2 exponent.toNat else 1
  { lower := (4 * significand - below) * scale
    value := 4 * significand * scale
    upper := (4 * significand + 2) * scale
    denominator := if 0 ≤ exponent then 4 else 4 * Nat.pow 2 (-exponent).toNat
    closed := significand % 2 == 0 }

/-- Whether `digits * 10 ^ place` lies in the interval. -/
def Interval.admits (range : Interval) (digits : Nat) (place : Int) : Bool :=
  let candidate := if 0 ≤ place then digits * Nat.pow 10 place.toNat * range.denominator
    else digits * range.denominator
  let stretch := if 0 ≤ place then 1 else Nat.pow 10 (-place).toNat
  if range.closed then
    range.lower * stretch ≤ candidate && candidate ≤ range.upper * stretch
  else
    range.lower * stretch < candidate && candidate < range.upper * stretch

/-- The number of digits before the decimal point, negative for leading zeros behind it: the
exponent `p` with `10 ^ (p - 1) ≤ value < 10 ^ p`. Starting from an estimate by binary logarithms it
moves up at most a few steps. -/
def magnitude (numerator denominator : Nat) : Int :=
  let estimate := (floorLog2 numerator denominator * 30103).fdiv 100000
  let reaches (p : Int) : Bool :=
    if 0 ≤ p then denominator * Nat.pow 10 p.toNat ≤ numerator
    else denominator ≤ numerator * Nat.pow 10 (-p).toNat
  let candidates := [estimate - 1, estimate, estimate + 1, estimate + 2]
  (candidates.filter reaches).foldl max (estimate - 2) + 1

/-- The better of the two neighbours of the value on the grid of multiples of `10 ^ place`. -/
def Interval.best? (range : Interval) (place : Int) : Option Nat :=
  let numerator := if 0 ≤ place then range.value else range.value * Nat.pow 10 (-place).toNat
  let unit := if 0 ≤ place then range.denominator * Nat.pow 10 place.toNat else range.denominator
  let low := numerator / unit
  let doubled := 2 * (numerator % unit)
  let lowIsNearer := doubled < unit || (doubled == unit && low % 2 == 0)
  let (first, second) := if lowIsNearer then (low, low + 1) else (low + 1, low)
  if range.admits first place then some first
  else if range.admits second place then some second
  else none

/-- Digits and place of the shortest decimal that rounds to `significand * 2 ^ exponent`: the number
is `digits * 10 ^ place`. Seventeen digits always suffice. -/
def shortest (significand : Nat) (exponent : Int) : Nat × Int :=
  let range := interval significand exponent
  let point := magnitude range.value range.denominator
  let counts := (List.range 17).map fun (n : Nat) => (n : Int) + 1
  match counts.findSome? fun count => (range.best? (point - count)).map (·, point - count) with
  | some found => found
  | none => (range.value / range.denominator, 0)

/-- How a number is written: which exponents are written positionally, and the spellings of what has
no digits. -/
structure Layout where
  /-- The least and the first excluded decimal exponent of positional notation. -/
  leastPositional : Int
  endPositional : Int
  /-- The fewest digits of a written exponent. -/
  exponentWidth : Nat
  infinity : String
  notANumber : String

/-- Numbers are positional from `0.0001` up to below `10 ^ 16`, always show a fraction or an
exponent, and an exponent has a sign and at least two digits. -/
def plainLayout : Layout := ⟨-4, 16, 2, "inf", "nan"⟩

/-- An exponent with its sign, filled with zeros. -/
def Layout.exponentText (layout : Layout) (exponent : Int) : String :=
  let digits := toString exponent.natAbs
  let padding := String.ofList (List.replicate (layout.exponentWidth - digits.length) '0')
  (if exponent < 0 then "-" else "+") ++ padding ++ digits

/-- Digits without trailing zeros; `point` is the number of digits before the decimal point. -/
def Layout.place (layout : Layout) (digits : List Char) (point : Int) : String :=
  let text := String.ofList
  if layout.leastPositional ≤ point - 1 && point - 1 < layout.endPositional then
    if point ≤ 0 then
      "0." ++ text (List.replicate (-point).toNat '0' ++ digits)
    else
      let before := digits.take point.toNat
      let after := digits.drop point.toNat
      text (before ++ List.replicate (point.toNat - before.length) '0') ++ "." ++
        (if after.isEmpty then "0" else text after)
  else
    match digits with
    | [] => "0"
    | [digit] => text [digit] ++ "e" ++ layout.exponentText (point - 1)
    | digit :: others => text (digit :: '.' :: others) ++ "e" ++ layout.exponentText (point - 1)

/-- The text of a double. -/
def Layout.write (layout : Layout) (x : Float) : String :=
  let signed (negative : Bool) (text : String) : String := if negative then "-" ++ text else text
  match shape x with
  | .notANumber => layout.notANumber
  | .infinite negative => signed negative layout.infinity
  | .finite negative significand exponent =>
    if significand == 0 then signed negative "0.0"
    else
      let (digits, place) := shortest significand exponent
      let written := (toString digits).toList
      let point : Int := written.length + place
      let trimmed := (written.reverse.dropWhile (· == '0')).reverse
      signed negative (layout.place trimmed point)

/-- The text of a double in the plain layout. -/
def text (x : Float) : String := plainLayout.write x

end SqlPipeline.Decimal
