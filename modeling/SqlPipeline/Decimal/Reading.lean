import SqlPipeline.Decimal.Binary

/-!
# Reading decimals

A decimal is an optional sign, digits with an optional point, and an optional exponent. `Spelled` is
a decimal taken apart; `Spelled.read?` takes it apart for any notion of digit, and `Spelled.toFloat`
is the nearest double. Exponents far outside the range of doubles are recognised by counting digits,
so that no huge power of ten is ever formed.
-/

namespace SqlPipeline.Decimal

/-- The number that a row of digit values spells in some base. -/
def ofDigits (base : Nat) (digits : List Nat) : Nat :=
  digits.foldl (fun number digit => number * base + digit) 0

/-- The double nearest to `digits * 10 ^ exponent`, where `count` bounds the number of digits. -/
def ofScaled (digits count : Nat) (exponent : Int) : Float :=
  if digits == 0 then 0
  else if (count : Int) + exponent < -400 then 0
  else if 400 < exponent then Float.ofBits (UInt64.ofNat infinityBits)
  else if 0 ≤ exponent then nearest (digits * Nat.pow 10 exponent.toNat) 1
  else nearest digits (Nat.pow 10 (-exponent).toNat)

/-- A decimal taken apart: its sign, the digits before and after the point, and the exponent. -/
structure Spelled where
  negative : Bool
  before : List Nat
  after : Option (List Nat)
  exponent : Option Int
  deriving DecidableEq, Repr

/-- The value of an ASCII digit. -/
def asciiDigit? (c : Char) : Option Nat :=
  if c.isDigit then some (c.toNat - 48) else none

/-- The values of the digits in front of a text, and what follows them. -/
def digitRun (digit? : Char → Option Nat) : List Char → List Nat × List Char
  | [] => ([], [])
  | c :: rest =>
    match digit? c with
    | some digit => (digit :: (digitRun digit? rest).1, (digitRun digit? rest).2)
    | none => ([], c :: rest)

/-- Whether a sign in front of a text is negative, and what follows the sign. -/
def signed : List Char → Bool × List Char
  | '+' :: rest => (false, rest)
  | '-' :: rest => (true, rest)
  | text => (false, text)

/-- A number with its sign. -/
def withSign (negative : Bool) (magnitude : Nat) : Int :=
  if negative then -(magnitude : Int) else magnitude

/-- An exponent with its letter that goes up to the end of the text, or the end of the text. -/
def exponent? (digit? : Char → Option Nat) : List Char → Option (Option Int)
  | [] => some none
  | letter :: rest =>
    if letter == 'e' || letter == 'E' then
      match digitRun digit? (signed rest).2 with
      | (first :: others, []) =>
        some (some (withSign (signed rest).1 (ofDigits 10 (first :: others))))
      | _ => none
    else none

namespace Spelled

/-- Takes apart a decimal without sign: at least one digit, before or after the point. -/
def readUnsigned? (digit? : Char → Option Nat) (negative : Bool) (text : List Char) :
    Option Spelled :=
  let (before, rest) := digitRun digit? text
  match rest with
  | '.' :: fraction =>
    let (after, tail) := digitRun digit? fraction
    if before.isEmpty && after.isEmpty then none
    else (exponent? digit? tail).map fun exponent => ⟨negative, before, some after, exponent⟩
  | tail =>
    if before.isEmpty then none
    else (exponent? digit? tail).map fun exponent => ⟨negative, before, none, exponent⟩

/-- Takes apart a decimal. -/
def read? (digit? : Char → Option Nat) (text : List Char) : Option Spelled :=
  readUnsigned? digit? (signed text).1 (signed text).2

/-- Whether a decimal is spelled as a whole number, with neither point nor exponent. -/
def isWhole (spelled : Spelled) : Bool :=
  spelled.after.isNone && spelled.exponent.isNone

/-- The whole number before the point, with its sign. -/
def wholePart (spelled : Spelled) : Int :=
  withSign spelled.negative (ofDigits 10 spelled.before)

/-- The double nearest to a decimal; too large a decimal becomes infinite. -/
def toFloat (spelled : Spelled) : Float :=
  let after := spelled.after.getD []
  let digits := spelled.before ++ after
  let magnitude :=
    ofScaled (ofDigits 10 digits) digits.length (spelled.exponent.getD 0 - after.length)
  if spelled.negative then -magnitude else magnitude

end Spelled

end SqlPipeline.Decimal
