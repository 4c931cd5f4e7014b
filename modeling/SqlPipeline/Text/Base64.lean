/-!
# Bytes in base sixty-four

Binary data is spelled in groups of four characters for three bytes; the last group may be cut short
and filled up with equals signs. Characters outside the alphabet, such as line breaks, are passed
over, and nothing after a complete filling is read.
-/

namespace SqlPipeline.Text.Base64

/-- The value of a character of the alphabet. -/
def sextet? (c : Char) : Option Nat :=
  if c.isUpper then some (c.toNat - 65)
  else if c.isLower then some (c.toNat - 71)
  else if c.isDigit then some (c.toNat + 4)
  else if c == '+' then some 62
  else if c == '/' then some 63
  else none

/-- The bytes that the rest of a text spells. `place` characters of the present group are read
already, with `bits` left over from the last of them, and `filling` equals signs stand behind it. -/
def decodeFrom (place bits filling : Nat) : List Char → Option (List UInt8)
  | [] => if place == 0 then some [] else none
  | c :: rest =>
    if c == '=' then
      if place < 2 then decodeFrom place bits filling rest
      else if 4 ≤ place + filling + 1 then some []
      else decodeFrom place bits (filling + 1) rest
    else
      match sextet? c, place with
      | none, _ => decodeFrom place bits filling rest
      | some six, 0 => decodeFrom 1 six 0 rest
      | some six, 1 =>
        (decodeFrom 2 (six % 16) 0 rest).map (UInt8.ofNat (bits * 4 + six / 16) :: ·)
      | some six, 2 =>
        (decodeFrom 3 (six % 4) 0 rest).map (UInt8.ofNat (bits * 16 + six / 4) :: ·)
      | some six, _ => (decodeFrom 0 0 0 rest).map (UInt8.ofNat (bits * 64 + six) :: ·)

/-- The bytes that a text spells, if it ends with a complete group. -/
def decode? (text : List Char) : Option (List UInt8) :=
  decodeFrom 0 0 0 text

end SqlPipeline.Text.Base64
