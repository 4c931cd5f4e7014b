import SqlPipeline.Yaml.Cursor
import SqlPipeline.Yaml.Fault

/-!
# Quoted scalars

A scalar between quotes may span lines: a single break between words reads as a space, further
breaks as themselves, and the blanks around breaks vanish. Single quotes are doubled inside single
quotes; double quotes allow escapes. Two escapes that spell a character in two units, a high and a
low one, stand for that character.
-/

namespace SqlPipeline

namespace Yaml

namespace Quoted

/-- The value of a digit in base sixteen. -/
def hexDigit? (c : Char) : Option Nat :=
  if c.isDigit then some (c.toNat - 48)
  else if 'a' ≤ c && c ≤ 'f' then some (c.toNat - 87)
  else if 'A' ≤ c && c ≤ 'F' then some (c.toNat - 55)
  else none

/-- The character that a one-letter escape stands for. -/
def simpleEscape? (c : Char) : Option Char :=
  let table : List (Char × Nat) :=
    [('0', 0), ('a', 7), ('b', 8), ('t', 9), ('\t', 9), ('n', 10), ('v', 11), ('f', 12), ('r', 13),
      ('e', 0x1B), (' ', 0x20), ('"', 0x22), ('\\', 0x5C), ('/', 0x2F), ('N', 0x85), ('_', 0xA0),
      ('L', 0x2028), ('P', 0x2029)]
  (table.find? (·.1 == c)).map fun entry => Char.ofNat entry.2

/-- The number of digits of a numeric escape. -/
def escapeWidth? (c : Char) : Option Nat :=
  if c == 'x' then some 2 else if c == 'u' then some 4 else if c == 'U' then some 8 else none

/-- The number that the digits of an escape of a given width spell, and the place after them. -/
def escapeCode (width : Nat) (cursor : Cursor) : Except Fault (Nat × Cursor) :=
  let digits := (cursor.rest.take width).filterMap hexDigit?
  if digits.length == width then
    .ok (digits.foldl (fun code digit => code * 16 + digit) 0, cursor.skip width)
  else .error .malformed

/-- The unit that stands for what is no character. -/
def replacement : Char := '\uFFFD'

/-- Whether a number is a high unit, which begins a character in two units. -/
def isHighUnit (code : Nat) : Bool := 0xD800 ≤ code && code < 0xDC00

/-- Whether a number is a low unit, which ends a character in two units. -/
def isLowUnit (code : Nat) : Bool := 0xDC00 ≤ code && code < 0xE000

/-- The low unit that an escape spells here, and the place after it. -/
def lowUnit? (cursor : Cursor) : Option (Nat × Cursor) :=
  match cursor.here, (cursor.peek 1).bind escapeWidth? with
  | some '\\', some width =>
    (escapeCode width (cursor.skip 2)).toOption.filter fun (code, _) => isLowUnit code
  | _, _ => none

/-- The largest number that is looked up as a character at all. -/
def largestCode : Nat := 0x7FFFFFFF

/-- The character with a number. A unit without its other half is no character. -/
def charOfCode (code : Nat) : Except Fault Char :=
  if largestCode < code then .error .hugeCharacter
  else if 0x10FFFF < code then .error .noCharacter
  else .ok (if code.isValidChar then Char.ofNat code else replacement)

/-- The character of a numeric escape of a given width, and the place after it. -/
def numericEscape (width : Nat) (cursor : Cursor) : Except Fault (Char × Cursor) := do
  let (code, last) ← escapeCode width cursor
  match if isHighUnit code then lowUnit? last else none with
  | some (low, afterLow) =>
    return (Char.ofNat (0x10000 + (code - 0xD800) * 0x400 + (low - 0xDC00)), afterLow)
  | none => return (← charOfCode code, last)

/-- Further line breaks, with the blanks around them dropped. A document marker is not allowed
here. -/
def furtherBreaks (cursor : Cursor) : Except Fault (List Char × Cursor) :=
  if cursor.atDocumentMarker then .error .malformed
  else
    let afterGap := cursor.skipWhile isGap
    let (lineBreak, next) := afterGap.lineBreak
    if next.ahead < cursor.ahead ∧ lineBreak ≠ [] then
      (furtherBreaks next).map fun (breaks, last) => (lineBreak ++ breaks, last)
    else .ok ([], afterGap)
termination_by cursor.ahead
decreasing_by omega

/-- What a run of blanks and breaks inside quotes reads as. -/
def gap (cursor : Cursor) : Except Fault (List Char × Cursor) := do
  let (blanks, afterGap) := cursor.takeWhile isGap
  match afterGap.here with
  | none => .error .malformed
  | some c =>
    if isBreak c then
      let (lineBreak, next) := afterGap.lineBreak
      let (breaks, last) ← furtherBreaks next
      if lineBreak != ['\n'] then .ok (lineBreak ++ breaks, last)
      else if breaks.isEmpty then .ok ([' '], last)
      else .ok (breaks, last)
    else .ok (blanks, afterGap)

/-- What an escape stands for; the place is after the backslash. -/
def escape (cursor : Cursor) : Except Fault (List Char × Cursor) :=
  match cursor.here with
  | none => .error .malformed
  | some c =>
    match simpleEscape? c, escapeWidth? c with
    | some plain, _ => .ok ([plain], cursor.next)
    | none, some width => (numericEscape width cursor.next).map fun (c, last) => ([c], last)
    | none, none =>
      if isBreak c then furtherBreaks cursor.lineBreak.2 else .error .malformed

/-- One piece of a quoted scalar, or its end. -/
def piece (double : Bool) (cursor : Cursor) : Except Fault (Option (List Char) × Cursor) :=
  let quote := if double then '"' else '\''
  match cursor.here with
  | none => .error .malformed
  | some c =>
    if c == quote then
      if !double && cursor.peek 1 == some '\'' then .ok (some ['\''], cursor.skip 2)
      else .ok (none, cursor.next)
    else if isGap c || isBreak c then (gap cursor).map fun (text, last) => (some text, last)
    else if double && c == '\\' then (escape cursor.next).map fun (text, last) => (some text, last)
    else .ok (some [c], cursor.next)

/-- The text of a quoted scalar and the place after it; the place given is after the opening
quote. -/
def body (double : Bool) (cursor : Cursor) : Except Fault (List Char × Cursor) := do
  match ← piece double cursor with
  | (none, last) => .ok ([], last)
  | (some text, next) =>
    if next.ahead < cursor.ahead then
      let (others, last) ← body double next
      .ok (text ++ others, last)
    else .error .malformed
termination_by cursor.ahead

/-- A quoted scalar, from its opening quote. -/
def scan (double : Bool) (cursor : Cursor) : Except Fault (String × Cursor) :=
  (body double cursor.next).map fun (text, last) => (String.ofList text, last)

end Quoted

end Yaml

end SqlPipeline
