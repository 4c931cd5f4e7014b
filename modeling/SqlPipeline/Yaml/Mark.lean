import SqlPipeline.Text.Encoding
import SqlPipeline.Yaml.Block
import SqlPipeline.Yaml.Quoted
import SqlPipeline.Yaml.Token

/-!
# Names, tags and directives

The short marks of a document text: names of anchors and aliases, tags with an optional handle, and
the directives before a document. Escapes in tags spell text byte by byte.
-/

namespace SqlPipeline

namespace Yaml

namespace Mark

/-- Characters of names: ASCII letters, digits, hyphen and underscore. -/
def isNameChar (c : Char) : Bool :=
  c.isAlphanum || c == '-' || c == '_'

/-- Characters of the ending of a tag, other than escapes. -/
def isTagChar (c : Char) : Bool :=
  c.isAlphanum || "-;/?:@&=+$,_.!~*'()[]".toList.contains c

/-- Whether the name of an anchor or alias may end here. -/
def endsName (next : Option Char) : Bool :=
  endsWord next || next.any fun c => "?:,]\x7d%@\x60".toList.contains c

/-- The name of an anchor or an alias, from its indicator. -/
def name (cursor : Cursor) : Except Fault (String × Cursor) :=
  let (letters, last) := cursor.next.takeWhile isNameChar
  if letters.isEmpty || !endsName last.here then .error .malformed
  else .ok (String.ofList letters, last)

/-- The handle of a tag: an exclamation mark, or a name between two. -/
def handle (cursor : Cursor) : Except Fault (String × Cursor) :=
  if cursor.here != some '!' then .error .malformed
  else if cursor.peek 1 == some ' ' then .ok ("!", cursor.next)
  else
    let (letters, last) := cursor.next.takeWhile isNameChar
    if last.here == some '!' then .ok (String.ofList ('!' :: letters ++ ['!']), last.next)
    else .error .malformed

/-- The bytes that a run of escapes spells, and the place after it. -/
def escapedBytes (cursor : Cursor) : Except Fault (List UInt8 × Cursor) := do
  if cursor.here == some '%' then
    let (code, next) ← Quoted.escapeCode 2 cursor.next
    if next.ahead < cursor.ahead then
      let (others, last) ← escapedBytes next
      .ok (UInt8.ofNat code :: others, last)
    else .error .malformed
  else .ok ([], cursor)
termination_by cursor.ahead

/-- The text that a run of escapes spells, and the place after it. -/
def escapedText (cursor : Cursor) : Except Fault (List Char × Cursor) := do
  let (bytes, last) ← escapedBytes cursor
  match Text.decode bytes with
  | .ok text => .ok (text.toList, last)
  | .error _ => .error .malformed

/-- A character of the ending of a tag, or what a run of escapes in it spells. -/
def tagPiece? (cursor : Cursor) : Option (Except Fault (List Char × Cursor)) :=
  match cursor.here with
  | some '%' => some (escapedText cursor)
  | some c => if isTagChar c then some (.ok ([c], cursor.next)) else none
  | none => none

/-- The ending of a tag. -/
def tagEnding (cursor : Cursor) : Except Fault (List Char × Cursor) := do
  match tagPiece? cursor with
  | none => .ok ([], cursor)
  | some step =>
    let (piece, next) ← step
    if next.ahead < cursor.ahead then
      let (others, last) ← tagEnding next
      .ok (piece ++ others, last)
    else .error .malformed
termination_by cursor.ahead

/-- The ending of a tag, which must not be empty. -/
def someTagEnding (cursor : Cursor) : Except Fault (String × Cursor) := do
  let (letters, last) ← tagEnding cursor
  if letters.isEmpty then .error .malformed else .ok (String.ofList letters, last)

/-- Whether a second exclamation mark follows before the next space or break. -/
def hasNamedHandle (cursor : Cursor) : Bool :=
  let word := cursor.next.rest.takeWhile fun c => c != ' ' && !isBreak c
  word.contains '!'

/-- Handle and ending of a tag, from its exclamation mark. -/
def tag (cursor : Cursor) : Except Fault (Option String × String × Cursor) := do
  let (handle, ending, last) ←
    if cursor.peek 1 == some '<' then do
      let (ending, afterEnding) ← someTagEnding (cursor.skip 2)
      if afterEnding.here == some '>' then .ok (none, ending, afterEnding.next)
      else .error Fault.malformed
    else if endsWord (cursor.peek 1) then .ok (none, "!", cursor.next)
    else do
      let (handle, afterHandle) ←
        if hasNamedHandle cursor then handle cursor else .ok ("!", cursor.next)
      let (ending, last) ← someTagEnding afterHandle
      .ok (some handle, ending, last)
  if endsField last.here then .ok (handle, ending, last) else .error .malformed

/-- A whole number without sign. -/
def number (cursor : Cursor) : Except Fault (Nat × Cursor) :=
  let (digits, last) := cursor.takeWhile Char.isDigit
  if digits.isEmpty then .error .malformed
  else if maxWholeDigits < digits.length then .error (.tooManyDigits digits.length)
  else .ok (digits.foldl (fun number digit => number * 10 + (digit.toNat - 48)) 0, last)

/-- The version after its directive. -/
def version (cursor : Cursor) : Except Fault (Directive × Cursor) := do
  let (major, afterMajor) ← number (cursor.skipWhile (· == ' '))
  if afterMajor.here == some '.' then
    let (_, last) ← number afterMajor.next
    if endsField last.here then .ok (.version major, last) else .error .malformed
  else .error .malformed

/-- The handle and the beginning of tags after their directive. -/
def tagHandle (cursor : Cursor) : Except Fault (Directive × Cursor) := do
  let (handle, afterHandle) ← handle (cursor.skipWhile (· == ' '))
  if afterHandle.here == some ' ' then
    let (beginning, last) ← someTagEnding (afterHandle.skipWhile (· == ' '))
    if endsField last.here then .ok (.tagHandle handle beginning, last) else .error .malformed
  else .error .malformed

/-- A directive with the rest of its line, from its percent sign. -/
def directive (cursor : Cursor) : Except Fault (Directive × Cursor) := do
  let (letters, afterName) := cursor.next.takeWhile isNameChar
  if letters.isEmpty || !endsField afterName.here then .error .malformed
  else
    let (directive, last) ←
      if letters == "YAML".toList then version afterName
      else if letters == "TAG".toList then tagHandle afterName
      else .ok (.other, afterName.skipWhile (!isBreak ·))
    let next ← Block.ignoredLine last
    .ok (directive, next)

end Mark

end Yaml

end SqlPipeline
