import SqlPipeline.Yaml.Mark
import SqlPipeline.Yaml.Plain

/-!
# From text to tokens

The lexer goes through a text token by token. Outside brackets and braces indentation opens and
closes blocks. Where a key may stand, the place of the next token is kept as a *candidate*: when a
colon follows on the same line, a `key` token is put in at that place, and a mapping is opened there
if its indentation is new. Each nesting of brackets and braces has at most one candidate.

A fault ends the reading. It is no concern of those who need only the tokens before it, and of
these a token behind a candidate is not handed on.
-/

namespace SqlPipeline

namespace Yaml

/-- What is read of a text: tokens, and the fault met by whoever asks for more of them. -/
structure Reading where
  tokens : List Token
  fault : Fault
  deriving DecidableEq, Repr

/-- A place where a key may have begun. -/
structure Candidate where
  /-- The number of tokens before the place. -/
  position : Nat
  /-- Whether a key has to be here, because the place is at the indentation of a mapping. -/
  required : Bool
  index : Nat
  line : Nat
  column : Nat

/-- The state of the lexer. -/
structure Lexer where
  cursor : Cursor
  /-- The tokens so far, the last one first. -/
  emitted : List Token := []
  /-- The number of tokens so far. -/
  count : Nat := 0
  indentation : Int := -1
  enclosing : List Int := []
  /-- The candidates of the open brackets and braces, innermost first, below that of the block. -/
  candidates : List (Option Candidate) := [none]
  mayBeKey : Bool := true

namespace Lexer

/-- Whether the lexer is inside brackets or braces. -/
def inFlow (lexer : Lexer) : Bool := 1 < lexer.candidates.length

/-- The candidate at the present nesting. -/
def candidate? (lexer : Lexer) : Option Candidate := lexer.candidates.head?.join

/-- Changes the candidate at the present nesting. -/
def setCandidate (candidate : Option Candidate) (lexer : Lexer) : Lexer :=
  { lexer with candidates := candidate :: lexer.candidates.tail }

/-- Adds a token at the end. -/
def emit (token : Token) (lexer : Lexer) : Lexer :=
  { lexer with emitted := token :: lexer.emitted, count := lexer.count + 1 }

/-- Puts a token in at a place. -/
def insert (position : Nat) (token : Token) (lexer : Lexer) : Lexer :=
  let behind := lexer.count - position
  { lexer with
    emitted := lexer.emitted.take behind ++ token :: lexer.emitted.drop behind
    count := lexer.count + 1 }

/-- Moves to another place. -/
def moveTo (cursor : Cursor) (lexer : Lexer) : Lexer := { lexer with cursor := cursor }

/-- Says whether a key may begin at the next token. -/
def allowKey (allowed : Bool) (lexer : Lexer) : Lexer := { lexer with mayBeKey := allowed }

/-- Forgets the candidate, which must not have been required. -/
def dropCandidate (lexer : Lexer) : Except Fault Lexer :=
  match lexer.candidate? with
  | some candidate =>
    if candidate.required then .error .malformed else .ok (lexer.setCandidate none)
  | none => .ok lexer

/-- Keeps the present place as a candidate, if a key may begin here. -/
def keepCandidate (lexer : Lexer) : Except Fault Lexer :=
  if lexer.mayBeKey then do
    let lexer ← lexer.dropCandidate
    let cursor := lexer.cursor
    let required := !lexer.inFlow && lexer.indentation == cursor.column
    return lexer.setCandidate
      (some ⟨lexer.count, required, cursor.index, cursor.line, cursor.column⟩)
  else .ok lexer

/-- Whether a candidate is out of reach: on an earlier line or too far back. -/
def isStale (cursor : Cursor) (candidate : Candidate) : Bool :=
  candidate.line != cursor.line || 1024 < cursor.index - candidate.index

/-- Forgets the candidates out of reach, none of which may have been required. -/
def dropStale (lexer : Lexer) : Except Fault Lexer :=
  let stale (candidate : Option Candidate) : Bool := candidate.any (isStale lexer.cursor)
  if lexer.candidates.any fun candidate => stale candidate && candidate.any (·.required) then
    .error .malformed
  else
    .ok { lexer with
      candidates := lexer.candidates.map fun candidate =>
        if stale candidate then none else candidate }

/-- The enclosing indentations that remain when all deeper than a column are closed, and how many
are closed. -/
def unwound (column : Int) (indentation : Int) : List Int → Int × List Int × Nat
  | [] => (indentation, [], 0)
  | outer :: enclosing =>
    if column < indentation then
      let (reached, remaining, closed) := unwound column outer enclosing
      (reached, remaining, closed + 1)
    else (indentation, outer :: enclosing, 0)

/-- Closes the blocks that are indented deeper than a column. -/
def unwind (column : Int) (lexer : Lexer) : Lexer :=
  if lexer.inFlow then lexer
  else
    let (indentation, enclosing, closed) := unwound column lexer.indentation lexer.enclosing
    { lexer with
      indentation := indentation
      enclosing := enclosing
      emitted := List.replicate closed .blockEnd ++ lexer.emitted
      count := lexer.count + closed }

/-- Whether a block at a column would be a new, deeper one. -/
def isDeeper (column : Nat) (lexer : Lexer) : Bool := lexer.indentation < column

/-- Enters a deeper block. -/
def enter (column : Nat) (lexer : Lexer) : Lexer :=
  { lexer with indentation := column, enclosing := lexer.indentation :: lexer.enclosing }

/-- Opens a block at the present column with a token, if it is a deeper one. -/
def openBlock (token : Token) (lexer : Lexer) : Lexer :=
  let column := lexer.cursor.column
  if lexer.isDeeper column then (lexer.enter column).emit token else lexer

/-- The place of the next token, and whether a line was ended on the way. -/
def nextPlace (cursor : Cursor) : Cursor × Bool :=
  let afterMark := if cursor.index == 0 && cursor.here == some '\uFEFF' then cursor.next else cursor
  let afterSpaces := afterMark.skipWhile (· == ' ')
  let afterComment :=
    if afterSpaces.here == some '#' then afterSpaces.skipWhile (!isBreak ·) else afterSpaces
  let (lineBreak, next) := afterComment.lineBreak
  if next.ahead < cursor.ahead ∧ lineBreak ≠ [] then ((nextPlace next).1, true)
  else (afterComment, false)
termination_by cursor.ahead
decreasing_by omega

/-- Moves to the next token. A new line outside brackets and braces may begin with a key. -/
def skipToToken (lexer : Lexer) : Lexer :=
  let (place, newLine) := nextPlace lexer.cursor
  let lexer := lexer.moveTo place
  if newLine && !lexer.inFlow then lexer.allowKey true else lexer

/-- The end of the text. -/
def lexEnd (lexer : Lexer) : Except Fault Lexer := do
  let lexer ← (lexer.unwind (-1)).dropCandidate
  return lexer.emit .streamEnd

/-- A directive. -/
def lexDirective (lexer : Lexer) : Except Fault Lexer := do
  let lexer ← (lexer.unwind (-1)).dropCandidate
  let (directive, next) ← Mark.directive lexer.cursor
  return ((lexer.allowKey false).emit (.directive directive)).moveTo next

/-- A document marker. -/
def lexMarker (token : Token) (lexer : Lexer) : Except Fault Lexer := do
  let lexer ← (lexer.unwind (-1)).dropCandidate
  return ((lexer.allowKey false).emit token).moveTo (lexer.cursor.skip 3)

/-- An opening bracket or brace. -/
def lexOpening (token : Token) (lexer : Lexer) : Except Fault Lexer := do
  let lexer ← lexer.keepCandidate
  let lexer := { lexer with candidates := none :: lexer.candidates }
  return ((lexer.allowKey true).emit token).moveTo lexer.cursor.next

/-- A closing bracket or brace. -/
def lexClosing (token : Token) (lexer : Lexer) : Except Fault Lexer := do
  if !lexer.inFlow then .error .malformed
  else
    let lexer ← lexer.dropCandidate
    let lexer := { lexer with candidates := lexer.candidates.tail }
    return ((lexer.allowKey false).emit token).moveTo lexer.cursor.next

/-- A comma between items. -/
def lexComma (lexer : Lexer) : Except Fault Lexer := do
  let lexer ← (lexer.allowKey true).dropCandidate
  return (lexer.emit .flowEntry).moveTo lexer.cursor.next

/-- The hyphen of an item in a block. -/
def lexItem (lexer : Lexer) : Except Fault Lexer := do
  if !lexer.inFlow && !lexer.mayBeKey then .error .malformed
  else
    let lexer := if lexer.inFlow then lexer else lexer.openBlock .blockSequenceStart
    let lexer ← (lexer.allowKey true).dropCandidate
    return (lexer.emit .blockEntry).moveTo lexer.cursor.next

/-- The question mark of an explicit key. -/
def lexKey (lexer : Lexer) : Except Fault Lexer := do
  if !lexer.inFlow && !lexer.mayBeKey then .error .malformed
  else
    let lexer := if lexer.inFlow then lexer else lexer.openBlock .blockMappingStart
    let lexer ← (lexer.allowKey (!lexer.inFlow)).dropCandidate
    return (lexer.emit .key).moveTo lexer.cursor.next

/-- The colon after a key that was a candidate. -/
def lexValueAfter (candidate : Candidate) (lexer : Lexer) : Lexer :=
  let lexer := (lexer.setCandidate none).insert candidate.position .key
  let lexer :=
    if !lexer.inFlow && lexer.isDeeper candidate.column then
      (lexer.enter candidate.column).insert candidate.position .blockMappingStart
    else lexer
  ((lexer.allowKey false).emit .value).moveTo lexer.cursor.next

/-- A colon. -/
def lexValue (lexer : Lexer) : Except Fault Lexer := do
  match lexer.candidate? with
  | some candidate => return lexer.lexValueAfter candidate
  | none =>
    if !lexer.inFlow && !lexer.mayBeKey then .error .malformed
    else
      let lexer := if lexer.inFlow then lexer else lexer.openBlock .blockMappingStart
      let lexer ← (lexer.allowKey (!lexer.inFlow)).dropCandidate
      return (lexer.emit .value).moveTo lexer.cursor.next

/-- An anchor or an alias. -/
def lexName (token : String → Token) (lexer : Lexer) : Except Fault Lexer := do
  let lexer ← lexer.keepCandidate
  let (name, next) ← Mark.name lexer.cursor
  return ((lexer.allowKey false).emit (token name)).moveTo next

/-- A tag. -/
def lexTag (lexer : Lexer) : Except Fault Lexer := do
  let lexer ← lexer.keepCandidate
  let (handle, ending, next) ← Mark.tag lexer.cursor
  return ((lexer.allowKey false).emit (.tag handle ending)).moveTo next

/-- A block scalar. -/
def lexBlock (folded : Bool) (lexer : Lexer) : Except Fault Lexer := do
  let lexer ← (lexer.allowKey true).dropCandidate
  let (text, next) ← Block.scan folded lexer.indentation lexer.cursor
  return (lexer.emit (.scalar text false)).moveTo next

/-- A quoted scalar. -/
def lexQuoted (double : Bool) (lexer : Lexer) : Except Fault Lexer := do
  let lexer ← lexer.keepCandidate
  let (text, next) ← Quoted.scan double lexer.cursor
  return ((lexer.allowKey false).emit (.scalar text false)).moveTo next

/-- A plain scalar. After one that ended with a new line a key may begin. -/
def lexPlain (lexer : Lexer) : Except Fault Lexer := do
  let lexer ← lexer.keepCandidate
  let (text, next, broken) := Plain.body lexer.inFlow (lexer.indentation + 1) lexer.cursor
  return ((lexer.allowKey broken).emit (.scalar (String.ofList text) true)).moveTo next

/-- Whether a plain scalar may begin with the character here. -/
def beginsPlain (lexer : Lexer) (c : Char) : Bool :=
  let indicators := "-?:,[]\x7b\x7d#&*!|>'\"%@\x60".toList
  let follows := !endsWord (lexer.cursor.peek 1)
  (!isGap c && !isBreak c && !indicators.contains c) ||
    (follows && (c == '-' || (!lexer.inFlow && (c == '?' || c == ':'))))

/-- The token that begins with a character that is here. -/
def lexHere (lexer : Lexer) (c : Char) : Except Fault Lexer :=
  let cursor := lexer.cursor
  let wordEnds := endsWord (cursor.peek 1)
  if c == '%' && cursor.column == 0 then lexer.lexDirective
  else if cursor.column == 0 && cursor.atMarker '-' then lexer.lexMarker .documentStart
  else if cursor.column == 0 && cursor.atMarker '.' then lexer.lexMarker .documentEnd
  else if c == '[' then lexer.lexOpening .flowSequenceStart
  else if c == '\x7b' then lexer.lexOpening .flowMappingStart
  else if c == ']' then lexer.lexClosing .flowSequenceEnd
  else if c == '\x7d' then lexer.lexClosing .flowMappingEnd
  else if c == ',' then lexer.lexComma
  else if c == '-' && wordEnds then lexer.lexItem
  else if c == '?' && (lexer.inFlow || wordEnds) then lexer.lexKey
  else if c == ':' && (lexer.inFlow || wordEnds) then lexer.lexValue
  else if c == '*' then lexer.lexName .reference
  else if c == '&' then lexer.lexName .anchor
  else if c == '!' then lexer.lexTag
  else if c == '|' && !lexer.inFlow then lexer.lexBlock false
  else if c == '>' && !lexer.inFlow then lexer.lexBlock true
  else if c == '\'' then lexer.lexQuoted false
  else if c == '"' then lexer.lexQuoted true
  else if lexer.beginsPlain c then lexer.lexPlain
  else .error .malformed

/-- Reads one token, or finds the end of the text. -/
def step (lexer : Lexer) : Except Fault (Lexer × Bool) := do
  let settled ← lexer.skipToToken.dropStale
  let unwound := settled.unwind settled.cursor.column
  match unwound.cursor.here with
  | none => return (← unwound.lexEnd, true)
  | some c => return (← unwound.lexHere c, false)

/-- The tokens to which no key can be added any more: those before the first candidate within
reach. -/
def settledTokens (lexer : Lexer) : List Token :=
  let reachable (candidate : Option Candidate) : Option Nat :=
    (candidate.filter (!isStale lexer.cursor ·)).map (·.position)
  let settled := (lexer.candidates.filterMap reachable).foldl min lexer.count
  (lexer.emitted.drop (lexer.count - settled)).reverse

/-- Reads tokens up to the end of the text or to a fault. -/
def run (lexer : Lexer) : Reading :=
  match lexer.step with
  | .error fault => ⟨lexer.settledTokens, fault⟩
  | .ok (last, true) => ⟨last.emitted.reverse, .malformed⟩
  | .ok (next, false) =>
    if next.cursor.ahead < lexer.cursor.ahead then run next
    else ⟨lexer.settledTokens, .malformed⟩
termination_by lexer.cursor.ahead

end Lexer

/-- Whether a character may occur in a document text. -/
def isAllowed (c : Char) : Bool :=
  let code := c.toNat
  code == 9 || code == 10 || code == 13 || (32 ≤ code && code ≤ 126) || code == 0x85 ||
    (0xA0 ≤ code && code ≤ 0xFFFD) || 0x10000 ≤ code

/-- The tokens of a text. -/
def tokens (text : List Char) : Reading :=
  if text.all isAllowed then Lexer.run { cursor := .start text } else ⟨[], .malformed⟩

end Yaml

end SqlPipeline
