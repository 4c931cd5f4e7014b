import SqlPipeline.Yaml.Cursor
import SqlPipeline.Yaml.Fault

/-!
# Block scalars

A literal scalar keeps its lines; a folded scalar joins lines that begin with a word. The
indentation of the first line that is not empty, or a digit in the header, says where lines begin.
The header also says what happens to the breaks at the end: one is kept, all are kept, or none.
-/

namespace SqlPipeline

namespace Yaml

namespace Block

/-- What happens to the breaks at the end of a block scalar. -/
inductive Chomping where
  | clip
  | keep
  | strip
  deriving DecidableEq, Repr

/-- The header of a block scalar: chomping and an explicit indentation. -/
structure Header where
  chomping : Chomping := .clip
  indentation : Option Nat := none

/-- The chomping that a sign asks for. -/
def chomping? : Option Char → Option Chomping
  | some '+' => some .keep
  | some '-' => some .strip
  | _ => none

/-- The indentation that a digit asks for; zero is not allowed. -/
def indentation? : Option Char → Option (Except Fault Nat)
  | some c =>
    if c == '0' then some (.error .malformed)
    else if c.isDigit then some (.ok (c.toNat - 48))
    else none
  | none => none

/-- The sign and the digit of a header, in either order, and the place after them. -/
def signAndDigit (cursor : Cursor) : Except Fault (Header × Cursor) :=
  match chomping? cursor.here, indentation? cursor.here with
  | some chomping, _ =>
    match indentation? cursor.next.here with
    | some digit => digit.map fun digit => (⟨chomping, some digit⟩, cursor.skip 2)
    | none => .ok (⟨chomping, none⟩, cursor.next)
  | none, some digit =>
    digit.map fun digit =>
      match chomping? cursor.next.here with
      | some chomping => (⟨chomping, some digit⟩, cursor.skip 2)
      | none => (⟨.clip, some digit⟩, cursor.next)
  | none, none => .ok (⟨.clip, none⟩, cursor)

/-- The rest of a line that may hold a comment and nothing else, and the place after its break. -/
def ignoredLine (cursor : Cursor) : Except Fault Cursor :=
  let afterSpaces := cursor.skipWhile (· == ' ')
  let afterComment :=
    if afterSpaces.here == some '#' then afterSpaces.skipWhile (!isBreak ·) else afterSpaces
  if endsLine afterComment.here then .ok afterComment.lineBreak.2 else .error .malformed

/-- The header and the place at the beginning of the next line. -/
def header (cursor : Cursor) : Except Fault (Header × Cursor) := do
  let (header, afterHeader) ← signAndDigit cursor
  if endsField afterHeader.here then
    let next ← ignoredLine afterHeader
    .ok (header, next)
  else .error .malformed

/-- The breaks before the first line that is not empty, its column or a larger column seen before,
and the place of its first character. -/
def leading (widest : Nat) (cursor : Cursor) : List Char × Nat × Cursor :=
  let afterSpaces := cursor.skipWhile (· == ' ')
  let wider := if afterSpaces.ahead < cursor.ahead then max widest afterSpaces.column
    else widest
  let (lineBreak, next) := afterSpaces.lineBreak
  if next.ahead < cursor.ahead ∧ lineBreak ≠ [] then
    let (breaks, column, last) := leading wider next
    (lineBreak ++ breaks, column, last)
  else ([], wider, afterSpaces)
termination_by cursor.ahead
decreasing_by omega

/-- The place after the indentation of a line, as far as there is any. -/
def indent (indentation : Nat) (cursor : Cursor) : Cursor :=
  let spaces := (cursor.rest.takeWhile (· == ' ')).length
  cursor.skip (min spaces (indentation - cursor.column))

/-- The breaks of empty lines, and the place after the indentation of the line that follows. -/
def emptyLines (indentation : Nat) (cursor : Cursor) : List Char × Cursor :=
  let start := indent indentation cursor
  let (lineBreak, next) := start.lineBreak
  if next.ahead < cursor.ahead ∧ lineBreak ≠ [] then
    let (breaks, last) := emptyLines indentation next
    (lineBreak ++ breaks, last)
  else ([], start)
termination_by cursor.ahead
decreasing_by omega

/-- Whether a line of the scalar begins here. -/
def atLine (indentation : Nat) (cursor : Cursor) : Bool :=
  cursor.column == indentation && cursor.here.isSome

/-- The text of the lines of a block scalar without its last break, that break, the breaks of the
empty lines after it, and the place after them. `breaks` are the empty lines before the place
given. -/
def lines (folded : Bool) (indentation : Nat) (breaks : List Char) (cursor : Cursor) :
    List Char × List Char × List Char × Cursor :=
  if atLine indentation cursor then
    let (text, afterText) := cursor.takeWhile (!isBreak ·)
    let (lineBreak, afterBreak) := afterText.lineBreak
    let (empty, next) := emptyLines indentation afterBreak
    if atLine indentation next ∧ next.ahead < cursor.ahead then
      let joins := folded && lineBreak == ['\n'] && !cursor.here.any isGap && !next.here.any isGap
      let glue := if joins then (if empty.isEmpty then [' '] else []) else lineBreak
      let (others, lastBreak, trailing, last) := lines folded indentation empty next
      (breaks ++ text ++ glue ++ others, lastBreak, trailing, last)
    else (breaks ++ text, lineBreak, empty, next)
  else ([], [], breaks, cursor)
termination_by cursor.ahead
decreasing_by omega

/-- A block scalar, from its indicator; `parent` is the indentation of what holds it. -/
def scan (folded : Bool) (parent : Int) (cursor : Cursor) : Except Fault (String × Cursor) := do
  let (header, start) ← header cursor.next
  let least := (max (parent + 1) 1).toNat
  let (breaks, indentation, first) :=
    match header.indentation with
    | some digit =>
      let column := least + digit - 1
      let (breaks, first) := emptyLines column start
      (breaks, column, first)
    | none =>
      let (breaks, widest, first) := leading 0 start
      (breaks, max least widest, first)
  let (text, lastBreak, trailing, last) := lines folded indentation breaks first
  let ending :=
    match header.chomping with
    | .clip => lastBreak
    | .keep => lastBreak ++ trailing
    | .strip => []
  .ok (String.ofList (text ++ ending), last)

end Block

end Yaml

end SqlPipeline
