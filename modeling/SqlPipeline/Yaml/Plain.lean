import SqlPipeline.Yaml.Cursor

/-!
# Plain scalars

A plain scalar has no quotes. It ends before a colon that ends a word, before a comment, at an
indicator inside brackets or braces, and at a line that is not indented enough. Breaks inside it are
folded like those between quotes.
-/

namespace SqlPipeline

namespace Yaml

namespace Plain

/-- The characters that end a plain scalar inside brackets or braces. -/
def isFlowIndicator (c : Char) : Bool :=
  c == ',' || c == '?' || c == '[' || c == ']' || c == '\x7b' || c == '\x7d'

/-- The characters after a colon that make it an indicator inside brackets or braces. -/
def endsFlowKey (c : Char) : Bool :=
  c == ',' || c == '[' || c == ']' || c == '\x7b' || c == '\x7d'

/-- The run of characters of a plain scalar up to the next blank, break or indicator. -/
def run (inFlow : Bool) : List Char → List Char
  | [] => []
  | c :: rest =>
    if isGap c || isBreak c then []
    else if c == ':' && (endsWord rest.head? || (inFlow && rest.head?.any endsFlowKey)) then []
    else if inFlow && isFlowIndicator c then []
    else c :: run inFlow rest

/-- Breaks after the first one, over indented lines, up to a document marker. Nothing is returned as
text when a marker is met. -/
def furtherBreaks (cursor : Cursor) : Option (List Char) × Cursor :=
  let afterSpaces := cursor.skipWhile (· == ' ')
  let (lineBreak, next) := afterSpaces.lineBreak
  if next.ahead < cursor.ahead ∧ lineBreak ≠ [] then
    if next.atDocumentMarker then (none, next)
    else
      let (breaks, last) := furtherBreaks next
      (breaks.map (lineBreak ++ ·), last)
  else (some [], afterSpaces)
termination_by cursor.ahead
decreasing_by omega

/-- What the spaces and breaks after a run read as, the place after them, and whether a break was
among them. Empty text means that the scalar ends here. -/
def gap (cursor : Cursor) : List Char × Cursor × Bool :=
  let (spaces, afterSpaces) := cursor.takeWhile (· == ' ')
  let (lineBreak, next) := afterSpaces.lineBreak
  if lineBreak.isEmpty then (spaces, afterSpaces, false)
  else if next.atDocumentMarker then ([], next, true)
  else
    match furtherBreaks next with
    | (none, last) => ([], last, true)
    | (some breaks, last) =>
      if lineBreak != ['\n'] then (lineBreak ++ breaks, last, true)
      else if breaks.isEmpty then ([' '], last, true)
      else (breaks, last, true)

/-- The text of a plain scalar, the place after it and its trailing spaces, and whether a break was
passed since its last character. The indentation given is the least column of its further lines. -/
def body (inFlow : Bool) (indentation : Int) (cursor : Cursor) : List Char × Cursor × Bool :=
  let text := if cursor.here == some '#' then [] else run inFlow cursor.rest
  let (space, next, broken) := gap (cursor.skip text.length)
  if text.isEmpty then ([], cursor, false)
  else if space.isEmpty || next.here == some '#' || (!inFlow && next.column < indentation) then
    (text, next, broken)
  else if next.ahead < cursor.ahead then
    let (others, last, brokenLater) := body inFlow indentation next
    if others.isEmpty then (text, last, broken) else (text ++ space ++ others, last, brokenLater)
  else (text, next, broken)
termination_by cursor.ahead

end Plain

end Yaml

end SqlPipeline
