/-!
# Places in a document text

A cursor is what remains of a text together with the place where it begins: the number of characters
before it, the line and the column. Indentation and the reach of simple keys are stated in these
terms. The byte-order mark takes no column.

A cursor also knows how many characters are ahead of it. Whoever goes on reading from a cursor with
fewer characters ahead comes to an end.
-/

namespace SqlPipeline

namespace Yaml

/-- Line breaks. -/
def isBreak (c : Char) : Bool :=
  c == '\n' || c == '\r' || c == '\x85' || c == '\u2028' || c == '\u2029'

/-- Spaces and tabs. -/
def isGap (c : Char) : Bool :=
  c == ' ' || c == '\t'

/-- Whether a line ends here. -/
def endsLine (next : Option Char) : Bool :=
  next.all isBreak

/-- Whether a space, a line break or the end is here. -/
def endsField (next : Option Char) : Bool :=
  next.all fun c => c == ' ' || isBreak c

/-- Whether a space, a tab, a line break or the end is here. -/
def endsWord (next : Option Char) : Bool :=
  next.all fun c => isGap c || isBreak c

/-- What remains of a text, and where it begins. -/
structure Cursor where
  rest : List Char
  /-- The number of characters that remain. -/
  ahead : Nat
  index : Nat
  line : Nat
  column : Nat
  ahead_eq : ahead = rest.length

namespace Cursor

/-- The beginning of a text. -/
def start (text : List Char) : Cursor :=
  ⟨text, text.length, 0, 0, 0, rfl⟩

/-- The character at a distance. -/
def peek (cursor : Cursor) (distance : Nat) : Option Char := cursor.rest[distance]?

/-- The character here. -/
def here (cursor : Cursor) : Option Char := cursor.rest.head?

/-- Line and column after a character that another one follows. A carriage return before a line feed
is no break of its own. -/
def lineAndColumn (cursor : Cursor) (c : Char) (following : Option Char) : Nat × Nat :=
  if isBreak c && !(c == '\r' && following == some '\n') then (cursor.line + 1, 0)
  else if c == '\uFEFF' then (cursor.line, cursor.column)
  else (cursor.line, cursor.column + 1)

/-- The place after one character. -/
def next (cursor : Cursor) : Cursor :=
  match cursor with
  | ⟨[], _, _, _, _, _⟩ => cursor
  | ⟨c :: rest, ahead, index, _, _, ahead_eq⟩ =>
    let (line, column) := cursor.lineAndColumn c rest.head?
    ⟨rest, ahead - 1, index + 1, line, column, by simp [ahead_eq]⟩

/-- The place after several characters. -/
def skip : Nat → Cursor → Cursor
  | 0, cursor => cursor
  | count + 1, cursor => skip count cursor.next

/-- The longest run of characters that satisfy a test, and the place after it. -/
def takeWhile (test : Char → Bool) (cursor : Cursor) : List Char × Cursor :=
  let run := cursor.rest.takeWhile test
  (run, cursor.skip run.length)

/-- The place after the longest run of characters that satisfy a test. -/
def skipWhile (test : Char → Bool) (cursor : Cursor) : Cursor :=
  (cursor.takeWhile test).2

/-- The line break here, as text, and the place after it. Breaks other than the line and paragraph
separators are read as line feeds. Without a break here nothing is read. -/
def lineBreak (cursor : Cursor) : List Char × Cursor :=
  match cursor.rest with
  | '\r' :: '\n' :: _ => (['\n'], cursor.skip 2)
  | c :: _ =>
    if c == '\u2028' || c == '\u2029' then ([c], cursor.next)
    else if isBreak c then (['\n'], cursor.next)
    else ([], cursor)
  | [] => ([], cursor)

/-- Whether one of the two document markers stands here. -/
def atMarker (mark : Char) (cursor : Cursor) : Bool :=
  cursor.rest.take 3 == [mark, mark, mark] && endsWord (cursor.peek 3)

/-- Whether a document marker stands here. -/
def atDocumentMarker (cursor : Cursor) : Bool :=
  cursor.atMarker '-' || cursor.atMarker '.'

@[simp] theorem rest_next (cursor : Cursor) : cursor.next.rest = cursor.rest.tail := by
  obtain ⟨rest, _, _, _, _, _⟩ := cursor
  cases rest <;> rfl

@[simp] theorem rest_skip (count : Nat) (cursor : Cursor) :
    (cursor.skip count).rest = cursor.rest.drop count := by
  induction count generalizing cursor with
  | zero => simp [skip]
  | succ count ih => simp [skip, ih]

end Cursor

end Yaml

end SqlPipeline
