import SqlPipeline.Text.Keyword
import SqlPipeline.Text.Search

/-!
# Clauses of a statement

Clauses are located by their keywords alone: there is no grammar behind them. The body of a clause
is the shortest non-empty text up to a terminator, or up to the end; keywords inside literals and
sub-queries count like any others. When several runs of blanks could follow a keyword, the longest
that leaves a body is taken.
-/

namespace SqlPipeline

namespace Clause

open Text

/-- Whether a text is at its end, or before a single final line break. -/
def atEnd (text : List Char) : Bool :=
  text.isEmpty || text == ['\n']

/-- What follows two keywords with blanks between them. -/
def keywords? (first second text : List Char) : Option (List Char) := do
  let afterFirst ← keyword? first text
  let afterBlanks ← skipBlanks? afterFirst
  keyword? second afterBlanks

/-- Whether blanks and then two keywords stand in front of a text. -/
def startsWithPair (first second text : List Char) : Bool :=
  ((skipBlanks? text).bind (keywords? first second)).isSome

/-- Whether an ordering starts here. -/
def atOrderBy (text : List Char) : Bool :=
  startsWithPair "ORDER".toList "BY".toList text

/-- Whether a grouping starts here. -/
def atGroupBy (text : List Char) : Bool :=
  startsWithPair "GROUP".toList "BY".toList text

/-- Whether a condition on groups starts here. -/
def atHaving (text : List Char) : Bool :=
  ((skipBlanks? text).bind (keyword? "HAVING".toList)).isSome

/-- Where a filter clause ends. -/
def endsFilter (text : List Char) : Bool :=
  atGroupBy text || atOrderBy text || atHaving text || atEnd text

/-- Where a grouping ends. -/
def endsGrouping (text : List Char) : Bool :=
  atOrderBy text || atHaving text || atEnd text

/-- Where a select list ends: at blanks followed by the word `FROM`. -/
def endsSelectList (text : List Char) : Bool :=
  (((skipBlanks? text).bind (keyword? "FROM".toList)).map atWordEnd).getD false

/-- The shortest non-empty beginning of a text after which a terminator holds. -/
def shortestBody? (terminates : List Char → Bool) : List Char → Option (List Char)
  | [] => none
  | c :: rest =>
    if terminates rest then some [c] else (shortestBody? terminates rest).map (c :: ·)

/-- The body that follows blanks, for the longest run of blanks that leaves one. -/
def bodyAfterBlanks? (terminates : List Char → Bool) (text : List Char) : Option (List Char) :=
  (afterBlanks text).findSome? (shortestBody? terminates)

/-- The body of the first filter clause. -/
def filter? (sql : List Char) : Option (List Char) :=
  (afterKeyword "WHERE".toList false sql).findSome? (bodyAfterBlanks? endsFilter)

/-- The body of the first grouping. -/
def grouping? (sql : List Char) : Option (List Char) :=
  (afterKeyword "GROUP".toList false sql).findSome? fun afterGroup =>
    ((skipBlanks? afterGroup).bind (keyword? "BY".toList)).bind (bodyAfterBlanks? endsGrouping)

/-- The first select list that has a `FROM` behind it. -/
def selectList? (sql : List Char) : Option (List Char) :=
  (afterKeyword "SELECT".toList false sql).findSome? (bodyAfterBlanks? endsSelectList)

/-- Whether a character can belong to the reference to a table. -/
def inReference (c : Char) : Bool :=
  !isBlank c && c != '(' && c != ')' && c != ';'

/-- The reference to a table that follows blanks. -/
def reference? (text : List Char) : Option (List Char) :=
  match skipBlanks? text with
  | some rest =>
    match rest.takeWhile inReference with
    | [] => none
    | reference => some reference
  | none => none

/-- The reference to a table after the first `FROM` that has one. -/
def table? (sql : List Char) : Option (List Char) :=
  (afterKeyword "FROM".toList false sql).findSome? reference?

/-- The body of a clause without blanks and semicolons at its ends. -/
def trimBody (body : List Char) : List Char :=
  trim (dropWhileEnd (· == ';') (trim body))

end Clause

end SqlPipeline
