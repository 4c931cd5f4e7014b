/-!
# Blank characters

SQL fragments, settings and typed-in numbers are trimmed before they are read. This file fixes which
characters count as blank and how a text is trimmed on either side. All functions work on lists of
characters; a `String` is opened and closed at the border of the library.
-/

namespace SqlPipeline.Text

/-- The blank code points: the controls 9 to 13 and 28 to 31, the next-line control, and the spaces
and separators of the Unicode property `White_Space`. The zero-width space is not among them. -/
def isBlank (c : Char) : Bool :=
  let code := c.toNat
  (9 ≤ code && code ≤ 13) || (28 ≤ code && code ≤ 32) || code == 0x85 || code == 0xA0 ||
    code == 0x1680 || (0x2000 ≤ code && code ≤ 0x200A) || code == 0x2028 || code == 0x2029 ||
    code == 0x202F || code == 0x205F || code == 0x3000

/-- Drops the blanks in front. -/
def trimLeft (text : List Char) : List Char :=
  text.dropWhile isBlank

/-- Drops the trailing characters that satisfy a test. -/
def dropWhileEnd (test : Char → Bool) (text : List Char) : List Char :=
  (text.reverse.dropWhile test).reverse

/-- Drops the blanks on both sides. -/
def trim (text : List Char) : List Char :=
  dropWhileEnd isBlank (trimLeft text)

/-- The blanks that may surround a number: all but the separators among the controls. -/
def isSpacing (c : Char) : Bool :=
  isBlank c && !(28 ≤ c.toNat && c.toNat ≤ 31)

/-- Drops what may surround a number on both sides. -/
def trimSpacing (text : List Char) : List Char :=
  dropWhileEnd isSpacing (text.dropWhile isSpacing)

/-- What follows a run of at least one blank, or nothing when no blank stands in front. -/
def skipBlanks? : List Char → Option (List Char)
  | [] => none
  | c :: rest => if isBlank c then some (trimLeft rest) else none

/-- What may follow a run of one or more blanks, the longest run first. -/
def afterBlanks : List Char → List (List Char)
  | [] => []
  | c :: rest => if isBlank c then afterBlanks rest ++ [rest] else []

theorem length_trimLeft_le (text : List Char) : (trimLeft text).length ≤ text.length :=
  (List.dropWhile_suffix isBlank).length_le

theorem length_lt_of_skipBlanks? {text rest : List Char} (found : skipBlanks? text = some rest) :
    rest.length < text.length := by
  cases text with
  | nil => simp [skipBlanks?] at found
  | cons c others =>
    simp only [skipBlanks?] at found
    split at found
    · obtain rfl := Option.some.inj found
      exact Nat.lt_succ_of_le (length_trimLeft_le others)
    · cases found

end SqlPipeline.Text
