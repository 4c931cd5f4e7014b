import SqlPipeline.Text.Blank

/-!
# Finding and replacing texts

Cutting a text at a character or at the first occurrence of another text, and replacing the first or
all occurrences, from left to right and without overlap.
-/

namespace SqlPipeline.Text

/-- What `isPrefixOf?` finds behind a beginning is the rest of the text. -/
theorem append_of_isPrefixOf? {sought text after : List Char}
    (found : sought.isPrefixOf? text = some after) : sought ++ after = text := by
  induction sought generalizing text with
  | nil =>
    obtain rfl : text = after := Option.some.inj found
    rfl
  | cons c others ih =>
    cases text with
    | nil => cases found
    | cons d rest =>
      change (if c == d then others.isPrefixOf? rest else none) = some after at found
      split at found
      · next same =>
        obtain rfl := eq_of_beq same
        rw [List.cons_append, ih found]
      · cases found

/-- What precedes and what follows the first occurrence of `sought`. -/
def cut? (sought : List Char) : List Char → Option (List Char × List Char)
  | [] => if sought.isEmpty then some ([], []) else none
  | c :: rest =>
    match sought.isPrefixOf? (c :: rest) with
    | some after => some ([], after)
    | none => (cut? sought rest).map fun (before, after) => (c :: before, after)

/-- Whether `sought` occurs in a text. -/
def contains (sought text : List Char) : Bool :=
  (cut? sought text).isSome

/-- The text with the first occurrence of `old` replaced. -/
def replaceFirst (old new text : List Char) : List Char :=
  match cut? old text with
  | some (before, after) => before ++ new ++ after
  | none => text

/-- The text with all occurrences of `first :: others` replaced, from left to right and without
overlap. -/
def replaceEach (first : Char) (others new text : List Char) : List Char :=
  match text with
  | [] => []
  | c :: rest =>
    match _found : (first :: others).isPrefixOf? (c :: rest) with
    | some after => new ++ replaceEach first others new after
    | none => c :: replaceEach first others new rest
termination_by text.length
decreasing_by
  · have parts := congrArg List.length (append_of_isPrefixOf? _found)
    simp only [List.length_append, List.length_cons] at parts ⊢
    omega
  · exact Nat.lt_succ_self rest.length

/-- The text with all occurrences of `old` replaced; an empty `old` occurs nowhere. -/
def replaceAll (old new text : List Char) : List Char :=
  match old with
  | [] => text
  | first :: others => replaceEach first others new text

/-- The text without one character. -/
def without (unwanted : Char) (text : List Char) : List Char :=
  text.filter (· != unwanted)

/-- The pieces between the occurrences of a character; one more than it occurs. -/
def splitOn (separator : Char) : List Char → List (List Char)
  | [] => [[]]
  | c :: rest =>
    if c == separator then [] :: splitOn separator rest
    else match splitOn separator rest with
      | [] => [[c]]
      | piece :: pieces => (c :: piece) :: pieces

end SqlPipeline.Text
