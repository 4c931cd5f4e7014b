import SqlPipeline.Text.Search

/-!
# Placeholders

A text may name variables of the environment: a dollar sign and a name between braces, with an
optional `env:` before the name. Every placeholder is replaced by the value of its variable in one
pass from left to right; a value is put in as it is, even if it looks like a placeholder. A
placeholder for a variable that is not set is an error.
-/

namespace SqlPipeline

namespace Placeholder

/-- Characters of the names of variables. -/
def isNameChar (c : Char) : Bool :=
  c.isAlphanum || c == '_'

/-- The name before a closing brace, and what follows the brace. -/
def name? (text : List Char) : Option (List Char × List Char) :=
  match text.takeWhile isNameChar, text.dropWhile isNameChar with
  | first :: others, '\x7d' :: rest => some (first :: others, rest)
  | _, _ => none

/-- The name in the placeholder here, and what follows the placeholder. -/
def here? (text : List Char) : Option (List Char × List Char) :=
  match text with
  | '$' :: '\x7b' :: inside =>
    match "env:".toList.isPrefixOf? inside with
    | some afterMark => name? afterMark
    | none => name? inside
  | _ => none

theorem length_le_of_name? {text name after : List Char} (found : name? text = some (name, after)) :
    after.length ≤ text.length := by
  have behind := (List.dropWhile_suffix (l := text) isNameChar).length_le
  simp only [name?] at found
  split at found
  · next rest _ closed =>
    obtain ⟨-, rfl⟩ := Prod.mk.inj (Option.some.inj found)
    rw [closed, List.length_cons] at behind
    omega
  · cases found

theorem length_lt_of_here? {text name after : List Char} (found : here? text = some (name, after)) :
    after.length < text.length := by
  simp only [here?] at found
  split at found
  · split at found
    · next marked =>
      have parts := congrArg List.length (Text.append_of_isPrefixOf? marked)
      have := length_le_of_name? found
      simp only [List.length_append, List.length_cons] at parts ⊢
      omega
    · have := length_le_of_name? found
      simp only [List.length_cons]
      omega
  · cases found

/-- A variable that is not set. -/
structure Unset where
  name : String
  deriving DecidableEq, Repr

/-- The text with every placeholder replaced. -/
def substitute (valueOf : String → Option String) (text : List Char) : Except Unset (List Char) :=
  match text with
  | [] => .ok []
  | c :: rest =>
    match _found : here? (c :: rest) with
    | none => (substitute valueOf rest).map (c :: ·)
    | some (name, after) =>
      match valueOf (String.ofList name) with
      | none => .error ⟨String.ofList name⟩
      | some value => (substitute valueOf after).map (value.toList ++ ·)
termination_by text.length
decreasing_by
  · exact Nat.lt_succ_self rest.length
  · exact length_lt_of_here? _found

end Placeholder

end SqlPipeline
