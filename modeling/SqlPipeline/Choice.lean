/-!
# Closed choices

Kinds of stages, joins, operators, functions and the like are finite types whose members have a
written form. The order of the options is the order in which a message lists them.
-/

namespace SqlPipeline

/-- A finite type whose members have a written form. -/
class Choice (α : Type) where
  /-- All members, in the order of messages. -/
  options : List α
  /-- The written form of a member. -/
  label : α → String

namespace Choice

variable {α : Type} [Choice α]

/-- The member with the given written form. -/
def ofLabel? (text : String) : Option α :=
  (options : List α).find? fun option => label option == text

/-- The written forms of all members. -/
def labels (α : Type) [Choice α] : List String :=
  (options : List α).map label

theorem label_of_ofLabel? {text : String} {member : α} (found : ofLabel? text = some member) :
    label member = text := by
  have test := List.find?_some found
  simpa using test

end Choice

end SqlPipeline
