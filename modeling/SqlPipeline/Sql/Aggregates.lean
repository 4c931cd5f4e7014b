import SqlPipeline.Pipeline.Stage
import SqlPipeline.Sql.Reading
import SqlPipeline.Validation.Payload

/-!
# Aggregate functions in a select list

A select list aggregates when the name of a function stands directly before a parenthesis. Calls are
collected from left to right: a name, parentheses around a text without closing parenthesis, and an
optional alias. Names are found in any letter case, but only their plain ASCII spellings name a
function.
-/

namespace SqlPipeline

namespace Aggregates

open Text

/-- The aggregate functions in the order in which they are tried. -/
def functions : List AggregateFunction := [.sum, .count, .avg, .min, .max]

/-- Whether the name of a function stands directly before a parenthesis. -/
def occurIn (selectList : List Char) : Bool :=
  let capitals := upper selectList
  functions.any fun function => contains (function.capitals.toList ++ ['(']) capitals

/-- A call as it is written. -/
structure Call where
  name : List Char
  column : List Char
  columnAlias : Option (List Char)
  deriving DecidableEq, Repr

/-- The alias in front of a text, and what follows it. -/
def columnAlias? (text : List Char) : Option (List Char × List Char) := do
  let afterBlanks ← skipBlanks? text
  let afterWord ← keyword? "AS".toList afterBlanks
  let named ← skipBlanks? afterWord
  match named.takeWhile isWord with
  | [] => none
  | columnAlias => some (columnAlias, named.dropWhile isWord)

theorem length_lt_of_columnAlias? {text columnAlias rest : List Char}
    (found : columnAlias? text = some (columnAlias, rest)) : rest.length < text.length := by
  simp only [columnAlias?, Option.bind_eq_bind, Option.bind_eq_some_iff] at found
  obtain ⟨afterBlanks, blanks, afterWord, word, named, space, ending⟩ := found
  have first := length_lt_of_skipBlanks? blanks
  have second := length_of_keyword? word
  have third := length_lt_of_skipBlanks? space
  have fourth := (List.dropWhile_suffix (l := named) isWord).length_le
  split at ending
  · cases ending
  · obtain ⟨-, rfl⟩ := Prod.mk.inj (Option.some.inj ending)
    omega

/-- The call of a given function in front of a text, and what follows it. -/
def callOf? (function : AggregateFunction) (text : List Char) : Option (Call × List Char) := do
  let afterName ← keyword? function.capitals.toList text
  match trimLeft afterName with
  | '(' :: inside =>
    match inside.takeWhile (· != ')'), inside.dropWhile (· != ')') with
    | first :: others, _ :: afterCall =>
      let name := text.take function.capitals.length
      let column := without '"' (trim (first :: others))
      match columnAlias? afterCall with
      | some (columnAlias, rest) => some (⟨name, column, some columnAlias⟩, rest)
      | none => some (⟨name, column, none⟩, afterCall)
    | _, _ => none
  | _ => none

theorem length_lt_of_callOf? {function : AggregateFunction} {text rest : List Char} {call : Call}
    (found : callOf? function text = some (call, rest)) : rest.length < text.length := by
  simp only [callOf?, Option.bind_eq_bind, Option.bind_eq_some_iff] at found
  obtain ⟨afterName, name, found⟩ := found
  have first := length_of_keyword? name
  have second := length_trimLeft_le afterName
  split at found
  · next inside opened =>
    rw [opened, List.length_cons] at second
    have third := (List.dropWhile_suffix (l := inside) (· != ')')).length_le
    split at found
    · next afterCall _ closed =>
      rw [closed, List.length_cons] at third
      split at found
      · next named =>
        obtain ⟨-, rfl⟩ := Prod.mk.inj (Option.some.inj found)
        have := length_lt_of_columnAlias? named
        omega
      · obtain ⟨-, rfl⟩ := Prod.mk.inj (Option.some.inj found)
        omega
    · cases found
  · cases found

/-- The call in front of a text, and what follows it. -/
def call? (text : List Char) : Option (Call × List Char) :=
  functions.findSome? fun function => callOf? function text

theorem length_lt_of_call? {text rest : List Char} {call : Call}
    (found : call? text = some (call, rest)) : rest.length < text.length := by
  obtain ⟨_, _, found⟩ := List.exists_of_findSome?_eq_some found
  exact length_lt_of_callOf? found

/-- All calls in a select list, from left to right and without overlap. -/
def calls (text : List Char) : List Call :=
  match text with
  | [] => []
  | c :: rest =>
    match _found : call? (c :: rest) with
    | some (call, after) => call :: calls after
    | none => calls rest
termination_by text.length
decreasing_by
  · exact length_lt_of_call? _found
  · exact Nat.lt_succ_self rest.length

/-- The function that a name, in any letter case, stands for. -/
def Call.function (call : Call) : Checked AggregateFunction :=
  (Value.readChoice AggregateFunction (.str (String.ofList (call.name.map Char.toLower)))).under
    (.field Fields.function.wire)

/-- The aggregation that a call means. -/
def Call.toAggregation (call : Call) : Except RecoveryError Aggregation :=
  match call.function with
  | .valid function =>
    .ok ⟨String.ofList call.column, function, call.columnAlias.map String.ofList⟩
  | .invalid first later => .error (.unknownFunction (first :: later))

/-- The aggregations of a select list. -/
def ofSelectList (selectList : List Char) : Except RecoveryError (List Aggregation) :=
  (calls selectList).mapM Call.toAggregation

end Aggregates

end SqlPipeline
