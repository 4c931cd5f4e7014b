import Mathlib.Tactic.Common
import SqlPipeline.Proofs.Sql.Number
import SqlPipeline.Proofs.Text.Pattern
import SqlPipeline.Sql.Recovery

/-!
# When recovery fails

Recovery is meant to return a graph for any text. It does so with two exceptions, and
`recover_succeeds_iff` says that there are no others. A condition may compare with a whole number
that has more digits than are read. And a call in the select list may be spelled with letters from
beyond ASCII that stand for ASCII ones: such a call is found, but its name is not that of a function.
-/

namespace SqlPipeline

namespace Traced

variable {ε α β : Type}

/-- Whether a computation has a result. -/
def Succeeds (traced : Traced ε α) : Prop :=
  ∃ value, traced.outcome = .ok value

theorem succeeds_pure (value : α) : (pure value : Traced ε α).Succeeds :=
  ⟨value, rfl⟩

theorem succeeds_bind_iff {first : Traced ε α} {next : α → Traced ε β} :
    (first >>= next).Succeeds ↔ ∃ value, first.outcome = .ok value ∧ (next value).Succeeds := by
  simp only [Succeeds, outcome_bind_eq_ok_iff]
  constructor
  · rintro ⟨result, value, known, final⟩
    exact ⟨value, known, result, final⟩
  · rintro ⟨value, known, result, final⟩
    exact ⟨result, value, known, final⟩

/-- When what follows succeeds or not for every result alike. -/
theorem succeeds_bind_iff_and {first : Traced ε α} {next : α → Traced ε β} {later : Prop}
    (alike : ∀ value, (next value).Succeeds ↔ later) :
    (first >>= next).Succeeds ↔ first.Succeeds ∧ later := by
  rw [succeeds_bind_iff]
  constructor
  · rintro ⟨value, known, succeeds⟩
    exact ⟨⟨value, known⟩, (alike value).mp succeeds⟩
  · rintro ⟨⟨value, known⟩, succeeds⟩
    exact ⟨value, known, (alike value).mpr succeeds⟩

theorem succeeds_tell_bind_iff {level : Level} {message : String} {details : List (String × Value)}
    {next : Unit → Traced ε β} :
    (tell level message details >>= next).Succeeds ↔ (next ()).Succeeds := by
  rw [succeeds_bind_iff]
  exact ⟨fun ⟨_, _, succeeds⟩ => succeeds, fun succeeds => ⟨(), rfl, succeeds⟩⟩

/-- A last step that cannot fail does not matter. -/
theorem succeeds_bind_pure_iff {first : Traced ε α} {result : α → β} :
    (first >>= fun value => (pure (result value) : Traced ε β)).Succeeds ↔ first.Succeeds := by
  rw [succeeds_bind_iff_and fun value => iff_true_intro (succeeds_pure (result value)), and_true]

end Traced

open Traced

theorem not_overlong_of_apostrophe {rest : List Char} : ¬Overlong ('\'' :: rest) := by
  rintro ⟨sign, digits, split, isSign, tooMany, all⟩
  rcases isSign with rfl | rfl | rfl
  · obtain rfl : '\'' :: rest = digits := split
    exact absurd (all '\'' List.mem_cons_self) (by decide)
  · simp at split
  · simp at split

/-- A value is not read exactly when it is a whole number with too many digits. -/
theorem ofText_fails_iff (op : Option Operator) (text : List Char) :
    (¬∃ value, Literal.ofText op text = .ok value) ↔ Overlong text := by
  rcases quoted : betweenApostrophes? text with _ | inner
  · rcases number : Literal.ofNumber text with error | _ | value
    · have overlong := (ofNumber_eq_error_iff.mp number).2
      simp [Literal.ofText, quoted, number, overlong]
    · have few : ¬Overlong text := by
        intro overlong
        rw [ofNumber_eq_error_iff.mpr ⟨rfl, overlong⟩] at number
        cases number
      simp only [Literal.ofText, quoted, number, few, iff_false, not_not]
      split
      · exact ⟨_, rfl⟩
      · split <;> exact ⟨_, rfl⟩
    · have few : ¬Overlong text := by
        intro overlong
        rw [ofNumber_eq_error_iff.mpr ⟨rfl, overlong⟩] at number
        cases number
      simp [Literal.ofText, quoted, number, few]
  · rcases text with _ | ⟨c, rest⟩
    · simp [betweenApostrophes?] at quoted
    · obtain rfl : c = '\'' := by
        unfold betweenApostrophes? at quoted
        split at quoted
        · next same =>
          exact (List.cons.inj same).1
        · cases quoted
      simp [Literal.ofText, quoted, not_overlong_of_apostrophe]

/-- A fragment of a filter clause that compares with a whole number with too many digits. -/
def OverlongFragment (fragment : List Char) : Prop :=
  ∃ op place, findOperator? fragment = some (op, place) ∧
    Overlong (Text.trim (fragment.drop (place + op.symbol.length)))

theorem readFragment_fails_iff {fragment : List Char} :
    (¬∃ condition, readFragment fragment = .ok condition) ↔ OverlongFragment fragment := by
  rcases found : findOperator? fragment with _ | ⟨op, place⟩
  · simp [readFragment, OverlongFragment, found]
  · have right :=
      ofText_fails_iff (some op) (Text.trim (fragment.drop (place + op.symbol.length)))
    simp only [OverlongFragment, found, Option.some.injEq, Prod.mk.injEq]
    constructor
    · intro fails
      refine ⟨op, place, ⟨rfl, rfl⟩, right.mp ?_⟩
      rintro ⟨value, read⟩
      have result : readFragment fragment =
          .ok (some ⟨String.ofList (Text.without '"' (Text.trim (fragment.take place))), op,
            value⟩) := by
        simp only [readFragment, found, read]
        rfl
      exact fails ⟨_, result⟩
    · rintro ⟨_, _, ⟨rfl, rfl⟩, overlong⟩
      rintro ⟨condition, read⟩
      apply right.mpr overlong
      rcases known : Literal.ofText (some op) (Text.trim (fragment.drop (place + op.symbol.length)))
        with error | value
      · simp only [readFragment, found, known] at read
        cases read
      · exact ⟨value, rfl⟩

theorem readFragments_succeeds_iff (fragments : List (List Char)) :
    (readFragments fragments).Succeeds ↔ ∀ fragment ∈ fragments, ¬OverlongFragment fragment := by
  induction fragments with
  | nil => simp [readFragments, succeeds_pure]
  | cons fragment rest ih =>
      rw [readFragments, succeeds_bind_iff, outcome_ofExcept, List.forall_mem_cons, ← ih,
        ← readFragment_fails_iff, not_not]
      constructor
      · rintro ⟨condition?, read, succeeds⟩
        refine ⟨⟨_, read⟩, ?_⟩
        rcases condition? with _ | condition
        · exact succeeds_tell_bind_iff.mp succeeds
        · exact succeeds_bind_pure_iff.mp succeeds
      · rintro ⟨⟨condition?, read⟩, succeeds⟩
        refine ⟨condition?, read, ?_⟩
        rcases condition? with _ | condition
        · exact succeeds_tell_bind_iff.mpr succeeds
        · exact succeeds_bind_pure_iff.mpr succeeds

namespace Aggregates

/-- Whether a call is spelled with a letter from beyond ASCII. -/
def Call.IsForeign (call : Call) : Prop :=
  ∃ c ∈ call.name, 127 < c.toNat

theorem suffix_of_columnAlias? {text columnAlias rest : List Char}
    (found : columnAlias? text = some (columnAlias, rest)) : rest <:+ text := by
  simp only [columnAlias?, Option.bind_eq_bind, Option.bind_eq_some_iff] at found
  rcases found with ⟨afterBlanks, blanks, afterWord, word, named, space, found⟩
  rcases Text.exists_of_skipBlanks? blanks with ⟨front, rfl, -⟩
  rcases Text.keyword?_eq_some_iff.mp word with ⟨isAs, -, rfl⟩
  rcases Text.exists_of_skipBlanks? space with ⟨back, rfl, -⟩
  have behind : rest <:+ named := by
    split at found
    · cases found
    · cases found
      exact List.dropWhile_suffix _
  exact behind.trans ((List.suffix_append back _).trans
    ((List.suffix_append isAs _).trans (List.suffix_append front _)))

/-- A call begins with a word that stands for its function, and behind it, possibly after blanks,
with parentheses that are closed and hold something. -/
theorem exists_of_callOf? {function : AggregateFunction} {text rest : List Char} {call : Call}
    (found : callOf? function text = some (call, rest)) :
    Text.Spells function.capitals.toList call.name ∧ ∃ behind inside, text = call.name ++ behind ∧
      Text.trimLeft behind = '(' :: inside ∧ inside.takeWhile (· != ')') ≠ [] ∧
        ∃ closing after, inside.dropWhile (· != ')') = closing :: after ∧ rest <:+ after := by
  simp only [callOf?, Option.bind_eq_bind, Option.bind_eq_some_iff] at found
  rcases found with ⟨behind, keyword, found⟩
  rcases Text.keyword?_eq_some_iff.mp keyword with ⟨word, spells, rfl⟩
  have taken : (word ++ behind).take function.capitals.length = word := by
    rw [← String.length_toList, spells.length_eq, List.take_left]
  rw [taken] at found
  split at found
  · next inside opened =>
    split at found
    · next first others closing after column afterCall =>
      have filled : inside.takeWhile (· != ')') ≠ [] := by simp [column]
      split at found
      · next named =>
        cases found
        exact ⟨spells, behind, inside, rfl, opened, filled, closing, after, afterCall,
          suffix_of_columnAlias? named⟩
      · cases found
        exact ⟨spells, behind, inside, rfl, opened, filled, closing, _, afterCall,
          List.suffix_rfl⟩
    · cases found
  · cases found

theorem spells_of_callOf? {function : AggregateFunction} {text rest : List Char} {call : Call}
    (found : callOf? function text = some (call, rest)) :
    Text.Spells function.capitals.toList call.name :=
  (exists_of_callOf? found).1

theorem suffix_of_callOf? {function : AggregateFunction} {text rest : List Char} {call : Call}
    (found : callOf? function text = some (call, rest)) : rest <:+ text := by
  rcases exists_of_callOf? found with
    ⟨-, behind, inside, rfl, opened, -, closing, after, closed, isRest⟩
  have inParentheses : rest <:+ inside := by
    refine (isRest.trans (List.suffix_cons closing after)).trans ?_
    rw [← closed]
    exact List.dropWhile_suffix _
  have inBehind : rest <:+ behind := by
    refine (inParentheses.trans (List.suffix_cons '(' inside)).trans ?_
    rw [← opened]
    exact List.dropWhile_suffix _
  exact inBehind.trans (List.suffix_append call.name behind)

theorem calls_nil : calls [] = [] := by
  rw [calls.eq_def]

theorem calls_of_call? {c : Char} {rest after : List Char} {call : Call}
    (found : call? (c :: rest) = some (call, after)) : calls (c :: rest) = call :: calls after := by
  rw [calls.eq_def]
  dsimp only
  split
  · next other afterOther same =>
    rw [found] at same
    cases same
    rfl
  · next none =>
    rw [found] at none
    cases none

theorem calls_of_call?_none {c : Char} {rest : List Char} (none : call? (c :: rest) = none) :
    calls (c :: rest) = calls rest := by
  rw [calls.eq_def]
  dsimp only
  split
  · next same =>
    rw [none] at same
    cases same
  · rfl

/-- Every call that is collected is found at some place of the text. -/
theorem exists_callOf?_of_mem_calls {text : List Char} {call : Call} (member : call ∈ calls text) :
    ∃ function before behind rest,
      text = before ++ behind ∧ callOf? function behind = some (call, rest) := by
  induction text using calls.induct with
  | case1 =>
      rw [calls_nil] at member
      cases member
  | case2 c rest first after found ih =>
      rcases List.exists_of_findSome?_eq_some found with ⟨function, -, here⟩
      rw [calls_of_call? found] at member
      rcases List.mem_cons.mp member with rfl | later
      · exact ⟨function, [], _, after, rfl, here⟩
      · rcases suffix_of_callOf? here with ⟨front, split⟩
        rcases ih later with ⟨other, before, behind, last, rfl, isFound⟩
        exact ⟨other, front ++ before, behind, last, by rw [← split, List.append_assoc], isFound⟩
  | case3 c rest none ih =>
      rw [calls_of_call?_none none] at member
      rcases ih member with ⟨function, before, behind, after, rfl, found⟩
      exact ⟨function, c :: before, behind, after, rfl, found⟩

/-- The name of a call stands for that of a function. -/
theorem exists_function_of_mem_calls {text : List Char} {call : Call} (member : call ∈ calls text) :
    ∃ function : AggregateFunction, Text.Spells function.capitals.toList call.name := by
  rcases exists_callOf?_of_mem_calls member with ⟨function, _, _, _, -, found⟩
  exact ⟨function, spells_of_callOf? found⟩

theorem toLower_capitals (function : AggregateFunction) :
    function.capitals.toList.map Char.toLower = function.name.toList := by
  cases function <;> rfl

theorem ascii_of_mem_name (function : AggregateFunction) {c : Char}
    (member : c ∈ function.name.toList) : c.toNat < 128 := by
  have all : (function.name.toList.all fun c => c.toNat < 128) = true := by
    cases function <;> rfl
  simpa using List.all_eq_true.mp all c member

theorem ofLabel?_name (function : AggregateFunction) :
    Choice.ofLabel? function.name = some function := by
  cases function <;> rfl

/-- A call means no aggregation exactly when a letter from beyond ASCII takes part in its name. -/
theorem toAggregation_fails_iff {call : Call} {function : AggregateFunction}
    (spells : Text.Spells function.capitals.toList call.name) :
    (¬∃ aggregation, call.toAggregation = .ok aggregation) ↔ call.IsForeign := by
  constructor
  · intro fails
    by_contra notForeign
    have ascii : ∀ c ∈ call.name, c.toNat < 128 := by
      intro c member
      by_contra large
      exact notForeign ⟨c, member, by omega⟩
    have lowered : String.ofList (call.name.map Char.toLower) = function.name := by
      rw [Text.map_toLower_of_spells spells ascii, toLower_capitals, String.ofList_toList]
    refine fails ⟨⟨String.ofList call.column, function, call.columnAlias.map String.ofList⟩, ?_⟩
    simp [Call.toAggregation, Call.function, Value.readChoice, Value.heldText?, lowered,
      ofLabel?_name, Checked.under]
  · rintro ⟨c, member, foreign⟩ ⟨aggregation, means⟩
    rcases named : (Choice.ofLabel? (String.ofList (call.name.map Char.toLower)) :
        Option AggregateFunction) with _ | other
    · simp [Call.toAggregation, Call.function, Value.readChoice, Value.heldText?, named,
        Checked.complain, Checked.under] at means
    · have label : other.name = String.ofList (call.name.map Char.toLower) :=
        Choice.label_of_ofLabel? named
      have small : c.toNat < 128 := by
        apply ascii_of_mem_name other
        rw [label, String.toList_ofList, ← Text.toLower_of_not_ascii foreign]
        exact List.mem_map_of_mem member
      omega

theorem ofSelectList_succeeds_iff {selectList : List Char} :
    (∃ aggregations, ofSelectList selectList = .ok aggregations) ↔
      ∀ call ∈ calls selectList, ¬call.IsForeign := by
  have spelled : ∀ call ∈ calls selectList, ∃ function : AggregateFunction,
      Text.Spells function.capitals.toList call.name := fun call => exists_function_of_mem_calls
  rw [ofSelectList]
  generalize calls selectList = found at spelled ⊢
  induction found with
  | nil => simp [pure, Except.pure]
  | cons call rest ih =>
      rcases spelled call List.mem_cons_self with ⟨function, spells⟩
      have later : (∃ aggregations, rest.mapM Call.toAggregation = .ok aggregations) ↔
          ∀ call ∈ rest, ¬call.IsForeign :=
        ih fun other member => spelled other (List.mem_cons_of_mem _ member)
      rw [List.forall_mem_cons, ← later, ← toAggregation_fails_iff spells, not_not,
        List.mapM_cons]
      rcases Call.toAggregation call with error | aggregation
      · simp [bind, Except.bind]
      · rcases rest.mapM Call.toAggregation with error | aggregations
        · simp [bind, Except.bind]
        · simp [bind, Except.bind, pure, Except.pure]

end Aggregates

namespace Recovery

open Aggregates

/-- Whether a statement compares with a whole number with too many digits. -/
def ComparesOverlong (sql : List Char) : Prop :=
  ∃ body, Clause.filter? sql = some body ∧
    ∃ fragment ∈ fragments (Clause.trimBody body), OverlongFragment fragment

/-- Whether a statement that groups or aggregates has a call in its select list that is spelled with
a letter from beyond ASCII. -/
def CallsForeign (sql : List Char) : Prop :=
  ((Clause.grouping? sql).isSome = true ∨
      Aggregates.occurIn ((Clause.selectList? sql).getD []) = true) ∧
    ∃ call ∈ calls ((Clause.selectList? sql).getD []), call.IsForeign

theorem filterOf_succeeds (conditions : List Condition) : (filterOf conditions).Succeeds := by
  unfold filterOf
  split
  · exact succeeds_pure _
  · exact succeeds_tell_bind_iff.mpr (succeeds_pure _)

theorem filter_succeeds_iff {sql : List Char} :
    (filter sql).Succeeds ↔ ¬ComparesOverlong sql := by
  rcases found : Clause.filter? sql with _ | body
  · simp [filter, ComparesOverlong, found, succeeds_pure]
  · have known := readFragments_succeeds_iff (fragments (Clause.trimBody body))
    simp only [filter, ComparesOverlong, found, succeeds_bind_iff, readConditions,
      Option.some.injEq, exists_eq_left', filterOf_succeeds, and_true]
    simpa [Succeeds] using known

theorem aggregateOf_succeeds_iff {grouping : Option (List Char)} {selectList : List Char} :
    (aggregateOf grouping selectList).Succeeds ↔
      ∀ call ∈ calls selectList, ¬call.IsForeign := by
  rw [← ofSelectList_succeeds_iff, aggregateOf]
  refine (succeeds_bind_iff_and fun aggregations => iff_true_intro ?_).trans (iff_of_eq ?_)
  · exact succeeds_tell_bind_iff.mpr (succeeds_pure _)
  · rw [and_true]
    rfl

theorem aggregate_succeeds_iff {sql : List Char} :
    (aggregate sql).Succeeds ↔ ¬CallsForeign sql := by
  unfold aggregate CallsForeign
  simp only [← Bool.or_eq_true]
  split
  · next aggregates => simp [aggregateOf_succeeds_iff, aggregates]
  · next plain => simp [succeeds_pure, plain]

theorem stages_succeeds_iff {settings : Settings} {sql : String} {reference : List Char} :
    (stages settings sql reference).Succeeds ↔
      ¬ComparesOverlong sql.toList ∧ ¬CallsForeign sql.toList := by
  rw [← filter_succeeds_iff, ← aggregate_succeeds_iff]
  refine succeeds_tell_bind_iff.trans (succeeds_bind_iff_and fun filterStage => ?_)
  exact succeeds_bind_pure_iff

end Recovery

/-- Recovery returns a graph unless a table is found and the statement compares with an overlong
number or calls a function by a foreign spelling of its name. -/
theorem recover_succeeds_iff (settings : Settings) (sql : String) :
    (∃ graph, (recover settings sql).outcome = .ok graph) ↔
      Clause.table? sql.toList = none ∨
        (¬Recovery.ComparesOverlong sql.toList ∧ ¬Recovery.CallsForeign sql.toList) := by
  change (recover settings sql).Succeeds ↔ _
  rcases found : Clause.table? sql.toList with _ | reference
  · simp only [recover, found, true_or, iff_true]
    exact succeeds_tell_bind_iff.mpr (succeeds_pure _)
  · simp only [recover, found, succeeds_bind_pure_iff, Recovery.stages_succeeds_iff]
    simp

/-- The long s stands for an `S`, but `ſum` is not the name of a function. -/
theorem recover_foreign_fails :
    (recover {} "SELECT ſum(x) FROM t").outcome = .error (.unknownFunction
      [⟨[.field Fields.function.wire], .notOption (Choice.labels AggregateFunction)⟩]) := by
  have table : Clause.table? "SELECT ſum(x) FROM t".toList = some ['t'] := by
    decide +kernel
  have filter : Clause.filter? "SELECT ſum(x) FROM t".toList = none := by
    decide +kernel
  have grouping : Clause.grouping? "SELECT ſum(x) FROM t".toList = none := by
    decide +kernel
  have selectList : Clause.selectList? "SELECT ſum(x) FROM t".toList = some "ſum(x)".toList := by
    decide +kernel
  have occur : Aggregates.occurIn "ſum(x)".toList = true := by
    decide +kernel
  have call : Aggregates.call? "ſum(x)".toList = some (⟨"ſum".toList, ['x'], none⟩, []) := rfl
  have calls : Aggregates.calls "ſum(x)".toList = [⟨"ſum".toList, ['x'], none⟩] :=
    (Aggregates.calls_of_call? call).trans (by rw [Aggregates.calls_nil])
  have aggregate : (Recovery.aggregate "SELECT ſum(x) FROM t".toList).outcome =
      .error (.unknownFunction
        [⟨[.field Fields.function.wire], .notOption (Choice.labels AggregateFunction)⟩]) := by
    rw [Recovery.aggregate, grouping, selectList, Option.getD_some, occur, Bool.or_true,
      if_pos rfl, Recovery.aggregateOf, Aggregates.ofSelectList, calls]
    rfl
  have noFilter : (Recovery.filter "SELECT ſum(x) FROM t".toList).outcome = .ok [] := by
    rw [Recovery.filter, filter]
    rfl
  rw [recover, table]
  apply Traced.outcome_bind_of_error _
  rw [Recovery.stages, Traced.outcome_bind_of_ok _ (Traced.outcome_tell _ _ _),
    Traced.outcome_bind_of_ok _ noFilter, Traced.outcome_bind_of_error _ aggregate]

end SqlPipeline
