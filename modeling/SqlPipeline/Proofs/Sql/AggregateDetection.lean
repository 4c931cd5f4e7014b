import SqlPipeline.Proofs.Sql.SelectItems
import SqlPipeline.Proofs.Text.Extension
import SqlPipeline.Proofs.Text.Occurrence
import SqlPipeline.Proofs.Text.UpperCase

/-!
# Detected and collected aggregate functions

A select list aggregates when the name of a function stands directly before an opening parenthesis
(`occurIn_iff`). A call is collected where parentheses behind a name are closed and hold something,
and there blanks may stand in between (`calls_ne_nil_iff`). So a name before `()`, or before a
parenthesis that is never closed, makes a select list aggregate and leaves nothing to collect, and
apart from that the two agree (`occurIn_agrees`).
-/

namespace SqlPipeline.Aggregates

open Text

/-- The upper case of an aggregating select list has the name of a function behind which a
parenthesis opens. -/
theorem occurIn_iff_upper {selectList : List Char} :
    occurIn selectList = true ↔ ∃ function : AggregateFunction, ∃ before after,
      selectList = before ++ '(' :: after ∧ function.capitals.toList <:+ upper before := by
  have parenthesis : BeforeLetters '(' := ⟨by decide, by decide⟩
  simp only [occurIn, List.any_eq_true, mem_functions, true_and, contains_iff_isInfix]
  constructor
  · rintro ⟨function, front, back, same⟩
    have split : upper selectList = front ++ function.capitals.toList ++ '(' :: back := by
      rw [← same]
      simp
    rcases exists_of_upper_eq_append parenthesis rfl split with ⟨before, after, rfl, known⟩
    exact ⟨function, before, after, rfl, front, known.symm⟩
  · rintro ⟨function, before, after, rfl, front, known⟩
    refine ⟨function, front, upper after, ?_⟩
    rw [upper_append, ← known, upper_cons, show upperChar '(' = ['('] from rfl]
    simp

/-- Whether parentheses, possibly behind blanks, begin a text, are closed and hold something. -/
def FilledParentheses (text : List Char) : Prop :=
  ∃ gap argument after, text = gap ++ '(' :: (argument ++ ')' :: after) ∧ AllBlank gap ∧
    argument ≠ [] ∧ ')' ∉ argument

theorem filledParentheses_iff {text : List Char} :
    FilledParentheses text ↔ ∃ inside, trimLeft text = '(' :: inside ∧
      inside.takeWhile (· != ')') ≠ [] ∧ inside.dropWhile (· != ')') ≠ [] := by
  constructor
  · rintro ⟨gap, argument, after, rfl, blank, nonempty, absent⟩
    have parts := takeWhile_column absent after
    refine ⟨argument ++ ')' :: after, ?_, ?_, ?_⟩
    · rw [trimLeft, List.dropWhile_append_of_pos blank]
      rfl
    · rwa [parts.1]
    · rw [parts.2]
      exact List.cons_ne_nil _ _
  · rintro ⟨inside, opened, nonempty, closed⟩
    rcases behind : inside.dropWhile (· != ')') with _ | ⟨closing, after⟩
    · exact absurd behind closed
    · obtain rfl : closing = ')' := by
        have first := List.head?_dropWhile_not (· != ')') inside
        rw [behind] at first
        simpa using first
      refine ⟨text.takeWhile isBlank, inside.takeWhile (· != ')'), after, ?_,
        List.all_eq_true.mp List.all_takeWhile, nonempty, ?_⟩
      · rw [← behind, List.takeWhile_append_dropWhile, ← opened, trimLeft,
          List.takeWhile_append_dropWhile]
      · intro member
        have other := List.all_eq_true.mp List.all_takeWhile _ member
        simp at other

/-- A call is found exactly where filled parentheses follow a word that stands for its function. -/
theorem exists_callOf?_iff {function : AggregateFunction} {name behind : List Char} :
    (∃ call rest, call.name = name ∧ callOf? function (name ++ behind) = some (call, rest)) ↔
      Spells function.capitals.toList name ∧ FilledParentheses behind := by
  constructor
  · rintro ⟨call, rest, rfl, found⟩
    rcases exists_of_callOf? found with
      ⟨spells, _, inside, same, opened, nonempty, closing, after, closed, -⟩
    obtain rfl := List.append_cancel_left same
    refine ⟨spells, filledParentheses_iff.mpr ⟨inside, opened, nonempty, ?_⟩⟩
    rw [closed]
    exact List.cons_ne_nil _ _
  · rintro ⟨spells, filled⟩
    rcases filledParentheses_iff.mp filled with ⟨inside, opened, nonempty, closed⟩
    have taken : (name ++ behind).take function.capitals.length = name := by
      rw [← String.length_toList, spells.length_eq, List.take_left]
    rw [callOf?, keyword?_append spells, taken]
    rcases column : inside.takeWhile (· != ')') with _ | ⟨first, others⟩
    · exact absurd column nonempty
    · rcases afterCall : inside.dropWhile (· != ')') with _ | ⟨closing, after⟩
      · exact absurd afterCall closed
      · simp only [Option.bind_eq_bind, Option.bind_some, opened, column, afterCall]
        split
        · exact ⟨_, _, rfl, rfl⟩
        · exact ⟨_, _, rfl, rfl⟩

/-- Where a call can be found, some call is collected, there or further left. -/
theorem calls_ne_nil_of_callOf? {function : AggregateFunction} {text before behind rest : List Char}
    {call : Call} (split : text = before ++ behind)
    (found : callOf? function behind = some (call, rest)) : calls text ≠ [] := by
  induction text using calls.induct generalizing before with
  | case1 =>
      obtain ⟨rfl, rfl⟩ := List.append_eq_nil_iff.mp split.symm
      rcases exists_of_callOf? found with ⟨-, _, inside, empty, opened, -⟩
      obtain ⟨-, rfl⟩ := List.append_eq_nil_iff.mp empty.symm
      cases opened
  | case2 c others first after isCall ih =>
      rw [calls_of_call? isCall]
      exact List.cons_ne_nil _ _
  | case3 c others none ih =>
      rw [calls_of_call?_none none]
      rcases before with _ | ⟨d, before⟩
      · rw [List.nil_append] at split
        rw [split] at none
        have notHere := List.findSome?_eq_none_iff.mp none function (mem_functions function)
        rw [found] at notHere
        cases notHere
      · exact ih (List.cons.inj split).2

/-- Whether the name of a function, in any letter case, stands directly before an opening
parenthesis. -/
def OpensCall (selectList : List Char) : Prop :=
  ∃ function : AggregateFunction, ∃ before name after,
    selectList = before ++ (name ++ '(' :: after) ∧
      name.map Char.toUpper = function.capitals.toList

/-- Whether the name of a function, in any letter case, stands before filled parentheses. -/
def HoldsCall (selectList : List Char) : Prop :=
  ∃ function : AggregateFunction, ∃ before name behind,
    selectList = before ++ (name ++ behind) ∧
      name.map Char.toUpper = function.capitals.toList ∧ FilledParentheses behind

/-- Whether no blanks stand between the name of a function and a parenthesis that opens behind it. -/
def Adjoins (selectList : List Char) : Prop :=
  ∀ (function : AggregateFunction) before name gap after,
    selectList = before ++ (name ++ (gap ++ '(' :: after)) →
      name.map Char.toUpper = function.capitals.toList → AllBlank gap → gap = []

/-- Select lists in which no letter from beyond ASCII takes part in what passes for the name of a
function: neither in upper case before a parenthesis, nor where a call is collected. -/
structure AsciiNames (selectList : List Char) : Prop where
  opened : ∀ (function : AggregateFunction) before after, selectList = before ++ '(' :: after →
    function.capitals.toList <:+ upper before →
      function.capitals.toList <:+ before.map Char.toUpper
  collected : ∀ call ∈ calls selectList, ¬call.IsForeign

variable {selectList : List Char}

theorem ascii_of_mem_capitals {function : AggregateFunction} {c : Char}
    (member : c ∈ function.capitals.toList) : c.toNat < 128 := by
  have range : 65 ≤ c.toNat ∧ c.toNat ≤ 90 := of_decide_eq_true (capital_capitals function c member)
  omega

theorem upper_of_map_toUpper {function : AggregateFunction} {name : List Char}
    (isName : name.map Char.toUpper = function.capitals.toList) :
    upper name = function.capitals.toList := by
  rw [← isName]
  apply upper_of_ascii
  intro c member
  apply ascii_of_toUpper
  apply @ascii_of_mem_capitals function
  rw [← isName]
  exact List.mem_map_of_mem member

/-- A select list aggregates exactly when a name stands directly before a parenthesis. -/
theorem occurIn_iff (ascii : AsciiNames selectList) :
    occurIn selectList = true ↔ OpensCall selectList := by
  rw [occurIn_iff_upper]
  constructor
  · rintro ⟨function, before, after, rfl, isName⟩
    rcases ascii.opened function before after rfl isName with ⟨front, same⟩
    rcases List.map_eq_append_iff.mp same.symm with ⟨others, name, rfl, -, named⟩
    exact ⟨function, others, name, after, by simp, named⟩
  · rintro ⟨function, before, name, after, rfl, named⟩
    refine ⟨function, before ++ name, after, by simp, ?_⟩
    rw [upper_append, upper_of_map_toUpper named]
    exact List.suffix_append _ _

/-- A call is collected exactly when a name stands before filled parentheses. -/
theorem calls_ne_nil_iff (ascii : AsciiNames selectList) :
    calls selectList ≠ [] ↔ HoldsCall selectList := by
  constructor
  · intro nonempty
    rcases List.exists_cons_of_ne_nil nonempty with ⟨call, others, same⟩
    have isCall : call ∈ calls selectList := by simp [same]
    rcases exists_callOf?_of_mem_calls isCall with ⟨function, before, behind, rest, rfl, found⟩
    rcases exists_of_callOf? found with ⟨-, afterName, -, rfl, -⟩
    rcases exists_callOf?_iff.mp ⟨call, rest, rfl, found⟩ with ⟨spells, filled⟩
    have plain : ∀ c ∈ call.name, c.toNat < 128 := by
      intro c member
      by_contra large
      exact ascii.collected call isCall ⟨c, member, by omega⟩
    refine ⟨function, before, call.name, afterName, rfl, ?_, filled⟩
    exact map_toUpper_of_spells spells fun _ _ c member =>
      (isLetter_iff_of_ascii (plain c member)).mp
  · rintro ⟨function, before, name, behind, split, named, filled⟩
    rcases exists_callOf?_iff.mpr ⟨spells_of_map_toUpper named, filled⟩ with ⟨call, rest, -, found⟩
    exact calls_ne_nil_of_callOf? split found

/-- Where no blanks stand in between, what holds a call opens one. -/
theorem Adjoins.opensCall (adjoins : Adjoins selectList) (holds : HoldsCall selectList) :
    OpensCall selectList := by
  rcases holds with ⟨function, before, name, _, split, named, gap, argument, after, rfl, blank, -⟩
  obtain rfl := adjoins function before name gap _ split named blank
  exact ⟨function, before, name, _, split, named⟩

theorem mem_zip_tail (before : List Char) (c d : Char) (after : List Char) :
    (c, d) ∈ (before ++ c :: d :: after).zip (before ++ c :: d :: after).tail := by
  induction before with
  | nil => exact List.mem_cons_self
  | cons first before ih =>
      rcases rest : before ++ c :: d :: after with _ | ⟨second, others⟩
      · simp at rest
      · rw [rest] at ih
        rw [List.cons_append, rest, List.tail_cons]
        exact List.mem_cons_of_mem _ ih

/-- Where no blank stands directly before a parenthesis, none stands between it and a name. -/
theorem adjoins_of_solid
    (solid : ∀ pair ∈ selectList.zip selectList.tail, pair.2 = '(' → isBlank pair.1 = false) :
    Adjoins selectList := by
  rintro function before name gap after rfl - blank
  rcases gap.eq_nil_or_concat with rfl | ⟨front, c, rfl⟩
  · rfl
  · have paired := mem_zip_tail (before ++ name ++ front) c '(' after
    have isBlank := blank c (by simp)
    rw [solid (c, '(') (by simpa using paired) rfl] at isBlank
    cases isBlank

theorem eq_nil_iff_of_ofSelectList {aggregations : List Aggregation}
    (collected : ofSelectList selectList = .ok aggregations) :
    aggregations = [] ↔ calls selectList = [] := by
  rw [ofSelectList] at collected
  rcases found : calls selectList with _ | ⟨call, rest⟩
  · rw [found] at collected
    cases collected
    simp
  · rw [found, List.mapM_cons] at collected
    rcases means : call.toAggregation with error | aggregation
    · simp [means, bind, Except.bind] at collected
    · rcases others : rest.mapM Call.toAggregation with error | more
      · simp [means, others, bind, Except.bind] at collected
      · simp only [means, others, bind, Except.bind, pure, Except.pure, Except.ok.injEq]
          at collected
        simp [← collected]

/-- Detection and collection agree, but for names before parentheses that are empty or not closed:
these, and only these, make a select list aggregate when there is nothing to collect.

Blanks between a name and its parentheses keep a call from being detected, though it is collected;
so the converse is limited to select lists without such blanks. -/
theorem occurIn_agrees (ascii : AsciiNames selectList) :
    ∃ aggregations, ofSelectList selectList = .ok aggregations ∧
      (occurIn selectList = true ∧ aggregations = [] ↔
        OpensCall selectList ∧ ¬HoldsCall selectList) ∧
      (Adjoins selectList → aggregations ≠ [] → occurIn selectList = true) := by
  rcases ofSelectList_succeeds_iff.mpr ascii.collected with ⟨aggregations, collected⟩
  have holds : aggregations ≠ [] ↔ HoldsCall selectList := by
    rw [← calls_ne_nil_iff ascii, Ne, eq_nil_iff_of_ofSelectList collected]
  refine ⟨aggregations, collected, ?_, ?_⟩
  · rw [occurIn_iff ascii, ← holds, not_not]
  · intro adjoins
    rw [holds, occurIn_iff ascii]
    exact adjoins.opensCall

theorem mem_of_mem_name {text : List Char} {call : Call} (isCall : call ∈ calls text) {c : Char}
    (member : c ∈ call.name) : c ∈ text := by
  rcases exists_callOf?_of_mem_calls isCall with ⟨function, before, behind, rest, rfl, found⟩
  rcases exists_of_callOf? found with ⟨-, afterName, inside, rfl, -⟩
  exact List.mem_append_right _ (List.mem_append_left _ member)

/-- Nothing has to be asked of a select list in ASCII. -/
theorem asciiNames_of_ascii (ascii : ∀ c ∈ selectList, c.toNat < 128) : AsciiNames selectList where
  opened := by
    rintro function before after rfl isName
    rwa [upper_of_ascii fun c member => ascii c (List.mem_append_left _ member)] at isName
  collected := by
    rintro call isCall ⟨c, member, foreign⟩
    have small := ascii c (mem_of_mem_name isCall member)
    omega

/-- A select list in which a call and a name with nothing to call stand. -/
def countAndSum : List Char := "n, Count(a), SUM()".toList

theorem adjoins_countAndSum : Adjoins countAndSum :=
  adjoins_of_solid (by decide)

theorem occurIn_agrees_countAndSum :
    AsciiNames countAndSum ∧ Adjoins countAndSum ∧
      ∃ aggregations, ofSelectList countAndSum = .ok aggregations ∧ aggregations ≠ [] ∧
        occurIn countAndSum = true := by
  have ascii : AsciiNames countAndSum := asciiNames_of_ascii (by decide)
  have holds : HoldsCall countAndSum :=
    ⟨.count, "n, ".toList, "Count".toList, "(a), SUM()".toList, rfl, rfl,
      [], ['a'], ", SUM()".toList, rfl, by decide, by decide, by decide⟩
  rcases occurIn_agrees ascii with ⟨aggregations, collected, -, detected⟩
  have nonempty : aggregations ≠ [] := by
    rw [Ne, eq_nil_iff_of_ofSelectList collected]
    exact (calls_ne_nil_iff ascii).mpr holds
  exact ⟨ascii, adjoins_countAndSum, aggregations, collected, nonempty,
    detected adjoins_countAndSum nonempty⟩

/-- Empty parentheses make a select list aggregate, and hold no call. -/
theorem occurIn_without_aggregation :
    ¬∃ aggregations, ofSelectList "SUM()".toList = .ok aggregations ∧
      (occurIn "SUM()".toList = true ↔ aggregations ≠ []) := by
  rintro ⟨aggregations, collected, agree⟩
  have aggregates : occurIn "SUM()".toList = true := by decide +kernel
  have noCalls : calls "SUM()".toList = [] :=
    (calls_of_call?_none rfl).trans <| (calls_of_call?_none rfl).trans <|
      (calls_of_call?_none rfl).trans <| (calls_of_call?_none rfl).trans <|
        (calls_of_call?_none rfl).trans calls_nil
  exact agree.mp aggregates ((eq_nil_iff_of_ofSelectList collected).mpr noCalls)

end SqlPipeline.Aggregates
