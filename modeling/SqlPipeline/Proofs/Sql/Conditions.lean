import SqlPipeline.Proofs.Sql.Operand
import SqlPipeline.Proofs.Text.Occurrence

/-!
# Conditions that are read back

A condition is plain when its column is a dotted name, its operator compares, and its value is
plain. It is still legible when its column is empty. Then the text of the condition begins with a
blank, which is lost with the blanks around it (`Condition.core` is what is left), but the column
that is read back is empty again.

Conditions that are joined are divided exactly between them (`splitConditions_filterBody`).
-/

namespace SqlPipeline

open Text Clause

/-- The operators that compare. -/
def comparisons : List Operator :=
  [.equal, .notEqual, .greater, .less, .greaterEqual, .lessEqual]

/-- A dotted name that does not begin with the word for conditions on groups. -/
structure PlainColumn (name : List Char) : Prop where
  nonempty : name ≠ []
  characters : ∀ c ∈ name, c.isAlphanum = true ∨ c = '_' ∨ c = '.'
  notHaving : ¬"HAVING".toList <+: name.map Char.toUpper

/-- A condition on a named column that is read back as it is written. -/
structure Condition.Plain (condition : Condition) : Prop where
  column : PlainColumn condition.column.toList
  op : condition.op ∈ comparisons
  value : PlainLiteral condition.value

/-- A dotted name, or no name, that does not begin with the word for conditions on groups. -/
structure DottedName (name : List Char) : Prop where
  characters : ∀ c ∈ name, c.isAlphanum = true ∨ c = '_' ∨ c = '.'
  notHaving : ¬"HAVING".toList <+: name.map Char.toUpper

/-- A condition that is read back, whether or not it names a column. -/
structure Condition.Legible (condition : Condition) : Prop where
  column : DottedName condition.column.toList
  op : condition.op ∈ comparisons
  value : PlainLiteral condition.value

theorem Condition.Plain.legible {condition : Condition} (plain : condition.Plain) :
    condition.Legible :=
  ⟨⟨plain.column.characters, plain.column.notHaving⟩, plain.op, plain.value⟩

theorem ascii_of_isAlphanum {c : Char} (alphanum : c.isAlphanum = true) : c.toNat < 128 := by
  rcases (Bool.or_eq_true _ _).mp alphanum with letter | digit
  · rcases (Bool.or_eq_true _ _).mp letter with upper | lower
    · have bounds : 65 ≤ c.toNat ∧ c.toNat ≤ 90 := of_decide_eq_true upper
      omega
    · have bound : c.toNat ≤ 122 := of_decide_eq_true ((Bool.and_eq_true _ _).mp lower).2
      omega
  · have bound : c.toNat ≤ 57 := (Char.isDigit_iff_toNat.mp digit).2
    omega

theorem nameCharacter_facts {c : Char} (isName : c.isAlphanum = true ∨ c = '_' ∨ c = '.') :
    c.toNat < 128 ∧ isBlank c = false ∧ c ≠ '"' ∧ c ≠ '(' ∧
      ∀ sign ∈ '!' :: comparisonSigns, sign ∉ upperChar c := by
  have ascii : c.toNat < 128 := by
    rcases isName with alphanum | rfl | rfl
    · exact ascii_of_isAlphanum alphanum
    · decide
    · decide
  have facts := of_ascii (fun c => (c.isAlphanum = true ∨ c = '_' ∨ c = '.') →
    isBlank c = false ∧ c ≠ '"' ∧ c ≠ '(' ∧ ∀ sign ∈ '!' :: comparisonSigns, sign ≠ c.toUpper)
    (by decide) ascii isName
  refine ⟨ascii, facts.1, facts.2.1, facts.2.2.1, ?_⟩
  intro sign isSign
  rw [upperChar, if_pos ascii, List.mem_singleton]
  exact facts.2.2.2 sign isSign

namespace DottedName

variable {name : List Char}

theorem solid (dotted : DottedName name) : Solid name :=
  fun c member => (nameCharacter_facts (dotted.characters c member)).2.1

theorem ascii (dotted : DottedName name) : ∀ c ∈ name, c.toNat < 128 :=
  fun c member => (nameCharacter_facts (dotted.characters c member)).1

theorem sign_not_mem_upper (dotted : DottedName name) :
    ∀ sign ∈ '!' :: comparisonSigns, sign ∉ upper name := by
  intro sign isSign member
  rcases List.mem_flatMap.mp member with ⟨c, inName, inUpper⟩
  exact (nameCharacter_facts (dotted.characters c inName)).2.2.2.2 sign isSign inUpper

/-- No condition on groups starts at the name. -/
theorem keyword?_having (dotted : DottedName name) {after : List Char} (ends : EndsWord after) :
    keyword? "HAVING".toList (name ++ after) = none := by
  rcases found : keyword? "HAVING".toList (name ++ after) with _ | rest
  · rfl
  · rcases keyword?_append_word (by decide) ends found with ⟨front, back, spells, rfl, -⟩
    have capitals := map_toUpper_of_spells spells fun capital _ c member =>
      (isLetter_iff_of_ascii (dotted.ascii c (List.mem_append_left _ member))).mp
    refine absurd ?_ dotted.notHaving
    rw [List.map_append, capitals]
    exact List.prefix_append _ _

end DottedName

theorem symbol_of_mem_comparisons {op : Operator} (compares : op ∈ comparisons) :
    ∃ c rest, op.symbol.toList = c :: rest ∧ c ∈ '!' :: comparisonSigns ∧
      ∀ d ∈ c :: rest, Bars d ∧ d ≠ '(' := by
  simp only [comparisons, List.mem_cons, List.not_mem_nil, or_false] at compares
  rcases compares with rfl | rfl | rfl | rfl | rfl | rfl
  · exact ⟨'=', [], rfl, by decide, by decide⟩
  · exact ⟨'!', ['='], rfl, by decide, by decide⟩
  · exact ⟨'>', [], rfl, by decide, by decide⟩
  · exact ⟨'<', [], rfl, by decide, by decide⟩
  · exact ⟨'>', ['='], rfl, by decide, by decide⟩
  · exact ⟨'<', ['='], rfl, by decide, by decide⟩

theorem testsNull_of_mem_comparisons {op : Operator} (compares : op ∈ comparisons) :
    op.testsNull = false := by
  revert op
  decide

namespace Condition

/-- A condition as it is written. -/
def text (condition : Condition) : List Char :=
  condition.toSql.toList

/-- The blank that an empty column leaves in front of a condition. -/
def lead (condition : Condition) : List Char :=
  if condition.column = "" then [' '] else []

/-- What stands in front of the operator, without that blank. -/
def front (condition : Condition) : List Char :=
  if condition.column = "" then [] else condition.column.toList ++ [' ']

/-- A condition without the blank in front. -/
def core (condition : Condition) : List Char :=
  condition.front ++ (condition.op.symbol.toList ++ ' ' :: condition.value.toSql.toList)

variable {condition : Condition}

theorem text_eq (compares : condition.op ∈ comparisons) :
    condition.text = condition.column.toList ++
      ' ' :: (condition.op.symbol.toList ++ ' ' :: condition.value.toSql.toList) := by
  rw [text, toSql, testsNull_of_mem_comparisons compares, if_neg Bool.false_ne_true]
  simp only [String.toList_append, List.append_assoc]
  rfl

theorem text_eq_append (legible : condition.Legible) :
    condition.text = condition.lead ++ condition.core := by
  rw [text_eq legible.op, lead, core, front]
  by_cases empty : condition.column = ""
  · rw [if_pos empty, if_pos empty, empty]
    rfl
  · rw [if_neg empty, if_neg empty, List.nil_append, List.append_assoc]
    rfl

theorem exists_core_eq_cons (legible : condition.Legible) :
    ∃ c rest, condition.core = c :: rest ∧ isBlank c = false := by
  rw [core, front]
  by_cases empty : condition.column = ""
  · rcases symbol_of_mem_comparisons legible.op with ⟨c, rest, symbol, -, bars⟩
    rw [if_pos empty, symbol]
    exact ⟨c, _, rfl, (bars c List.mem_cons_self).1.1⟩
  · rw [if_neg empty]
    rcases name : condition.column.toList with _ | ⟨c, rest⟩
    · exact absurd (String.toList_eq_nil_iff.mp name) empty
    · exact ⟨c, _, rfl, legible.column.solid c (by simp [name])⟩

theorem exists_core_eq_concat (legible : condition.Legible) :
    ∃ front c, condition.core = front ++ [c] ∧ isBlank c = false ∧ c ≠ ';' := by
  rcases (operand_of_plain legible.value).last with ⟨front, c, written, known⟩
  rw [core, written]
  exact ⟨condition.front ++ (condition.op.symbol.toList ++ ' ' :: front), c, by simp, known⟩

theorem isRun_lead (condition : Condition) : Piece.blanks.Matches (' ' :: condition.lead) := by
  refine ⟨by simp, ?_⟩
  rw [lead]
  split <;> decide

/-- Behind a blank the condition is found without the blank in front of it. -/
theorem skipBlanks?_text (legible : condition.Legible) (after : List Char) :
    skipBlanks? (' ' :: (condition.text ++ after)) = some (condition.core ++ after) := by
  rcases exists_core_eq_cons legible with ⟨c, rest, core, solid⟩
  rw [text_eq_append legible, List.append_assoc, core]
  exact skipBlanks?_append (isRun_lead condition) solid

/-- Neither a clause nor a connective starts inside a legible condition. -/
theorem absent_interrupts (legible : condition.Legible) (after : List Char) :
    Absent interrupts condition.text after := by
  have operand := operand_of_plain legible.value
  rcases operand.head with ⟨first, others, written, firstBars⟩
  rcases symbol_of_mem_comparisons legible.op with ⟨c, rest, symbol, -, bars⟩
  have firstOfSymbol := (bars c List.mem_cons_self).1
  rw [text_eq legible.op, absent_append_iff, absent_cons_iff, absent_append_iff, absent_cons_iff]
  refine ⟨?_, ?_, ?_, ?_, operand.quiet after⟩
  · rw [symbol]
    exact absent_interrupts_word legible.column.solid firstOfSymbol
  · rw [symbol]
    exact interrupts_space firstOfSymbol
  · rw [symbol]
    exact absent_of_forall fun d member _ => interrupts_of_bars (bars d member).1
  · rw [written]
    exact interrupts_space firstBars

theorem parenthesis_not_mem (legible : condition.Legible) : '(' ∉ condition.text := by
  have inColumn : '(' ∉ condition.column.toList := fun member =>
    (nameCharacter_facts (legible.column.characters '(' member)).2.2.2.1 rfl
  rcases symbol_of_mem_comparisons legible.op with ⟨c, rest, symbol, -, bars⟩
  have inSymbol : '(' ∉ condition.op.symbol.toList := by
    rw [symbol]
    exact fun member => (bars '(' member).2 rfl
  rw [text_eq legible.op]
  simp [inColumn, inSymbol, (operand_of_plain legible.value).noParenthesis]

/-- No ordering and no condition on groups starts at a legible condition. -/
theorem no_keyword_core (legible : condition.Legible) (after : List Char) :
    keywords? "ORDER".toList "BY".toList (condition.core ++ after) = none ∧
      keyword? "HAVING".toList (condition.core ++ after) = none := by
  rcases symbol_of_mem_comparisons legible.op with ⟨c, rest, symbol, -, bars⟩
  have firstBars := (bars c List.mem_cons_self).1
  rw [core, front, symbol]
  by_cases empty : condition.column = ""
  · rw [if_pos empty]
    exact ⟨keywords?_of_none (keyword?_of_not_letter (firstBars.2 'O' (by decide))),
      keyword?_of_not_letter (firstBars.2 'H' (by decide))⟩
  · rw [if_neg empty, List.append_assoc, List.append_assoc]
    have noBy : (skipBlanks? (' ' :: c :: (rest ++ ' ' :: condition.value.toSql.toList ++
        after))).bind (keyword? "BY".toList) = none := by
      rw [skipBlanks?_space firstBars.1]
      exact keyword?_of_not_letter (firstBars.2 'B' (by decide))
    exact ⟨keywords?_append_word (by decide) legible.column.solid (endsWord_space _) noBy,
      legible.column.keyword?_having (endsWord_space _)⟩

end Condition

theorem startsClause_of_skipped {rest behind : List Char}
    (skipped : skipBlanks? (' ' :: rest) = some behind)
    (noOrder : keywords? "ORDER".toList "BY".toList behind = none)
    (noHaving : keyword? "HAVING".toList behind = none) : startsClause (' ' :: rest) = false := by
  have noGroup : keyword? "GROUP".toList (' ' :: rest) = none :=
    keyword?_of_not_letter (by decide)
  rw [startsClause, startsGrouping, atOrderBy, startsWithPair, atHaving, skipped,
    keywords?_of_none noGroup, Option.bind_some, Option.bind_some, noOrder, noHaving]
  rfl

/-- No clause starts between two legible conditions. -/
theorem absent_startsClause_and {condition : Condition} (legible : condition.Legible)
    (after : List Char) : Absent startsClause " AND ".toList (condition.text ++ after) := by
  have inWord : Absent startsClause ['A', 'N', 'D'] (' ' :: (condition.text ++ after)) :=
    absent_startsClause (absent_interrupts_of_forall (by decide) (by decide))
  have firstBlank : startsClause (' ' :: ('A' :: 'N' :: 'D' :: ' ' :: (condition.text ++ after))) =
      false :=
    startsClause_of_skipped (skipBlanks?_space (by decide))
      (keywords?_of_none (keyword?_of_not_letter (by decide))) (keyword?_of_not_letter (by decide))
  have noKeyword := Condition.no_keyword_core legible after
  have secondBlank : startsClause (' ' :: (condition.text ++ after)) = false :=
    startsClause_of_skipped (Condition.skipBlanks?_text legible after) noKeyword.1 noKeyword.2
  have behind : Absent startsClause (['A', 'N', 'D'] ++ [' ']) (condition.text ++ after) :=
    absent_append_iff.mpr ⟨inWord, absent_cons_iff.mpr ⟨secondBlank, absent_nil⟩⟩
  exact absent_cons_iff.mpr ⟨firstBlank, behind⟩

/-- Conditions as a filter joins them. -/
def joined (conditions : List Condition) : List Char :=
  List.intercalate " AND ".toList (conditions.map Condition.text)

/-- What follows the first condition. -/
def joinedBehind : List Condition → List Char
  | [] => []
  | second :: rest => " AND ".toList ++ joined (second :: rest)

/-- Joined conditions without the blank in front. -/
def filterBody : List Condition → List Char
  | [] => []
  | first :: rest => first.core ++ joinedBehind rest

theorem joinedBehind_nil : joinedBehind [] = [] := rfl

theorem joinedBehind_cons (second : Condition) (rest : List Condition) :
    joinedBehind (second :: rest) = " AND ".toList ++ joined (second :: rest) := rfl

theorem joined_cons (first : Condition) (rest : List Condition) :
    joined (first :: rest) = first.text ++ joinedBehind rest := by
  cases rest with
  | nil => exact List.intercalate_singleton.trans (List.append_nil first.text).symm
  | cons second rest => exact List.intercalate_cons_cons.trans (List.append_assoc _ _ _)

variable {first : Condition} {rest : List Condition}

theorem joined_eq_append (legible : first.Legible) (rest : List Condition) :
    joined (first :: rest) = first.lead ++ filterBody (first :: rest) := by
  rw [joined_cons, Condition.text_eq_append legible, filterBody, List.append_assoc]

theorem exists_filterBody_eq_cons (legible : first.Legible) (rest : List Condition) :
    ∃ c tail, filterBody (first :: rest) = c :: tail ∧ isBlank c = false := by
  rcases Condition.exists_core_eq_cons legible with ⟨c, others, core, solid⟩
  rw [filterBody, core]
  exact ⟨c, _, rfl, solid⟩

/-- Behind a blank the joined conditions are found without the blank in front of them. -/
theorem skipBlanks?_joined (legible : first.Legible) (rest : List Condition) (after : List Char) :
    skipBlanks? (' ' :: (joined (first :: rest) ++ after)) =
      some (filterBody (first :: rest) ++ after) := by
  rw [joined_cons, filterBody, List.append_assoc, List.append_assoc]
  exact Condition.skipBlanks?_text legible _

theorem exists_filterBody_eq_concat (legible : ∀ condition ∈ first :: rest, condition.Legible) :
    ∃ front c, filterBody (first :: rest) = front ++ [c] ∧ isBlank c = false ∧ c ≠ ';' := by
  induction rest generalizing first with
  | nil =>
      rw [filterBody, joinedBehind_nil, List.append_nil]
      exact Condition.exists_core_eq_concat (legible first List.mem_cons_self)
  | cons second rest ih =>
      have legibleSecond := legible second (by simp)
      rcases ih fun condition member => legible condition (List.mem_cons_of_mem _ member) with
        ⟨front, c, text, known⟩
      rw [filterBody, joinedBehind_cons, joined_eq_append legibleSecond, text]
      exact ⟨first.core ++ (" AND ".toList ++ (second.lead ++ front)), c,
        by simp only [List.append_assoc], known⟩

theorem parenthesis_not_mem_joined {conditions : List Condition}
    (legible : ∀ condition ∈ conditions, condition.Legible) : '(' ∉ joined conditions := by
  induction conditions with
  | nil => simp [joined]
  | cons first rest ih =>
      have here := Condition.parenthesis_not_mem (legible first List.mem_cons_self)
      have later := ih fun condition member => legible condition (List.mem_cons_of_mem _ member)
      have behind : '(' ∉ joinedBehind rest := by
        cases rest with
        | nil => exact List.not_mem_nil
        | cons second rest => exact List.not_mem_append (by decide) later
      rw [joined_cons]
      exact List.not_mem_append here behind

/-- No clause starts in legible conditions that are joined. -/
theorem absent_startsClause_joined (legible : ∀ condition ∈ first :: rest, condition.Legible)
    (after : List Char) : Absent startsClause (joined (first :: rest)) after := by
  induction rest generalizing first with
  | nil =>
      rw [joined_cons, joinedBehind_nil, List.append_nil]
      exact absent_startsClause
        (Condition.absent_interrupts (legible first List.mem_cons_self) after)
  | cons second rest ih =>
      rw [joined_cons, joinedBehind_cons, absent_append_iff, absent_append_iff]
      refine ⟨?_, ?_, ?_⟩
      · exact absent_startsClause
          (Condition.absent_interrupts (legible first List.mem_cons_self) _)
      · rw [joined_cons, List.append_assoc]
        exact absent_startsClause_and (legible second (by simp)) _
      · exact ih fun condition member => legible condition (List.mem_cons_of_mem _ member)

theorem absent_connective {condition : Condition} (legible : condition.Legible)
    (after : List Char) :
    Absent (fun text => (skipConnective? text).isSome) condition.core after := by
  have quiet := Condition.absent_interrupts legible after
  rw [Condition.text_eq_append legible, absent_append_iff] at quiet
  intro before rest split nonempty
  have nothing := quiet.2 before rest split nonempty
  rw [interrupts, Bool.or_eq_false_iff] at nothing
  exact nothing.2

/-- Legible conditions that are joined are divided between them. -/
theorem splitConditions_filterBody (legible : ∀ condition ∈ first :: rest, condition.Legible) :
    splitConditions (filterBody (first :: rest)) = (first :: rest).map Condition.core := by
  have here := legible first List.mem_cons_self
  induction rest generalizing first with
  | nil =>
      rw [filterBody, joinedBehind_nil, List.append_nil,
        splitConditions_of_absent (absent_connective here [])]
      rfl
  | cons second rest ih =>
      have legibleSecond := legible second (by simp)
      have later := ih (fun condition member => legible condition (List.mem_cons_of_mem _ member))
        legibleSecond
      have skipped := skipBlanks?_joined legibleSecond rest []
      rw [List.append_nil, List.append_nil] at skipped
      have between : splitConditions (joinedBehind (second :: rest)) =
          [] :: (second :: rest).map Condition.core := by
        rw [← later]
        exact splitConditions_and skipped
      rw [filterBody, splitConditions_append (absent_connective here _) between, List.append_nil]
      rfl

end SqlPipeline
