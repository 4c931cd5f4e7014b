import SqlPipeline.Proofs.Sql.Fragments
import SqlPipeline.Proofs.Sql.RoundTrip

/-!
# Filters that compare columns with numbers

The columns of such a filter may be called like keywords, so a filter can end early and its
conditions can be divided in other places than between them. Still no grouping is found in it, there
are no parentheses, and reading it fails for no numbers but those with too many digits
(`Parts.Numeric.filter_succeeds`). Which filter is found depends on the clauses and, as the alias
may be taken for the keyword, on how the alias ends (`Parts.Numeric.filter?_text_congr`).
-/

namespace SqlPipeline

open Text Clause

/-- A condition that compares a column with a whole number. The column may be called like a
keyword. -/
structure Condition.ComparesNumber (condition : Condition) : Prop where
  column : PlainName condition.column.toList
  op : condition.op ∈ comparisons
  value : ∃ number, condition.value = .int number

theorem mem_signs_of_mem_symbol {op : Operator} (compares : op ∈ comparisons) :
    ∀ c ∈ op.symbol.toList, c ∈ "!=<>".toList := by
  revert op
  decide

/-- A test fails throughout joined conditions when it fails in columns and numbers and at the signs
between them. -/
theorem absent_joined {test : List Char → Bool} {conditions : List Condition}
    (numeric : ∀ condition ∈ conditions, condition.ComparesNumber)
    (inColumn : ∀ name sign rest, PlainName name → sign ∈ '!' :: comparisonSigns →
      Absent test name (' ' :: sign :: rest))
    (between : ∀ c ∈ " AND!=<>".toList, ∀ rest, test (c :: rest) = false)
    (inNumber : ∀ condition ∈ conditions, ∀ after : List Char, (∀ c ∈ after.head?, c = ' ') →
      Absent test condition.value.toSql.toList after) : Absent test (joined conditions) [] := by
  induction conditions with
  | nil => exact absent_nil
  | cons first rest ih =>
      have later := ih (fun other member => numeric other (List.mem_cons_of_mem _ member))
        fun other member => inNumber other (List.mem_cons_of_mem _ member)
      have here := numeric first List.mem_cons_self
      rcases symbol_of_mem_comparisons here.op with ⟨sign, others, symbol, isSign, -⟩
      have behind : (∀ c ∈ (joinedBehind rest).head?, c = ' ') ∧
          Absent test (joinedBehind rest) [] := by
        cases rest with
        | nil => exact ⟨by simp [joinedBehind_nil], absent_nil⟩
        | cons second rest =>
            rw [joinedBehind_cons, absent_append_iff]
            refine ⟨?_, absent_of_forall fun c member => between c ?_, later⟩
            · rintro c first
              cases first
              rfl
            · revert c
              decide
      rw [joined_cons, Condition.text_eq here.op, absent_append_iff, absent_append_iff,
        absent_cons_iff, absent_append_iff, absent_cons_iff]
      refine ⟨⟨?_, between ' ' (by decide) _, ?_, between ' ' (by decide) _, ?_⟩, behind.2⟩
      · rw [symbol]
        exact inColumn _ sign _ here.column isSign
      · refine absent_of_forall fun c member => between c ?_
        exact List.mem_append_right " AND".toList (mem_signs_of_mem_symbol here.op c member)
      · rw [List.append_nil]
        exact inNumber first List.mem_cons_self _ behind.1

variable {conditions : List Condition}

theorem value_of_comparesNumber {condition : Condition} (numeric : condition.ComparesNumber) :
    ∃ number, condition.value = .int number ∧
      condition.value.toSql.toList = (toString number).toList := by
  rcases numeric.value with ⟨number, value⟩
  exact ⟨number, value, by rw [value, Literal.toSql, Literal.toValue, Value.toSql]⟩

theorem overlongHere_of_not_digit {c : Char} (other : isDigit c = false) (rest : List Char) :
    overlongHere (c :: rest) = false := by
  rw [overlongHere, List.takeWhile_cons_of_neg (by simp [other])]
  rfl

theorem closes_sign {sign : Char} (isSign : sign ∈ '!' :: comparisonSigns) (rest : List Char) :
    closes (' ' :: sign :: rest) = false := by
  have solid : isBlank sign = false := by
    revert sign
    decide
  have behind : trimLeft (' ' :: sign :: rest) = sign :: rest := by
    rw [trimLeft, List.dropWhile_cons_of_pos (by decide)]
    exact trimLeft_of_solid solid
  have member : ('!' :: comparisonSigns).contains sign = true := List.contains_iff_mem.mpr isSign
  rw [closes, behind, List.head?_cons, List.head?_cons, Option.all_some, Option.all_some, member,
    Bool.not_true, Bool.and_false]

/-- Behind the digits at the end of a column its operator follows. -/
theorem absent_overlongHere_name {name : List Char} {sign : Char} (plain : PlainName name)
    (isSign : sign ∈ '!' :: comparisonSigns) (rest : List Char) :
    Absent overlongHere name (' ' :: sign :: rest) := by
  rintro before back rfl -
  have noDigit : isDigit ' ' = false := by decide
  rw [overlongHere, Bool.and_eq_false_iff]
  refine Or.inr ?_
  rw [List.dropWhile_append]
  rcases behind : back.dropWhile isDigit with _ | ⟨c, others⟩
  · rw [List.isEmpty_nil, if_pos rfl, List.dropWhile_cons_of_neg (by simp [noDigit])]
    exact closes_sign isSign rest
  · have inName : c ∈ before ++ back := by
      refine List.mem_append_right _ ((List.dropWhile_suffix isDigit).mem ?_)
      rw [behind]
      exact List.mem_cons_self
    have noSemicolon : c ≠ ';' := by
      rintro rfl
      exact plain.not_mem (by decide) inName
    simp [closes, (plain.facts inName).2.1, noSemicolon]

/-- A number that can be read back is not overlong. -/
theorem absent_overlongHere_number {condition : Condition} {after : List Char}
    (numeric : condition.ComparesNumber) (short : condition.Short)
    (joint : ∀ c ∈ after.head?, c = ' ') :
    Absent overlongHere condition.value.toSql.toList after := by
  rcases value_of_comparesNumber numeric with ⟨number, value, written⟩
  have few := short number value
  rw [written, toList_toString, absent_append_iff]
  constructor
  · refine absent_of_forall fun c member => overlongHere_of_not_digit ?_
    have isSign : c = '-' := by
      split at member
      · exact List.mem_singleton.mp member
      · cases member
    rw [isSign]
    decide
  · rintro before rest split -
    have stops : after.takeWhile isDigit = [] := by
      rcases after with _ | ⟨c, after⟩
      · rfl
      · rw [joint c rfl]
        exact List.takeWhile_cons_of_neg (by decide)
    have shorter : ((rest ++ after).takeWhile isDigit).length ≤ rest.length := by
      rw [List.takeWhile_append, stops, List.append_nil]
      split
      · exact le_rfl
      · exact (List.takeWhile_prefix isDigit).length_le
    have lengths := congrArg List.length split
    rw [List.length_append] at lengths
    rw [overlongHere, decide_eq_false (by omega), Bool.false_and]

/-- No second body is looked for: there always is a first one. -/
theorem exists_bodyAfterBlanks? {c : Char} (solid : isBlank c = false) (rest : List Char) :
    ∃ body, bodyAfterBlanks? endsFilter (' ' :: c :: rest) = some body := by
  rcases exists_shortestBody? (by decide : endsFilter [] = true) c rest with ⟨body, found⟩
  exact ⟨body, bodyAfterBlanks?_append isRun_space solid found⟩

/-- The parts of a statement that compares columns with numbers. -/
structure Parts.Numeric (parts : Parts) : Prop where
  framed : parts.Framed
  nonempty : parts.conditions ≠ []
  numeric : ∀ condition ∈ parts.conditions, condition.ComparesNumber
  noGrouping : parts.columns = []

namespace Parts.Numeric

variable {parts other : Parts}

theorem clauses_eq (numeric : parts.Numeric) :
    parts.clauses = " WHERE ".toList ++ joined parts.conditions := by
  have nonempty := numeric.nonempty
  rw [clauses, numeric.noGrouping]
  cases conditions : parts.conditions with
  | nil => exact absurd conditions nonempty
  | cons first rest => exact List.append_nil _

theorem absent_clauses (numeric : parts.Numeric) {test : List Char → Bool}
    (keyword : ∀ c ∈ " WHERE ".toList, ∀ rest, test (c :: rest) = false)
    (isAbsent : Absent test (joined parts.conditions) []) : Absent test parts.clauses [] := by
  rw [numeric.clauses_eq, absent_append_iff]
  exact ⟨absent_of_forall keyword, isAbsent⟩

theorem absent_startsGrouping (numeric : parts.Numeric) :
    Absent startsGrouping parts.clauses [] := by
  have noGroup {c : Char} (other : isLetter 'G' c = false) (rest : List Char) :
      startsGrouping (c :: rest) = false := by
    have noKeyword : keyword? "GROUP".toList (c :: rest) = none := keyword?_of_not_letter other
    rw [startsGrouping, keywords?_of_none noKeyword]
    rfl
  refine numeric.absent_clauses (fun c member => noGroup ?_)
    (absent_joined numeric.numeric ?_ (fun c member => noGroup ?_) ?_)
  · revert c
    decide
  · intro name sign rest plain isSign
    have notBlank : isBlank sign = false ∧ isLetter 'B' sign = false := by
      revert sign
      decide
    refine absent_startsGrouping_word plain.solid (endsWord_space _) ?_
    rw [skipBlanks?_space notBlank.1]
    exact keyword?_of_not_letter notBlank.2
  · revert c
    decide
  · rintro condition member after -
    rcases value_of_comparesNumber (numeric.numeric condition member) with ⟨number, -, written⟩
    rw [written]
    refine absent_of_forall fun c inNumber => noGroup ?_
    exact (isNumeral_facts (isNumeral_of_mem_toString inNumber)).1.2 'G' (by decide)

theorem grouping?_text (numeric : parts.Numeric) : grouping? parts.text = none := by
  have skipped := findSome?_groupingBody?_append false numeric.absent_startsGrouping
  rw [List.append_nil] at skipped
  rw [numeric.framed.grouping?_text, grouping?_eq, skipped]
  rfl

theorem parenthesis_not_mem_clauses (numeric : parts.Numeric) : '(' ∉ parts.clauses := by
  have here {c : Char} (other : c ≠ '(') (rest : List Char) :
      ((c :: rest).head? == some '(') = false := by
    simpa using other
  have absent : Absent (fun text => text.head? == some '(') parts.clauses [] := by
    refine numeric.absent_clauses ?_ (absent_joined numeric.numeric ?_ ?_ ?_)
    · refine fun c member => here ?_
      revert c
      decide
    · intro name sign rest plain isSign
      refine absent_of_forall fun c member => here ?_
      rintro rfl
      exact plain.not_mem (by decide) member
    · refine fun c member => here ?_
      revert c
      decide
    · rintro condition member after -
      rcases value_of_comparesNumber (numeric.numeric condition member) with ⟨number, -, written⟩
      rw [written]
      refine absent_of_forall fun c inNumber => here ?_
      exact (isNumeral_facts (isNumeral_of_mem_toString inNumber)).2.2.1
  intro member
  rcases List.append_of_mem member with ⟨before, after, split⟩
  have notHere := absent before ('(' :: after) split (by simp)
  simp at notHere

/-- All clauses are taken for a filter, if the alias is taken for its keyword. -/
theorem exists_body (numeric : parts.Numeric) :
    ∃ body, bodyAfterBlanks? endsFilter parts.clauses = some body := by
  rw [numeric.clauses_eq]
  exact exists_bodyAfterBlanks? (by decide) _

/-- The filter that is found depends on the clauses and on the end of the alias only. -/
theorem filter?_text_congr (numeric : parts.Numeric) (otherNumeric : other.Numeric)
    (clauses : parts.clauses = other.clauses)
    (alike : EndsInWhere parts.sourceAlias ↔ EndsInWhere other.sourceAlias) :
    filter? parts.text = filter? other.text := by
  by_cases ends : EndsInWhere parts.sourceAlias
  · rcases numeric.exists_body with ⟨body, isBody⟩
    rw [numeric.framed.filter?_text_of_endsInWhere ends isBody]
    rw [clauses] at isBody
    rw [otherNumeric.framed.filter?_text_of_endsInWhere (alike.mp ends) isBody]
  · have otherEnds : ¬EndsInWhere other.sourceAlias := fun holds => ends (alike.mpr holds)
    rw [numeric.framed.filter?_text_of_apart fun _ => ends,
      otherNumeric.framed.filter?_text_of_apart fun _ => otherEnds, clauses]

/-- Numbers that can be read back are, wherever the filter is taken to start. -/
theorem filter_succeeds (numeric : parts.Numeric)
    (short : ∀ condition ∈ parts.conditions, condition.Short) :
    (Recovery.filter parts.text).Succeeds := by
  have other {c : Char} (noDigit : isDigit c = false) := overlongHere_of_not_digit noDigit
  have absent : Absent overlongHere parts.clauses [] := by
    refine numeric.absent_clauses (fun c member => other ?_)
      (absent_joined numeric.numeric ?_ (fun c member => other ?_) ?_)
    · revert c
      decide
    · exact fun name sign rest plain isSign => absent_overlongHere_name plain isSign rest
    · revert c
      decide
    · exact fun condition member after =>
        absent_overlongHere_number (numeric.numeric condition member) (short condition member)
  rw [Recovery.filter_succeeds_iff]
  rintro ⟨body, isFilter, fragment, member, overlong⟩
  have inClauses : Enclosed body parts.clauses := by
    by_cases ends : EndsInWhere parts.sourceAlias
    · rcases numeric.exists_body with ⟨whole, isBody⟩
      rw [numeric.framed.filter?_text_of_endsInWhere ends isBody] at isFilter
      cases isFilter
      exact enclosed_of_bodyAfterBlanks? isBody
    · rw [numeric.framed.filter?_text_of_apart fun _ => ends] at isFilter
      exact enclosed_of_filter? isFilter
  exact not_overlongFragment absent ((enclosed_of_mem_fragments member).trans inClauses) overlong

end Parts.Numeric

end SqlPipeline
