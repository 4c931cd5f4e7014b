import Mathlib.Data.List.Infix
import SqlPipeline.Proofs.Sql.LiteralText
import SqlPipeline.Proofs.Sql.OperatorPlace
import SqlPipeline.Proofs.Text.Replacement

/-!
# Operators in letters

The operators `LIKE`, `IN`, `IS NULL` and `IS NOT NULL` are looked for in the whole fragment, with
`LIKE` before `IN` and `IN` before the tests for null. So a condition is lost when its column, or an
item of its list, holds the letters of its operator or of an earlier one. `readConditions_toSql_iff`
says that nothing else can go wrong: over plain names and values a condition with one of these
operators is read back exactly when it is `Recognisable`.
-/

namespace SqlPipeline

open Text Clause

/-- A text in which no connective starts. -/
def Undivided (text : List Char) : Prop :=
  Absent (fun text => (skipConnective? text).isSome) text []

instance (text : List Char) : Decidable (Undivided text) :=
  inferInstanceAs (Decidable (Absent _ text []))

namespace Undivided

theorem cons {c : Char} {rest : List Char} (solid : isBlank c = false)
    (undivided : Undivided rest) : Undivided (c :: rest) := by
  refine absent_cons_iff.mpr ⟨?_, undivided⟩
  rw [List.cons_append, skipConnective?, skipBlanks?_of_solid solid]
  rfl

theorem append {word rest : List Char} (solid : Solid word) (undivided : Undivided rest) :
    Undivided (word ++ rest) := by
  induction word with
  | nil => exact undivided
  | cons c word ih =>
      have later := ih fun other member => solid other (List.mem_cons_of_mem _ member)
      exact cons (solid c List.mem_cons_self) later

theorem of_solid {word : List Char} (solid : Solid word) : Undivided word := by
  rw [← List.append_nil word]
  exact append solid absent_nil

theorem space {c : Char} {rest : List Char} (bars : Bars c) (undivided : Undivided (c :: rest)) :
    Undivided (' ' :: c :: rest) := by
  refine absent_cons_iff.mpr ⟨?_, undivided⟩
  have nothing : interrupts (' ' :: c :: (rest ++ [])) = false := interrupts_space bars
  rw [interrupts, Bool.or_eq_false_iff] at nothing
  exact nothing.2

end Undivided

/-- A character of a pattern: an ASCII letter or digit, a percent sign or an underscore. -/
def IsPatternSign (c : Char) : Prop :=
  c.isAlphanum = true ∨ c = '%' ∨ c = '_'

/-- The values that are written with the operators in letters. -/
inductive KeywordOperand : Operator → Literal → Prop where
  | like {pattern : String} (characters : ∀ c ∈ pattern.toList, IsPatternSign c) :
      KeywordOperand .like (.str pattern)
  | isIn {first : String} {rest : List String}
      (characters : ∀ item ∈ first :: rest, ∀ c ∈ item.toList, c.isAlphanum = true) :
      KeywordOperand .isIn (.list (first :: rest))
  | isNull : KeywordOperand .isNull .null
  | isNotNull : KeywordOperand .isNotNull .null

/-- The operators in letters that are read back. -/
def letterOperators : List Operator := [.like, .isIn, .isNull, .isNotNull]

/-- A condition on a plain name with an operator in letters and a plain value. -/
structure Condition.Worded (condition : Condition) : Prop where
  column : PlainName condition.column.toList
  operand : KeywordOperand condition.op condition.value

/-- Whether neither the column nor an item holds the letters of the operator or an earlier one. -/
structure Condition.Recognisable (condition : Condition) : Prop where
  noLike : ¬"LIKE".toList <:+: upper condition.column.toList
  noIn : condition.op ≠ .like → ¬"IN".toList <:+: upper condition.column.toList
  noLikeInItems : ∀ items, condition.value = .list items →
    ∀ item ∈ items, ¬"LIKE".toList <:+: upper item.toList

section Items

variable {items : List String} {sought : List Char}

theorem plainItem_of_isAlphanum
    (characters : ∀ item ∈ items, ∀ c ∈ item.toList, c.isAlphanum = true) :
    ∀ item ∈ items, PlainItem item.toList := by
  have signs : ∀ sign ∈ [',', '(', ')', '\'', '"'], sign.isAlphanum = false := by decide
  intro item known sign isSign member
  have other := signs sign isSign
  rw [characters item known sign member] at other
  cases other

theorem itemsBehind_cons (second : String) (rest : List String) :
    itemsBehind (second :: rest) = ',' :: ' ' :: itemTexts (second :: rest) := rfl

theorem infix_itemTexts {item : String} (known : item ∈ items)
    (plain : ∀ item ∈ items, PlainItem item.toList) : item.toList <:+: itemTexts items := by
  induction items with
  | nil => cases known
  | cons first rest ih =>
      rw [itemTexts_cons]
      rcases List.mem_cons.mp known with rfl | later
      · rw [toList_quoteLiteral_of_plainItem (plain item List.mem_cons_self)]
        exact ⟨['\''], '\'' :: itemsBehind rest, by simp⟩
      · have inRest := ih later fun other member => plain other (List.mem_cons_of_mem _ member)
        rcases rest with _ | ⟨second, rest⟩
        · cases later
        · rw [itemsBehind_cons]
          exact (inRest.trans (List.suffix_append [',', ' '] _).isInfix).trans
            (List.suffix_append _ _).isInfix

theorem upper_itemTexts_cons {first : String} (plain : PlainItem first.toList)
    (rest : List String) : upper (itemTexts (first :: rest)) =
      '\'' :: (upper first.toList ++ '\'' :: upper (itemsBehind rest)) := by
  have apostrophe : upperChar '\'' = ['\''] := rfl
  rw [itemTexts_cons, toList_quoteLiteral_of_plainItem plain]
  simp [upper_append, upper_cons, apostrophe]

/-- A word that stands in a list in upper case stands in an item. -/
theorem exists_of_infix_upper_itemTexts (noSign : ∀ sign ∈ ", '".toList, sign ∉ sought)
    (nonempty : sought ≠ []) (plain : ∀ item ∈ items, PlainItem item.toList)
    (occurs : sought <:+: upper (itemTexts items)) :
    ∃ item ∈ items, sought <:+: upper item.toList := by
  have comma := noSign ',' (by decide)
  have blank := noSign ' ' (by decide)
  have apostrophe := noSign '\'' (by decide)
  induction items with
  | nil => exact absurd (List.infix_nil.mp occurs) nonempty
  | cons first rest ih =>
      rw [upper_itemTexts_cons (plain first List.mem_cons_self)] at occurs
      have inside := infix_of_infix_cons apostrophe nonempty occurs
      rcases infix_of_infix_append_cons apostrophe inside with inFirst | behind
      · exact ⟨first, List.mem_cons_self, inFirst⟩
      · rcases rest with _ | ⟨second, rest⟩
        · exact absurd (List.infix_nil.mp behind) nonempty
        · have afterComma := infix_of_infix_cons comma nonempty behind
          have afterBlank := infix_of_infix_cons blank nonempty afterComma
          rcases ih (fun item member => plain item (List.mem_cons_of_mem _ member)) afterBlank with
            ⟨item, known, inItem⟩
          exact ⟨item, List.mem_cons_of_mem _ known, inItem⟩

/-- A word that stands behind the operator of a list in upper case stands in an item. -/
theorem exists_of_infix_upper_list (noSign : ∀ sign ∈ ", '()".toList, sign ∉ sought)
    (notIn : ¬sought <:+: "IN".toList) (plain : ∀ item ∈ items, PlainItem item.toList)
    (occurs : sought <:+: "IN".toList ++ upper (' ' :: (Literal.toSql (.list items)).toList)) :
    ∃ item ∈ items, sought <:+: upper item.toList := by
  have nonempty : sought ≠ [] := fun empty => notIn (empty ▸ List.nil_infix)
  have capitals : upper (' ' :: (Literal.toSql (.list items)).toList) =
      ' ' :: '(' :: (upper (itemTexts items) ++ ')' :: []) := by
    rw [toList_toSql_list, upper_cons, upper_cons, upper_append]
    rfl
  rw [capitals] at occurs
  rcases infix_of_infix_append_cons (noSign ' ' (by decide)) occurs with inSymbol | behind
  · exact absurd inSymbol notIn
  · have inside := infix_of_infix_cons (noSign '(' (by decide)) nonempty behind
    rcases infix_of_infix_append_cons (noSign ')' (by decide)) inside with inItems | empty
    · have around : ∀ sign ∈ ", '".toList, sign ∈ ", '()".toList := by decide
      exact exists_of_infix_upper_itemTexts (fun sign isSign => noSign sign (around sign isSign))
        nonempty plain inItems
    · exact absurd (List.infix_nil.mp empty) nonempty

/-- No connective starts in a list of items without blanks. -/
theorem undivided_itemTexts (solid : ∀ item ∈ items, Solid (quoteLiteral item).toList)
    {after : List Char} (undivided : Undivided after) : Undivided (itemTexts items ++ after) := by
  induction items with
  | nil => exact undivided
  | cons first rest ih =>
      have later := ih fun item member => solid item (List.mem_cons_of_mem _ member)
      rw [itemTexts_cons, List.append_assoc]
      apply Undivided.append (solid first List.mem_cons_self)
      rcases rest with _ | ⟨second, rest⟩
      · exact undivided
      · rw [itemTexts_cons, toList_quoteLiteral] at later
        rw [itemsBehind_cons, itemTexts_cons, toList_quoteLiteral]
        exact Undivided.cons (by decide) (Undivided.space (by decide) later)

end Items

/-- No connective starts at the blank in front of an operator in letters. -/
theorem undivided_symbol {op : Operator} (inLetters : op ∈ letterOperators) {rest : List Char}
    (undivided : Undivided (op.symbol.toList ++ rest)) :
    Undivided (' ' :: (op.symbol.toList ++ rest)) := by
  have spelled : ∀ op ∈ letterOperators, ∀ c ∈ op.symbol.toList.take 1, Bars c := by decide
  have first := spelled op inLetters
  rcases List.exists_cons_of_ne_nil (symbol_ne_nil op) with ⟨c, others, symbol⟩
  rw [symbol] at undivided first ⊢
  exact Undivided.space (first c (by simp)) undivided

/-- What stands behind the operator of a condition. -/
def rightSide (op : Operator) (value : Literal) : List Char :=
  if op.testsNull then [] else ' ' :: value.toSql.toList

/-- What stands behind an operator in letters: it is read, and nothing else is found in it. -/
structure Completes (op : Operator) (right : List Char) (value : Literal) : Prop where
  undivided : Undivided (op.symbol.toList ++ right)
  last : ∃ front c, op.symbol.toList ++ right = front ++ [c] ∧ isBlank c = false
  noSign : ∀ sign ∈ comparisonSigns, sign ∉ op.symbol.toList ++ right
  reads : Literal.ofText (some op) (trim right) = .ok value

theorem isPatternSign_facts {c : Char} (character : IsPatternSign c) :
    isBlank c = false ∧ c ∉ comparisonSigns := by
  have ascii : c.toNat < 128 := by
    rcases character with alphanum | rfl | rfl
    · exact ascii_of_isAlphanum alphanum
    · decide
    · decide
  exact of_ascii (fun c => (c.isAlphanum = true ∨ c = '%' ∨ c = '_') →
    isBlank c = false ∧ c ∉ comparisonSigns) (by decide) ascii character

theorem solid_quoteLiteral {text : String}
    (characters : ∀ c ∈ text.toList, IsPatternSign c) :
    Solid (quoteLiteral text).toList := by
  intro c member
  rcases eq_or_mem_of_mem_quoteLiteral member with rfl | inText
  · decide
  · exact (isPatternSign_facts (characters c inText)).1

/-- A text with solid ends that is read as a value completes a condition. -/
theorem completes_of_reads {op : Operator} (takesValue : op ∈ [Operator.like, .isIn])
    {text rest front : List Char} {first last : Char} {value : Literal}
    (head : text = first :: rest) (bars : Bars first) (ending : text = front ++ [last])
    (solid : isBlank last = false) (undivided : Undivided text)
    (noSign : ∀ sign ∈ comparisonSigns, sign ∉ text)
    (reads : Literal.ofText (some op) text = .ok value) : Completes op (' ' :: text) value := by
  have symbols : ∀ op ∈ [Operator.like, .isIn], Solid op.symbol.toList ∧
      ∀ sign ∈ comparisonSigns, sign ∉ op.symbol.toList ∧ sign ≠ ' ' := by decide
  refine ⟨?_, ?_, ?_, ?_⟩
  · rw [head] at undivided ⊢
    exact Undivided.append (symbols op takesValue).1 (Undivided.space bars undivided)
  · rw [ending]
    exact ⟨op.symbol.toList ++ ' ' :: front, last, by simp, solid⟩
  · intro sign isSign
    have known := (symbols op takesValue).2 sign isSign
    simp [known.1, known.2, noSign sign isSign]
  · rw [trim_space (trim_of_solid head bars.1 ending solid)]
    exact reads

theorem completes_like {pattern : String}
    (characters : ∀ c ∈ pattern.toList, IsPatternSign c) :
    Completes .like (' ' :: (Literal.toSql (.str pattern)).toList) (.str pattern) := by
  have written := toList_toSql_str pattern
  have solid := solid_quoteLiteral characters
  rw [toList_quoteLiteral, ← written] at solid
  refine completes_of_reads (by decide) written (by decide)
    (written.trans List.cons_append.symm) (by decide) (Undivided.of_solid solid) ?_
    (ofText_toSql_str (some .like) pattern)
  have apostrophe : ∀ sign ∈ comparisonSigns, sign ≠ '\'' := by decide
  intro sign isSign
  rw [written]
  refine not_mem_literal (apostrophe sign isSign) ?_
  exact fun member => (isPatternSign_facts (characters sign member)).2 isSign

theorem completes_isIn {first : String} {rest : List String}
    (characters : ∀ item ∈ first :: rest, ∀ c ∈ item.toList, c.isAlphanum = true) :
    Completes .isIn (' ' :: (Literal.toSql (.list (first :: rest))).toList)
      (.list (first :: rest)) := by
  have plain := plainItem_of_isAlphanum characters
  have written := toList_toSql_list (first :: rest)
  have closing : Undivided [')'] := Undivided.of_solid (by decide)
  have solid : ∀ item ∈ first :: rest, Solid (quoteLiteral item).toList := fun item member =>
    solid_quoteLiteral fun c inItem => Or.inl (characters item member c inItem)
  have undivided := Undivided.cons (by decide : isBlank '(' = false)
    (undivided_itemTexts solid closing)
  rw [← written] at undivided
  refine completes_of_reads (by decide) written (by decide)
    (written.trans List.cons_append.symm) (by decide) undivided ?_
    (ofText_toSql_list rfl plain)
  have around : ∀ sign ∈ comparisonSigns, sign ∉ ", '".toList ∧ sign ≠ '(' ∧ sign ≠ ')' := by
    decide
  intro sign isSign
  have inItems : sign ∉ itemTexts (first :: rest) := by
    intro member
    rcases exists_of_mem_itemTexts member with between | ⟨item, known, inItem⟩
    · exact (around sign isSign).1 between
    · exact (isPatternSign_facts (Or.inl (characters item known sign inItem))).2 isSign
  rw [written]
  simp [inItems, (around sign isSign).2.1, (around sign isSign).2.2]

theorem completes_isNull : Completes .isNull [] .null where
  undivided := by decide
  last := ⟨"IS NUL".toList, 'L', by decide, by decide⟩
  noSign := by decide
  reads := rfl

theorem completes_isNotNull : Completes .isNotNull [] .null where
  undivided := by decide
  last := ⟨"IS NOT NUL".toList, 'L', by decide, by decide⟩
  noSign := by decide
  reads := rfl

theorem mem_comparisons_or (op : Operator) :
    op ∈ comparisons ∨ op ∈ letterOperators ∨ op = .notIn := by
  cases op <;> decide

namespace KeywordOperand

variable {op other : Operator} {value : Literal} {items : List String}

theorem completes (operand : KeywordOperand op value) :
    Completes op (rightSide op value) value := by
  cases operand with
  | like characters => exact completes_like characters
  | isIn characters => exact completes_isIn characters
  | isNull => exact completes_isNull
  | isNotNull => exact completes_isNotNull

theorem mem_letterOperators (operand : KeywordOperand op value) : op ∈ letterOperators := by
  cases operand <;> decide

theorem eq_isIn (operand : KeywordOperand op (.list items)) : op = .isIn := by
  cases operand
  rfl

theorem infix_rightSide (operand : KeywordOperand op (.list items)) {item : String}
    (known : item ∈ items) : item.toList <:+: rightSide op (.list items) := by
  cases operand with
  | @isIn first rest characters =>
      have plain := plainItem_of_isAlphanum characters
      have written : rightSide .isIn (.list (first :: rest)) =
          " (".toList ++ itemTexts (first :: rest) ++ [')'] := by
        rw [rightSide, toList_toSql_list]
        rfl
      rw [written]
      exact (infix_itemTexts known plain).trans ⟨" (".toList, [')'], rfl⟩

/-- Behind a column no earlier operator in letters is found, if no item holds `LIKE`. -/
theorem cut?_upper_rightSide (operand : KeywordOperand op value)
    (noLikeInItems : ∀ items, value = .list items →
      ∀ item ∈ items, ¬"LIKE".toList <:+: upper item.toList)
    (inLetters : other ∈ letterOperators) (earlier : other ∈ earlierOperators op) :
    cut? other.symbol.toList (op.symbol.toList ++ upper (rightSide op value)) = none := by
  have inNullTests : ∀ op ∈ [Operator.isNull, .isNotNull], ∀ other ∈ letterOperators,
      other ∈ earlierOperators op →
        cut? other.symbol.toList (op.symbol.toList ++ upper []) = none := by decide
  cases operand with
  | like =>
      have none : ∀ other ∈ letterOperators, other ∉ earlierOperators .like := by decide
      exact absurd earlier (none other inLetters)
  | isIn characters =>
      have only : ∀ other ∈ letterOperators, other ∈ earlierOperators .isIn → other = .like := by
        decide
      have plain := plainItem_of_isAlphanum characters
      rw [only other inLetters earlier, cut?_eq_none_iff_not_isInfix]
      intro occurs
      rcases exists_of_infix_upper_list (by decide) (by decide) plain occurs with
        ⟨item, known, inItem⟩
      exact noLikeInItems _ rfl item known inItem
  | isNull => exact inNullTests .isNull (by decide) other inLetters earlier
  | isNotNull => exact inNullTests .isNotNull (by decide) other inLetters earlier

end KeywordOperand

/-- No operator in letters goes on, behind a blank, like one of them begins. -/
theorem not_prefix_of_suffix {op other : Operator} (inLetters : op ∈ letterOperators)
    (otherInLetters : other ∈ letterOperators) {tail rest : List Char}
    (inside : ' ' :: tail <:+ other.symbol.toList) : ¬tail <+: op.symbol.toList ++ rest := by
  have behindBlank : ∀ other ∈ letterOperators, ∀ suffix ∈ other.symbol.toList.tails,
      suffix.head? = some ' ' → suffix.tail.head? = some 'N' := by decide
  have beginning : ∀ op ∈ letterOperators, ∀ c ∈ op.symbol.toList.take 1, c ≠ 'N' := by decide
  have first := beginning op inLetters
  have goesOn := behindBlank other otherInLetters _ ((List.mem_tails _ _).mpr inside) rfl
  rcases List.head?_eq_some_iff.mp goesOn with ⟨tail, rfl⟩
  rcases List.exists_cons_of_ne_nil (symbol_ne_nil op) with ⟨c, others, symbol⟩
  rw [symbol] at first ⊢
  rw [List.cons_append, List.cons_prefix_cons]
  rintro ⟨rfl, -⟩
  exact first 'N' (by simp) rfl

/-- The column that is read is no longer than what stands in front of the operator. -/
theorem length_column_le (text : List Char) (place : Nat) :
    (String.ofList (without '"' (trim (text.take place)))).toList.length ≤ place := by
  have kept : (without '"' (trim (text.take place))).length ≤ (trim (text.take place)).length :=
    List.length_filter_le _ _
  have trimmed := length_trim_le (text.take place)
  have taken := List.length_take_le place text
  rw [String.toList_ofList]
  omega

namespace Condition

theorem text_eq_right (condition : Condition) : condition.text =
    condition.column.toList ++
      ' ' :: (condition.op.symbol.toList ++ rightSide condition.op condition.value) := by
  rw [text, toSql, rightSide]
  split <;> simp

theorem upper_text (condition : Condition) : upper condition.text =
    upper condition.column.toList ++
      ' ' :: (condition.op.symbol.toList ++ upper (rightSide condition.op condition.value)) := by
  have space : upperChar ' ' = [' '] := rfl
  rw [text_eq_right, upper_append, upper_cons, upper_append, upper_symbol, space,
    List.singleton_append]

variable {condition : Condition}

/-- An operator in letters that is not found in the column is looked for behind it. -/
theorem Worded.cut?_upper_text (worded : condition.Worded) {other : Operator}
    (inLetters : other ∈ letterOperators)
    (absent : ¬other.symbol.toList <:+: upper condition.column.toList) :
    cut? other.symbol.toList (upper condition.text) =
      (cut? other.symbol.toList
        (condition.op.symbol.toList ++ upper (rightSide condition.op condition.value))).map
          fun (before, after) => (upper condition.column.toList ++ ' ' :: before, after) := by
  rw [upper_text]
  exact cut?_append_cons_of_not_isInfix absent fun tail inside =>
    not_prefix_of_suffix worded.operand.mem_letterOperators inLetters inside

/-- The column of a recognisable condition holds neither its operator nor an earlier one. -/
theorem Recognisable.not_infix_column (recognisable : condition.Recognisable)
    (worded : condition.Worded) {other : Operator} (inLetters : other ∈ letterOperators)
    (first : other ∈ earlierOperators condition.op ++ [condition.op]) :
    ¬other.symbol.toList <:+: upper condition.column.toList := by
  have noBlank : ' ' ∉ upper condition.column.toList := fun member => by
    have solid := solid_upper worded.column.solid worded.column.ascii ' ' member
    cases solid
  simp only [letterOperators, List.mem_cons, List.not_mem_nil, or_false] at inLetters
  rcases inLetters with rfl | rfl | rfl | rfl
  · exact recognisable.noLike
  · refine recognisable.noIn fun isLike => ?_
    rw [isLike] at first
    exact absurd first (by decide)
  · exact fun occurs => noBlank (occurs.subset (by decide))
  · exact fun occurs => noBlank (occurs.subset (by decide))

theorem Worded.sign_not_mem_text (worded : condition.Worded) :
    ∀ sign ∈ comparisonSigns, sign ∉ condition.text := by
  have other : ∀ sign ∈ comparisonSigns, sign ≠ ' ' ∧ ¬(sign.isAlphanum = true ∨ sign = '_') := by
    decide
  intro sign isSign
  rw [text_eq_right, List.mem_append, List.mem_cons, not_or, not_or]
  exact ⟨worded.column.not_mem (other sign isSign).2, (other sign isSign).1,
    worded.operand.completes.noSign sign isSign⟩

/-- The operator of a recognisable condition is found behind the column. -/
theorem Recognisable.findOperator?_text (recognisable : condition.Recognisable)
    (worded : condition.Worded) :
    findOperator? condition.text = some (condition.op, condition.column.toList.length + 1) := by
  have inLetters := worded.operand.mem_letterOperators
  have noEarlier : ∀ other ∈ letterOperators, other ∈ earlierOperators condition.op →
      cut? other.symbol.toList (upper condition.text) = none := by
    intro other otherInLetters earlier
    have inColumn := recognisable.not_infix_column worded otherInLetters
      (List.mem_append_left _ earlier)
    rw [worded.cut?_upper_text otherInLetters inColumn,
      worded.operand.cut?_upper_rightSide recognisable.noLikeInItems otherInLetters earlier]
    rfl
  rw [findOperator?_eq_some_iff]
  constructor
  · intro other earlier
    rcases mem_comparisons_or other with compares | otherInLetters | rfl
    · have signs : ∀ op ∈ comparisons,
          comparisonSigns.any (op.symbol.toList.contains ·) = true := by decide
      rcases List.any_eq_true.mp (signs other compares) with ⟨sign, isSign, inSymbol⟩
      exact cut?_eq_none_of_not_mem (List.contains_iff_mem.mp inSymbol)
        (sign_not_mem_upper isSign (worded.sign_not_mem_text sign isSign))
    · exact noEarlier other otherInLetters earlier
    · -- `IN` is looked for before `NOT IN`, which ends with it.
      have both : ∀ op ∈ letterOperators, .notIn ∈ earlierOperators op →
          .isIn ∈ earlierOperators op := by decide
      have noIn := noEarlier .isIn (by decide) (both _ inLetters earlier)
      rw [cut?_eq_none_iff_not_isInfix] at noIn ⊢
      have ends : Operator.isIn.symbol.toList <:+: Operator.notIn.symbol.toList :=
        ⟨"NOT ".toList, [], by decide⟩
      exact fun occurs => noIn (ends.trans occurs)
  · have inColumn := recognisable.not_infix_column worded inLetters (by simp)
    rw [worded.cut?_upper_text inLetters inColumn, cut?_append_self (symbol_ne_nil _)]
    exact ⟨_, _, rfl, by simp [length_upper_of_ascii worded.column.ascii]⟩

theorem Recognisable.readFragment_text (recognisable : condition.Recognisable)
    (worded : condition.Worded) : readFragment condition.text = .ok (some condition) := by
  have noQuote : '"' ∉ condition.column.toList := worded.column.not_mem (by decide)
  have split : condition.text = (condition.column.toList ++ [' ']) ++
      (condition.op.symbol.toList ++ rightSide condition.op condition.value) := by
    rw [text_eq_right, List.append_assoc, List.singleton_append]
  have lengthFront : (condition.column.toList ++ [' ']).length =
      condition.column.toList.length + 1 := List.length_append
  refine readFragment_eq_some_iff.mpr ⟨_, recognisable.findOperator?_text worded, ?_, ?_⟩
  · rw [split, ← lengthFront, List.take_left, trim_word_space worded.column.solid,
      without_of_not_mem noQuote, String.ofList_toList]
  · rw [split, ← lengthFront, List.drop_length_add_append, ← String.length_toList, List.drop_left]
    exact worded.operand.completes.reads

/-- A condition with an operator in letters is one fragment. -/
theorem Worded.fragments_text (worded : condition.Worded) :
    fragments condition.text = [condition.text] := by
  have completes := worded.operand.completes
  rcases worded.column.exists_cons with ⟨c, rest, column, solid, -⟩
  rcases completes.last with ⟨front, last, ending, lastSolid⟩
  have undivided : Undivided condition.text := by
    rw [text_eq_right]
    exact Undivided.append worded.column.solid (undivided_symbol worded.operand.mem_letterOperators
      completes.undivided)
  have head : condition.text = c :: (rest ++
      ' ' :: (condition.op.symbol.toList ++ rightSide condition.op condition.value)) := by
    rw [text_eq_right, column, List.cons_append]
  have whole : condition.text = (condition.column.toList ++ ' ' :: front) ++ [last] := by
    rw [text_eq_right, ending, List.append_assoc, List.cons_append]
  exact fragments_of_absent undivided (trim_of_solid head solid whole lastSolid) (by simp [head])

/-- What is read back has neither its operator nor an earlier one in its column. -/
theorem Worded.not_infix_column (worded : condition.Worded)
    (read : readFragment condition.text = .ok (some condition)) {other : Operator}
    (first : other ∈ earlierOperators condition.op ++ [condition.op]) :
    ¬other.symbol.toList <:+: upper condition.column.toList := by
  rcases readFragment_eq_some_iff.mp read with ⟨place, found, column, -⟩
  rcases findOperator?_eq_some_iff.mp found with ⟨noEarlier, before, after, cut, rfl⟩
  rcases List.mem_append.mp first with earlier | own
  · have absent := cut?_eq_none_iff_not_isInfix.mp (noEarlier other earlier)
    intro occurs
    rw [upper_text] at absent
    exact absent (occurs.trans (List.prefix_append _ _).isInfix)
  · rw [List.mem_singleton.mp own]
    rintro ⟨front, back, split⟩
    rw [upper_text, ← split, List.append_assoc] at cut
    -- The operator was found in the column, so that only a part of the column was read.
    have inFront := length_le_of_cut? (symbol_ne_nil _) cut
    have long : condition.column.toList.length ≤ before.length := by
      have short := length_column_le condition.text before.length
      rwa [← column] at short
    have lengths := congrArg List.length split
    rw [length_upper_of_ascii worded.column.ascii] at lengths
    simp only [List.length_append] at lengths
    have positive := List.length_pos_iff.mpr (symbol_ne_nil condition.op)
    omega

/-- No item that is read back holds the letters of `LIKE`. -/
theorem Worded.not_infix_items (worded : condition.Worded)
    (read : readFragment condition.text = .ok (some condition)) {items : List String}
    (isList : condition.value = .list items) :
    ∀ item ∈ items, ¬"LIKE".toList <:+: upper item.toList := by
  intro item known occurs
  have operand := worded.operand
  rw [isList] at operand
  have inRight := operand.infix_rightSide known
  have likeFirst : Operator.like ∈ earlierOperators condition.op := by
    rw [operand.eq_isIn]
    decide
  rcases readFragment_eq_some_iff.mp read with ⟨place, found, -⟩
  have absent := (findOperator?_eq_some_iff.mp found).1 .like likeFirst
  rw [cut?_eq_none_iff_not_isInfix, upper_text, isList] at absent
  have inText := (occurs.trans (isInfix_upper inRight)).trans
    (List.suffix_append condition.op.symbol.toList _).isInfix
  exact absent ((inText.trans (List.suffix_cons ' ' _).isInfix).trans
    (List.suffix_append _ _).isInfix)

theorem Worded.recognisable_of_readFragment (worded : condition.Worded)
    (read : readFragment condition.text = .ok (some condition)) : condition.Recognisable := by
  have inLetters := worded.operand.mem_letterOperators
  have likeFirst : ∀ op ∈ letterOperators, .like ∈ earlierOperators op ++ [op] := by decide
  have inFirst : ∀ op ∈ letterOperators, op ≠ .like → .isIn ∈ earlierOperators op ++ [op] := by
    decide
  have noLike := worded.not_infix_column read (likeFirst _ inLetters)
  have noIn := fun notLike => worded.not_infix_column read (inFirst _ inLetters notLike)
  exact ⟨noLike, noIn, fun _ => worded.not_infix_items read⟩

end Condition

/-- A clause with one fragment has one condition exactly when the fragment is read as it. -/
theorem readFragments_singleton_iff {fragment : List Char} {condition : Condition} :
    (readFragments [fragment]).outcome = .ok [condition] ↔
      readFragment fragment = .ok (some condition) := by
  constructor
  · intro read
    have related := forall₂_of_readFragments read
    rw [List.filter_cons] at related
    split at related
    · exact (List.forall₂_cons.mp related).1
    · cases related
  · intro read
    rw [readFragments, read]
    rfl

/-- A condition with an operator in letters is read back exactly when its operator can be recognised:
neither the column nor an item holds the letters of the operator or an earlier one. -/
theorem readConditions_toSql_iff {condition : Condition} (worded : condition.Worded) :
    (readConditions condition.toSql.toList).outcome = .ok [condition] ↔ condition.Recognisable := by
  have whole : readConditions condition.toSql.toList = readFragments [condition.text] := by
    rw [← worded.fragments_text]
    rfl
  rw [whole, readFragments_singleton_iff]
  exact ⟨worded.recognisable_of_readFragment, fun recognisable =>
    recognisable.readFragment_text worded⟩

theorem readConditions_toSql_cities :
    Condition.toSql ⟨"city", .isIn, .list ["Rome", "Linz"]⟩ = "city IN ('Rome', 'Linz')" ∧
      (readConditions "city IN ('Rome', 'Linz')".toList).outcome =
        .ok [⟨"city", .isIn, .list ["Rome", "Linz"]⟩] := by
  have written : Condition.toSql ⟨"city", .isIn, .list ["Rome", "Linz"]⟩ =
      "city IN ('Rome', 'Linz')" := by decide
  have worded : Condition.Worded ⟨"city", .isIn, .list ["Rome", "Linz"]⟩ :=
    ⟨⟨by decide, by decide⟩, .isIn (by decide)⟩
  have recognisable : Condition.Recognisable ⟨"city", .isIn, .list ["Rome", "Linz"]⟩ := by
    refine ⟨by decide, fun _ => by decide, ?_⟩
    rintro items same
    cases same
    decide
  have read := (readConditions_toSql_iff worded).mpr recognisable
  rw [written] at read
  exact ⟨written, read⟩

/-- The letters `IN` at the end of a column are taken for the operator, and the operator itself is
read into the list. -/
theorem readConditions_toSql_origin :
    Condition.toSql ⟨"origin", .isIn, .list ["EU"]⟩ = "origin IN ('EU')" ∧
      (readConditions "origin IN ('EU')".toList).outcome = .ok [⟨"orig", .isIn, .list ["IN EU"]⟩] ∧
      (readConditions "origin IN ('EU')".toList).outcome ≠
        .ok [⟨"origin", .isIn, .list ["EU"]⟩] := by
  have written : Condition.toSql ⟨"origin", .isIn, .list ["EU"]⟩ = "origin IN ('EU')" := by decide
  have whole : fragments "origin IN ('EU')".toList = ["origin IN ('EU')".toList] :=
    fragments_of_absent (by decide) (by decide) (by decide)
  have part : readFragment "origin IN ('EU')".toList =
      .ok (some ⟨"orig", .isIn, .list ["IN EU"]⟩) :=
    readFragment_eq_some_iff.mpr ⟨4, by decide, by decide, rfl⟩
  have read : (readConditions "origin IN ('EU')".toList).outcome =
      .ok [⟨"orig", .isIn, .list ["IN EU"]⟩] := by
    rw [readConditions, whole]
    exact readFragments_singleton_iff.mpr part
  refine ⟨written, read, ?_⟩
  rw [read]
  intro same
  have columns := congrArg Condition.column (List.cons.inj (Except.ok.inj same)).1
  exact absurd columns (by decide)

end SqlPipeline
