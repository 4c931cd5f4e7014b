import SqlPipeline.Proofs.Sql.Clauses
import SqlPipeline.Proofs.Sql.Number
import SqlPipeline.Proofs.Text.Classes

/-!
# Values that are read back

A truth value, a whole number that is not too long, and a text without signs of comparison,
parentheses and the patterns of clauses are *plain*. What is written for a plain value is an
`Operand` of it: it is read as that value, whatever the operator, and nothing else is found in it.
-/

namespace SqlPipeline

open Text

/-- A text without comparison signs, parentheses and patterns of clauses. -/
structure PlainText (text : List Char) : Prop where
  signs : ∀ sign ∈ ['=', '<', '>', '(', ')'], sign ∉ text
  clauses : ∀ pattern ∈ clausePatterns, ¬Occurs pattern text

/-- The values that are read back as they are written. -/
inductive PlainLiteral : Literal → Prop where
  | bool (flag : Bool) : PlainLiteral (.bool flag)
  | int {number : Int} (few : (Nat.toDigits 10 number.natAbs).length ≤ maxWholeDigits) :
      PlainLiteral (.int number)
  | str {text : String} (plain : PlainText text.toList) : PlainLiteral (.str text)

/-- A text that is read as a value and in which nothing else is found. -/
structure Operand (text : List Char) (value : Literal) : Prop where
  head : ∃ c rest, text = c :: rest ∧ Bars c
  last : ∃ front c, text = front ++ [c] ∧ isBlank c = false ∧ c ≠ ';'
  quiet : ∀ after, Absent interrupts text after
  noSign : ∀ sign ∈ comparisonSigns, sign ∉ text
  noParenthesis : '(' ∉ text
  reads : ∀ op, Literal.ofText (some op) text = .ok value

theorem betweenApostrophes?_of_ne {c : Char} (other : c ≠ '\'') (rest : List Char) :
    betweenApostrophes? (c :: rest) = none := by
  unfold betweenApostrophes?
  split
  · next same => exact absurd (List.cons.inj same).1 other
  · rfl

theorem ofText_toSql_bool (op : Option Operator) (flag : Bool) :
    Literal.ofText op (Literal.toSql (.bool flag)).toList = .ok (.bool flag) := by
  cases flag <;> rfl

theorem operand_bool (flag : Bool) : Operand (Literal.toSql (.bool flag)).toList (.bool flag) := by
  cases flag with
  | true =>
      exact {
        head := ⟨'T', "RUE".toList, rfl, by decide⟩
        last := ⟨"TRU".toList, 'E', rfl, by decide, by decide⟩
        quiet := fun after => absent_interrupts_of_forall
          (show Solid "TRUE".toList by decide)
          (show ∀ c ∈ "TRUE".toList, isLetter 'G' c = false by decide)
        noSign := show ∀ sign ∈ comparisonSigns, sign ∉ "TRUE".toList by decide
        noParenthesis := show '(' ∉ "TRUE".toList by decide
        reads := fun op => ofText_toSql_bool (some op) true }
  | false =>
      exact {
        head := ⟨'F', "ALSE".toList, rfl, by decide⟩
        last := ⟨"FALS".toList, 'E', rfl, by decide, by decide⟩
        quiet := fun after => absent_interrupts_of_forall
          (show Solid "FALSE".toList by decide)
          (show ∀ c ∈ "FALSE".toList, isLetter 'G' c = false by decide)
        noSign := show ∀ sign ∈ comparisonSigns, sign ∉ "FALSE".toList by decide
        noParenthesis := show '(' ∉ "FALSE".toList by decide
        reads := fun op => ofText_toSql_bool (some op) false }

/-- A character of a whole number in decimal. -/
def IsNumeral (c : Char) : Prop :=
  c = '-' ∨ c.isDigit = true

theorem isNumeral_facts {c : Char} (numeral : IsNumeral c) :
    Bars c ∧ c ≠ ';' ∧ c ≠ '(' ∧ c ≠ '\'' ∧ c ∉ comparisonSigns := by
  rcases numeral with rfl | digit
  · decide
  · have small : c.toNat < 128 := by
      simp only [Char.isDigit, Bool.and_eq_true, decide_eq_true_eq] at digit
      have upper : c.toNat ≤ 57 := digit.2
      omega
    exact of_ascii (fun c => c.isDigit = true →
      Bars c ∧ c ≠ ';' ∧ c ≠ '(' ∧ c ≠ '\'' ∧ c ∉ comparisonSigns) (by decide) small digit

theorem isNumeral_of_mem_toString {number : Int} {c : Char}
    (member : c ∈ (toString number).toList) : IsNumeral c := by
  rw [toList_toString, List.mem_append] at member
  rcases member with sign | digit
  · split at sign
    · exact Or.inl (List.mem_singleton.mp sign)
    · cases sign
  · exact Or.inr (Nat.isDigit_of_mem_toDigits (by decide) (by decide) digit)

theorem toString_ne_nil (number : Int) : (toString number).toList ≠ [] := by
  rw [toList_toString]
  intro empty
  exact Nat.toDigits_ne_nil (List.append_eq_nil_iff.mp empty).2

theorem toList_toSql_int (number : Int) :
    (Literal.toSql (.int number)).toList = (toString number).toList := by
  rw [Literal.toSql, Literal.toValue, Value.toSql]

/-- A whole number that is not too long is read back beside any operator. -/
theorem ofText_toSql_int (op : Option Operator) {number : Int}
    (few : (Nat.toDigits 10 number.natAbs).length ≤ maxWholeDigits) :
    Literal.ofText op (Literal.toSql (.int number)).toList = .ok (.int number) := by
  have readsNumber := ofNumber_toString few
  have notQuoted : betweenApostrophes? (toString number).toList = none := by
    rcases written : (toString number).toList with _ | ⟨c, rest⟩
    · rfl
    · have numeral : IsNumeral c := isNumeral_of_mem_toString (written ▸ List.mem_cons_self)
      exact betweenApostrophes?_of_ne (isNumeral_facts numeral).2.2.2.1 rest
  rw [toList_toSql_int, Literal.ofText, notQuoted, readsNumber]

theorem operand_int {number : Int}
    (few : (Nat.toDigits 10 number.natAbs).length ≤ maxWholeDigits) :
    Operand (Literal.toSql (.int number)).toList (.int number) := by
  have reads := fun op => ofText_toSql_int (some op) few
  have facts := fun c (member : c ∈ (toString number).toList) =>
    isNumeral_facts (isNumeral_of_mem_toString member)
  have nonempty := toString_ne_nil number
  rw [toList_toSql_int] at reads ⊢
  generalize (toString number).toList = text at facts nonempty reads
  refine ⟨?_, ?_, ?_, ?_, ?_, reads⟩
  · rcases text with _ | ⟨c, rest⟩
    · exact absurd rfl nonempty
    · exact ⟨c, rest, rfl, (facts c List.mem_cons_self).1⟩
  · rcases List.eq_nil_or_concat text with rfl | ⟨front, c, rfl⟩
    · exact absurd rfl nonempty
    · have known := facts c (by simp)
      exact ⟨front, c, List.concat_eq_append, known.1.1, known.2.1⟩
  · intro after
    apply absent_interrupts_of_forall (fun c member => (facts c member).1.1)
    exact fun c member => (facts c member).1.2 'G' (by decide)
  · intro sign isSign member
    exact (facts sign member).2.2.2.2 isSign
  · intro member
    exact (facts '(' member).2.2.1 rfl

theorem toList_quoteLiteral (text : String) :
    (quoteLiteral text).toList = '\'' :: (doubleApostrophes text.toList ++ ['\'']) := by
  simp only [quoteLiteral, String.toList_append, String.toList_ofList, List.append_assoc]
  rfl

theorem mem_of_mem_doubleApostrophes {text : List Char} {c : Char}
    (member : c ∈ doubleApostrophes text) : c ∈ text := by
  rcases List.mem_flatMap.mp member with ⟨d, inText, inPair⟩
  split at inPair
  · next apostrophe =>
    obtain rfl : c = '\'' := by simpa using inPair
    rwa [apostrophe] at inText
  · rwa [List.mem_singleton.mp inPair]

/-- A sign other than the apostrophe stands in a literal only if it stands in the text. -/
theorem not_mem_literal {text : List Char} {c : Char} (other : c ≠ '\'') (absent : c ∉ text) :
    c ∉ '\'' :: (doubleApostrophes text ++ ['\'']) := by
  simp only [List.mem_cons, List.mem_append, List.not_mem_nil, or_false, not_or]
  exact ⟨other, fun member => absent (mem_of_mem_doubleApostrophes member), other⟩

theorem betweenApostrophes?_literal (text : List Char) :
    betweenApostrophes? ('\'' :: (text ++ ['\''])) = some text := by
  simp [betweenApostrophes?]

theorem toList_toSql_str (text : String) : (Literal.toSql (.str text)).toList =
    '\'' :: (doubleApostrophes text.toList ++ ['\'']) := by
  rw [Literal.toSql, Literal.toValue, Value.toSql, toList_quoteLiteral]

/-- A text is read back beside any operator, whatever stands in it. -/
theorem ofText_toSql_str (op : Option Operator) (text : String) :
    Literal.ofText op (Literal.toSql (.str text)).toList = .ok (.str text) := by
  rw [toList_toSql_str, Literal.ofText, betweenApostrophes?_literal]
  simp [pairApostrophes_doubleApostrophes]

theorem operand_str {text : String} (plain : PlainText text.toList) :
    Operand (Literal.toSql (.str text)).toList (.str text) := by
  have reads := fun op => ofText_toSql_str (some op) text
  rw [toList_toSql_str] at reads ⊢
  refine ⟨?_, ?_, ?_, ?_, ?_, reads⟩
  · exact ⟨'\'', _, rfl, by decide⟩
  · exact ⟨'\'' :: doubleApostrophes text.toList, '\'', by simp, by decide, by decide⟩
  · exact absent_literal detects_interrupts (fun _ => wellFormed_of_mem_clausePatterns)
      plain.clauses
  · intro sign isSign
    have listed : ∀ sign ∈ comparisonSigns, sign ≠ '\'' ∧ sign ∈ ['=', '<', '>', '(', ')'] := by
      decide
    exact not_mem_literal (listed sign isSign).1 (plain.signs sign (listed sign isSign).2)
  · exact not_mem_literal (by decide) (plain.signs '(' (by decide))

/-- What is written for a plain value is an operand of it. -/
theorem operand_of_plain {value : Literal} (plain : PlainLiteral value) :
    Operand value.toSql.toList value := by
  cases plain with
  | bool flag => exact operand_bool flag
  | int few => exact operand_int few
  | str plain => exact operand_str plain

end SqlPipeline
