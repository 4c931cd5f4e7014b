import SqlPipeline.Proofs.Sql.Conditions

/-!
# Reading back a filter

The operator of a legible condition is the first of the fixed list that is found in it, at the place
where it was written (`findOperator?_core`). Then the column stands in front of it and the value
behind it, and `readConditions_filterBody` puts the conditions of a filter together again.
-/

namespace SqlPipeline

open Text Clause

namespace Text

theorem dropWhileEnd_concat {test : Char → Bool} {front : List Char} {c : Char}
    (stops : test c = false) : dropWhileEnd test (front ++ [c]) = front ++ [c] := by
  simp [dropWhileEnd, stops]

/-- A text with no blank at either end is trimmed already. -/
theorem trim_of_solid {text rest front : List Char} {first last : Char}
    (head : text = first :: rest) (firstSolid : isBlank first = false)
    (ending : text = front ++ [last]) (lastSolid : isBlank last = false) : trim text = text := by
  have left : trimLeft text = text := by
    rw [head]
    exact trimLeft_of_solid firstSolid
  rw [trim, left, ending]
  exact dropWhileEnd_concat lastSolid

theorem trim_space {text : List Char} (trimmed : trim text = text) :
    trim (' ' :: text) = text := by
  rw [trim, trimLeft, List.dropWhile_cons_of_pos (by decide)]
  exact trimmed

theorem trim_of_solid_word {word : List Char} (solid : Solid word) : trim word = word := by
  have left : trimLeft word = word := by
    rcases word with _ | ⟨c, rest⟩
    · rfl
    · exact trimLeft_of_solid (solid c List.mem_cons_self)
  rw [trim, left]
  rcases List.eq_nil_or_concat word with rfl | ⟨front, c, rfl⟩
  · rfl
  · rw [List.concat_eq_append] at solid ⊢
    exact dropWhileEnd_concat (solid c (by simp))

theorem trim_word_space {word : List Char} (solid : Solid word) : trim (word ++ [' ']) = word := by
  have ending : dropWhileEnd isBlank (word ++ [' ']) = dropWhileEnd isBlank word := by
    rw [dropWhileEnd, List.reverse_append, List.reverse_singleton, List.singleton_append,
      List.dropWhile_cons_of_pos (by decide), dropWhileEnd]
  rcases word with _ | ⟨c, rest⟩
  · rfl
  · have first := solid c List.mem_cons_self
    have trimmed := trim_of_solid_word solid
    rw [trim, trimLeft_of_solid first] at trimmed
    rw [trim, List.cons_append, trimLeft_of_solid first, ← List.cons_append, ending, trimmed]

theorem without_of_not_mem {unwanted : Char} {text : List Char} (absent : unwanted ∉ text) :
    without unwanted text = text := by
  rw [without, List.filter_eq_self]
  intro c member
  simp only [bne_iff_ne, ne_eq]
  rintro rfl
  exact absent member

theorem length_trim_le (text : List Char) : (trim text).length ≤ text.length := by
  have atEnd : (trim text).length = (trimLeft (trimLeft text).reverse).length :=
    List.length_reverse
  have inner := (List.dropWhile_suffix isBlank (l := text)).length_le
  have outer := (List.dropWhile_suffix isBlank (l := (trimLeft text).reverse)).length_le
  rw [List.length_reverse] at outer
  rw [atEnd]
  exact Nat.le_trans outer inner

theorem cut?_eq_none_of_not_mem {sought text : List Char} {c : Char} (inSought : c ∈ sought)
    (absent : c ∉ text) : cut? sought text = none := by
  rw [cut?_eq_none_iff]
  rintro before after rfl
  exact absent (by simp [inSought])

theorem upper_append (front back : List Char) : upper (front ++ back) = upper front ++ upper back :=
  List.flatMap_append

end Text

/-- The operators that are looked for before a given one. -/
def earlierOperators (op : Operator) : List Operator :=
  operatorOrder.takeWhile (· != op)

/-- No operator that is looked for earlier is found in front of a value without signs. -/
theorem cut?_earlier {op other : Operator} {value : List Char} (compares : op ∈ comparisons)
    (valueFree : ∀ sign ∈ comparisonSigns, sign ∉ value) (earlier : other ∈ earlierOperators op) :
    cut? other.symbol.toList (op.symbol.toList ++ ' ' :: value) = none := by
  have nowhere : ∀ sought, (∃ sign ∈ comparisonSigns, sign ∈ sought) → cut? sought value = none := by
    rintro sought ⟨sign, isSign, inSought⟩
    exact cut?_eq_none_of_not_mem inSought (valueFree sign isSign)
  have noNotEqual := nowhere ['!', '='] ⟨'=', by decide, by decide⟩
  have noGreaterEqual := nowhere ['>', '='] ⟨'=', by decide, by decide⟩
  have noLessEqual := nowhere ['<', '='] ⟨'=', by decide, by decide⟩
  have noEqual := nowhere ['='] ⟨'=', by decide, by decide⟩
  have noGreater := nowhere ['>'] ⟨'>', by decide, by decide⟩
  simp only [comparisons, List.mem_cons, List.not_mem_nil, or_false] at compares
  rcases compares with rfl | rfl | rfl | rfl | rfl | rfl
  · have listed : other = .notEqual ∨ other = .greaterEqual ∨ other = .lessEqual := by
      simpa [earlierOperators, operatorOrder] using earlier
    rcases listed with rfl | rfl | rfl <;>
      simp [Operator.symbol, cut?, List.isPrefixOf?, noNotEqual, noGreaterEqual, noLessEqual]
  · simp [earlierOperators, operatorOrder] at earlier
  · have listed : other = .notEqual ∨ other = .greaterEqual ∨ other = .lessEqual ∨
        other = .equal := by
      simpa [earlierOperators, operatorOrder] using earlier
    rcases listed with rfl | rfl | rfl | rfl <;>
      simp [Operator.symbol, cut?, List.isPrefixOf?, noNotEqual, noGreaterEqual, noLessEqual,
        noEqual]
  · have listed : other = .notEqual ∨ other = .greaterEqual ∨ other = .lessEqual ∨
        other = .equal ∨ other = .greater := by
      simpa [earlierOperators, operatorOrder] using earlier
    rcases listed with rfl | rfl | rfl | rfl | rfl <;>
      simp [Operator.symbol, cut?, List.isPrefixOf?, noNotEqual, noGreaterEqual, noLessEqual,
        noEqual, noGreater]
  · obtain rfl : other = .notEqual := by
      simpa [earlierOperators, operatorOrder] using earlier
    simp [Operator.symbol, cut?, List.isPrefixOf?, noNotEqual]
  · have listed : other = .notEqual ∨ other = .greaterEqual := by
      simpa [earlierOperators, operatorOrder] using earlier
    rcases listed with rfl | rfl <;>
      simp [Operator.symbol, cut?, List.isPrefixOf?, noNotEqual, noGreaterEqual]

theorem operatorOrder_eq (op : Operator) :
    operatorOrder = earlierOperators op ++ op :: (operatorOrder.dropWhile (· != op)).tail := by
  cases op <;> rfl

theorem mem_comparisons_of_earlier {op other : Operator} (compares : op ∈ comparisons)
    (earlier : other ∈ earlierOperators op) : other ∈ comparisons := by
  have all : ∀ op ∈ comparisons, ∀ other ∈ earlierOperators op, other ∈ comparisons := by decide
  exact all op compares other earlier

/-- The first operator that is found is the one that was written. -/
theorem findSome?_operatorOrder {front value : List Char} {op : Operator}
    (compares : op ∈ comparisons) (frontFree : ∀ sign ∈ '!' :: comparisonSigns, sign ∉ front)
    (valueFree : ∀ sign ∈ comparisonSigns, sign ∉ value) :
    (operatorOrder.findSome? fun other =>
      (cut? other.symbol.toList (front ++ (op.symbol.toList ++ ' ' :: value))).map
        fun (before, _) => (other, before.length)) = some (op, front.length) := by
  have behindFront : ∀ other ∈ comparisons, ∀ text, cut? other.symbol.toList (front ++ text) =
      (cut? other.symbol.toList text).map fun (before, after) => (front ++ before, after) := by
    intro other compares text
    rcases symbol_of_mem_comparisons compares with ⟨c, rest, symbol, isSign, -⟩
    rw [symbol]
    exact cut?_append_of_not_mem (frontFree c isSign) text
  rw [operatorOrder_eq op, List.findSome?_append, List.findSome?_eq_none_iff.mpr,
    Option.none_or, List.findSome?_cons]
  · rcases symbol_of_mem_comparisons compares with ⟨c, rest, symbol, -, -⟩
    have here := cut?_append_self (by simp [symbol] : op.symbol.toList ≠ []) (' ' :: value)
    rw [behindFront op compares, here]
    simp
  · intro other earlier
    rw [behindFront other (mem_comparisons_of_earlier compares earlier),
      cut?_earlier compares valueFree earlier]
    rfl

theorem symbol_ne_nil (op : Operator) : op.symbol.toList ≠ [] := by
  cases op <;> decide

theorem upper_symbol (op : Operator) : upper op.symbol.toList = op.symbol.toList := by
  cases op <;> rfl

namespace Condition

variable {condition : Condition}

theorem trim_front (legible : condition.Legible) :
    trim condition.front = condition.column.toList := by
  rw [front]
  split
  · next empty => rw [empty]; rfl
  · exact trim_word_space legible.column.solid

theorem sign_not_mem_upper_front (legible : condition.Legible) :
    ∀ sign ∈ '!' :: comparisonSigns, sign ∉ upper condition.front := by
  have notBlank : ∀ sign ∈ '!' :: comparisonSigns, sign ∉ upper [' '] := by decide
  intro sign isSign
  rw [front]
  split
  · exact List.not_mem_nil
  · rw [upper_append]
    exact List.not_mem_append (legible.column.sign_not_mem_upper sign isSign)
      (notBlank sign isSign)

theorem length_upper_front (legible : condition.Legible) :
    (upper condition.front).length = condition.front.length := by
  apply length_upper_of_ascii
  rw [front]
  split
  · simp
  · intro c member
    rcases List.mem_append.mp member with inColumn | isSpace
    · exact legible.column.ascii c inColumn
    · rw [List.mem_singleton.mp isSpace]
      decide

/-- The operator of a legible condition is found where it was written. -/
theorem findOperator?_core (legible : condition.Legible) :
    findOperator? condition.core = some (condition.op, condition.front.length) := by
  have space : ∀ rest, upper (' ' :: rest) = ' ' :: upper rest := fun _ => rfl
  have capitals : upper condition.core = upper condition.front ++
      (condition.op.symbol.toList ++ ' ' :: upper condition.value.toSql.toList) := by
    rw [core, upper_append, upper_append, upper_symbol, space]
  have valueFree : ∀ sign ∈ comparisonSigns, sign ∉ upper condition.value.toSql.toList :=
    fun sign isSign => sign_not_mem_upper isSign
      ((operand_of_plain legible.value).noSign sign isSign)
  rw [findOperator?, capitals,
    findSome?_operatorOrder legible.op (sign_not_mem_upper_front legible) valueFree,
    length_upper_front legible]

/-- A legible condition is read back. -/
theorem readFragment_core (legible : condition.Legible) :
    readFragment condition.core = .ok (some condition) := by
  have operand := operand_of_plain legible.value
  have noQuote : '"' ∉ condition.column.toList := fun member =>
    (nameCharacter_facts (legible.column.characters '"' member)).2.2.1 rfl
  have left : condition.core.take condition.front.length = condition.front := by
    rw [core, List.take_left]
  have right : condition.core.drop (condition.front.length + condition.op.symbol.length) =
      ' ' :: condition.value.toSql.toList := by
    rw [core, List.drop_length_add_append, ← String.length_toList, List.drop_left]
  have trimmed : trim condition.value.toSql.toList = condition.value.toSql.toList := by
    rcases operand.head with ⟨first, rest, head, bars⟩
    rcases operand.last with ⟨front, last, ending, solid, -⟩
    exact trim_of_solid head bars.1 ending solid
  simp only [readFragment, findOperator?_core legible, left, right]
  rw [trim_space trimmed, operand.reads, trim_front legible, without_of_not_mem noQuote,
    String.ofList_toList]
  rfl

theorem trim_core (legible : condition.Legible) : trim condition.core = condition.core := by
  rcases exists_core_eq_cons legible with ⟨c, others, head, solid⟩
  rcases exists_core_eq_concat legible with ⟨front, last, ending, lastSolid, -⟩
  exact trim_of_solid head solid ending lastSolid

end Condition

theorem readFragments_core {conditions : List Condition}
    (legible : ∀ condition ∈ conditions, condition.Legible) :
    (readFragments (conditions.map Condition.core)).outcome = .ok conditions := by
  induction conditions with
  | nil => rfl
  | cons condition rest ih =>
      have here := Condition.readFragment_core (legible condition List.mem_cons_self)
      have later := ih fun other member => legible other (List.mem_cons_of_mem _ member)
      rw [List.map_cons, readFragments, here,
        Traced.outcome_bind_of_ok _ (Traced.outcome_ofExcept _),
        Traced.outcome_bind_of_ok _ later]
      rfl

theorem fragments_of_absent {clause : List Char}
    (absent : Absent (fun text => (skipConnective? text).isSome) clause [])
    (trimmed : trim clause = clause) (nonempty : clause ≠ []) : fragments clause = [clause] := by
  rw [fragments, splitConditions_of_absent absent, List.map_singleton, trimmed,
    List.filter_cons_of_pos (by simpa using nonempty), List.filter_nil]

/-- Legible conditions that are joined are read back, in order. -/
theorem readConditions_filterBody {first : Condition} {rest : List Condition}
    (legible : ∀ condition ∈ first :: rest, condition.Legible) :
    (readConditions (filterBody (first :: rest))).outcome = .ok (first :: rest) := by
  have trimmed : ∀ condition ∈ first :: rest, trim condition.core = condition.core :=
    fun condition member => Condition.trim_core (legible condition member)
  have pieces : fragments (filterBody (first :: rest)) = (first :: rest).map Condition.core := by
    rw [fragments, splitConditions_filterBody legible, List.map_map, List.filter_eq_self.mpr]
    · exact List.map_congr_left trimmed
    · intro fragment member
      rcases List.mem_map.mp member with ⟨condition, known, rfl⟩
      rcases Condition.exists_core_eq_cons (legible condition known) with ⟨c, others, head, -⟩
      rw [Function.comp_apply, trimmed condition known, head]
      rfl
  rw [readConditions, pieces]
  exact readFragments_core legible

/-- A body with neither blanks nor semicolons at its ends is trimmed already. -/
theorem trimBody_of_solid {text rest front : List Char} {first last : Char}
    (head : text = first :: rest) (firstSolid : isBlank first = false)
    (ending : text = front ++ [last]) (lastSolid : isBlank last = false)
    (notSemicolon : last ≠ ';') : trimBody text = text := by
  have trimmed := trim_of_solid head firstSolid ending lastSolid
  have noSemicolon : dropWhileEnd (· == ';') text = text := by
    rw [ending]
    exact dropWhileEnd_concat (by simpa using notSemicolon)
  rw [trimBody, trimmed, noSemicolon, trimmed]

theorem trimBody_filterBody {first : Condition} {rest : List Condition}
    (legible : ∀ condition ∈ first :: rest, condition.Legible) :
    trimBody (filterBody (first :: rest)) = filterBody (first :: rest) := by
  rcases exists_filterBody_eq_cons (legible first List.mem_cons_self) rest with
    ⟨c, tail, head, solid⟩
  rcases exists_filterBody_eq_concat legible with ⟨front, last, ending, lastSolid, notSemicolon⟩
  exact trimBody_of_solid head solid ending lastSolid notSemicolon

end SqlPipeline
