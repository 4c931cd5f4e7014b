import SqlPipeline.Proofs.Sql.ReadBack
import SqlPipeline.Proofs.Text.UpperCase

/-!
# Where a fragment is cut

The operator of a fragment is looked for in the upper-case form of the fragment, but the place that
is found is used in the fragment itself. The two places are the same only if no character in front
of the operator becomes several in upper case. `readConditions_cut_iff` says that this is the exact
condition for a condition to be cut at its operator.

If a character does become several, the cut falls behind the first character of the operator, and
that character ends up in the column (`length_upper_of_column`). Blanks and quotation marks are
taken away from a column, so the comparison is between the characters that are left.
-/

namespace SqlPipeline

open Text

/-- The characters of a text that are neither blank nor a quotation mark. -/
def solidPart (text : List Char) : List Char :=
  text.filter fun c => !isBlank c && c != '"'

theorem solidPart_append (front back : List Char) :
    solidPart (front ++ back) = solidPart front ++ solidPart back :=
  List.filter_append front back

theorem solidPart_reverse (text : List Char) : solidPart text.reverse = (solidPart text).reverse :=
  List.filter_reverse

theorem solidPart_trimLeft (text : List Char) : solidPart (trimLeft text) = solidPart text := by
  induction text with
  | nil => rfl
  | cons c text ih =>
      by_cases blank : isBlank c = true
      · rw [trimLeft, List.dropWhile_cons_of_pos blank, ← trimLeft, ih]
        simp [solidPart, blank]
      · rw [trimLeft, List.dropWhile_cons_of_neg blank]

theorem solidPart_trim (text : List Char) : solidPart (trim text) = solidPart text := by
  have atEnd : trim text = (trimLeft (trimLeft text).reverse).reverse := rfl
  rw [atEnd, solidPart_reverse, solidPart_trimLeft, solidPart_reverse, List.reverse_reverse,
    solidPart_trimLeft]

theorem solidPart_without (text : List Char) : solidPart (without '"' text) = solidPart text := by
  rw [solidPart, without, List.filter_filter, solidPart]
  congr 1
  funext c
  cases isBlank c <;> simp

/-- A column keeps the characters that are neither blank nor quotation marks. -/
theorem solidPart_column {left other : List Char}
    (same : String.ofList (without '"' (trim left)) = String.ofList (without '"' (trim other))) :
    solidPart left = solidPart other := by
  have texts := congrArg (fun column => solidPart column.toList) same
  simpa [solidPart_without, solidPart_trim] using texts

/-- Whether a word is the given one up to letter case. -/
def SameLetters (word capitals : List Char) : Prop :=
  List.Forall₂ (fun c capital => upperChar c = [capital]) word capitals

theorem upper_of_sameLetters {word capitals : List Char} (same : SameLetters word capitals) :
    upper word = capitals := by
  induction same with
  | nil => rfl
  | cons letter _ ih => rw [upper_cons, letter, ih, List.singleton_append]

theorem sameLetters_of_upper {word : List Char} (single : ∀ c ∈ word, (upperChar c).length = 1) :
    SameLetters word (upper word) := by
  induction word with
  | nil => exact .nil
  | cons c word ih =>
      rcases List.length_eq_one_iff.mp (single c List.mem_cons_self) with ⟨capital, letter⟩
      rw [upper_cons, letter]
      exact .cons letter (ih fun other member => single other (List.mem_cons_of_mem _ member))

theorem single_of_sameLetters {word capitals : List Char} (same : SameLetters word capitals) :
    ∀ c ∈ word, (upperChar c).length = 1 := by
  induction same with
  | nil => simp
  | @cons c capital word capitals letter _ ih =>
      intro other member
      rcases List.mem_cons.mp member with rfl | later
      · rw [letter, List.length_singleton]
      · exact ih other later

/-- A sign of comparison is only spelled by itself. -/
theorem eq_of_sameLetters_sign {sign : Char} {word : List Char} (isSign : sign ∈ comparisonSigns)
    (same : SameLetters word [sign]) : word = [sign] := by
  by_contra other
  have absent : sign ∉ word := by
    intro member
    have alone : word.length = 1 := same.length_eq
    rcases List.length_eq_one_iff.mp alone with ⟨c, rfl⟩
    exact other (by rw [List.mem_singleton.mp member])
  exact sign_not_mem_upper isSign absent (by simp [upper_of_sameLetters same])

/-- No operator begins with a blank or a quotation mark. -/
theorem solid_symbol (op : Operator) :
    ∃ c rest, op.symbol.toList = c :: rest ∧ isBlank c = false ∧ upperChar '"' ≠ [c] := by
  cases op <;> exact ⟨_, _, rfl, by decide, by decide⟩

/-- What spells an operator begins with a character that a column keeps. -/
theorem exists_of_sameLetters {word : List Char} {op : Operator}
    (same : SameLetters word op.symbol.toList) :
    ∃ c rest, word = c :: rest ∧ isBlank c = false ∧ c ≠ '"' := by
  rcases solid_symbol op with ⟨capital, capitals, symbol, solid, noMark⟩
  rw [symbol] at same
  cases same with
  | @cons c _ word _ letter _ =>
      refine ⟨c, word, rfl, ?_, ?_⟩
      · by_contra blank
        rw [Bool.not_eq_false] at blank
        rw [upperChar_of_isBlank blank, List.singleton_inj] at letter
        rw [letter, solid] at blank
        cases blank
      · rintro rfl
        exact noMark letter

/-- How a fragment is read when the operator in it is taken to be `word`. -/
structure Divides (left word right : List Char) (condition : Condition) : Prop where
  letters : SameLetters word condition.op.symbol.toList
  column : condition.column = String.ofList (without '"' (trim left))
  value : Literal.ofText (some condition.op) (trim right) = .ok condition.value

/-- Whether a fragment is cut at the operator that is found in it first. -/
def CutAtOperator (fragment : List Char) (condition : Condition) : Prop :=
  ∃ left word right, fragment = left ++ (word ++ right) ∧ Divides left word right condition ∧
    findOperator? fragment = some (condition.op, (upper left).length)

/-- Whether no character becomes several in upper case, up to the end of the operator. -/
def KeepsPlaces (fragment : List Char) : Prop :=
  ∀ op place, findOperator? fragment = some (op, place) →
    ∀ c ∈ fragment.take (place + op.symbol.length), (upperChar c).length = 1

variable {fragment : List Char} {condition : Condition}

/-- What is read from a fragment. -/
theorem readFragment_eq_some_iff :
    readFragment fragment = .ok (some condition) ↔ ∃ place,
      findOperator? fragment = some (condition.op, place) ∧
      condition.column = String.ofList (without '"' (trim (fragment.take place))) ∧
      Literal.ofText (some condition.op)
        (trim (fragment.drop (place + condition.op.symbol.length))) = .ok condition.value := by
  rcases found : findOperator? fragment with _ | ⟨op, place⟩
  · simp [readFragment, found]
  · rcases read : Literal.ofText (some op) (trim (fragment.drop (place + op.symbol.length)))
      with error | value
    · constructor
      · intro result
        simp only [readFragment, found, read] at result
        cases result
      · rintro ⟨_, same, -, result⟩
        cases same
        rw [read] at result
        cases result
    · constructor
      · intro result
        simp only [readFragment, found, read] at result
        cases result
        exact ⟨place, rfl, rfl, read⟩
      · rintro ⟨_, same, column, result⟩
        cases same
        rw [read] at result
        cases result
        simp only [readFragment, found, read]
        rw [← column]
        rfl

/-- An operator is found where it occurs first, if no operator that is looked for earlier occurs. -/
theorem findOperator?_eq_some_iff {op : Operator} {place : Nat} :
    findOperator? fragment = some (op, place) ↔
      (∀ other ∈ earlierOperators op, cut? other.symbol.toList (upper fragment) = none) ∧
        ∃ before after, cut? op.symbol.toList (upper fragment) = some (before, after) ∧
          before.length = place := by
  constructor
  · intro found
    rcases List.findSome?_eq_some_iff.mp found with ⟨front, other, back, order, here, nothing⟩
    rcases Option.map_eq_some_iff.mp here with ⟨⟨before, after⟩, cut, same⟩
    cases same
    have notBefore : ∀ earlier ∈ front, (earlier != op) = true := by
      intro earlier member
      have absent := nothing earlier member
      rw [bne_iff_ne]
      rintro rfl
      rw [cut] at absent
      cases absent
    have earlier : earlierOperators op = front := by
      rw [earlierOperators, order, List.takeWhile_append_of_pos notBefore,
        List.takeWhile_cons_of_neg (by simp), List.append_nil]
    rw [earlier]
    exact ⟨fun other member => Option.map_eq_none_iff.mp (nothing other member),
      before, after, cut, rfl⟩
  · rintro ⟨earlier, before, after, cut, rfl⟩
    rw [findOperator?, operatorOrder_eq op, List.findSome?_append, List.findSome?_eq_none_iff.mpr,
      Option.none_or, List.findSome?_cons, cut]
    · rfl
    · intro other member
      rw [earlier other member]
      rfl

/-- The operator that is found stands in the upper-case form at its place. -/
theorem exists_of_findOperator? {op : Operator} {place : Nat}
    (found : findOperator? fragment = some (op, place)) :
    ∃ before after, upper fragment = before ++ op.symbol.toList ++ after ∧
      before.length = place := by
  rcases (findOperator?_eq_some_iff.mp found).2 with ⟨before, after, cut, atPlace⟩
  exact ⟨before, after, eq_of_cut? cut, atPlace⟩

/-- Where no character becomes several, what is found in upper case stands in the text. -/
theorem exists_split_of_single {before symbol after : List Char}
    (capitals : upper fragment = before ++ symbol ++ after)
    (single : ∀ c ∈ fragment.take (before.length + symbol.length), (upperChar c).length = 1) :
    ∃ left word right, fragment = left ++ (word ++ right) ∧ upper left = before ∧
      upper word = symbol ∧ ∀ c ∈ left ++ word, (upperChar c).length = 1 := by
  have lengthHead := length_upper_eq_iff.mpr single
  have long : before.length + symbol.length ≤ fragment.length := by
    by_contra short
    have whole := congrArg List.length capitals
    rw [List.take_of_length_le (by omega)] at lengthHead
    rw [lengthHead, List.length_append, List.length_append] at whole
    omega
  have heads : before ++ symbol = upper (fragment.take (before.length + symbol.length)) := by
    rw [← List.take_append_drop (before.length + symbol.length) fragment, upper_append] at capitals
    refine (List.append_inj capitals ?_).1.symm
    rw [lengthHead, List.length_take_of_le long, List.length_append]
  rw [List.take_add] at heads single
  rw [upper_append] at heads
  have lengthLeft : (upper (fragment.take before.length)).length = before.length := by
    rw [length_upper_eq_iff.mpr (List.forall_mem_append.mp single).1,
      List.length_take_of_le (by omega)]
  rcases List.append_inj heads lengthLeft.symm with ⟨front, word⟩
  refine ⟨_, _, fragment.drop (before.length + symbol.length), ?_, front.symm, word.symm, single⟩
  rw [← List.append_assoc, ← List.take_add, List.take_append_drop]

/-- A fragment that keeps its places is cut where its operator is found in upper case. -/
theorem cutAtOperator_of_keepsPlaces (keeps : KeepsPlaces fragment)
    (read : readFragment fragment = .ok (some condition)) : CutAtOperator fragment condition := by
  rcases readFragment_eq_some_iff.mp read with ⟨place, found, column, value⟩
  rcases exists_of_findOperator? found with ⟨before, after, capitals, rfl⟩
  have single := keeps _ _ found
  rw [← String.length_toList] at single value
  rcases exists_split_of_single capitals single with ⟨left, word, right, rfl, rfl, letters, all⟩
  have lengths := List.forall_mem_append.mp all
  have atLeft := length_upper_eq_iff.mpr lengths.1
  have atWord := length_upper_eq_iff.mpr lengths.2
  have same := sameLetters_of_upper lengths.2
  rw [letters] at same atWord
  rw [atLeft, List.take_left] at column
  rw [atLeft, atWord, List.drop_length_add_append, List.drop_left] at value
  exact ⟨left, word, right, rfl, ⟨same, column, value⟩, found⟩

/-- If a character in front of the operator becomes several, the column is not what stands there. -/
theorem length_upper_of_column {left word right : List Char} {op : Operator}
    (letters : SameLetters word op.symbol.toList)
    (column : String.ofList (without '"' (trim (List.take (upper left).length
      (left ++ (word ++ right))))) = String.ofList (without '"' (trim left))) :
    (upper left).length = left.length := by
  by_contra moved
  have longer := length_le_length_upper left
  rcases exists_of_sameLetters letters with ⟨c, rest, rfl, solid, noMark⟩
  have kept := solidPart_column column
  obtain ⟨more, excess⟩ : ∃ more, (upper left).length = left.length + (more + 1) :=
    ⟨(upper left).length - left.length - 1, by omega⟩
  rw [excess, List.take_length_add_append, List.cons_append, List.take_succ_cons,
    solidPart_append, List.append_right_eq_self] at kept
  simp [solidPart, solid, noMark] at kept

theorem keepsPlaces_of_cutAtOperator (cut : CutAtOperator fragment condition)
    (read : readFragment fragment = .ok (some condition)) : KeepsPlaces fragment := by
  rcases readFragment_eq_some_iff.mp read with ⟨place, found, column, -⟩
  rcases cut with ⟨left, word, right, rfl, ⟨letters, columnOfLeft, -⟩, foundBehind⟩
  obtain rfl : (upper left).length = place := by
    rw [found] at foundBehind
    cases foundBehind
    rfl
  have atLeft := length_upper_of_column letters (column.symm.trans columnOfLeft)
  have single : ∀ c ∈ left ++ word, (upperChar c).length = 1 :=
    List.forall_mem_append.mpr ⟨length_upper_eq_iff.mp atLeft, single_of_sameLetters letters⟩
  intro op place foundHere
  rw [found] at foundHere
  cases foundHere
  rw [atLeft, ← String.length_toList, ← letters.length_eq, ← List.length_append,
    ← List.append_assoc, List.take_left]
  exact single

theorem findOperator?_of_readFragment_none (read : readFragment fragment = .ok none) :
    findOperator? fragment = none := by
  rcases found : findOperator? fragment with _ | ⟨op, place⟩
  · rfl
  · rcases value : Literal.ofText (some op) (trim (fragment.drop (place + op.symbol.length))) <;>
      simp only [readFragment, found, value] at read <;> cases read

/-- The conditions are read in order from the fragments with an operator. -/
theorem forall₂_of_readFragments {fragments : List (List Char)} {conditions : List Condition}
    (read : (readFragments fragments).outcome = .ok conditions) :
    List.Forall₂ (fun fragment condition => readFragment fragment = .ok (some condition))
      (fragments.filter fun fragment => (findOperator? fragment).isSome) conditions := by
  induction fragments generalizing conditions with
  | nil =>
      cases read
      exact .nil
  | cons fragment rest ih =>
      rw [readFragments, Traced.outcome_bind_eq_ok_iff, Traced.outcome_ofExcept] at read
      rcases read with ⟨_ | condition, here, later⟩
      · rw [List.filter_cons_of_neg (by simp [findOperator?_of_readFragment_none here])]
        exact ih later
      · rcases readFragment_eq_some_iff.mp here with ⟨place, found, -⟩
        rcases Traced.outcome_bind_eq_ok_iff.mp later with ⟨others, readOthers, same⟩
        cases same
        rw [List.filter_cons_of_pos (by simp [found])]
        exact .cons here (ih readOthers)

theorem forall₂_iff_of_forall₂ {α β : Type} {known stated : α → β → Prop} {test : α → Prop}
    (alike : ∀ item result, known item result → (stated item result ↔ test item)) {items : List α}
    {results : List β} (related : List.Forall₂ known items results) :
    List.Forall₂ stated items results ↔ ∀ item ∈ items, test item := by
  induction related with
  | nil => simp
  | cons here _ ih => rw [List.forall₂_cons, ih, alike _ _ here, List.forall_mem_cons]

/-- Every condition of a clause comes from a fragment of its own, in order, and is cut at the
operator that is found there, exactly when no character up to the end of an operator becomes several
in upper case. -/
theorem readConditions_cut_iff {clause : List Char} {conditions : List Condition}
    (read : (readConditions clause).outcome = .ok conditions) :
    List.Forall₂ CutAtOperator
        ((fragments clause).filter fun fragment => (findOperator? fragment).isSome) conditions ↔
      ∀ fragment ∈ fragments clause, KeepsPlaces fragment := by
  rw [forall₂_iff_of_forall₂ (fun fragment condition known =>
    ⟨fun cut => keepsPlaces_of_cutAtOperator cut known,
      fun keeps => cutAtOperator_of_keepsPlaces keeps known⟩) (forall₂_of_readFragments read)]
  constructor
  · intro keeps fragment member op place found
    exact keeps fragment (List.mem_filter.mpr ⟨member, by simp [found]⟩) op place found
  · intro keeps fragment member
    exact keeps fragment (List.mem_filter.mp member).1

/-- A condition with a letter behind the operator that becomes two in upper case. -/
def lakeClause : List Char :=
  "süd = 'Weißensee'".toList

theorem fragments_lakeClause : fragments lakeClause = [lakeClause] :=
  fragments_of_absent (by decide +kernel) (by decide +kernel) (by decide)

theorem findOperator?_lakeClause : findOperator? lakeClause = some (.equal, 4) := by
  decide +kernel

theorem readConditions_lakeClause :
    (readConditions lakeClause).outcome = .ok [⟨"süd", .equal, .str "Weißensee"⟩] := by
  have read : readFragment lakeClause = .ok (some ⟨"süd", .equal, .str "Weißensee"⟩) :=
    readFragment_eq_some_iff.mpr ⟨4, findOperator?_lakeClause, by decide +kernel, by rfl⟩
  rw [readConditions, fragments_lakeClause, readFragments, read]
  rfl

theorem keepsPlaces_lakeClause : KeepsPlaces lakeClause := by
  intro op place found
  rw [findOperator?_lakeClause] at found
  cases found
  decide +kernel

theorem readConditions_cut_lakeClause :
    (readConditions lakeClause).outcome = .ok [⟨"süd", .equal, .str "Weißensee"⟩] ∧
      (∀ fragment ∈ fragments lakeClause, KeepsPlaces fragment) ∧
      List.Forall₂ CutAtOperator
        ((fragments lakeClause).filter fun fragment => (findOperator? fragment).isSome)
        [⟨"süd", .equal, .str "Weißensee"⟩] := by
  have keeps : ∀ fragment ∈ fragments lakeClause, KeepsPlaces fragment := by
    rw [fragments_lakeClause, List.forall_mem_singleton]
    exact keepsPlaces_lakeClause
  exact ⟨readConditions_lakeClause, keeps,
    (readConditions_cut_iff readConditions_lakeClause).mpr keeps⟩

/-- A condition with such a letter in front of the operator. -/
def streetClause : List Char :=
  "straße = 5".toList

theorem fragments_streetClause : fragments streetClause = [streetClause] :=
  fragments_of_absent (by decide +kernel) (by decide +kernel) (by decide)

theorem readConditions_streetClause :
    (readConditions streetClause).outcome = .ok [⟨"straße =", .equal, .int 5⟩] := by
  have read : readFragment streetClause = .ok (some ⟨"straße =", .equal, .int 5⟩) :=
    readFragment_eq_some_iff.mpr ⟨8, by decide +kernel, by decide +kernel, by rfl⟩
  rw [readConditions, fragments_streetClause, readFragments, read]
  rfl

/-- The operator is taken into the column, so that the fragment is not divided at any operator. -/
theorem not_divides_streetClause :
    (readConditions streetClause).outcome = .ok [⟨"straße =", .equal, .int 5⟩] ∧
      ∀ fragment ∈ fragments streetClause, ¬∃ left word right,
        fragment = left ++ (word ++ right) ∧
          Divides left word right ⟨"straße =", .equal, .int 5⟩ := by
  refine ⟨readConditions_streetClause, ?_⟩
  rw [fragments_streetClause, List.forall_mem_singleton]
  rintro ⟨left, word, right, split, letters, column, -⟩
  have isSign : word = ['='] := eq_of_sameLetters_sign (by decide) letters
  have onlySign : ∀ place < 10, (streetClause.drop place).head? = some '=' →
      streetClause.take place = "straße ".toList := by
    decide
  have inside : left.length < 10 := by
    have lengths := congrArg List.length split
    rw [isSign, show streetClause.length = 10 by decide, List.length_append] at lengths
    simp only [List.singleton_append, List.length_cons] at lengths
    omega
  have front := onlySign left.length inside (by rw [split, isSign, List.drop_left]; rfl)
  rw [split, List.take_left] at front
  rw [front] at column
  exact absurd column (by decide +kernel)

end SqlPipeline
