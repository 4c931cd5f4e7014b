import SqlPipeline.Proofs.Sql.SelectItems

/-!
# Statements over one table

The statement over a table is taken apart here, clause by clause: the select list is an item, the
reference is that of the table, the filter is the joined conditions, and the grouping is the listed
columns. None of these searches stops early, because no clause is taken to start in any of the parts.
What could go wrong lies in the alias, which may be any identifier: if it ends in a word `WHERE`, the
filter is taken to start there, and that is the only trouble (`EndsInWhere`).
-/

namespace SqlPipeline

open Text Clause Aggregates

/-- A reference to a table between quotation marks. -/
structure IsReference (text : List Char) : Prop where
  head : text.head? = some '"'
  last : text.getLast? = some '"'
  characters : ∀ c ∈ text, c.isAlphanum = true ∨ c = '_' ∨ c = '"' ∨ c = '.'

/-- An alias that ends in the word for a filter, in any letter case. -/
def EndsInWhere (name : List Char) : Prop :=
  ∃ before word, name = before ++ word ∧ word.map Char.toUpper = "WHERE".toList ∧
    ∀ c ∈ before.getLast?, isWord c = false

theorem isLetter_where {capital c : Char} (ofWhere : capital ∈ "WHERE".toList)
    (letter : isLetter capital c = true) : c.toUpper = capital := by
  have noSpecial : ∀ capital ∈ "WHERE".toList, capital ≠ 'S' ∧ capital ≠ 'I' ∧ capital ≠ 'K' := by
    decide
  rcases noSpecial capital ofWhere with ⟨notS, notI, notK⟩
  simpa [isLetter, notS, notI, notK] using letter

namespace IsReference

variable {reference : List Char}

theorem facts (isReference : IsReference reference) {c : Char} (member : c ∈ reference) :
    isBlank c = false ∧ c ≠ '(' ∧ c ≠ '\'' ∧ inReference c = true := by
  have name : (c.isAlphanum = true ∨ c = '_' ∨ c = '.') → c.toNat < 128 := fun isName =>
    (nameCharacter_facts isName).1
  have ascii : c.toNat < 128 := by
    rcases isReference.characters c member with alphanum | rfl | rfl | rfl
    · exact name (Or.inl alphanum)
    · decide
    · decide
    · decide
  exact of_ascii (fun c => (c.isAlphanum = true ∨ c = '_' ∨ c = '"' ∨ c = '.') →
    isBlank c = false ∧ c ≠ '(' ∧ c ≠ '\'' ∧ inReference c = true) (by decide) ascii
    (isReference.characters c member)

theorem solid (isReference : IsReference reference) : Solid reference :=
  fun _ member => (isReference.facts member).1

theorem exists_cons (isReference : IsReference reference) : ∃ rest, reference = '"' :: rest :=
  List.head?_eq_some_iff.mp isReference.head

/-- No keyword is read in a reference: it does not end in one. -/
theorem unread (isReference : IsReference reference) {capitals after : List Char}
    (capital : Capital capitals) (ends : EndsWord after) : Unread capitals reference after := by
  refine unread_word capital isReference.solid ends ?_
  intro before rest split nonempty _ spells
  have last := isReference.last
  rw [split, List.getLast?_append_of_ne_nil _ nonempty] at last
  exact absurd (List.mem_of_getLast? last)
    (not_mem_of_spells (by decide) (by decide) capital spells)

end IsReference

/-- The clause of a filter, if there are conditions. -/
def filterText : List Condition → List Char
  | [] => []
  | first :: rest => " WHERE ".toList ++ joined (first :: rest)

/-- The clause of a grouping, if there are columns. -/
def groupText : List (List Char) → List Char
  | [] => []
  | first :: rest => " GROUP BY".toList ++ ' ' :: listed (first :: rest)

theorem filterText_cons (first : Condition) (rest : List Condition) :
    filterText (first :: rest) = " WHERE ".toList ++ joined (first :: rest) := rfl

theorem groupText_cons (first : List Char) (rest : List (List Char)) :
    groupText (first :: rest) = " GROUP BY".toList ++ ' ' :: listed (first :: rest) := rfl

theorem joint_groupText (columns : List (List Char)) : Joint (groupText columns) := by
  cases columns with
  | nil => exact joint_nil
  | cons first rest => exact ⟨endsWord_space _, rfl⟩

/-- Bare names with commas between them are an item. -/
theorem item_names {names : List (List Char)} (nonempty : names ≠ [])
    (bare : ∀ name ∈ names, BareName name) : Item (listed names) [] := by
  have known := @item_listed (names.map fun name => (name, [])) (by simpa using nonempty)
  rw [List.forall_mem_map, List.map_map, List.flatMap_map] at known
  simpa [Function.comp_def, List.flatMap] using known fun name member => (bare name member).item

/-- The body of a filter goes on up to the grouping. -/
theorem bodyAfterBlanks?_joined {first : Condition} {rest : List Condition}
    (legible : ∀ condition ∈ first :: rest, condition.Legible) (columns : List (List Char)) :
    bodyAfterBlanks? endsFilter (' ' :: (joined (first :: rest) ++ groupText columns)) =
      some (filterBody (first :: rest)) := by
  have here := legible first List.mem_cons_self
  rcases exists_filterBody_eq_cons here rest with ⟨c, tail, head, solid⟩
  rcases exists_filterBody_eq_concat legible with ⟨front, last, ending, lastSolid, -⟩
  have noClause := absent_startsClause_joined legible (groupText columns)
  have ended : endsFilter (groupText columns) = true := by
    cases columns <;> rfl
  have isRun : Piece.blanks.Matches (' ' :: first.lead) := Condition.isRun_lead first
  rw [joined_eq_append here, absent_append_iff] at noClause
  have quiet := absent_endsFilter noClause.2 ending lastSolid
  rw [head, absent_cons_iff] at quiet
  rw [joined_eq_append here, List.append_assoc, head]
  exact bodyAfterBlanks?_append isRun solid (shortestBody?_of_absent c quiet.2 ended)

/-- The parts of a statement over a table. -/
structure Parts where
  selected : List Char
  reference : List Char
  sourceAlias : List Char
  conditions : List Condition
  columns : List (List Char)

namespace Parts

/-- The clauses behind the alias. -/
def clauses (parts : Parts) : List Char :=
  filterText parts.conditions ++ groupText parts.columns

/-- What stands behind the reference to the table. -/
def behindReference (parts : Parts) : List Char :=
  " AS ".toList ++ (parts.sourceAlias ++ parts.clauses)

/-- What stands behind the select list. -/
def behindList (parts : Parts) : List Char :=
  " FROM ".toList ++ (parts.reference ++ parts.behindReference)

/-- The statement. -/
def text (parts : Parts) : List Char :=
  "SELECT".toList ++ (' ' :: parts.selected ++ parts.behindList)

/-- Parts whose select list and reference are told apart again, whatever the clauses and wherever they
are taken to start. -/
structure Framed (parts : Parts) : Prop where
  selected : ∃ found, Item parts.selected found
  reference : IsReference parts.reference
  sourceAlias : isIdentifier parts.sourceAlias = true

/-- Parts that are told apart again. -/
structure Plain (parts : Parts) : Prop where
  selected : ∃ found, Item parts.selected found
  reference : IsReference parts.reference
  sourceAlias : isIdentifier parts.sourceAlias = true
  conditions : ∀ condition ∈ parts.conditions, condition.Legible
  columns : ∀ name ∈ parts.columns, BareName name
  apart : parts.clauses ≠ [] → ¬EndsInWhere parts.sourceAlias

variable {parts : Parts}

theorem joint_behindList (parts : Parts) : Joint parts.behindList :=
  joint_from _

theorem joint_clauses (parts : Parts) : Joint parts.clauses := by
  rw [clauses]
  cases parts.conditions with
  | nil => exact joint_groupText parts.columns
  | cons first rest => exact ⟨endsWord_space _, rfl⟩

namespace Framed

theorem quiet (framed : parts.Framed) : Quiet (' ' :: parts.selected) parts.behindList := by
  rcases framed.selected with ⟨found, item⟩
  exact item.quiet _ parts.joint_behindList

theorem selectList?_text (framed : parts.Framed) : selectList? parts.text = some parts.selected := by
  rcases framed.selected with ⟨found, item⟩
  rcases item.head with ⟨c, rest, head, solid⟩
  have first : ∃ later, afterKeyword "SELECT".toList false parts.text =
      (' ' :: parts.selected ++ parts.behindList) :: later := ⟨_, rfl⟩
  have quiet := framed.quiet.goesOn
  have ended : endsSelectList parts.behindList = true := rfl
  have whole : bodyAfterBlanks? endsSelectList (' ' :: parts.selected ++ parts.behindList) =
      some parts.selected := by
    rw [head, absent_cons_iff, absent_cons_iff] at quiet
    rw [head]
    change bodyAfterBlanks? _ ([' '] ++ c :: (rest ++ parts.behindList)) = _
    exact bodyAfterBlanks?_append isRun_space solid (shortestBody?_of_absent c quiet.2.2 ended)
  rcases first with ⟨later, first⟩
  rw [selectList?, first, List.findSome?_cons, whole]

/-- The reference of the table is found. -/
theorem table?_text (framed : parts.Framed) : table? parts.text = some parts.reference := by
  have skipSelect : afterKeyword "FROM".toList false parts.text =
      afterKeyword "FROM".toList true (' ' :: parts.selected ++ parts.behindList) := rfl
  have skipList := findSome?_afterKeyword_of_unread true reference?_of_none framed.quiet.noFrom
  have first : ∀ inside, ∃ later, afterKeyword "FROM".toList inside parts.behindList =
      (' ' :: (parts.reference ++ parts.behindReference)) :: later := by
    intro inside
    cases inside <;> exact ⟨_, rfl⟩
  have whole : (parts.reference ++ parts.behindReference).takeWhile inReference =
      parts.reference := by
    rw [List.takeWhile_append_of_pos fun c member => (framed.reference.facts member).2.2.2]
    exact List.append_nil _
  have found : reference? (' ' :: (parts.reference ++ parts.behindReference)) =
      some parts.reference := by
    rcases framed.reference.exists_cons with ⟨rest, reference⟩
    rw [reference] at whole ⊢
    rw [reference?, List.cons_append, skipBlanks?_space (by decide), ← List.cons_append]
    simp only [whole]
  rcases first (insideAfter true (' ' :: parts.selected)) with ⟨later, first⟩
  rw [table?, skipSelect, skipList, first, List.findSome?_cons, found]

/-- A filter starts in the alias or behind it. -/
theorem filter?_text (framed : parts.Framed) :
    filter? parts.text = (afterKeyword "WHERE".toList false
      (parts.sourceAlias ++ parts.clauses)).findSome? (bodyAfterBlanks? endsFilter) := by
  have skip {text after : List Char} (unread : Unread "WHERE".toList text after) (inside : Bool) :=
    findSome?_afterKeyword_of_unread inside (@bodyAfterBlanks?_of_none endsFilter) unread
  have skipSelect : afterKeyword "WHERE".toList false parts.text =
      afterKeyword "WHERE".toList true (' ' :: parts.selected ++ parts.behindList) := rfl
  have skipFrom : ∀ inside, afterKeyword "WHERE".toList inside parts.behindList =
      afterKeyword "WHERE".toList false (parts.reference ++ parts.behindReference) := by
    intro inside
    cases inside <;> rfl
  have skipAs : ∀ inside, afterKeyword "WHERE".toList inside parts.behindReference =
      afterKeyword "WHERE".toList false (parts.sourceAlias ++ parts.clauses) := by
    intro inside
    cases inside <;> rfl
  have inReference : Unread "WHERE".toList parts.reference parts.behindReference :=
    framed.reference.unread (by decide) (endsWord_space _)
  rw [filter?, skipSelect, skip framed.quiet.noWhere, skipFrom, skip inReference, skipAs]

/-- Where an alias is not read as the word for a filter, no filter starts in it. -/
theorem unread_sourceAlias (framed : parts.Framed)
    (apart : parts.clauses ≠ [] → ¬EndsInWhere parts.sourceAlias) :
    Unread "WHERE".toList parts.sourceAlias parts.clauses := by
  refine unread_word (by decide) (solid_of_isIdentifier framed.sourceAlias)
    parts.joint_clauses.ends ?_
  intro before rest split nonempty outside spells
  by_cases noClause : parts.clauses = []
  · rw [noClause]
    rfl
  · refine absurd ⟨before, rest, split, ?_, ?_⟩ (apart noClause)
    · exact map_toUpper_of_spells spells fun capital ofWhere c _ => isLetter_where ofWhere
    · intro c member
      rw [Option.mem_def] at member
      simpa [insideAfter, member] using outside

/-- The filter is then that of the clauses. -/
theorem filter?_text_of_apart (framed : parts.Framed)
    (apart : parts.clauses ≠ [] → ¬EndsInWhere parts.sourceAlias) :
    filter? parts.text = filter? parts.clauses := by
  have inAlias := findSome?_afterKeyword_of_unread false (@bodyAfterBlanks?_of_none endsFilter)
    (framed.unread_sourceAlias apart)
  have isW : 'W'.isUpper = true := by decide
  rw [framed.filter?_text, inAlias, filter?]
  exact congrArg (List.findSome? (bodyAfterBlanks? endsFilter))
    (afterKeyword_of_endsWord isW parts.joint_clauses.ends _)

/-- Behind an alias that ends in the word for a filter, all clauses are taken for the filter. -/
theorem filter?_text_of_endsInWhere (framed : parts.Framed)
    (endsInWhere : EndsInWhere parts.sourceAlias) {body : List Char}
    (isBody : bodyAfterBlanks? endsFilter parts.clauses = some body) :
    filter? parts.text = some body := by
  have solid := solid_of_isIdentifier framed.sourceAlias
  rw [framed.filter?_text]
  rcases endsInWhere with ⟨before, word, sourceAlias, capitals, outside⟩
  rw [sourceAlias] at solid ⊢
  have spells : Spells "WHERE".toList word := spells_of_map_toUpper capitals
  have length := spells.length_eq
  -- an earlier occurrence of the word is followed by the rest of the alias, and not by a blank
  have nothing : ∀ front rest, before = front ++ rest → rest ≠ [] →
      insideAfter false front = false →
        (keyword? "WHERE".toList (rest ++ (word ++ parts.clauses))).bind
          (bodyAfterBlanks? endsFilter) = none := by
    rintro front rest rfl nonempty -
    rcases found : keyword? "WHERE".toList (rest ++ (word ++ parts.clauses)) with _ | tail
    · rfl
    · rw [← List.append_assoc] at found
      rcases keyword?_append_word (by decide) parts.joint_clauses.ends found with
        ⟨earlier, back, spellsEarlier, split, rfl⟩
      have lengths := congrArg List.length split
      rw [List.length_append, List.length_append, ← spellsEarlier.length_eq, ← length] at lengths
      rcases back with _ | ⟨c, back⟩
      · have := List.length_pos_iff.mpr nonempty
        rw [List.length_nil] at lengths
        omega
      · have inAlias : c ∈ front ++ rest ++ word := by
          rw [List.append_assoc, split]
          simp
        exact bodyAfterBlanks?_of_none _ (skipBlanks?_of_solid (solid c inAlias))
  have atWord : insideAfter false before = false := by
    rcases last : before.getLast? with _ | c
    · simp [insideAfter, last]
    · simp [insideAfter, last, outside c last]
  rw [List.append_assoc, findSome?_afterKeyword_append nothing, atWord]
  rcases word with _ | ⟨c, word⟩
  · cases length
  · rw [List.cons_append, afterKeyword_cons, if_neg Bool.false_ne_true, ← List.cons_append,
      keyword?_append spells, Option.toList_some, List.cons_append, List.findSome?_cons, isBody]

/-- The grouping is that of the clauses. -/
theorem grouping?_text (framed : parts.Framed) : grouping? parts.text = grouping? parts.clauses := by
  have skip {text after : List Char} (absent : Absent startsGrouping text after) (inside : Bool) :=
    findSome?_groupingBody?_append inside absent
  have skipSelect : afterKeyword "GROUP".toList false parts.text =
      afterKeyword "GROUP".toList true (' ' :: parts.selected ++ parts.behindList) := rfl
  have skipFrom : ∀ inside, afterKeyword "GROUP".toList inside parts.behindList =
      afterKeyword "GROUP".toList false (parts.reference ++ parts.behindReference) := by
    intro inside
    cases inside <;> rfl
  have skipAs : ∀ inside, afterKeyword "GROUP".toList inside parts.behindReference =
      afterKeyword "GROUP".toList false (parts.sourceAlias ++ parts.clauses) := by
    intro inside
    cases inside <;> rfl
  have inReference : Absent startsGrouping parts.reference parts.behindReference :=
    absent_startsGrouping_word framed.reference.solid (endsWord_space _) rfl
  have inAlias : Absent startsGrouping parts.sourceAlias parts.clauses :=
    absent_startsGrouping_word (solid_of_isIdentifier framed.sourceAlias) parts.joint_clauses.ends
      parts.joint_clauses.notBy
  have isG : 'G'.isUpper = true := by decide
  rw [grouping?_eq, skipSelect, skip framed.quiet.noGrouping, skipFrom, skip inReference, skipAs,
    skip inAlias, grouping?_eq]
  exact congrArg (List.findSome? groupingBody?)
    (afterKeyword_of_endsWord isG parts.joint_clauses.ends _)

/-- A parenthesis stands in the select list or in the clauses. -/
theorem parenthesis_mem_selected (framed : parts.Framed) (noParenthesis : '(' ∉ parts.clauses)
    (member : '(' ∈ parts.text) : '(' ∈ parts.selected := by
  have notReference : '(' ∉ parts.reference := fun member =>
    (framed.reference.facts member).2.1 rfl
  have notAlias : '(' ∉ parts.sourceAlias :=
    not_mem_of_isIdentifier framed.sourceAlias (by decide) (by decide)
  have behindReference : '(' ∉ parts.behindReference :=
    List.not_mem_append (by decide) (List.not_mem_append notAlias noParenthesis)
  have behindList : '(' ∉ parts.behindList :=
    List.not_mem_append (by decide) (List.not_mem_append notReference behindReference)
  rcases List.mem_append.mp member with inWord | member
  · exact absurd inWord (by decide)
  · have inList := (List.mem_append.mp member).resolve_right behindList
    exact (List.mem_cons.mp inList).resolve_left (by decide)

end Framed

namespace Plain

theorem framed (plain : parts.Plain) : parts.Framed :=
  ⟨plain.selected, plain.reference, plain.sourceAlias⟩

theorem unread_groupText (plain : parts.Plain) :
    Unread "WHERE".toList (groupText parts.columns) [] := by
  have bare := plain.columns
  generalize parts.columns = columns at bare
  cases columns with
  | nil => exact unread_nil
  | cons first rest =>
      have quiet := (item_names (by simp) bare).quiet [] joint_nil
      have noWhere : Unread "WHERE".toList " GROUP BY".toList
          (' ' :: listed (first :: rest) ++ []) := unread_of_forall (by decide)
      exact unread_append noWhere quiet.noWhere

/-- The filter is the conditions, or there is none. -/
theorem filter?_text (plain : parts.Plain) :
    filter? parts.text =
      if parts.conditions.isEmpty then none else some (filterBody parts.conditions) := by
  rw [plain.framed.filter?_text_of_apart plain.apart, filter?, clauses]
  cases conditions : parts.conditions with
  | nil =>
      have skipGroup := findSome?_afterKeyword_of_unread false
        (@bodyAfterBlanks?_of_none endsFilter) plain.unread_groupText
      rw [List.append_nil] at skipGroup
      change List.findSome? _ (afterKeyword _ false (groupText parts.columns)) = none
      rw [skipGroup, afterKeyword, List.findSome?_nil]
  | cons first rest =>
      have legible := plain.conditions
      rw [conditions] at legible
      have whole := bodyAfterBlanks?_joined legible parts.columns
      have isWhere : ∃ later, afterKeyword "WHERE".toList false
          (filterText (first :: rest) ++ groupText parts.columns) =
            (' ' :: (joined (first :: rest) ++ groupText parts.columns)) :: later := ⟨_, rfl⟩
      rcases isWhere with ⟨later, isWhere⟩
      rw [isWhere, List.findSome?_cons, whole]
      rfl

/-- The grouping is the listed columns, or there is none. -/
theorem grouping?_text (plain : parts.Plain) :
    grouping? parts.text =
      if parts.columns.isEmpty then none else some (listed parts.columns) := by
  have inFilter :
      Absent startsGrouping (filterText parts.conditions) (groupText parts.columns) := by
    have legible := plain.conditions
    cases conditions : parts.conditions with
    | nil => exact absent_nil
    | cons first rest =>
        rw [conditions] at legible
        rw [filterText_cons, absent_append_iff]
        exact ⟨absent_startsGrouping_of_forall (by decide),
          absent_startsGrouping (absent_startsClause_joined legible _)⟩
  rw [plain.framed.grouping?_text, grouping?_eq, clauses,
    findSome?_groupingBody?_append false inFilter]
  have bare := plain.columns
  cases columns : parts.columns with
  | nil => rfl
  | cons first rest =>
      rw [columns] at bare
      rcases (item_names (by simp) bare).head with ⟨c, tail, head, solid⟩
      have whole := absent_endsGrouping_listed bare
      rw [head, absent_cons_iff] at whole
      rw [groupText_cons, head, findSome?_groupingBody?_group _ solid whole.2]
      rfl

theorem parenthesis_not_mem_clauses (plain : parts.Plain) : '(' ∉ parts.clauses := by
  have inFilter : '(' ∉ filterText parts.conditions := by
    have legible := plain.conditions
    cases conditions : parts.conditions with
    | nil => exact List.not_mem_nil
    | cons first rest =>
        rw [conditions] at legible
        exact List.not_mem_append (by decide) (parenthesis_not_mem_joined legible)
  have inGroup : '(' ∉ groupText parts.columns := by
    have bare := plain.columns
    cases columns : parts.columns with
    | nil => exact List.not_mem_nil
    | cons first rest =>
        rw [columns] at bare
        have inList := parenthesis_not_mem_listed fun name member => (bare name member).plain
        exact List.not_mem_append (by decide)
          (List.not_mem_cons_of_ne_of_not_mem (by decide) inList)
  exact List.not_mem_append inFilter inGroup

/-- A parenthesis stands in the select list or nowhere. -/
theorem parenthesis_mem_selected (plain : parts.Plain) (member : '(' ∈ parts.text) :
    '(' ∈ parts.selected :=
  plain.framed.parenthesis_mem_selected plain.parenthesis_not_mem_clauses member

end Plain

theorem mem_text_of_mem_selected {c : Char} (member : c ∈ parts.selected) : c ∈ parts.text :=
  List.mem_append_right _ (List.mem_append_left _ (List.mem_cons_of_mem _ member))

end Parts

end SqlPipeline
