import SqlPipeline.Proofs.Text.Pattern
import SqlPipeline.Sql.Recovery

/-!
# Where clauses and conditions end

Clauses are told apart by keywords alone. `interrupts` holds where a clause or a connective is taken
to start, and it only does so where one of `clausePatterns` begins. Text at which nothing is taken to
start is read as one piece: `shortestBody?_of_absent` and `splitConditions_append` say so for bodies
of clauses and for conditions.

Inside a word none of this can start but a grouping, and a grouping cannot either when what follows
the word does not begin with `BY` (`absent_interrupts_word`).
-/

namespace SqlPipeline

open Text Clause

/-- The patterns at which a filter clause is divided or ends. -/
def clausePatterns : List (List Piece) :=
  [[.blanks, .keyword "AND".toList, .blanks],
    [.blanks, .keyword "OR".toList, .blanks],
    [.keyword "GROUP".toList, .blanks, .keyword "BY".toList],
    [.blanks, .keyword "ORDER".toList, .blanks, .keyword "BY".toList],
    [.blanks, .keyword "HAVING".toList]]

/-- Whether the words of a grouping start here. -/
def startsGrouping (text : List Char) : Bool :=
  (keywords? "GROUP".toList "BY".toList text).isSome

/-- Whether a clause starts here, a grouping or what comes behind one. -/
def startsClause (text : List Char) : Bool :=
  startsGrouping text || atOrderBy text || atHaving text

/-- Whether a clause or a connective starts here. -/
def interrupts (text : List Char) : Bool :=
  startsClause text || (skipConnective? text).isSome

theorem not_matches_nil_of_blanks {pieces : List Piece} : ¬Matches (.blanks :: pieces) [] := by
  rintro ⟨front, back, split, ⟨nonempty, -⟩, -⟩
  exact nonempty (List.append_eq_nil_iff.mp split.symm).1

theorem not_matches_nil_of_keyword {capital : Char} {capitals : List Char} {pieces : List Piece} :
    ¬Matches (.keyword (capital :: capitals) :: pieces) [] := by
  rintro ⟨front, back, split, spells, -⟩
  rw [(List.append_eq_nil_iff.mp split.symm).1] at spells
  cases spells

theorem wellFormed_of_mem_clausePatterns {pattern : List Piece} (known : pattern ∈ clausePatterns) :
    WellFormed pattern := by
  simp only [clausePatterns, List.mem_cons, List.not_mem_nil, or_false] at known
  rcases known with rfl | rfl | rfl | rfl | rfl
  · refine ⟨?_, not_matches_nil_of_blanks⟩
    intro capitals member
    obtain rfl : capitals = "AND".toList := by simpa using member
    decide
  · refine ⟨?_, not_matches_nil_of_blanks⟩
    intro capitals member
    obtain rfl : capitals = "OR".toList := by simpa using member
    decide
  · refine ⟨?_, not_matches_nil_of_keyword⟩
    intro capitals member
    have either : capitals = "GROUP".toList ∨ capitals = "BY".toList := by simpa using member
    rcases either with rfl | rfl <;> decide
  · refine ⟨?_, not_matches_nil_of_blanks⟩
    intro capitals member
    have either : capitals = "ORDER".toList ∨ capitals = "BY".toList := by simpa using member
    rcases either with rfl | rfl <;> decide
  · refine ⟨?_, not_matches_nil_of_blanks⟩
    intro capitals member
    obtain rfl : capitals = "HAVING".toList := by simpa using member
    decide

variable {text rest : List Char}

theorem begins_of_keywords? {first second : List Char}
    (found : keywords? first second text = some rest) :
    Begins [.keyword first, .blanks, .keyword second] text := by
  simp only [keywords?, Option.bind_eq_bind, Option.bind_eq_some_iff] at found
  rcases found with ⟨afterFirst, isFirst, afterBlanks, isRun, isSecond⟩
  exact .keyword isFirst (.blanks isRun (.keyword isSecond (begins_nil rest)))

theorem begins_of_skipConnective? (found : skipConnective? text = some rest) :
    Begins [.blanks, .keyword "AND".toList, .blanks] text ∨
      Begins [.blanks, .keyword "OR".toList, .blanks] text := by
  simp only [skipConnective?, Option.bind_eq_bind, Option.bind_eq_some_iff] at found
  rcases found with ⟨afterBlanks, isRun, afterWord, isWord, isSecondRun⟩
  have behind : Begins [.blanks] afterWord := .blanks isSecondRun (begins_nil rest)
  rcases Option.or_eq_some_iff.mp isWord with isAnd | ⟨-, isOr⟩
  · exact Or.inl (.blanks isRun (.keyword isAnd behind))
  · exact Or.inr (.blanks isRun (.keyword isOr behind))

/-- An interruption is where one of the patterns begins. -/
theorem detects_interrupts : Detects interrupts clausePatterns := by
  intro text holds
  simp only [interrupts, startsClause, startsGrouping, atOrderBy, startsWithPair, atHaving,
    Bool.or_eq_true, Option.isSome_iff_exists, Option.bind_eq_some_iff] at holds
  rcases holds with ((⟨rest, grouping⟩ | ⟨_, behind, isRun, ordering⟩) | ⟨rest, behind, isRun, having⟩) |
    ⟨rest, connective⟩
  · exact ⟨_, by simp [clausePatterns], begins_of_keywords? grouping⟩
  · exact ⟨[.blanks, .keyword "ORDER".toList, .blanks, .keyword "BY".toList],
      by simp [clausePatterns], .blanks isRun (begins_of_keywords? ordering)⟩
  · exact ⟨[.blanks, .keyword "HAVING".toList], by simp [clausePatterns],
      .blanks isRun (.keyword having (begins_nil rest))⟩
  · rcases begins_of_skipConnective? connective with isAnd | isOr
    · exact ⟨_, by simp [clausePatterns], isAnd⟩
    · exact ⟨_, by simp [clausePatterns], isOr⟩

theorem keyword?_of_not_letter {capital c : Char} {capitals : List Char}
    (other : isLetter capital c = false) : keyword? (capital :: capitals) (c :: rest) = none := by
  rw [keyword?, if_neg (by simp [other])]

theorem keywords?_of_none {first second : List Char} (none : keyword? first text = none) :
    keywords? first second text = .none := by
  simp [keywords?, none]

theorem skipBlanks?_of_solid {c : Char} (solid : isBlank c = false) :
    skipBlanks? (c :: rest) = none := by
  rw [skipBlanks?, if_neg (by simp [solid])]

theorem trimLeft_of_solid {c : Char} (solid : isBlank c = false) :
    trimLeft (c :: rest) = c :: rest := by
  rw [trimLeft, List.dropWhile_cons_of_neg (by simp [solid])]

theorem skipBlanks?_space {c : Char} (solid : isBlank c = false) :
    skipBlanks? (' ' :: c :: rest) = some (c :: rest) := by
  rw [skipBlanks?, if_pos (by decide), trimLeft_of_solid solid]

/-- The first letters of the keywords at which a clause is divided or ends, and that of `BY`. -/
def firstLetters : List Char := "GOHAB".toList

/-- Whether a character is neither blank nor the first letter of one of the keywords. -/
def Bars (c : Char) : Prop :=
  isBlank c = false ∧ ∀ capital ∈ firstLetters, isLetter capital c = false

instance (c : Char) : Decidable (Bars c) :=
  inferInstanceAs (Decidable (_ ∧ ∀ capital ∈ firstLetters, isLetter capital c = false))

theorem interrupts_solid {c : Char} (solid : isBlank c = false)
    (noGrouping : keywords? "GROUP".toList "BY".toList (c :: rest) = none) :
    interrupts (c :: rest) = false := by
  rw [interrupts, startsClause, startsGrouping, noGrouping, atOrderBy, startsWithPair, atHaving,
    skipConnective?, skipBlanks?_of_solid solid]
  rfl

theorem interrupts_of_bars {c : Char} (bars : Bars c) : interrupts (c :: rest) = false :=
  interrupts_solid bars.1
    (keywords?_of_none (keyword?_of_not_letter (bars.2 'G' (by decide))))

theorem interrupts_space {c : Char} (bars : Bars c) : interrupts (' ' :: c :: rest) = false := by
  have noGroup : keyword? "GROUP".toList (' ' :: c :: rest) = none :=
    keyword?_of_not_letter (by decide)
  have noOrder : keyword? "ORDER".toList (c :: rest) = none :=
    keyword?_of_not_letter (bars.2 'O' (by decide))
  have noHaving : keyword? "HAVING".toList (c :: rest) = none :=
    keyword?_of_not_letter (bars.2 'H' (by decide))
  have noAnd : keyword? "AND".toList (c :: rest) = none :=
    keyword?_of_not_letter (bars.2 'A' (by decide))
  have noOr : keyword? "OR".toList (c :: rest) = none :=
    keyword?_of_not_letter (bars.2 'O' (by decide))
  rw [interrupts, startsClause, startsGrouping, atOrderBy, startsWithPair, atHaving,
    skipConnective?, skipBlanks?_space bars.1, keywords?_of_none noGroup, Option.bind_some,
    Option.bind_some,
    keywords?_of_none noOrder, noHaving]
  simp only [Option.bind_eq_bind, Option.bind_some, noAnd, noOr]
  rfl

/-- Two keywords with blanks between them are not found in front of a word when the second does not
follow it. -/
theorem keywords?_append_word {first second word after : List Char} (capital : Capital first)
    (solid : Solid word) (ends : EndsWord after)
    (notSecond : (skipBlanks? after).bind (keyword? second) = none) :
    keywords? first second (word ++ after) = none := by
  rcases found : keyword? first (word ++ after) with _ | tail
  · exact keywords?_of_none found
  · rcases keyword?_append_word capital ends found with ⟨front, back, -, rfl, rfl⟩
    simp only [keywords?, found, Option.bind_eq_bind, Option.bind_some]
    rcases back with _ | ⟨d, back⟩
    · exact notSecond
    · rw [List.cons_append, skipBlanks?_of_solid (solid d (by simp)), Option.bind_none]

/-- Nothing starts inside a word that is followed by something other than `BY`. -/
theorem absent_interrupts_word {word : List Char} {c : Char} (solid : Solid word) (bars : Bars c) :
    Absent interrupts word (' ' :: c :: rest) := by
  rintro before behind rfl nonempty
  rcases behind with _ | ⟨d, behind⟩
  · exact absurd rfl nonempty
  · have behindSolid : Solid (d :: behind) := fun other member =>
      solid other (List.mem_append_right _ member)
    have noBy : (skipBlanks? (' ' :: c :: rest)).bind (keyword? "BY".toList) = none := by
      rw [skipBlanks?_space bars.1]
      exact keyword?_of_not_letter (bars.2 'B' (by decide))
    have noGrouping := keywords?_append_word (by decide : Capital "GROUP".toList) behindSolid
      (endsWord_space _) noBy
    exact interrupts_solid (behindSolid d List.mem_cons_self) noGrouping

/-- Nothing starts inside a word without a letter that stands for `G`. -/
theorem absent_interrupts_of_forall {word after : List Char} (solid : Solid word)
    (noG : ∀ c ∈ word, isLetter 'G' c = false) : Absent interrupts word after := by
  apply absent_of_forall
  intro c member rest
  exact interrupts_solid (solid c member)
    (keywords?_of_none (keyword?_of_not_letter (noG c member)))

/-- No grouping starts inside a word that is followed by something other than `BY`. -/
theorem absent_startsGrouping_word {word after : List Char} (solid : Solid word)
    (ends : EndsWord after) (noBy : (skipBlanks? after).bind (keyword? "BY".toList) = none) :
    Absent startsGrouping word after := by
  rintro before rest rfl nonempty
  have restSolid : Solid rest := fun c member => solid c (List.mem_append_right _ member)
  rw [startsGrouping, keywords?_append_word (by decide) restSolid ends noBy]
  rfl

/-- No grouping starts where no letter stands for `G`. -/
theorem absent_startsGrouping_of_forall {after : List Char}
    (noG : ∀ c ∈ text, isLetter 'G' c = false) : Absent startsGrouping text after := by
  apply absent_of_forall
  intro c member rest
  have noGroup : keyword? "GROUP".toList (c :: rest) = none :=
    keyword?_of_not_letter (noG c member)
  rw [startsGrouping, keywords?_of_none noGroup]
  rfl

theorem absent_startsGrouping {after : List Char} (absent : Absent startsClause text after) :
    Absent startsGrouping text after := by
  intro before rest split nonempty
  have nothing := absent before rest split nonempty
  rw [startsClause, Bool.or_eq_false_iff, Bool.or_eq_false_iff] at nothing
  exact nothing.1.1

theorem absent_startsClause {after : List Char} (absent : Absent interrupts text after) :
    Absent startsClause text after := by
  intro before rest split nonempty
  have nothing := absent before rest split nonempty
  rw [interrupts, Bool.or_eq_false_iff] at nothing
  exact nothing.1

variable {terminates : List Char → Bool}

/-- A body goes on up to where something terminates it. -/
theorem shortestBody?_of_absent {after : List Char} (c : Char)
    (absent : Absent terminates rest after) (ended : terminates after = true) :
    shortestBody? terminates (c :: (rest ++ after)) = some (c :: rest) := by
  induction rest generalizing c with
  | nil => rw [List.nil_append, shortestBody?, if_pos ended]
  | cons d rest ih =>
      rw [absent_cons_iff] at absent
      rw [List.cons_append, shortestBody?, ← List.cons_append, absent.1, List.cons_append,
        ih d absent.2]
      rfl

/-- A body that may end with the text is found wherever there is something. -/
theorem exists_shortestBody? (atEnd : terminates [] = true) (c : Char) (rest : List Char) :
    ∃ body, shortestBody? terminates (c :: rest) = some body := by
  induction rest generalizing c with
  | nil =>
      refine ⟨[c], ?_⟩
      rw [shortestBody?, if_pos atEnd]
  | cons d rest ih =>
      rcases ih d with ⟨body, found⟩
      rw [shortestBody?, found]
      split
      · exact ⟨[c], rfl⟩
      · exact ⟨c :: body, rfl⟩

/-- Nothing is read where no blanks stand in front. -/
theorem bodyAfterBlanks?_of_none (text : List Char) (none : skipBlanks? text = none) :
    bodyAfterBlanks? terminates text = .none := by
  rcases text with _ | ⟨c, rest⟩
  · rfl
  · rw [skipBlanks?] at none
    split at none
    · cases none
    · next solid => rw [bodyAfterBlanks?, afterBlanks, if_neg solid, List.findSome?_nil]

theorem reference?_of_none (text : List Char) (none : skipBlanks? text = none) :
    reference? text = .none := by
  rw [reference?, none]

/-- What is read behind the longest run of blanks is the body. -/
theorem bodyAfterBlanks?_append {blanks body : List Char} {c : Char}
    (isRun : Piece.blanks.Matches blanks) (solid : isBlank c = false)
    (found : shortestBody? terminates (c :: rest) = some body) :
    bodyAfterBlanks? terminates (blanks ++ c :: rest) = some body := by
  rcases isRun with ⟨nonempty, all⟩
  induction blanks with
  | nil => exact absurd rfl nonempty
  | cons d blanks ih =>
      rw [List.forall_mem_cons] at all
      rw [bodyAfterBlanks?, List.cons_append, afterBlanks, if_pos all.1, List.findSome?_append]
      rcases blanks with _ | ⟨other, blanks⟩
      · simp [afterBlanks, solid, found]
      · have later := ih (by simp) all.2
        rw [bodyAfterBlanks?] at later
        rw [later, Option.some_or]

theorem isRun_space : Piece.blanks.Matches [' '] :=
  ⟨by simp, by decide⟩

/-- A filter goes on as long as no clause starts, up to its end. -/
theorem absent_endsFilter {after front : List Char} {last : Char}
    (absent : Absent startsClause text after) (ending : text = front ++ [last])
    (solid : isBlank last = false) : Absent endsFilter text after := by
  intro before rest split nonempty
  have inRest : last ∈ rest := by
    have isLast : rest.getLast? = some last := by
      rw [← List.getLast?_append_of_ne_nil before nonempty, ← split, ending, List.getLast?_concat]
    exact List.mem_of_getLast? isLast
  have here := absent before rest split nonempty
  simp only [startsClause, Bool.or_eq_false_iff] at here
  have noGroupBy : atGroupBy (rest ++ after) = false := by
    by_contra holds
    rw [Bool.not_eq_false, atGroupBy, startsWithPair, Option.isSome_iff_exists] at holds
    rcases holds with ⟨_, found⟩
    rcases Option.bind_eq_some_iff.mp found with ⟨behind, blanks, grouping⟩
    rcases exists_of_skipBlanks? blanks with ⟨run, same, -, allBlank⟩
    -- the run of blanks stops at the last character of the text at the latest
    have notInRun : last ∉ run := fun member => by
      rw [allBlank last member] at solid
      cases solid
    rcases List.append_eq_append_iff.mp same with ⟨beyond, rfl, -⟩ | ⟨middle, rfl, rfl⟩
    · exact notInRun (List.mem_append_left _ inRest)
    · have someBehind : middle ≠ [] := by
        rintro rfl
        rw [List.append_nil] at inRest
        exact notInRun inRest
      have later := absent (before ++ run) middle (by rw [split, List.append_assoc]) someBehind
      rw [startsClause, startsGrouping, grouping] at later
      simp at later
  have notEnd : atEnd (rest ++ after) = false := by
    rcases rest with _ | ⟨c, rest⟩
    · exact absurd rfl nonempty
    · rw [atEnd, Bool.or_eq_false_iff]
      refine ⟨rfl, ?_⟩
      by_contra lineBreak
      have same : c :: (rest ++ after) = ['\n'] := by simpa using lineBreak
      rcases List.cons.inj same with ⟨rfl, tail⟩
      rw [(List.append_eq_nil_iff.mp tail).1, List.mem_singleton] at inRest
      rw [inRest] at solid
      exact absurd solid (by decide)
  rw [endsFilter, noGroupBy, here.1.2, here.2, notEnd]
  rfl

theorem splitConditions_nil : splitConditions [] = [[]] := by
  rw [splitConditions.eq_def]

theorem splitConditions_cons (c : Char) (rest : List Char) :
    splitConditions (c :: rest) = match skipConnective? (c :: rest) with
      | some after => [] :: splitConditions after
      | none => match splitConditions rest with
        | [] => [[c]]
        | piece :: pieces => (c :: piece) :: pieces := by
  rw [splitConditions.eq_def]
  dsimp only
  split
  · next after found => simp only [found]
  · next none => cases splitConditions rest <;> simp only [none]

/-- A text in which no connective starts belongs to one piece. -/
theorem splitConditions_append {after piece : List Char} {pieces : List (List Char)}
    (absent : Absent (fun text => (skipConnective? text).isSome) text after)
    (known : splitConditions after = piece :: pieces) :
    splitConditions (text ++ after) = (text ++ piece) :: pieces := by
  induction text with
  | nil => exact known
  | cons c text ih =>
      rw [absent_cons_iff] at absent
      have none : skipConnective? (c :: (text ++ after)) = .none := by simpa using absent.1
      rw [List.cons_append, splitConditions_cons, none, ih absent.2]
      rfl

/-- A clause in which no connective starts is one piece. -/
theorem splitConditions_of_absent {clause : List Char}
    (absent : Absent (fun text => (skipConnective? text).isSome) clause []) :
    splitConditions clause = [clause] := by
  have whole := splitConditions_append absent splitConditions_nil
  rwa [List.append_nil] at whole

/-- A connective between two pieces. -/
theorem splitConditions_and {behind : List Char}
    (skipped : skipBlanks? (' ' :: rest) = some behind) :
    splitConditions (' ' :: 'A' :: 'N' :: 'D' :: ' ' :: rest) = [] :: splitConditions behind := by
  have isAnd : keyword? "AND".toList ('A' :: 'N' :: 'D' :: ' ' :: rest) = some (' ' :: rest) := rfl
  have connective : skipConnective? (' ' :: 'A' :: 'N' :: 'D' :: ' ' :: rest) = some behind := by
    simp only [skipConnective?, Option.bind_eq_bind]
    rw [skipBlanks?_space (by decide), Option.bind_some, isAnd, Option.some_or, Option.bind_some,
      skipped]
  rw [splitConditions_cons, connective]

/-- The body of a grouping behind its first word. -/
def groupingBody? (afterGroup : List Char) : Option (List Char) :=
  ((skipBlanks? afterGroup).bind (keyword? "BY".toList)).bind (bodyAfterBlanks? endsGrouping)

theorem grouping?_eq (sql : List Char) :
    grouping? sql = (afterKeyword "GROUP".toList false sql).findSome? groupingBody? := rfl

/-- A text in which no grouping starts is stepped over. -/
theorem findSome?_groupingBody?_append {after : List Char} (inside : Bool)
    (absent : Absent startsGrouping text after) :
    (afterKeyword "GROUP".toList inside (text ++ after)).findSome? groupingBody? =
      (afterKeyword "GROUP".toList (insideAfter inside text) after).findSome? groupingBody? := by
  refine findSome?_afterKeyword_of_absent inside fun before rest split nonempty => ?_
  have here := absent before rest split nonempty
  have none : ((keyword? "GROUP".toList (rest ++ after)).bind fun afterGroup =>
      (skipBlanks? afterGroup).bind (keyword? "BY".toList)) = .none :=
    Option.isNone_iff_eq_none.mp (Option.isSome_eq_false_iff.mp here)
  change ((keyword? "GROUP".toList (rest ++ after)).bind fun afterGroup =>
    ((skipBlanks? afterGroup).bind (keyword? "BY".toList)).bind
      (bodyAfterBlanks? endsGrouping)).isSome = false
  rw [← Option.bind_assoc, none]
  rfl

/-- A grouping at the end of a statement. -/
theorem findSome?_groupingBody?_group {c : Char} {body : List Char} (inside : Bool)
    (solid : isBlank c = false) (whole : Absent endsGrouping body []) :
    (afterKeyword "GROUP".toList inside (" GROUP BY".toList ++ ' ' :: c :: body)).findSome?
      groupingBody? = some (c :: body) := by
  have isGroup : ∃ later, afterKeyword "GROUP".toList inside
      (" GROUP BY".toList ++ ' ' :: c :: body) = (" BY".toList ++ ' ' :: c :: body) :: later := by
    cases inside <;> exact ⟨_, rfl⟩
  have isBy : (skipBlanks? (" BY".toList ++ ' ' :: c :: body)).bind (keyword? "BY".toList) =
      some (' ' :: c :: body) := rfl
  have isBody : bodyAfterBlanks? endsGrouping (' ' :: c :: body) = some (c :: body) := by
    have found : shortestBody? endsGrouping (c :: (body ++ [])) = some (c :: body) :=
      shortestBody?_of_absent c whole rfl
    rw [List.append_nil] at found
    exact bodyAfterBlanks?_append isRun_space solid found
  rcases isGroup with ⟨later, isGroup⟩
  rw [isGroup, List.findSome?_cons, groupingBody?, isBy, Option.bind_some, isBody]

end SqlPipeline
