import SqlPipeline.Proofs.Sql.Embedding
import SqlPipeline.Proofs.Sql.Fragments
import SqlPipeline.Proofs.Sql.ReadBack
import SqlPipeline.Proofs.Text.Extension

/-!
# A further clause behind a statement

A statement goes on with `GROUP BY`, `ORDER BY` or `HAVING` and any text. Then the filter ends where
it ended before, or in front of the new clause, and what it loses are blanks at its end
(`exists_filter?_append`). Trimming takes these away in any case, so the filter of the recovered
graph stays the same node (`recover_append_clause`).
-/

namespace SqlPipeline

open Text Clause

/-- What leads from a statement to a further clause. -/
def connectors : List String :=
  [" GROUP BY ", " ORDER BY ", " HAVING "]

/-- Whether a text is one of the connectors, in any letter case. -/
def Connects (connector : String) : Prop :=
  connector.toList.map Char.toUpper ∈ connectors.map String.toList

instance (connector : String) : Decidable (Connects connector) :=
  inferInstanceAs (Decidable (_ ∈ _))

/-- A text, of one character at least, at which a clause is taken to start behind a blank. -/
structure HeadsClause (first : Char) (rest : List Char) : Prop where
  solid : isBlank first = false
  notBy : isLetter 'B' first = false
  heads : (keywords? "GROUP".toList "BY".toList (first :: rest)).isSome = true ∨
    (keywords? "ORDER".toList "BY".toList (first :: rest)).isSome = true ∨
    (keyword? "HAVING".toList (first :: rest)).isSome = true

/-- Only `B` and `b` stand for `B`. -/
theorem isLetter_of_toUpper {c : Char} (other : c.toUpper ≠ 'B') : isLetter 'B' c = false := by
  simp [isLetter, other]

theorem isSome_keyword?_of_map_toUpper {capitals words : List Char}
    (upper : words.map Char.toUpper = capitals ++ [' ']) (further : List Char) :
    (keyword? capitals (words ++ further)).isSome = true := by
  rcases List.map_eq_append_iff.mp upper with ⟨word, last, rfl, same, -⟩
  rw [List.append_assoc, keyword?_append (spells_of_map_toUpper same)]
  rfl

theorem isSome_keywords?_of_map_toUpper {capitals words : List Char}
    (upper : words.map Char.toUpper = capitals ++ " BY ".toList) (further : List Char) :
    (keywords? capitals "BY".toList (words ++ further)).isSome = true := by
  rcases List.map_eq_append_iff.mp upper with ⟨word, behind, rfl, same, upperBehind⟩
  rcases List.map_eq_cons_iff.mp upperBehind with ⟨space, second, rfl, isSpace, isSecond⟩
  rcases List.map_eq_cons_iff.mp isSecond with ⟨c, later, rfl, isB, -⟩
  obtain rfl := eq_space_of_toUpper isSpace
  have solid : isBlank c = false := isBlank_of_toUpper (by rw [isB]; decide)
  have isBy := @isSome_keyword?_of_map_toUpper "BY".toList (c :: later) isSecond further
  simp only [keywords?, List.append_assoc, keyword?_append (spells_of_map_toUpper same),
    Option.bind_eq_bind, Option.bind_some, List.cons_append, skipBlanks?_space solid]
  exact isBy

/-- A text that begins like a keyword with a blank behind it, in any letter case. -/
theorem exists_headsClause_of_map_toUpper {words : List Char}
    (upper : words.map Char.toUpper = "GROUP".toList ++ " BY ".toList ∨
      words.map Char.toUpper = "ORDER".toList ++ " BY ".toList ∨
      words.map Char.toUpper = "HAVING".toList ++ [' ']) (further : List Char) :
    ∃ first rest, words ++ further = first :: rest ∧ HeadsClause first rest := by
  have starts : ∃ capital ∈ "GOH".toList, ∃ others, words.map Char.toUpper = capital :: others := by
    rcases upper with same | same | same
    · exact ⟨'G', by decide, _, same⟩
    · exact ⟨'O', by decide, _, same⟩
    · exact ⟨'H', by decide, _, same⟩
  rcases starts with ⟨capital, letter, others, same⟩
  rcases List.map_eq_cons_iff.mp same with ⟨first, rest, rfl, rfl, -⟩
  have facts : first.toUpper.isUpper = true ∧ first.toUpper ≠ 'B' := by
    revert letter
    generalize first.toUpper = capital
    revert capital
    decide
  refine ⟨first, rest ++ further, rfl, isBlank_of_toUpper facts.1, isLetter_of_toUpper facts.2, ?_⟩
  rw [← List.cons_append]
  rcases upper with grouping | ordering | having
  · exact Or.inl (isSome_keywords?_of_map_toUpper grouping further)
  · exact Or.inr (Or.inl (isSome_keywords?_of_map_toUpper ordering further))
  · exact Or.inr (Or.inr (isSome_keyword?_of_map_toUpper having further))

/-- What a connector leads to starts a clause, whatever follows. -/
theorem exists_headsClause {connector : String} (connects : Connects connector)
    (further : List Char) :
    ∃ first rest, connector.toList ++ further = ' ' :: first :: rest ∧ HeadsClause first rest := by
  have either : connector.toList.map Char.toUpper = ' ' :: ("GROUP".toList ++ " BY ".toList) ∨
      connector.toList.map Char.toUpper = ' ' :: ("ORDER".toList ++ " BY ".toList) ∨
      connector.toList.map Char.toUpper = ' ' :: ("HAVING".toList ++ [' ']) := by
    simpa [Connects, connectors] using connects
  have begins : ∃ upper, connector.toList.map Char.toUpper = ' ' :: upper := by
    rcases either with same | same | same <;> exact ⟨_, same⟩
  rcases begins with ⟨upper, known⟩
  rcases List.map_eq_cons_iff.mp known with ⟨space, words, split, isSpace, rfl⟩
  obtain rfl := eq_space_of_toUpper isSpace
  simp only [known, List.cons.injEq, true_and] at either
  rcases exists_headsClause_of_map_toUpper either further with ⟨first, rest, same, heads⟩
  exact ⟨first, rest, by rw [split, List.cons_append, same], heads⟩

variable {first : Char} {rest text : List Char}

/-- A keyword without a body has none when the text goes on, unless it stood at the end. -/
theorem bodyAfterBlanks?_append_of_none {after : List Char} (long : 2 ≤ text.length)
    (none : bodyAfterBlanks? endsFilter text = none) :
    bodyAfterBlanks? endsFilter (text ++ after) = .none := by
  rcases text with _ | ⟨c, _ | ⟨d, others⟩⟩
  · cases long
  · simp at long
  · by_cases blank : isBlank c = true
    · rcases exists_shortestBody? (by decide : endsFilter [] = true) d others with ⟨body, isBody⟩
      rw [bodyAfterBlanks?, afterBlanks, if_pos blank, List.findSome?_append,
        Option.or_eq_none_iff] at none
      simp [isBody] at none
    · apply bodyAfterBlanks?_of_none
      exact skipBlanks?_of_solid (by simpa using blank)

/-- Whether what is kept of a body is the body without some blanks at its end. -/
def LosesBlanks (body kept : List Char) : Prop :=
  ∃ gap, body = kept ++ gap ∧ AllBlank gap

variable {body kept : List Char}

theorem losesBlanks_self (body : List Char) : LosesBlanks body body :=
  ⟨[], by simp, by simp [AllBlank]⟩

theorem LosesBlanks.cons (c : Char) (loses : LosesBlanks body kept) :
    LosesBlanks (c :: body) (c :: kept) := by
  rcases loses with ⟨gap, rfl, blank⟩
  exact ⟨gap, rfl, blank⟩

theorem LosesBlanks.trimBody_eq (loses : LosesBlanks body kept) : trimBody body = trimBody kept := by
  rcases loses with ⟨gap, rfl, blank⟩
  simp only [trimBody, trim_append_of_allBlank blank]

/-- Nothing is read from a clause of blanks. -/
theorem readConditions_of_allBlank (blank : AllBlank body) :
    readConditions (trimBody body) = pure [] := by
  have empty : trimBody body = [] := by
    rw [trimBody, trim_of_allBlank blank]
    rfl
  have noFragment : fragments [] = [] := by
    rw [fragments, splitConditions_nil]
    rfl
  rw [empty, readConditions, noFragment]
  rfl

namespace HeadsClause

theorem skipBlanks?_gap (heads : HeadsClause first rest) {gap : List Char}
    (blank : AllBlank gap) :
    skipBlanks? (gap ++ ' ' :: first :: rest) = some (first :: rest) := by
  have isRun : Piece.blanks.Matches (gap ++ [' ']) := by
    refine ⟨by simp, fun c member => ?_⟩
    rcases List.mem_append.mp member with inGap | isSpace
    · exact blank c inGap
    · obtain rfl := List.mem_singleton.mp isSpace
      decide
  have skipped := @skipBlanks?_append rest _ _ isRun heads.solid
  rwa [List.append_assoc] at skipped

theorem endsFilter_gap (heads : HeadsClause first rest) {gap : List Char} (blank : AllBlank gap) :
    endsFilter (gap ++ ' ' :: first :: rest) = true := by
  have behind := heads.skipBlanks?_gap blank
  rcases heads.heads with grouping | ordering | having
  · have starts : atGroupBy (gap ++ ' ' :: first :: rest) = true := by
      rw [atGroupBy, startsWithPair, behind]
      exact grouping
    simp [endsFilter, starts]
  · have starts : atOrderBy (gap ++ ' ' :: first :: rest) = true := by
      rw [atOrderBy, startsWithPair, behind]
      exact ordering
    simp [endsFilter, starts]
  · have starts : atHaving (gap ++ ' ' :: first :: rest) = true := by
      rw [atHaving, behind]
      exact having
    simp [endsFilter, starts]

/-- A keyword at the end of a text does not become the first word of a pair. -/
theorem isSome_keywords?_append (heads : HeadsClause first rest) {capitals : List Char}
    (capital : Capital capitals) (text : List Char) :
    (keywords? capitals "BY".toList (text ++ ' ' :: first :: rest)).isSome =
      (keywords? capitals "BY".toList text).isSome := by
  have ends : EndsWord (' ' :: first :: rest) := endsWord_space _
  simp only [keywords?, Option.bind_eq_bind, keyword?_append_of_endsWord capital ends]
  rcases keyword? capitals text with _ | tail
  · rfl
  · simp only [Option.map_some, Option.bind_some]
    by_cases blank : AllBlank tail
    · have noBy : keyword? "BY".toList (first :: rest) = none := keyword?_of_not_letter heads.notBy
      rw [heads.skipBlanks?_gap blank, Option.bind_some, noBy]
      rcases skipped : skipBlanks? tail with _ | later
      · rfl
      · obtain rfl := eq_nil_of_skipBlanks?_of_allBlank blank skipped
        rfl
    · exact isSome_bind_skipBlanks?_append
        (isSome_keyword?_append_of_endsWord (by decide) ends) blank

/-- Where a filter ends before the last blanks of a statement does not depend on what follows. -/
theorem endsFilter_append (heads : HeadsClause first rest) (solid : ¬AllBlank text) :
    endsFilter (text ++ ' ' :: first :: rest) = endsFilter text := by
  have notEnd : atEnd text = false := by
    rw [atEnd, Bool.or_eq_false_iff]
    constructor
    · apply List.isEmpty_eq_false_iff.mpr
      rintro rfl
      exact solid (by decide)
    · apply beq_eq_false_iff_ne.mpr
      rintro rfl
      exact solid (by decide)
  have notEndBehind : atEnd (text ++ ' ' :: first :: rest) = false := by
    have longer : text ++ ' ' :: first :: rest ≠ ['\n'] := by
      intro same
      have lengths := congrArg List.length same
      simp at lengths
      omega
    simp [atEnd, longer]
  have grouping : atGroupBy (text ++ ' ' :: first :: rest) = atGroupBy text :=
    isSome_bind_skipBlanks?_append (heads.isSome_keywords?_append (by decide)) solid
  have ordering : atOrderBy (text ++ ' ' :: first :: rest) = atOrderBy text :=
    isSome_bind_skipBlanks?_append (heads.isSome_keywords?_append (by decide)) solid
  have having : atHaving (text ++ ' ' :: first :: rest) = atHaving text :=
    isSome_bind_skipBlanks?_append
      (isSome_keyword?_append_of_endsWord (by decide) (endsWord_space _)) solid
  rw [endsFilter, endsFilter, grouping, ordering, having, notEnd, notEndBehind]

/-- A body ends where it ended before, or where the further clause is taken to start. -/
theorem exists_shortestBody?_append (heads : HeadsClause first rest)
    (found : shortestBody? endsFilter text = some body) :
    ∃ kept, LosesBlanks body kept ∧
      shortestBody? endsFilter (text ++ ' ' :: first :: rest) = some kept := by
  induction text generalizing body with
  | nil => cases found
  | cons c text ih =>
      rw [List.cons_append, shortestBody?]
      rw [shortestBody?] at found
      by_cases blank : AllBlank text
      · refine ⟨[c], ?_, if_pos (heads.endsFilter_gap blank)⟩
        split at found
        · cases found
          exact losesBlanks_self [c]
        · rcases Option.map_eq_some_iff.mp found with ⟨later, isLater, rfl⟩
          rcases exists_of_shortestBody? isLater with ⟨behind, rfl, -⟩
          exact ⟨later, rfl, fun d member => blank d (List.mem_append_left _ member)⟩
      · rw [heads.endsFilter_append blank]
        split at found
        · next ended =>
          cases found
          exact ⟨[c], losesBlanks_self [c], if_pos ended⟩
        · next goesOn =>
          rcases Option.map_eq_some_iff.mp found with ⟨later, isLater, rfl⟩
          rcases ih isLater with ⟨kept, loses, still⟩
          refine ⟨c :: kept, loses.cons c, ?_⟩
          rw [if_neg goesOn, still, Option.map_some]

theorem exists_bodyAfterBlanks?_append (heads : HeadsClause first rest)
    (found : bodyAfterBlanks? endsFilter text = some body) (solid : ¬AllBlank body) :
    ∃ kept, LosesBlanks body kept ∧
      bodyAfterBlanks? endsFilter (text ++ ' ' :: first :: rest) = some kept := by
  rcases skipped : skipBlanks? text with _ | behind
  · rw [bodyAfterBlanks?_of_none text skipped] at found
    cases found
  · rcases exists_of_skipBlanks? skipped with ⟨run, rfl, isRun⟩
    rcases eq_nil_or_exists_of_skipBlanks? skipped with rfl | ⟨c, others, rfl, notBlank⟩
    · rcases enclosed_of_bodyAfterBlanks? found with ⟨before, after, split, -⟩
      rw [List.append_nil] at split
      exact absurd (fun d member => isRun.2 d (by simp [split, member])) solid
    · rcases exists_shortestBody? (by decide : endsFilter [] = true) c others with ⟨whole, isBody⟩
      rw [bodyAfterBlanks?_append isRun notBlank isBody] at found
      cases found
      rcases heads.exists_shortestBody?_append isBody with ⟨kept, loses, still⟩
      refine ⟨kept, loses, ?_⟩
      rw [List.append_assoc, List.cons_append]
      exact bodyAfterBlanks?_append isRun notBlank still

/-- The filter of a statement with a further clause is the filter of the statement, but for blanks at
its end. -/
theorem exists_filter?_append (heads : HeadsClause first rest) {sql : List Char}
    (found : filter? sql = some body) (solid : ¬AllBlank body) :
    ∃ kept, LosesBlanks body kept ∧ filter? (sql ++ ' ' :: first :: rest) = some kept := by
  have ordered := @pairwise_length_afterKeyword "WHERE".toList false sql
  rcases List.findSome?_eq_some_iff.mp found with ⟨passed, tail, later, split, isBody, nothing⟩
  rcases heads.exists_bodyAfterBlanks?_append isBody solid with ⟨kept, loses, still⟩
  refine ⟨kept, loses, ?_⟩
  have passedOver : (passed.map (· ++ ' ' :: first :: rest)).findSome?
      (bodyAfterBlanks? endsFilter) = none := by
    apply List.findSome?_eq_none_iff.mpr
    intro extended member
    rcases List.mem_map.mp member with ⟨other, isPassed, rfl⟩
    -- only the last keyword of a statement could stand at its very end
    rw [split, List.pairwise_append] at ordered
    have shorter := ordered.2.2 other isPassed tail List.mem_cons_self
    have something : 0 < tail.length := by
      apply List.length_pos_iff.mpr
      rintro rfl
      cases isBody
    exact bodyAfterBlanks?_append_of_none (by omega) (nothing other isPassed)
  rw [filter?, afterKeyword_append_of_endsWord (by decide) (endsWord_space _), split,
    List.map_append, List.append_assoc, List.findSome?_append, passedOver, List.map_cons,
    List.cons_append, List.findSome?_cons, still]
  rfl

/-- The conditions of a statement stay when a further clause follows. -/
theorem filter_append (heads : HeadsClause first rest) {sql : List Char} {stage : Stage}
    (isFilter : (Recovery.filter sql).outcome = .ok [stage]) :
    Recovery.filter (sql ++ ' ' :: first :: rest) = Recovery.filter sql := by
  rcases found : filter? sql with _ | body
  · rw [Recovery.filter, found] at isFilter
    cases isFilter
  · have solid : ¬AllBlank body := by
      intro blank
      simp only [Recovery.filter, found, readConditions_of_allBlank blank] at isFilter
      cases isFilter
    rcases heads.exists_filter?_append found solid with ⟨kept, loses, still⟩
    simp only [Recovery.filter, found, still, loses.trimBody_eq]

end HeadsClause

variable {settings : Settings} {sql : String} {graph : Graph} {node : Node}

/-- The filter of a recovered graph is the one that was found in the statement. -/
theorem exists_conditions_of_recover (recovered : (recover settings sql).outcome = .ok graph)
    (member : node ∈ graph.nodes) (isFilter : node.kind = .filter) :
    MentionsTable sql.toList ∧ ∃ conditions,
      (Recovery.filter sql.toList).outcome = .ok [.filter ⟨conditions⟩] ∧
        node = Graph.filterNode settings conditions := by
  rcases table : table? sql.toList with _ | reference
  · rw [eq_empty_of_recover recovered table] at member
    cases member
  · refine ⟨exists_table?_iff.mp ⟨reference, table⟩, ?_⟩
    rcases exists_parts_of_recover recovered table with ⟨conditions, grouped, found, -, rfl⟩
    rcases Graph.mem_filters_row_iff.mp ⟨member, isFilter⟩ with ⟨nonempty, rfl⟩
    refine ⟨conditions, ?_, rfl⟩
    rw [found, if_neg (by simpa using nonempty)]

theorem mem_filters_recover_iff (recovered : (recover settings sql).outcome = .ok graph)
    (mentions : MentionsTable sql.toList) {conditions : List Condition}
    (isFilter : (Recovery.filter sql.toList).outcome = .ok [.filter ⟨conditions⟩]) :
    node ∈ graph.nodes ∧ node.kind = .filter ↔ node = Graph.filterNode settings conditions := by
  rcases exists_table?_iff.mpr mentions with ⟨reference, table⟩
  rcases exists_parts_of_recover recovered table with ⟨others, grouped, found, -, rfl⟩
  rw [Graph.mem_filters_row_iff]
  rw [isFilter] at found
  rcases others with _ | ⟨first, rest⟩
  · cases found
  · cases found
    simp

/-- However a statement with a filter goes on behind one of the connectors, the filter stays the
same node, with the same conditions, and remains the only one. -/
theorem recover_append_clause (recovered : (recover settings sql).outcome = .ok graph)
    (member : node ∈ graph.nodes) (isFilter : node.kind = .filter) {connector : String}
    (connects : Connects connector) (further : String) {extended : Graph}
    (again : (recover settings (sql ++ connector ++ further)).outcome = .ok extended) :
    node ∈ extended.nodes ∧ ∀ other ∈ extended.nodes, other.kind = .filter → other = node := by
  rcases exists_conditions_of_recover recovered member isFilter with
    ⟨mentions, conditions, found, rfl⟩
  rcases exists_headsClause connects further.toList with ⟨first, rest, split, heads⟩
  have letters : (sql ++ connector ++ further).toList = sql.toList ++ ' ' :: first :: rest := by
    rw [String.toList_append, String.toList_append, List.append_assoc, split]
  have stillMentions : MentionsTable (sql ++ connector ++ further).toList := by
    rw [letters]
    exact @MentionsTable.surround sql.toList [] mentions rfl _
  have stillFound : (Recovery.filter (sql ++ connector ++ further).toList).outcome =
      .ok [.filter ⟨conditions⟩] := by
    rw [letters, heads.filter_append found, found]
  have filters (other : Node) := @mem_filters_recover_iff _ _ _ other again stillMentions _ stillFound
  refine ⟨((filters _).mpr rfl).1, fun other inExtended otherFilter => ?_⟩
  exact (filters other).mp ⟨inExtended, otherFilter⟩

/-- A statement with a semicolon and blanks at its end. -/
def endedStatement : String := "SELECT * FROM t WHERE a = 1 ; \n"

/-- The graph of a statement that compares one column, whatever blanks its filter ends with. -/
theorem outcome_recover_comparison {sql : String} {body : List Char}
    (table : table? sql.toList = some ['t']) (isFilter : filter? sql.toList = some body)
    (trimmed : trimBody body = "a = 1".toList) (noGrouping : grouping? sql.toList = none)
    (selectList : selectList? sql.toList = some ['*']) :
    (recover {} sql).outcome = .ok (.chain {} (Recovery.row {}
      (Recovery.source sql (Recovery.tableName ['t'])) [⟨"a", .equal, .int 1⟩] none)) := by
  apply outcome_recover_row table
  · have pieces : fragments "a = 1".toList = ["a = 1".toList] :=
      fragments_of_absent (by decide +kernel) (by decide) (by decide)
    have read : (readConditions "a = 1".toList).outcome = .ok [⟨"a", .equal, .int 1⟩] := by
      rw [readConditions, pieces]
      rfl
    rw [Recovery.filter, isFilter]
    simp only [trimmed]
    rw [Traced.outcome_bind_of_ok _ read]
    rfl
  · have noCall : Aggregates.occurIn ['*'] = false := by decide
    rw [Recovery.aggregate, noGrouping, selectList, Option.getD_some, noCall]
    rfl

theorem recover_append_clause_ordering :
    ∃ graph extended, (recover {} endedStatement).outcome = .ok graph ∧
      (recover {} (endedStatement ++ " Order By " ++ "b")).outcome = .ok extended ∧
      Graph.filterNode {} [⟨"a", .equal, .int 1⟩] ∈ graph.nodes ∧
      Connects " Order By " ∧
      Graph.filterNode {} [⟨"a", .equal, .int 1⟩] ∈ extended.nodes ∧
      ∀ other ∈ extended.nodes, other.kind = .filter →
        other = Graph.filterNode {} [⟨"a", .equal, .int 1⟩] := by
  have first := @outcome_recover_comparison endedStatement "a = 1 ; ".toList (by decide +kernel)
    (by decide +kernel) (by decide) (by decide +kernel) (by decide +kernel)
  have second := @outcome_recover_comparison (endedStatement ++ " Order By " ++ "b")
    "a = 1 ;".toList (by decide +kernel) (by decide +kernel) (by decide) (by decide +kernel)
    (by decide +kernel)
  refine ⟨_, _, first, second, List.mem_cons_of_mem _ List.mem_cons_self, by decide, ?_⟩
  exact recover_append_clause first (List.mem_cons_of_mem _ List.mem_cons_self) rfl (by decide) "b"
    second

end SqlPipeline
