import SqlPipeline.Proofs.Sql.RowStatement

/-!
# Statements with parentheses are embedded

A statement with parentheses is kept as the query of the recovered source, and compiling the
recovered graph puts it, as it stands, between parentheses into a new statement. The new statement
mentions the same table and has parentheses, so the next trip embeds it in the same way. However
often recovery and compilation follow one another, the statement stays inside and the text gets
longer (`roundTrips_embed`); only recovery can put an end to it.
-/

namespace SqlPipeline

open Text

/-- A text with parentheses that mentions a table. -/
structure Embeddable (sql : List Char) : Prop where
  opening : '(' ∈ sql
  closing : ')' ∈ sql
  mentions : MentionsTable sql

/-- A mention of a table is found in what surrounds it, if no word runs into it. -/
theorem MentionsTable.surround {sql front : List Char} (mentions : MentionsTable sql)
    (outside : insideAfter false front = false) (back : List Char) :
    MentionsTable (front ++ sql ++ back) := by
  rcases mentions with ⟨before, word, blanks, c, after, rfl, notInside, spells, isRun, inside⟩
  refine ⟨front ++ before, word, blanks, c, after ++ back, by simp, ?_, spells, isRun, inside⟩
  rwa [insideAfter_append, outside]

theorem Embeddable.surround {sql front : List Char} (embeddable : Embeddable sql)
    (outside : insideAfter false front = false) (back : List Char) :
    Embeddable (front ++ sql ++ back) where
  opening := by simp [embeddable.opening]
  closing := by simp [embeddable.closing]
  mentions := embeddable.mentions.surround outside back

/-- What stands in front of an embedded statement. -/
def frontOf (grouped : Option Aggregate) : String :=
  "SELECT " ++ Draft.selection grouped ++ " FROM ("

/-- What stands behind an embedded statement. -/
def backOf (sourceAlias : String) (conditions : List Condition) (grouped : Option Aggregate) :
    String :=
  ") AS " ++ sourceAlias ++ Draft.clauses conditions grouped

theorem insideAfter_frontOf (grouped : Option Aggregate) :
    insideAfter false (frontOf grouped).toList = false := by
  have last : (frontOf grouped).toList =
      ("SELECT " ++ Draft.selection grouped ++ " FROM ").toList ++ ['('] := by
    simp [frontOf]
  rw [last, insideAfter_append]
  rfl

theorem length_frontOf_pos (grouped : Option Aggregate) : 0 < (frontOf grouped).length := by
  have select : 0 < "SELECT ".length := by decide
  simp only [frontOf, String.length_append]
  omega

theorem Embeddable.embed {sql : String} (embeddable : Embeddable sql.toList) (sourceAlias : String)
    (conditions : List Condition) (grouped : Option Aggregate) :
    Embeddable (frontOf grouped ++ sql ++ backOf sourceAlias conditions grouped).toList := by
  rw [String.toList_append, String.toList_append]
  exact embeddable.surround (insideAfter_frontOf grouped) _

theorem rowSql_embed (sql sourceAlias : String) (conditions : List Condition)
    (grouped : Option Aggregate) :
    Draft.rowSql ("(" ++ sql ++ ")") sourceAlias conditions grouped =
      frontOf grouped ++ sql ++ backOf sourceAlias conditions grouped := by
  apply String.toList_inj.mp
  simp [Draft.rowSql, frontOf, backOf]

variable {settings : Settings}

theorem baseRelation_source {sql : String} (embeddable : Embeddable sql.toList) (id : String)
    (name : List Char) :
    Draft.baseRelation id (Recovery.source sql name) = .ok ("(" ++ sql ++ ")") := by
  have bothThere : (sql.toList.contains '(' && sql.toList.contains ')') = true := by
    simp [embeddable.opening, embeddable.closing]
  have nonempty : sql ≠ "" := by
    rintro rfl
    cases embeddable.opening
  have query : filled? (Recovery.source sql name).query = some sql := by
    rw [Recovery.source, if_pos bothThere]
    exact filled?_of_ne_empty nonempty
  rw [Draft.baseRelation, query]

/-- What is recovered from a statement with parentheses, and what it is compiled to. -/
theorem outcome_compile_recovered {sql : String} {graph : Graph} (embeddable : Embeddable sql.toList)
    (recovered : (recover settings sql).outcome = .ok graph) :
    ∃ reference conditions grouped,
      Clause.table? sql.toList = some reference ∧
      graph = .chain settings (Recovery.row settings
        (Recovery.source sql (Recovery.tableName reference)) conditions grouped) ∧
      (graph.compile settings).outcome =
        .ok (frontOf grouped ++ sql ++ backOf settings.sourceAlias conditions grouped) := by
  rcases exists_table?_iff.mpr embeddable.mentions with ⟨reference, table⟩
  rcases exists_parts_of_recover recovered table with ⟨conditions, grouped, isFilter, -, rfl⟩
  refine ⟨reference, conditions, grouped, table, rfl, ?_⟩
  rw [← rowSql_embed]
  exact Graph.outcome_compile_row settings grouped (Recovery.isWritable_of_filter isFilter)
    (baseRelation_source embeddable _ _)

/-- Why a trip from a statement to a graph and back fails. -/
inductive TripError where
  | recovery (error : RecoveryError)
  | compilation (error : PipelineError)

/-- Recovers a graph from a statement and compiles it. -/
def roundTrip (settings : Settings) (sql : String) : Except TripError String := do
  let graph ← (recover settings sql).outcome.mapError .recovery
  (graph.compile settings).outcome.mapError .compilation

/-- Several trips, one after the other. -/
def roundTrips (settings : Settings) (sql : String) : Nat → Except TripError String
  | 0 => .ok sql
  | trips + 1 => do roundTrip settings (← roundTrips settings sql trips)

/-- A trip embeds the statement, unless recovery fails. -/
theorem roundTrip_embed (settings : Settings) {sql : String} (embeddable : Embeddable sql.toList) :
    (∃ error, roundTrip settings sql = .error (.recovery error)) ∨
      ∃ conditions grouped, roundTrip settings sql =
        .ok (frontOf grouped ++ sql ++ backOf settings.sourceAlias conditions grouped) := by
  rcases recovered : (recover settings sql).outcome with error | graph
  · left
    refine ⟨error, ?_⟩
    rw [roundTrip, recovered]
    rfl
  · right
    rcases outcome_compile_recovered embeddable recovered with
      ⟨_, conditions, grouped, -, -, compiled⟩
    refine ⟨conditions, grouped, ?_⟩
    rw [roundTrip, recovered]
    change Except.mapError _ (graph.compile settings).outcome = _
    rw [compiled]
    rfl

/-- Each trip makes a statement with parentheses longer, with the statement inside. -/
theorem longer_of_roundTrip {sql next : String} (embeddable : Embeddable sql.toList)
    (trip : roundTrip settings sql = .ok next) :
    sql.length < next.length ∧ sql.toList <:+: next.toList := by
  rcases roundTrip_embed settings embeddable with ⟨error, failed⟩ |
    ⟨conditions, grouped, known⟩
  · rw [failed] at trip
    cases trip
  · rw [known] at trip
    cases trip
    constructor
    · have front := length_frontOf_pos grouped
      simp only [String.length_append]
      omega
    · rw [String.toList_append, String.toList_append]
      exact List.infix_append _ _ _

/-- After any number of trips the statement is still inside, unless recovery has failed. -/
theorem roundTrips_invariant (settings : Settings) {sql : String}
    (embeddable : Embeddable sql.toList) (trips : Nat) :
    (∃ error, roundTrips settings sql trips = .error (.recovery error)) ∨
      ∃ result, roundTrips settings sql trips = .ok result ∧ Embeddable result.toList ∧
        sql.toList <:+: result.toList := by
  induction trips with
  | zero => exact Or.inr ⟨sql, rfl, embeddable, List.infix_rfl⟩
  | succ trips ih =>
      rcases ih with ⟨error, failed⟩ | ⟨result, done, stillEmbeddable, inside⟩
      · left
        refine ⟨error, ?_⟩
        rw [roundTrips, failed]
        rfl
      · have step : roundTrips settings sql (trips + 1) = roundTrip settings result := by
          rw [roundTrips, done]
          rfl
        rw [step]
        refine (roundTrip_embed settings stillEmbeddable).imp_right ?_
        rintro ⟨conditions, grouped, trip⟩
        exact ⟨_, trip, stillEmbeddable.embed _ _ _,
          inside.trans (longer_of_roundTrip stillEmbeddable trip).2⟩

/-- A statement with parentheses is embedded verbatim by every trip and is never stable. -/
theorem roundTrips_embed (settings : Settings) {sql : String} (embeddable : Embeddable sql.toList) :
    (∀ graph, (recover settings sql).outcome = .ok graph → ∃ reference conditions grouped,
      Clause.table? sql.toList = some reference ∧
      graph = .chain settings (Recovery.row settings
        (Recovery.source sql (Recovery.tableName reference)) conditions grouped) ∧
      (graph.compile settings).outcome = .ok
        ("SELECT " ++ Draft.selection grouped ++ " FROM (" ++ sql ++ ") AS " ++
          settings.sourceAlias ++ Draft.clauses conditions grouped)) ∧
    (∀ trips, (∃ error, roundTrips settings sql trips = .error (.recovery error)) ∨
      ∃ result, roundTrips settings sql trips = .ok result ∧ Embeddable result.toList ∧
        sql.toList <:+: result.toList) ∧
    (∀ trips before after, roundTrips settings sql trips = .ok before →
      roundTrips settings sql (trips + 1) = .ok after →
      before.length < after.length ∧ before.toList <:+: after.toList) ∧
    roundTrip settings sql ≠ .ok sql := by
  refine ⟨?_, roundTrips_invariant settings embeddable, ?_, ?_⟩
  · intro graph recovered
    rcases outcome_compile_recovered embeddable recovered with
      ⟨reference, conditions, grouped, table, isRow, compiled⟩
    refine ⟨reference, conditions, grouped, table, isRow, compiled.trans ?_⟩
    simp only [frontOf, backOf, String.append_assoc]
  · intro trips before after first second
    rw [roundTrips, first] at second
    rcases roundTrips_invariant settings embeddable trips with ⟨error, failed⟩ |
      ⟨result, done, stillEmbeddable, -⟩
    · rw [failed] at first
      cases first
    · rw [done] at first
      cases first
      exact longer_of_roundTrip stillEmbeddable second
  · intro stable
    exact (longer_of_roundTrip embeddable stable).1.false

/-- A selection with parentheses in it. -/
def joinedTable : String := "SELECT * FROM t JOIN u USING (id)"

theorem embeddable_joinedTable : Embeddable joinedTable.toList where
  opening := by decide
  closing := by decide
  mentions := ⟨"SELECT * ".toList, "FROM".toList, [' '], 't', " JOIN u USING (id)".toList, rfl, rfl,
    .cons rfl (.cons rfl (.cons rfl (.cons rfl .nil))), ⟨by decide, by decide⟩, rfl⟩

theorem outcome_recover_joinedTable :
    (recover {} joinedTable).outcome = .ok (.chain {} (Recovery.row {}
      (Recovery.source joinedTable (Recovery.tableName ['t'])) [] none)) := by
  have table : Clause.table? joinedTable.toList = some ['t'] := by decide +kernel
  have noFilter : Clause.filter? joinedTable.toList = none := by decide +kernel
  have noGrouping : Clause.grouping? joinedTable.toList = none := by decide +kernel
  have selectList : Clause.selectList? joinedTable.toList = some ['*'] := by decide +kernel
  exact outcome_recover_bare table noFilter noGrouping selectList (by decide)

theorem roundTrips_embed_joinedTable :
    (∃ reference conditions grouped,
      Clause.table? joinedTable.toList = some reference ∧
      Graph.chain {} (Recovery.row {} (Recovery.source joinedTable (Recovery.tableName ['t']))
        [] none) = .chain {} (Recovery.row {}
          (Recovery.source joinedTable (Recovery.tableName reference)) conditions grouped) ∧
      ((Graph.chain {} (Recovery.row {} (Recovery.source joinedTable (Recovery.tableName ['t']))
        [] none)).compile {}).outcome = .ok
          ("SELECT " ++ Draft.selection grouped ++ " FROM (" ++ joinedTable ++ ") AS " ++ "source" ++
            Draft.clauses conditions grouped)) ∧
      roundTrip {} joinedTable ≠ .ok joinedTable :=
  ⟨(roundTrips_embed {} embeddable_joinedTable).1 _ outcome_recover_joinedTable,
    (roundTrips_embed {} embeddable_joinedTable).2.2.2⟩

end SqlPipeline
