import SqlPipeline.Proofs.Sql.BareNames
import SqlPipeline.Proofs.Sql.Embedding

/-!
# Which recovered graphs can be compiled

A recovered graph has a source and no cycle, so compiling it can only fail for want of a relation
to read from. A statement with parentheses is kept as a query and never lacks one. Otherwise the
relation is the table, and the table has a name unless nothing is left behind the last point of the
reference once its quotation marks are gone: `FROM ""` and `FROM a.` mention a table without a name.
-/

namespace SqlPipeline

open Text

/-- Whether a reference names a table: without its quotation marks it does not end in a point. -/
def NamesTable (reference : List Char) : Prop :=
  ∃ c, (reference.filter fun c => c != '"' && c != '\'').getLast? = some c ∧ c ≠ '.'

theorem solid_of_table? {sql reference : List Char} (table : Clause.table? sql = some reference) :
    Solid reference := by
  rcases List.exists_of_findSome?_eq_some table with ⟨after, -, found⟩
  unfold Clause.reference? at found
  split at found
  · split at found
    · cases found
    · cases found
      intro c member
      have inside := List.all_eq_true.mp List.all_takeWhile c member
      rw [Clause.inReference] at inside
      simp only [Bool.and_eq_true, Bool.not_eq_true'] at inside
      exact inside.1.1.1
  · cases found

/-- Without its quotation marks, a reference that was found keeps all other characters. -/
theorem tableName_of_table? {sql reference : List Char}
    (table : Clause.table? sql = some reference) :
    Recovery.tableName reference = reference.filter fun c => c != '"' && c != '\'' := by
  rw [Recovery.tableName, trim_of_solid_word (solid_of_table? table), without, without,
    List.filter_filter]
  congr 1
  funext c
  exact Bool.and_comm _ _

/-- The last piece of a name is empty when the reference names no table. -/
theorem table_source_eq_empty_iff {sql : String} {reference : List Char}
    (table : Clause.table? sql.toList = some reference) :
    (Recovery.source sql (Recovery.tableName reference)).table.getD "" = "" ↔
      ¬NamesTable reference := by
  rw [tableName_of_table? table, NamesTable]
  generalize reference.filter (fun c => c != '"' && c != '\'') = name
  have known : (splitOn '.' name).getLast? = some [] ↔ name = [] ∨ name.getLast? = some '.' :=
    getLast?_splitOn_eq_nil_iff
  rcases last : (splitOn '.' name).getLast? with _ | piece
  · exact absurd (List.getLast?_eq_none_iff.mp last) (splitOn_ne_nil _ _)
  · rw [last, Option.some.injEq] at known
    have empty : (Recovery.source sql name).table.getD "" = "" ↔ piece = [] := by
      simp [Recovery.source, last]
    rw [empty, known]
    rcases name.eq_nil_or_concat with rfl | ⟨front, c, rfl⟩
    · simp
    · simp

theorem unreadable_source_iff {sql : String} {reference : List Char}
    (table : Clause.table? sql.toList = some reference) :
    Graph.Unreadable (Recovery.source sql (Recovery.tableName reference)) ↔
      ¬(('(' ∈ sql.toList ∧ ')' ∈ sql.toList) ∨ NamesTable reference) := by
  rw [Graph.Unreadable, table_source_eq_empty_iff table, not_or]
  refine and_congr_left fun _ => ?_
  rw [Recovery.source]
  by_cases both : '(' ∈ sql.toList ∧ ')' ∈ sql.toList
  · have nonempty : sql ≠ "" := by
      rintro rfl
      cases both.1
    simp [both, nonempty]
  · simp [both]

/-- The first node of a row is its source, and without a relation compilation stops there. -/
theorem outcome_compile_row_of_unreadable (settings : Settings) (payload : Source)
    (conditions : List Condition) (grouped : Option Aggregate)
    (unreadable : Graph.Unreadable payload) :
    ((Graph.chain settings
        (Recovery.row settings payload conditions grouped)).compile settings).outcome =
      .error (.invalidSource (some "source-0") PipelineError.emptySourceMessage) := by
  have first : (Graph.chain settings (Recovery.row settings payload conditions grouped)).nodes =
      Graph.sourceNode settings payload ::
        Graph.chainNodes settings 1 (Recovery.behindSource settings conditions grouped) := rfl
  have found : (Graph.chain settings (Recovery.row settings payload conditions grouped)).sources =
      Graph.sourceNode settings payload ::
        (Graph.chainNodes settings 1 (Recovery.behindSource settings conditions grouped)).filter
          (fun node => node.kind == .source) := by
    rw [Graph.sources, first, List.filter_cons_of_pos (by rfl)]
  exact Graph.outcome_compile_of_unreadable settings found
    ((Graph.baseRelation_eq_error_iff "source-0").mpr ⟨unreadable, rfl⟩)

variable {settings : Settings} {sql : String} {graph : Graph}

/-- A recovered graph that is not empty can be compiled unless its statement has no parentheses and
its reference names no table. -/
theorem compile_recovered (recovered : (recover settings sql).outcome = .ok graph)
    (nonempty : graph.isEmpty = false) :
    ∃ reference, Clause.table? sql.toList = some reference ∧
      (('(' ∈ sql.toList ∧ ')' ∈ sql.toList) ∨ NamesTable reference →
        ∃ text, (graph.compile settings).outcome = .ok text) ∧
      (¬(('(' ∈ sql.toList ∧ ')' ∈ sql.toList) ∨ NamesTable reference) →
        (graph.compile settings).outcome =
          .error (.invalidSource (some "source-0") PipelineError.emptySourceMessage)) := by
  rcases table : Clause.table? sql.toList with _ | reference
  · rw [eq_empty_of_recover recovered table] at nonempty
    cases nonempty
  · rcases exists_parts_of_recover recovered table with ⟨conditions, grouped, isFilter, -, rfl⟩
    refine ⟨reference, rfl, ?_, ?_⟩
    · intro readable
      have hasBase : ¬Graph.Unreadable (Recovery.source sql (Recovery.tableName reference)) := by
        rw [unreadable_source_iff table]
        exact not_not.mpr readable
      rcases Graph.exists_baseRelation "source-0" hasBase with ⟨base, isBase⟩
      exact ⟨_, Graph.outcome_compile_row settings grouped
        (Recovery.isWritable_of_filter isFilter) isBase⟩
    · intro unreadable
      exact outcome_compile_row_of_unreadable settings _ conditions grouped
        ((unreadable_source_iff table).mpr unreadable)

theorem compile_recovered_ordersByRegion :
    (recover pile ordersByRegion).outcome = .ok (.chain pile ordersStages) ∧
      (Graph.chain pile ordersStages).isEmpty = false ∧
      ∃ text, ((Graph.chain pile ordersStages).compile pile).outcome = .ok text := by
  refine ⟨outcome_recover_ordersByRegion, rfl, ?_⟩
  rcases compile_recovered outcome_recover_ordersByRegion rfl with ⟨reference, -, compiles, -⟩
  exact compiles (Or.inl ⟨by decide, by decide⟩)

/-- A statement with a point at the end of its reference. -/
def pointAtEnd : String := "SELECT * FROM a."

theorem outcome_recover_pointAtEnd :
    (recover {} pointAtEnd).outcome = .ok (.chain {} (Recovery.row {}
      (Recovery.source pointAtEnd (Recovery.tableName ['a', '.'])) [] none)) := by
  have table : Clause.table? pointAtEnd.toList = some ['a', '.'] := by decide +kernel
  have noFilter : Clause.filter? pointAtEnd.toList = none := by decide +kernel
  have noGrouping : Clause.grouping? pointAtEnd.toList = none := by decide +kernel
  have selectList : Clause.selectList? pointAtEnd.toList = some ['*'] := by decide +kernel
  exact outcome_recover_bare table noFilter noGrouping selectList (by decide)

/-- Not every recovered graph can be compiled. -/
theorem not_compile_pointAtEnd :
    ¬∀ (settings : Settings) (sql : String) (graph : Graph),
      (recover settings sql).outcome = .ok graph → graph.isEmpty = false →
        ∃ text, (graph.compile settings).outcome = .ok text := by
  intro compiles
  rcases compiles {} pointAtEnd _ outcome_recover_pointAtEnd rfl with ⟨text, compiled⟩
  rw [outcome_compile_row_of_unreadable {} _ [] none ⟨by decide, by decide⟩] at compiled
  cases compiled

end SqlPipeline
