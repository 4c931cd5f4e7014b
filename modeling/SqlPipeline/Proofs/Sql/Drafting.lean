import Mathlib.Tactic.Common
import SqlPipeline.Proofs.Graph.CycleSearch
import SqlPipeline.Proofs.Graph.Preorder
import SqlPipeline.Sql.Statement

/-!
# How a statement grows

A node changes the text of a statement in two ways: its columns, if it has any, take the place of
the first star, and then its clause is put behind. `Draft.extend` says this once for all kinds of
nodes. What can be in the way is a number that is too long or a payload without the fields that are
read (`Draft.obstacle?`); it depends on the node only, and where there is none, adding a node does
just this (`outcome_add`). So the text of a compiled graph is a fold over its nodes, up to the first
obstacle (`outcome_addAll`).

`outcome_compile_of_base` puts the searches of compilation together: behind a readable source,
compilation fails for a cycle below it, or else for the first obstacle, and otherwise succeeds.
-/

namespace SqlPipeline

open Relation

theorem filled?_of_ne_empty {text : String} (nonempty : text ≠ "") :
    filled? (some text) = some text := by
  unfold filled?
  split
  · next same =>
    exact absurd (Option.some.inj same) nonempty
  · rfl

namespace Condition

/-- The number that a condition compares with, if it is one, is short enough to be written and
read. -/
def Short (condition : Condition) : Prop :=
  ∀ number, condition.value = .int number →
    (Nat.toDigits 10 number.natAbs).length ≤ maxWholeDigits

theorem isWritable_toValue_list (texts : List String) : (Value.texts texts).isWritable = true := by
  induction texts with
  | nil => rfl
  | cons text rest ih =>
      rw [Value.texts, Value.isWritable] at ih ⊢
      rw [List.map_cons, writableItems, ih]
      rfl

/-- Only whole numbers can be too long, and only where they are written. -/
theorem isWritable_iff {condition : Condition} :
    condition.isWritable = true ↔ condition.op.testsNull = true ∨ condition.Short := by
  rcases condition with ⟨column, op, value⟩
  rw [isWritable, Bool.or_eq_true, Short]
  cases value with
  | int number => simp [Literal.toValue, Value.isWritable]
  | list texts => simp [Literal.toValue, isWritable_toValue_list]
  | _ => simp [Literal.toValue, Value.isWritable]

end Condition

/-- No other payload has the field that a clause is made of first. -/
theorem StageKind.eq_of_clauseField {kind other : StageKind} {field : Field}
    (first : kind.clauseFields.head? = some field) (has : field ∈ other.fields) : other = kind := by
  cases kind <;> cases first <;> revert has <;> cases other <;> decide

/-- A payload that lacks the field that is read first is found out by it. -/
theorem Held.missing?_of_first {held : Held} {fields : List Field} {field : Field}
    (first : fields.head? = some field) (lacks : field ∉ held.kind.fields) :
    held.missing? fields = some ⟨held.kind.model, field.plain⟩ := by
  rcases List.head?_eq_some_iff.mp first with ⟨rest, rfl⟩
  simp [Held.missing?, lacks]

namespace Draft

/-- The clause that a node puts behind a statement. -/
def clauseOf (sourceAlias : String) (node : Node) : String :=
  match node.stage with
  | .join join => joinClause sourceAlias join
  | .filter filter => if filter.conditions.isEmpty then "" else filterClause filter.conditions
  | .aggregate aggregate => groupingClause aggregate
  | _ => ""

/-- The columns that a node selects; only aggregates select any. -/
def columnsOf (node : Node) : List String :=
  match node.stage with
  | .aggregate aggregate => selectList aggregate
  | _ => []

/-- The text of a statement with columns selected. -/
def select (columns : List String) (sql : String) : String :=
  if columns.isEmpty then sql else replaceStar columns sql

/-- How many filters with conditions a node is. -/
def filtersOf (node : Node) : Nat :=
  match node.stage with
  | .filter filter => if filter.conditions.isEmpty then 0 else 1
  | _ => 0

/-- How many aggregates a node is. -/
def aggregatesOf (node : Node) : Nat :=
  match node.stage with
  | .aggregate _ => 1
  | _ => 0

/-- What is in the way of adding the clause of a node. -/
def obstacle? (node : Node) : Option PipelineError :=
  match node.stage with
  | .filter filter => if filter.conditions.all Condition.isWritable then none else some .numberTooLong
  | .misfit kind held _ => (held.missing? kind.clauseFields).map .missingField
  | _ => none

/-- Nothing is in the way of adding the clause of a node: its payload has the fields that are read,
and the numbers in its conditions are short enough. -/
structure Clear (node : Node) : Prop where
  fits : node.kind.clauseFields ≠ [] → node.stage.Fits
  short : ∀ filter, node.stage = .filter filter → ∀ condition ∈ filter.conditions,
    condition.op.testsNull = true ∨ condition.Short

/-- The statement after a node. -/
def extend (sourceAlias : String) (draft : Draft) (node : Node) : Draft where
  sql := select (columnsOf node) draft.sql ++ clauseOf sourceAlias node
  filters := draft.filters + filtersOf node
  aggregates := draft.aggregates + aggregatesOf node

@[simp]
theorem sql_extend (sourceAlias : String) (draft : Draft) (node : Node) :
    (draft.extend sourceAlias node).sql =
      select (columnsOf node) draft.sql ++ clauseOf sourceAlias node := rfl

@[simp]
theorem sql_selectAll (relation sourceAlias : String) :
    (selectAll relation sourceAlias).sql = "SELECT * FROM " ++ relation ++ " AS " ++ sourceAlias :=
  rfl

@[simp]
theorem aggregates_selectAll (relation sourceAlias : String) :
    (selectAll relation sourceAlias).aggregates = 0 := rfl

theorem mapM_render (conditions : List Condition) :
    conditions.mapM Condition.render = if conditions.all Condition.isWritable then
      .ok (conditions.map Condition.toSql) else .error .numberTooLong := by
  induction conditions with
  | nil => rfl
  | cons condition rest ih =>
      rw [List.mapM_cons, Condition.render_eq, ih, List.all_cons]
      cases condition.isWritable with
      | false => rfl
      | true => cases rest.all Condition.isWritable <;> rfl

theorem renderFilter_eq (conditions : List Condition) :
    renderFilter conditions = if conditions.all Condition.isWritable then
      .ok (filterClause conditions) else .error .numberTooLong := by
  rw [renderFilter, mapM_render]
  split <;> rfl

theorem outcome_addFilter (id : String) (filter : Filter) (draft : Draft) :
    (addFilter id filter draft).outcome =
      if filter.conditions.isEmpty then .ok draft
      else (renderFilter filter.conditions).map fun clause =>
        { draft with sql := draft.sql ++ clause, filters := draft.filters + 1 } := by
  unfold addFilter
  split
  · rfl
  · by_cases second : 0 < draft.filters
    · simp only [second, ↓reduceIte, Traced.outcome_bind, Traced.outcome_tell,
        Traced.outcome_ofExcept, Traced.outcome_pure]
      rfl
    · simp only [second, ↓reduceIte, Traced.outcome_bind, Traced.outcome_pure,
        Traced.outcome_ofExcept]
      rfl

/-- Only a second filter is reported. -/
theorem events_addFilter (id : String) (filter : Filter) (draft : Draft) :
    (addFilter id filter draft).events =
      if filter.conditions.isEmpty = false ∧ 0 < draft.filters then
        [⟨.warning, "Multiple filter nodes each append their own WHERE clause",
          [("node", .str id)]⟩]
      else [] := by
  unfold addFilter
  by_cases empty : filter.conditions.isEmpty = true
  · simp [empty]
  · rcases rendered : renderFilter filter.conditions with error | clause
    · by_cases second : 0 < draft.filters
      · simp [empty, second, Traced.events_bind_of_ok, Traced.events_bind_of_error]
      · simp [empty, second, Traced.events_bind_of_error]
    · by_cases second : 0 < draft.filters
      · simp [empty, second, Traced.events_bind_of_ok]
      · simp [empty, second, Traced.events_bind_of_ok]

theorem outcome_addAggregate (id : String) (aggregate : Aggregate) (draft : Draft) :
    (addAggregate id aggregate draft).outcome = .ok { draft with
      sql := select (selectList aggregate) draft.sql ++ groupingClause aggregate
      aggregates := draft.aggregates + 1 } := by
  unfold addAggregate
  dsimp only
  split
  · rfl
  · rfl

/-- Adding a node fails for its obstacle, and otherwise extends the statement. -/
theorem outcome_add (sourceAlias : String) (node : Node) (draft : Draft) :
    (add sourceAlias node draft).outcome = match obstacle? node with
      | some error => .error error
      | none => .ok (draft.extend sourceAlias node) := by
  rcases node with ⟨id, stage, position⟩
  cases stage with
  | filter filter =>
      simp only [add, outcome_addFilter, obstacle?, renderFilter_eq]
      by_cases empty : filter.conditions = []
      · simp [extend, select, columnsOf, clauseOf, filtersOf, aggregatesOf, empty]
      · by_cases writable : filter.conditions.all Condition.isWritable = true
        · simp [extend, select, columnsOf, clauseOf, filtersOf, aggregatesOf, empty, writable,
            Except.map]
        · simp [empty, writable, Except.map]
  | aggregate aggregate => exact outcome_addAggregate id aggregate draft
  | misfit kind held apart =>
      simp only [add, obstacle?]
      cases held.missing? kind.clauseFields with
      | none => simp [extend, select, columnsOf, clauseOf, filtersOf, aggregatesOf]
      | some missing => rfl
  | _ => simp [add, obstacle?, extend, select, columnsOf, clauseOf, filtersOf, aggregatesOf]

theorem outcome_add_of_clear {node : Node} (clear : obstacle? node = none) (sourceAlias : String)
    (draft : Draft) :
    (add sourceAlias node draft).outcome = .ok (draft.extend sourceAlias node) := by
  rw [outcome_add, clear]

/-- A payload of another kind lacks the first field that the clause is made of. -/
theorem missing?_clauseFields {kind : StageKind} {held : Held} (apart : held.kind ≠ kind) :
    held.missing? kind.clauseFields =
      kind.clauseFields.head?.map fun field => ⟨held.kind.model, field.plain⟩ := by
  rcases reads : kind.clauseFields.head? with _ | field
  · rw [List.head?_eq_none_iff.mp reads]
    rfl
  · exact Held.missing?_of_first reads fun has => apart (StageKind.eq_of_clauseField reads has)

theorem obstacle?_eq_none_iff {node : Node} : obstacle? node = none ↔ Clear node := by
  rcases node with ⟨id, stage, position⟩
  cases stage with
  | filter filter =>
      have writable : (∀ condition ∈ filter.conditions, condition.isWritable = true) ↔
          ∀ condition ∈ filter.conditions, condition.op.testsNull = true ∨ condition.Short := by
        simp only [Condition.isWritable_iff]
      constructor
      · intro clear
        refine ⟨fun _ => rfl, fun other same => ?_⟩
        cases same
        rw [← writable]
        simpa [obstacle?] using clear
      · intro clear
        have short := writable.mpr (clear.short filter rfl)
        simpa [obstacle?] using short
  | misfit kind held apart =>
      rw [obstacle?]
      dsimp only
      rw [missing?_clauseFields apart]
      constructor
      · intro clear
        have nothing : kind.clauseFields = [] := by simpa using clear
        exact ⟨fun reads => absurd nothing reads, fun _ same => by cases same⟩
      · intro clear
        have nothing : kind.clauseFields = [] := by
          by_contra reads
          exact apart (clear.fits reads)
        simp [nothing]
  | _ => exact iff_of_true rfl ⟨fun _ => rfl, fun _ same => by cases same⟩

/-- Nodes are added one by one, up to the first with an obstacle. -/
theorem foldlM_add (sourceAlias : String) (nodes : List Node) (draft : Draft) :
    nodes.foldlM (fun draft node => (add sourceAlias node draft).outcome) draft =
      match nodes.findSome? obstacle? with
      | some error => .error error
      | none => .ok (nodes.foldl (extend sourceAlias) draft) := by
  induction nodes generalizing draft with
  | nil => rfl
  | cons node rest ih =>
      rw [List.foldlM_cons, outcome_add, List.findSome?_cons, List.foldl_cons]
      cases obstacle? node with
      | some error => rfl
      | none => exact ih (draft.extend sourceAlias node)

theorem outcome_addAll (sourceAlias : String) (nodes : List Node) (draft : Draft) :
    (addAll sourceAlias nodes draft).outcome =
      nodes.foldlM (fun draft node => (add sourceAlias node draft).outcome) draft := by
  induction nodes generalizing draft with
  | nil => rfl
  | cons node rest ih =>
      rw [addAll, Traced.outcome_bind_of_ok _ (Traced.outcome_tell _ _ _), Traced.outcome_bind,
        List.foldlM_cons]
      exact congrArg (_ >>= ·) (funext ih)

theorem outcome_addAll_of_clear {nodes : List Node} (clear : nodes.findSome? obstacle? = none)
    (sourceAlias : String) (draft : Draft) :
    (addAll sourceAlias nodes draft).outcome = .ok (nodes.foldl (extend sourceAlias) draft) := by
  rw [outcome_addAll, foldlM_add, clear]

theorem events_addAll_cons {node : Node} (clear : obstacle? node = none) (sourceAlias : String)
    (rest : List Node) (draft : Draft) :
    (addAll sourceAlias (node :: rest) draft).events =
      ⟨.debug, "Compiling node", [("node", .str node.id), ("type", .str node.kind.label)]⟩ ::
        ((add sourceAlias node draft).events ++
          (addAll sourceAlias rest (draft.extend sourceAlias node)).events) := by
  rw [addAll, Traced.events_bind_of_ok _ (Traced.outcome_tell _ _ _),
    Traced.events_bind_of_ok _ (outcome_add_of_clear clear sourceAlias draft)]
  rfl

end Draft

namespace Graph

/-- A source with neither query nor table. -/
def Unreadable (source : Source) : Prop :=
  source.query.getD "" = "" ∧ source.table.getD "" = ""

instance (source : Source) : Decidable (Unreadable source) :=
  inferInstanceAs (Decidable (_ ∧ _))

theorem filled?_eq_none_iff {text : Option String} : filled? text = none ↔ text.getD "" = "" := by
  rcases text with _ | text
  · simp [filled?]
  · by_cases empty : text = ""
    · simp [filled?, empty]
    · simp [filled?, empty]

theorem baseRelation_eq_error_iff (id : String) {source : Source} {error : PipelineError} :
    Draft.baseRelation id source = .error error ↔
      Unreadable source ∧ error = .invalidSource (some id) PipelineError.emptySourceMessage := by
  simp only [Unreadable, ← filled?_eq_none_iff, Draft.baseRelation]
  split
  · simp_all
  · split
    · split <;> simp_all
    · simp_all [eq_comm]

theorem outcome_findSource {graph : Graph} {source : Node} {others : List Node}
    (found : graph.sources = source :: others) : graph.findSource.outcome = .ok source := by
  unfold findSource
  rw [found]
  cases others <;> rfl

/-- The statement of a graph whose base relation is known. -/
def finalDraft (settings : Settings) (graph : Graph) (source : Node) (base : String) : Draft :=
  (graph.compiledNodes source).foldl (Draft.extend settings.sourceAlias)
    (.selectAll base settings.sourceAlias)

/-- The first obstacle on the way from a source. -/
def obstacle? (graph : Graph) (source : Node) : Option PipelineError :=
  (graph.compiledNodes source).findSome? Draft.obstacle?

theorem obstacle?_eq_none_iff {graph : Graph} {source : Node} :
    graph.obstacle? source = none ↔ ∀ node ∈ graph.compiledNodes source, Draft.Clear node := by
  simp only [obstacle?, List.findSome?_eq_none_iff, Draft.obstacle?_eq_none_iff]

/-- What compilation comes to, without its reports. -/
theorem outcome_compile_eq (settings : Settings) (graph : Graph) :
    (graph.compile settings).outcome = graph.findSource.outcome >>= fun source =>
      Draft.baseOf source >>= fun base =>
        graph.index.checkCycles source.id >>= fun _ =>
          (Draft.addAll settings.sourceAlias (graph.compiledNodes source)
            (.selectAll base settings.sourceAlias)).outcome >>= fun draft => .ok draft.sql := by
  simp only [compile, Traced.outcome_bind, Traced.outcome_tellAll, Traced.outcome_ofExcept,
    Traced.outcome_tell, Traced.outcome_pure]
  rfl

theorem outcome_compile_of_noSource {graph : Graph} (settings : Settings)
    (none : graph.sources = []) : (graph.compile settings).outcome =
      .error (.missingSource PipelineError.noSourceMessage) := by
  have notFound : graph.findSource.outcome =
      .error (.missingSource PipelineError.noSourceMessage) := by
    unfold findSource
    rw [none]
    rfl
  rw [outcome_compile_eq, notFound]
  rfl

theorem outcome_compile_of_unreadable {graph : Graph} {source : Node} {others : List Node}
    {error : PipelineError} (settings : Settings) (found : graph.sources = source :: others)
    (unreadable : Draft.baseOf source = .error error) :
    (graph.compile settings).outcome = .error error := by
  rw [outcome_compile_eq, outcome_findSource found]
  change (Draft.baseOf source >>= _) = _
  rw [unreadable]
  rfl

theorem outcome_compile_of_base {graph : Graph} {source : Node} {others : List Node} {base : String}
    (settings : Settings) (found : graph.sources = source :: others)
    (readable : Draft.baseOf source = .ok base) :
    (graph.compile settings).outcome = match graph.index.cycle? source.id with
      | some ids => .error (.cyclic PipelineError.cycleMessage (some ids))
      | none =>
        match graph.obstacle? source with
        | some error => .error error
        | none => .ok (graph.finalDraft settings source base).sql := by
  rw [outcome_compile_eq, outcome_findSource found]
  change (Draft.baseOf source >>= _) = _
  rw [readable]
  change (graph.index.checkCycles source.id >>= _) = _
  rw [GraphIndex.checkCycles]
  cases graph.index.cycle? source.id with
  | none =>
      change (Draft.addAll _ _ _).outcome >>= _ = _
      rw [Draft.outcome_addAll, Draft.foldlM_add, obstacle?]
      cases (graph.compiledNodes source).findSome? Draft.obstacle? <;> rfl
  | some ids => rfl

/-- Compilation behind a readable source without a cycle below it, where nothing is in the way. -/
theorem outcome_compile_of_noCycle {graph : Graph} {source : Node} {others : List Node}
    {base : String} (settings : Settings) (found : graph.sources = source :: others)
    (readable : Draft.baseOf source = .ok base) (noCycle : ¬graph.CycleBelow source.id)
    (clear : graph.obstacle? source = none) :
    (graph.compile settings).outcome = .ok (graph.finalDraft settings source base).sql := by
  rw [outcome_compile_of_base settings found readable,
    (GraphIndex.cycle?_eq_none_iff graph.closed_index source.id).mpr (by rwa [cycleBelow_index])]
  dsimp only
  rw [clear]

/-- What compilation reports: the skipped edges, further sources, each node, and the statement. -/
theorem events_compile {graph : Graph} {source : Node} {others : List Node} {base : String}
    (settings : Settings) (found : graph.sources = source :: others)
    (isBase : Draft.baseOf source = .ok base)
    (passed : graph.index.checkCycles source.id = .ok ())
    (clear : graph.obstacle? source = none) :
    (graph.compile settings).events = graph.skippedEdges ++ (graph.findSource.events ++
      ((Draft.addAll settings.sourceAlias (graph.compiledNodes source)
          (.selectAll base settings.sourceAlias) : Traced PipelineError Draft).events ++
        [⟨.debug, "Compiled pipeline graph",
          [("nodes", .int ((graph.compiledNodes source).length + 1)),
            ("sql", .str (graph.finalDraft settings source base).sql)]⟩])) := by
  rw [compile, Traced.events_bind_of_ok _ (Traced.outcome_tellAll _),
    Traced.events_bind_of_ok _ (outcome_findSource found), isBase,
    Traced.events_bind_of_ok _ (Traced.outcome_ofExcept _), passed,
    Traced.events_bind_of_ok _ (Traced.outcome_ofExcept _),
    Traced.events_bind_of_ok _ (Draft.outcome_addAll_of_clear clear _ _),
    Traced.events_bind_of_ok _ (Traced.outcome_tell _ _ _)]
  simp only [Traced.events_tellAll, Traced.events_ofExcept, Traced.events_tell, Traced.events_pure,
    List.nil_append, List.append_nil, finalDraft]

/-- What is known when compilation succeeds. -/
theorem exists_of_compile_ok {settings : Settings} {graph : Graph} {sql : String}
    (compiled : (graph.compile settings).outcome = .ok sql) :
    ∃ source others base,
      graph.sources = source :: others ∧ Draft.baseOf source = .ok base ∧
      graph.index.checkCycles source.id = .ok () ∧ graph.obstacle? source = none ∧
      sql = (graph.finalDraft settings source base).sql := by
  rcases found : graph.sources with _ | ⟨source, others⟩
  · rw [outcome_compile_of_noSource settings found] at compiled
    cases compiled
  rcases isBase : Draft.baseOf source with error | base
  · rw [outcome_compile_of_unreadable settings found isBase] at compiled
    cases compiled
  rw [outcome_compile_of_base settings found isBase] at compiled
  rcases cycle : graph.index.cycle? source.id with _ | ids
  · rw [cycle] at compiled
    rcases clear : graph.obstacle? source with _ | error
    · rw [clear] at compiled
      cases compiled
      exact ⟨source, others, base, rfl, isBase, by rw [GraphIndex.checkCycles, cycle], clear, rfl⟩
    · rw [clear] at compiled
      cases compiled
  · rw [cycle] at compiled
    cases compiled

end Graph

end SqlPipeline
