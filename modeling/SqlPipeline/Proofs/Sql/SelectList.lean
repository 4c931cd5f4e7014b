import Mathlib.Data.List.Basic
import Mathlib.Data.List.Induction
import SqlPipeline.Proofs.Sql.Compilation
import SqlPipeline.Proofs.Text.Occurrence

/-!
# The select list of a compiled statement

As it is meant, a statement is a select list, the base relation and the clauses of its nodes, and
the select list is that of the first node which selects columns, or a star (`Draft.plain`). A node
that selects columns later is to leave the text alone and to be reported.

The star is looked for in the whole text, and the text holds what users wrote. So a later select
list finds a star in a free-form query, in a condition of a join, in a literal or in a select list
that is itself a star; it then takes the place of that star and goes unreported.
`compile_asMeant_iff` says that nothing else can go wrong: a compiled statement is as it is meant
exactly when no later select list meets a star.
-/

namespace SqlPipeline

namespace Draft

/-- The select list of a statement over some nodes. -/
def selected (nodes : List Node) : String :=
  match (nodes.map columnsOf).find? fun columns => !columns.isEmpty with
  | some columns => ", ".intercalate columns
  | none => "*"

/-- The statement over some nodes as it is meant. -/
def plain (base sourceAlias : String) (nodes : List Node) : String :=
  "SELECT " ++ selected nodes ++ " FROM " ++ base ++ " AS " ++ sourceAlias ++
    String.join (nodes.map (clauseOf sourceAlias))

theorem plain_eq (base sourceAlias : String) (nodes : List Node) :
    plain base sourceAlias nodes =
      "SELECT " ++ selected nodes ++ " FROM " ++ base ++ " AS " ++ sourceAlias ++
        String.join (nodes.map (clauseOf sourceAlias)) := rfl

/-- The statement over some nodes as it is compiled. -/
def textOf (base sourceAlias : String) (nodes : List Node) : String :=
  (nodes.foldl (extend sourceAlias) (selectAll base sourceAlias)).sql

/-- A node that selects columns behind another one that does. -/
structure SelectsLater (nodes before : List Node) (node : Node) : Prop where
  place : before ++ [node] <+: nodes
  columns : columnsOf node ≠ []
  earlier : ∃ other ∈ before, columnsOf other ≠ []

theorem replaceStar_of_star (columns : List String) (rest : String) :
    replaceStar columns ("SELECT *" ++ rest) = "SELECT " ++ ", ".intercalate columns ++ rest := by
  have front : Text.cut? star ("SELECT *" ++ rest).toList = some ([], rest.toList) := by
    rw [String.toList_append]
    exact Text.cut?_append_self (by decide) rest.toList
  rw [replaceStar, Text.replaceFirst, front]
  apply String.toList_inj.mp
  simp

theorem replaceStar_of_absent {sql : String} (columns : List String)
    (absent : Text.contains star sql.toList = false) : replaceStar columns sql = sql := by
  have nowhere : Text.cut? star sql.toList = none := by
    simpa [Text.contains] using absent
  rw [replaceStar, Text.replaceFirst, nowhere, String.ofList_toList]

theorem select_of_absent {sql : String} (columns : List String)
    (absent : Text.contains star sql.toList = false) : select columns sql = sql := by
  unfold select
  split
  · rfl
  · exact replaceStar_of_absent columns absent

theorem textOf_concat (base sourceAlias : String) (nodes : List Node) (node : Node) :
    textOf base sourceAlias (nodes ++ [node]) =
      select (columnsOf node) (textOf base sourceAlias nodes) ++ clauseOf sourceAlias node := by
  simp [textOf, List.foldl_append]

theorem selected_of_none {nodes : List Node} (none : ∀ node ∈ nodes, columnsOf node = []) :
    selected nodes = "*" := by
  have nothing : (nodes.map columnsOf).find? (fun columns => !columns.isEmpty) = .none := by
    simpa [List.find?_eq_none] using none
  rw [selected, nothing]

theorem selected_concat_of_nil {nodes : List Node} {node : Node} (nil : columnsOf node = []) :
    selected (nodes ++ [node]) = selected nodes := by
  simp [selected, List.find?_append, nil]

theorem selected_concat_of_earlier {nodes : List Node} {node : Node}
    (earlier : ∃ other ∈ nodes, columnsOf other ≠ []) :
    selected (nodes ++ [node]) = selected nodes := by
  have found : ((nodes.map columnsOf).find? fun columns => !columns.isEmpty).isSome = true := by
    simpa [List.find?_isSome] using earlier
  rcases Option.isSome_iff_exists.mp found with ⟨columns, first⟩
  simp [selected, List.find?_append, first]

theorem selected_concat_of_first {nodes : List Node} {node : Node}
    (none : ∀ other ∈ nodes, columnsOf other = []) (columns : columnsOf node ≠ []) :
    selected (nodes ++ [node]) = ", ".intercalate (columnsOf node) := by
  have nothing : (nodes.map columnsOf).find? (fun columns => !columns.isEmpty) = .none := by
    simpa [List.find?_eq_none] using none
  have here : (columnsOf node).isEmpty = false := by simpa using columns
  simp [selected, List.find?_append, nothing, here]

theorem plain_concat_of_same {base sourceAlias : String} {nodes : List Node} {node : Node}
    (same : selected (nodes ++ [node]) = selected nodes) :
    plain base sourceAlias (nodes ++ [node]) =
      plain base sourceAlias nodes ++ clauseOf sourceAlias node := by
  simp [plain_eq, same, String.append_assoc]

/-- The first select list takes the place of the star in front. -/
theorem select_plain_of_first {base sourceAlias : String} {nodes : List Node} {node : Node}
    (none : ∀ other ∈ nodes, columnsOf other = []) (columns : columnsOf node ≠ []) :
    select (columnsOf node) (plain base sourceAlias nodes) ++ clauseOf sourceAlias node =
      plain base sourceAlias (nodes ++ [node]) := by
  have front : plain base sourceAlias nodes = "SELECT *" ++ (" FROM " ++ base ++ " AS " ++
      sourceAlias ++ String.join (nodes.map (clauseOf sourceAlias))) := by
    rw [plain_eq, selected_of_none none]
    simp [← String.append_assoc]
  have some : (columnsOf node).isEmpty = false := by simpa using columns
  rw [select, if_neg (by simp [some]), front, replaceStar_of_star, plain_eq,
    selected_concat_of_first none columns]
  simp [String.append_assoc]

/-- As long as no later select list meets a star, the text is as it is meant. -/
theorem textOf_eq_plain {base sourceAlias : String} {nodes : List Node}
    (noStar : ∀ before node, SelectsLater nodes before node →
      Text.contains star (plain base sourceAlias before).toList = false) :
    textOf base sourceAlias nodes = plain base sourceAlias nodes := by
  induction nodes using List.reverseRecOn with
  | nil => simp [textOf, plain_eq, selected, String.append_assoc]
  | append_singleton nodes node ih =>
      have known := ih fun before other later => noStar before other
        ⟨later.place.trans (List.prefix_append _ _), later.columns, later.earlier⟩
      rw [textOf_concat, known]
      by_cases nil : columnsOf node = []
      · rw [plain_concat_of_same (selected_concat_of_nil nil), nil]
        rfl
      · by_cases earlier : ∃ other ∈ nodes, columnsOf other ≠ []
        · rw [plain_concat_of_same (selected_concat_of_earlier earlier)]
          rw [select_of_absent _ (noStar nodes node ⟨List.prefix_refl _, nil, earlier⟩)]
        · have none : ∀ other ∈ nodes, columnsOf other = [] := by simpa using earlier
          exact select_plain_of_first none nil

/-- The report on a select list that is left out. -/
def leftOut (node : Node) (number : Nat) : Event where
  level := .warning
  message := "Aggregate select list dropped, SELECT * already rewritten"
  details := [("node", .str node.id), ("aggregate_index", .int number)]

/-- A node reports a select list as left out exactly when it has one and there is no star. -/
theorem leftOut_mem_events_add {sourceAlias : String} {node reported : Node} {draft : Draft}
    {number : Nat} :
    leftOut reported number ∈ (add sourceAlias node draft).events ↔
      node.id = reported.id ∧ number = draft.aggregates + 1 ∧ columnsOf node ≠ [] ∧
        Text.contains star draft.sql.toList = false := by
  rcases node with ⟨id, stage, position⟩
  cases stage with
  | aggregate aggregate =>
      have columns : columnsOf ⟨id, .aggregate aggregate, position⟩ = selectList aggregate := rfl
      simp only [add, addAggregate, columns]
      split
      · next dropped =>
        simp only [Bool.and_eq_true, Bool.not_eq_true'] at dropped
        rw [Traced.events_bind_of_ok _ (Traced.outcome_tell _ _ _)]
        simp only [Traced.events_tell, Traced.events_pure, List.append_nil, List.mem_singleton,
          leftOut, Event.mk.injEq, List.cons.injEq, Prod.mk.injEq, Value.str.injEq, Value.int.injEq,
          true_and, and_true]
        have selects : selectList aggregate ≠ [] := by simpa using dropped.1
        constructor
        · rintro ⟨same, counted⟩
          exact ⟨same.symm, by omega, selects, dropped.2⟩
        · rintro ⟨same, counted, -, -⟩
          exact ⟨same.symm, by omega⟩
      · next kept =>
        simp only [Traced.events_pure, List.not_mem_nil, false_iff]
        rintro ⟨-, -, selects, absent⟩
        exact kept (by simp [selects, absent])
  | filter filter =>
      simp only [columnsOf, ne_eq, not_true_eq_false, false_and, and_false, iff_false]
      rw [add, events_addFilter]
      split
      · simp [leftOut]
      · simp
  | misfit kind held apart =>
      simp only [add]
      cases held.missing? kind.clauseFields <;> simp [columnsOf, Traced.fail]
  | _ => simp [add, columnsOf]

/-- What a run reports as left out, one of its nodes reports. -/
theorem leftOut_mem_events_addAll {sourceAlias : String} {nodes : List Node} {draft : Draft}
    {reported : Node} {number : Nat} (clear : ∀ node ∈ nodes, Clear node) :
    leftOut reported number ∈ (addAll sourceAlias nodes draft).events ↔
      ∃ before node, before ++ [node] <+: nodes ∧ leftOut reported number ∈
        (add sourceAlias node (before.foldl (extend sourceAlias) draft)).events := by
  induction nodes generalizing draft with
  | nil => simp [addAll]
  | cons first rest ih =>
      rcases List.forall_mem_cons.mp clear with ⟨here, later⟩
      rw [events_addAll_cons (obstacle?_eq_none_iff.mpr here), List.mem_cons, List.mem_append,
        ih later]
      constructor
      · rintro (compiling | here | ⟨before, node, place, event⟩)
        · simp [leftOut] at compiling
        · exact ⟨[], first, by simp, here⟩
        · exact ⟨first :: before, node, by simpa using place, event⟩
      · rintro ⟨before, node, place, event⟩
        rcases before with _ | ⟨other, before⟩
        · obtain rfl : node = first := by simpa using place
          exact Or.inr (Or.inl event)
        · rw [List.cons_append, List.cons_prefix_cons] at place
          rcases place with ⟨rfl, place⟩
          exact Or.inr (Or.inr ⟨before, node, place, event⟩)

theorem aggregates_foldl_extend (sourceAlias : String) {nodes : List Node} (draft : Draft)
    (clear : ∀ node ∈ nodes, Clear node) :
    (nodes.foldl (extend sourceAlias) draft).aggregates =
      draft.aggregates + nodes.countP (fun node => node.kind == .aggregate) := by
  induction nodes generalizing draft with
  | nil => rfl
  | cons node rest ih =>
      rcases List.forall_mem_cons.mp clear with ⟨here, later⟩
      have step : (draft.extend sourceAlias node).aggregates =
          draft.aggregates + if node.kind == .aggregate then 1 else 0 := by
        rcases node with ⟨id, stage, position⟩
        cases stage with
        | misfit kind held apart =>
            have other : kind ≠ .aggregate := by
              rintro rfl
              exact apart (here.fits (by simp [Node.kind, Stage.kind, StageKind.clauseFields]))
            simp [extend, aggregatesOf, Node.kind, Stage.kind, other]
        | _ => rfl
      rw [List.foldl_cons, ih _ later, step, List.countP_cons]
      omega

end Draft

namespace Graph

open Draft

theorem leftOut_not_mem_skippedEdges (graph : Graph) (node : Node) (number : Nat) :
    leftOut node number ∉ graph.skippedEdges := by
  simp [skippedEdges, leftOut]

theorem leftOut_not_mem_findSource (graph : Graph) (node : Node) (number : Nat) :
    leftOut node number ∉ graph.findSource.events := by
  unfold findSource
  split
  · exact List.not_mem_nil
  · simp
  · rw [Traced.events_bind_of_ok _ (Traced.outcome_tell _ _ _)]
    simp [leftOut]

/-- What compilation reports as left out, its nodes report. -/
theorem leftOut_mem_events_compile {settings : Settings} {graph : Graph} {source : Node}
    {others : List Node} {base : String} (found : graph.sources = source :: others)
    (isBase : baseOf source = .ok base) (passed : graph.index.checkCycles source.id = .ok ())
    (clear : graph.obstacle? source = none) (node : Node) (number : Nat) :
    leftOut node number ∈ (graph.compile settings).events ↔
      leftOut node number ∈ (addAll settings.sourceAlias (graph.compiledNodes source)
        (.selectAll base settings.sourceAlias)).events := by
  rw [events_compile settings found isBase passed clear]
  simp only [List.mem_append, List.mem_singleton]
  constructor
  · rintro (skipped | several | event | finished)
    · exact absurd skipped (graph.leftOut_not_mem_skippedEdges node number)
    · exact absurd several (graph.leftOut_not_mem_findSource node number)
    · exact event
    · simp [leftOut] at finished
  · intro event
    exact Or.inr (Or.inr (Or.inl event))

/-- Where ids are distinct, a node has one place. -/
theorem eq_of_prefix_of_id_eq {nodes first second : List Node} {node other : Node}
    (distinct : (nodes.map Node.id).Nodup) (place : first ++ [node] <+: nodes)
    (otherPlace : second ++ [other] <+: nodes) (same : node.id = other.id) : first = second := by
  rcases place with ⟨after, rfl⟩
  rcases otherPlace with ⟨otherAfter, split⟩
  have ids := congrArg (List.map Node.id) split
  rw [← split] at distinct
  simp only [List.map_append, List.map_cons, List.append_assoc, List.cons_append, List.nil_append,
    same] at ids distinct
  rcases List.nodup_append.mp distinct with ⟨-, behind, apart⟩
  have notBefore : other.id ∉ second.map Node.id := fun member =>
    apart _ member _ List.mem_cons_self rfl
  have lengths := congrArg List.length
    ((List.append_cons_inj_of_notMem notBefore (List.nodup_cons.mp behind).1).mp ids).1
  rw [List.append_assoc, List.append_assoc] at split
  exact (List.append_inj_left split (by simpa using lengths)).symm

/-- The text after a node that selects columns later, in a statement that is as it is meant. -/
theorem textOf_of_absent {base sourceAlias : String} {before : List Node} {node : Node}
    (absent : Text.contains star (textOf base sourceAlias before).toList = false) :
    textOf base sourceAlias (before ++ [node]) =
      textOf base sourceAlias before ++ clauseOf sourceAlias node := by
  rw [textOf_concat, select_of_absent _ absent]

/-- A statement is as it is meant, and every later select list leaves the text alone and is reported
as left out. -/
def AsMeant (settings : Settings) (graph : Graph) (source : Node) (base sql : String) : Prop :=
  sql = plain base settings.sourceAlias (graph.compiledNodes source) ∧
    ∀ before node, SelectsLater (graph.compiledNodes source) before node →
      textOf base settings.sourceAlias (before ++ [node]) =
          textOf base settings.sourceAlias before ++ clauseOf settings.sourceAlias node ∧
        leftOut node (before.countP (fun other => other.kind == .aggregate) + 1) ∈
          (graph.compile settings).events

/-- No later select list meets a star. -/
def NoStarMet (settings : Settings) (graph : Graph) (source : Node) (base : String) : Prop :=
  ∀ before node, SelectsLater (graph.compiledNodes source) before node →
    Text.contains star (plain base settings.sourceAlias before).toList = false

/-- What is compiled is as it is meant exactly when no later select list meets a star. -/
theorem compile_asMeant_iff {settings : Settings} {graph : Graph} {sql : String}
    (compiled : (graph.compile settings).outcome = .ok sql) :
    ∃ source base,
      graph.nodes.find? (fun node => node.kind == .source) = some source ∧
      baseOf source = .ok base ∧
      (AsMeant settings graph source base sql ↔ NoStarMet settings graph source base) := by
  rcases exists_of_compile_ok compiled with
    ⟨source, others, base, found, isBase, passed, unhindered, rfl⟩
  have first : graph.nodes.find? (fun node => node.kind == .source) = some source := by
    rw [← List.head?_filter]
    exact List.head?_eq_some_iff.mpr ⟨others, found⟩
  have distinct : ((graph.compiledNodes source).map Node.id).Nodup := by
    rw [map_id_compiledNodes]
    exact GraphIndex.nodup_preorder graph.closed_index source.id
  have clear := obstacle?_eq_none_iff.mp unhindered
  refine ⟨source, base, first, isBase, ?_, ?_⟩
  · rintro ⟨-, reported⟩
    intro before
    -- by the length of what stands before, so that the text there is known to be as it is meant
    induction length : before.length using Nat.strongRecOn generalizing before with
    | _ _ ih =>
        intro node later
        have known : textOf base settings.sourceAlias before =
            plain base settings.sourceAlias before := by
          apply textOf_eq_plain
          intro earlier other earlierLater
          have shorter := earlierLater.place.length_le
          rw [List.length_append, List.length_singleton] at shorter
          exact ih earlier.length (by omega) earlier rfl other
            ⟨earlierLater.place.trans ((List.prefix_append _ _).trans later.place),
              earlierLater.columns, earlierLater.earlier⟩
        have event := (reported before node later).2
        rw [leftOut_mem_events_compile found isBase passed unhindered, leftOut_mem_events_addAll clear] at event
        rcases event with ⟨place, other, otherPlace, event⟩
        rcases leftOut_mem_events_add.mp event with ⟨same, -, -, absent⟩
        obtain rfl := eq_of_prefix_of_id_eq distinct otherPlace later.place same
        rw [← known]
        exact absent
  · intro noStar
    have asMeant : ∀ before, before <+: graph.compiledNodes source →
        textOf base settings.sourceAlias before = plain base settings.sourceAlias before :=
      fun before place => textOf_eq_plain fun earlier other later =>
        noStar earlier other ⟨later.place.trans place, later.columns, later.earlier⟩
    refine ⟨asMeant _ (List.prefix_refl _), ?_⟩
    intro before node later
    have absent : Text.contains star (textOf base settings.sourceAlias before).toList = false := by
      rw [asMeant before ((List.prefix_append _ _).trans later.place)]
      exact noStar before node later
    refine ⟨textOf_of_absent absent, ?_⟩
    rw [leftOut_mem_events_compile found isBase passed unhindered, leftOut_mem_events_addAll clear]
    refine ⟨before, node, later.place, leftOut_mem_events_add.mpr ⟨rfl, ?_, later.columns, absent⟩⟩
    rw [aggregates_foldl_extend _ _ fun other member => clear other
      (((List.prefix_append _ _).trans later.place).subset member)]
    simp

/-- An aggregate with one grouping column. -/
def groupedBy (id column : String) : Node :=
  ⟨id, .aggregate { groupBy := some [column] }, {}⟩

/-- Two aggregates behind one another, over the given source. -/
def groupedTwice (payload : Source) : Graph where
  nodes := [⟨"s", .source payload, {}⟩, groupedBy "a" "x", groupedBy "b" "y"]
  edges := [⟨"1", "s", "a", none, none⟩, ⟨"2", "a", "b", none, none⟩]

theorem cycle?_groupedTwice (payload : Source) :
    (groupedTwice payload).index.cycle? "s" = none := by
  cbv

theorem compiledNodes_groupedTwice (payload : Source) :
    (groupedTwice payload).compiledNodes ⟨"s", .source payload, {}⟩ =
      [groupedBy "a" "x", groupedBy "b" "y"] := by
  cbv

theorem outcome_compile_groupedTwice {payload : Source} {base : String}
    (isBase : baseRelation "s" payload = .ok base) :
    ((groupedTwice payload).compile {}).outcome =
      .ok (textOf base "source" [groupedBy "a" "x", groupedBy "b" "y"]) := by
  have found : (groupedTwice payload).sources = [⟨"s", .source payload, {}⟩] := rfl
  have sourceBase : baseOf ⟨"s", .source payload, {}⟩ = .ok base := isBase
  have clear : (groupedTwice payload).obstacle? ⟨"s", .source payload, {}⟩ = none := by
    rw [Graph.obstacle?, compiledNodes_groupedTwice]
    rfl
  rw [outcome_compile_of_base {} found sourceBase, cycle?_groupedTwice, clear, finalDraft,
    compiledNodes_groupedTwice]
  rfl

theorem compile_groupedTwice_table :
    ((groupedTwice { table := some "t" }).compile {}).outcome =
        .ok "SELECT x FROM \"t\" AS source GROUP BY x GROUP BY y" ∧
      ∃ source base,
        (groupedTwice { table := some "t" }).nodes.find? (fun node => node.kind == .source) =
          some source ∧
        baseOf source = .ok base ∧
        (AsMeant {} (groupedTwice { table := some "t" }) source base
            "SELECT x FROM \"t\" AS source GROUP BY x GROUP BY y" ↔
          NoStarMet {} (groupedTwice { table := some "t" }) source base) := by
  have compiled : ((groupedTwice { table := some "t" }).compile {}).outcome =
      .ok "SELECT x FROM \"t\" AS source GROUP BY x GROUP BY y" := by
    rw [outcome_compile_groupedTwice rfl]
    decide +kernel
  exact ⟨compiled, compile_asMeant_iff compiled⟩

/-- The second select list takes the place of the star inside the query. -/
theorem compile_groupedTwice_query :
    ((groupedTwice { query := some "SELECT * FROM t" }).compile {}).outcome =
        .ok "SELECT x FROM (SELECT y FROM t) AS source GROUP BY x GROUP BY y" ∧
      plain "(SELECT * FROM t)" "source"
          ((groupedTwice { query := some "SELECT * FROM t" }).compiledNodes
            ⟨"s", .source { query := some "SELECT * FROM t" }, {}⟩) =
        "SELECT x FROM (SELECT * FROM t) AS source GROUP BY x GROUP BY y" := by
  constructor
  · rw [outcome_compile_groupedTwice rfl]
    decide +kernel
  · rw [compiledNodes_groupedTwice]
    decide +kernel

end Graph

end SqlPipeline
