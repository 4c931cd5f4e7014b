import SqlPipeline.Proofs.Sql.Drafting

/-!
# The outcome of compilation

`outcome_compile` tells for every graph and all settings which outcome compilation has, in the order
in which the causes are looked for: no source, a source whose payload is that of another kind, a
source without query and table, a cycle below the source, or what the nodes below the source add, one
after the other, in the recursive depth-first order; every id that can be reached is in that order
once, and no other id is. There is a statement unless one of these nodes cannot add its clause
(`Draft.Clear`), and then the first of them is the reason. A number that is too long to be written is
such a case that a document can hold (`not_compiles_longNumber`).

The first source need not be the node that its id stands for, when another node with that id comes
first. The order is one of ids, and the id of the source is met from the beginning, so no node with
it adds anything.
-/

namespace SqlPipeline

open Relation

namespace Graph

/-- The ids in the order of compilation are those of the nodes compiled. -/
theorem map_node?_preorder (graph : Graph) (source : Node) :
    (graph.index.preorder source.id).map graph.node? =
      (graph.compiledNodes source).map some := by
  have all : ∀ id ∈ graph.index.preorder source.id, (graph.node? id).isSome = true := by
    intro id member
    rw [Option.isSome_iff_exists, exists_node?_iff]
    exact GraphIndex.mem_ids_of_mem_preorder member
  rw [compiledNodes, show graph.index.node? = graph.node? from funext graph.node?_index]
  revert all
  induction graph.index.preorder source.id with
  | nil => simp
  | cons id order ih =>
      intro all
      rcases Option.isSome_iff_exists.mp (all id (by simp)) with ⟨node, found⟩
      rw [List.map_cons, List.filterMap_cons_some found, List.map_cons, found,
        ih fun other member => all other (List.mem_cons_of_mem _ member)]

theorem id_of_node? {graph : Graph} {id : String} {node : Node}
    (found : graph.node? id = some node) : node.id = id := by
  have named := List.find?_some found
  simpa using named

theorem map_id_of_map_node? {graph : Graph} {order : List String} {nodes : List Node}
    (known : order.map graph.node? = nodes.map some) : nodes.map Node.id = order := by
  induction order generalizing nodes with
  | nil =>
      have empty : nodes = [] := by simpa using known.symm
      rw [empty, List.map_nil]
  | cons id order ih =>
      rcases nodes with _ | ⟨node, nodes⟩
      · simp at known
      · rw [List.map_cons, List.map_cons, List.cons.injEq] at known
        rw [List.map_cons, id_of_node? known.1, ih known.2]

theorem map_id_compiledNodes (graph : Graph) (source : Node) :
    (graph.compiledNodes source).map Node.id = graph.index.preorder source.id :=
  map_id_of_map_node? (graph.map_node?_preorder source)

theorem sources_of_find? {graph : Graph} {source : Node}
    (first : graph.nodes.find? (fun node => node.kind == .source) = some source) :
    ∃ others, graph.sources = source :: others := by
  rw [← List.head?_filter] at first
  exact List.head?_eq_some_iff.mp first

theorem sources_eq_nil_iff {graph : Graph} :
    graph.sources = [] ↔ ∀ node ∈ graph.nodes, node.kind ≠ .source := by
  simp [sources, List.filter_eq_nil_iff]

theorem exists_baseRelation (id : String) {source : Source} (readable : ¬Unreadable source) :
    ∃ base, Draft.baseRelation id source = .ok base := by
  rcases isBase : Draft.baseRelation id source with error | base
  · exact absurd ((baseRelation_eq_error_iff id).mp isBase).1 readable
  · exact ⟨base, rfl⟩

theorem baseOf_of_misfit {source : Node} {held : Held} {apart : held.kind ≠ .source}
    (stage : source.stage = .misfit .source held apart) :
    Draft.baseOf source = .error (.missingField ⟨held.kind.model, "query"⟩) := by
  have lacks : held.missing? Source.baseFields = some ⟨held.kind.model, "query"⟩ := by
    rcases held with ⟨kind, payload⟩
    unfold Held.missing?
    dsimp only at apart ⊢
    clear stage payload
    revert apart
    cases kind <;> decide
  rw [Draft.baseOf, stage]
  dsimp only
  rw [lacks]

theorem cases_of_obstacle? {graph : Graph} {source : Node} {error : PipelineError}
    (found : graph.obstacle? source = some error) :
    error = .numberTooLong ∨ ∃ missing, error = .missingField missing := by
  rcases List.exists_of_findSome?_eq_some found with ⟨node, -, hinders⟩
  unfold Draft.obstacle? at hinders
  split at hinders
  · split at hinders
    · cases hinders
    · exact .inl (Option.some.inj hinders).symm
  · rcases Option.map_eq_some_iff.mp hinders with ⟨missing, -, rfl⟩
    exact .inr ⟨missing, rfl⟩
  · cases hinders

theorem cases_of_baseOf {source : Node} {error : PipelineError}
    (failed : Draft.baseOf source = .error error) :
    error = .invalidSource (some source.id) PipelineError.emptySourceMessage ∨
      ∃ missing, error = .missingField missing := by
  unfold Draft.baseOf at failed
  split at failed
  · exact .inl ((baseRelation_eq_error_iff _).mp failed).2
  · split at failed
    · exact .inr ⟨_, (Except.error.inj failed).symm⟩
    · exact .inl ((baseRelation_eq_error_iff _).mp failed).2
  · exact .inl ((baseRelation_eq_error_iff _).mp failed).2

/-- Behind a readable source there is a cycle, an obstacle or a statement. -/
theorem outcome_compile_cases {graph : Graph} {source : Node} {others : List Node} {base : String}
    (settings : Settings) (found : graph.sources = source :: others)
    (isBase : Draft.baseOf source = .ok base) :
    (∃ cycle, graph.index.cycle? source.id = some cycle ∧ (graph.compile settings).outcome =
        .error (.cyclic PipelineError.cycleMessage (some cycle))) ∨
      (graph.index.cycle? source.id = none ∧ ∃ error, graph.obstacle? source = some error ∧
        (graph.compile settings).outcome = .error error) ∨
      (graph.index.cycle? source.id = none ∧ graph.obstacle? source = none ∧
        (graph.compile settings).outcome = .ok (graph.finalDraft settings source base).sql) := by
  rw [outcome_compile_of_base settings found isBase]
  rcases graph.index.cycle? source.id with _ | cycle
  · rcases graph.obstacle? source with _ | error
    · exact .inr (.inr ⟨rfl, rfl, rfl⟩)
    · exact .inr (.inl ⟨rfl, error, rfl, rfl⟩)
  · exact .inl ⟨cycle, rfl, rfl⟩

theorem outcome_compile_ne_missingSource {graph : Graph} {source : Node} {others : List Node}
    (settings : Settings) (found : graph.sources = source :: others) (message : String) :
    (graph.compile settings).outcome ≠ .error (.missingSource message) := by
  intro failed
  rcases isBase : Draft.baseOf source with error | base
  · rw [outcome_compile_of_unreadable settings found isBase] at failed
    rcases cases_of_baseOf isBase with rfl | ⟨missing, rfl⟩ <;> cases failed
  · rcases outcome_compile_cases settings found isBase with ⟨cycle, -, cyclic⟩ |
      ⟨-, error, hinders, hindered⟩ | ⟨-, -, compiled⟩
    · rw [cyclic] at failed
      cases failed
    · rw [hindered] at failed
      rcases cases_of_obstacle? hinders with rfl | ⟨missing, rfl⟩ <;> cases failed
    · rw [compiled] at failed
      cases failed

theorem outcome_compile_ne_invalidSource {graph : Graph} {source : Node} {others : List Node}
    {base : String} (settings : Settings) (found : graph.sources = source :: others)
    (isBase : Draft.baseOf source = .ok base) (id : Option String) (message : String) :
    (graph.compile settings).outcome ≠ .error (.invalidSource id message) := by
  intro failed
  rcases outcome_compile_cases settings found isBase with ⟨cycle, -, cyclic⟩ |
    ⟨-, error, hinders, hindered⟩ | ⟨-, -, compiled⟩
  · rw [cyclic] at failed
    cases failed
  · rw [hindered] at failed
    rcases cases_of_obstacle? hinders with rfl | ⟨missing, rfl⟩ <;> cases failed
  · rw [compiled] at failed
    cases failed

theorem cyclic_iff {graph : Graph} {source : Node} {others : List Node} {base : String}
    (settings : Settings) (found : graph.sources = source :: others)
    (isBase : Draft.baseOf source = .ok base) :
    (∃ cycle, (graph.compile settings).outcome =
      .error (.cyclic PipelineError.cycleMessage (some cycle))) ↔ graph.CycleBelow source.id := by
  have exact := GraphIndex.cycle?_eq_none_iff graph.closed_index source.id
  rw [← cycleBelow_index, ← not_iff_not, ← exact]
  rcases outcome_compile_cases settings found isBase with ⟨cycle, isCycle, cyclic⟩ |
    ⟨noCycle, error, hinders, hindered⟩ | ⟨noCycle, -, compiled⟩
  · rw [cyclic, isCycle]
    simp
  · refine iff_of_true ?_ noCycle
    rintro ⟨cycle, cyclic⟩
    rw [hindered] at cyclic
    rcases cases_of_obstacle? hinders with rfl | ⟨missing, rfl⟩ <;> cases cyclic
  · rw [compiled, noCycle]
    simp

/-- Where no cycle is below a readable source, the nodes below it are added one after the other. -/
theorem outcome_compile_of_order {graph : Graph} {source : Node} {others : List Node}
    {base : String} (settings : Settings) (found : graph.sources = source :: others)
    (isBase : Draft.baseOf source = .ok base) (noCycle : ¬graph.CycleBelow source.id) :
    (graph.compile settings).outcome = Except.map Draft.sql
        ((graph.compiledNodes source).foldlM
          (fun draft node => (Draft.add settings.sourceAlias node draft).outcome)
          (.selectAll base settings.sourceAlias)) ∧
      ((∃ sql, (graph.compile settings).outcome = .ok sql) ↔
        ∀ node ∈ graph.compiledNodes source, Draft.Clear node) := by
  have ended := (GraphIndex.cycle?_eq_none_iff graph.closed_index source.id).mpr
    (by rwa [cycleBelow_index])
  rw [Draft.foldlM_add, ← obstacle?_eq_none_iff, outcome_compile_of_base settings found isBase,
    ended, ← obstacle?]
  rcases graph.obstacle? source with _ | error
  · exact ⟨rfl, iff_of_true ⟨_, rfl⟩ rfl⟩
  · refine ⟨rfl, iff_of_false ?_ (by simp)⟩
    rintro ⟨sql, compiled⟩
    cases compiled

/-- Which outcome compilation has, and what the statement is. -/
theorem outcome_compile (settings : Settings) (graph : Graph) :
    ((graph.compile settings).outcome = .error (.missingSource PipelineError.noSourceMessage) ↔
      ∀ node ∈ graph.nodes, node.kind ≠ .source) ∧
    ∀ source, graph.nodes.find? (fun node => node.kind == .source) = some source →
      (∀ held apart, source.stage = .misfit .source held apart →
        (graph.compile settings).outcome = .error (.missingField ⟨held.kind.model, "query"⟩)) ∧
      ∀ payload, source.stage = .source payload →
        ((graph.compile settings).outcome =
            .error (.invalidSource (some source.id) PipelineError.emptySourceMessage) ↔
          Unreadable payload) ∧
        (¬Unreadable payload →
          ((∃ cycle, (graph.compile settings).outcome =
              .error (.cyclic PipelineError.cycleMessage (some cycle))) ↔
            graph.CycleBelow source.id) ∧
          (¬graph.CycleBelow source.id →
            ∃ (base : String) (order : List String) (nodes : List Node),
              Draft.baseRelation source.id payload = .ok base ∧
              graph.index.Visits [source.id] (graph.index.successors source.id) order ∧
              order.Nodup ∧
              (∀ id, id ∈ order ↔ ReflTransGen graph.Kept source.id id ∧ id ≠ source.id) ∧
              order.map graph.node? = nodes.map some ∧
              (graph.compile settings).outcome = Except.map Draft.sql
                (nodes.foldlM
                  (fun draft node => (Draft.add settings.sourceAlias node draft).outcome)
                  { sql := "SELECT * FROM " ++ base ++ " AS " ++ settings.sourceAlias }) ∧
              ((∃ sql, (graph.compile settings).outcome = .ok sql) ↔
                ∀ node ∈ nodes, Draft.Clear node))) := by
  constructor
  · rw [← sources_eq_nil_iff]
    constructor
    · intro failed
      rcases found : graph.sources with _ | ⟨source, others⟩
      · rfl
      · exact absurd failed (outcome_compile_ne_missingSource settings found _)
    · intro none
      exact outcome_compile_of_noSource settings none
  intro source first
  rcases sources_of_find? first with ⟨others, found⟩
  constructor
  · intro held apart stage
    exact outcome_compile_of_unreadable settings found (baseOf_of_misfit stage)
  intro payload stage
  have sourceBase : Draft.baseOf source = Draft.baseRelation source.id payload := by
    rw [Draft.baseOf, stage]
  constructor
  · constructor
    · intro failed
      by_contra readable
      rcases exists_baseRelation source.id readable with ⟨base, isBase⟩
      exact outcome_compile_ne_invalidSource settings found (sourceBase.trans isBase) _ _ failed
    · intro unreadable
      have noBase := (baseRelation_eq_error_iff source.id).mpr ⟨unreadable, rfl⟩
      exact outcome_compile_of_unreadable settings found (sourceBase.trans noBase)
  · intro readable
    rcases exists_baseRelation source.id readable with ⟨base, isBase⟩
    refine ⟨cyclic_iff settings found (sourceBase.trans isBase), fun noCycle => ?_⟩
    refine ⟨base, graph.index.preorder source.id, graph.compiledNodes source, isBase,
      GraphIndex.visits_preorder graph.closed_index source.id,
      GraphIndex.nodup_preorder graph.closed_index source.id, fun id => ?_,
      graph.map_node?_preorder source,
      outcome_compile_of_order settings found (sourceBase.trans isBase) noCycle⟩
    rw [GraphIndex.mem_preorder graph.closed_index, follows_index_eq]

/-- Two ways lead to `m`, the id of the source is taken by another node, and one edge dangles. -/
def diamond : Graph where
  nodes :=
    [⟨"s", .target {}, {}⟩, ⟨"s", .source { table := some "t" }, {}⟩, ⟨"l", .lookup {}, {}⟩,
      ⟨"r", .transform {}, {}⟩, ⟨"m", .filter { conditions := [⟨"x", .less, .int 5⟩] }, {}⟩]
  edges :=
    [⟨"1", "s", "l", none, none⟩, ⟨"2", "s", "r", none, none⟩, ⟨"3", "l", "m", none, none⟩,
      ⟨"4", "r", "m", none, none⟩, ⟨"5", "r", "m", none, none⟩, ⟨"6", "m", "ghost", none, none⟩]

theorem not_cycleBelow_diamond : ¬diamond.CycleBelow "s" := by
  rw [← cycleBelow_index, ← GraphIndex.cycle?_eq_none_iff diamond.closed_index "s"]
  cbv

/-- A source whose payload is that of a join. -/
def sourceOfJoin : Graph where
  nodes := [⟨"s", .misfit .source ⟨.join, {}⟩ (by decide), {}⟩]

theorem outcome_compile_diamond :
    (sourceOfJoin.compile {}).outcome = .error (.missingField ⟨"JoinNodeData", "query"⟩) ∧
    ∃ (base : String) (order : List String) (nodes : List Node),
      Draft.baseRelation "s" { table := some "t" } = .ok base ∧
      diamond.index.Visits ["s"] (diamond.index.successors "s") order ∧
      order.Nodup ∧
      (∀ id, id ∈ order ↔ ReflTransGen diamond.Kept "s" id ∧ id ≠ "s") ∧
      order.map diamond.node? = nodes.map some ∧
      (diamond.compile {}).outcome = Except.map Draft.sql
        (nodes.foldlM (fun draft node => (Draft.add "source" node draft).outcome)
          { sql := "SELECT * FROM " ++ base ++ " AS " ++ "source" }) ∧
      ((∃ sql, (diamond.compile {}).outcome = .ok sql) ↔ ∀ node ∈ nodes, Draft.Clear node) :=
  ⟨((outcome_compile {} sourceOfJoin).2 _ rfl).1 _ _ rfl,
    ((((outcome_compile {} diamond).2 _ rfl).2 _ rfl).2 (by decide)).2 not_cycleBelow_diamond⟩

/-- A power of ten has one digit more than its exponent says. -/
theorem lt_length_toDigits_pow {exponent : Nat} (positive : 0 < exponent) :
    exponent < (Nat.toDigits 10 (Nat.pow 10 exponent)).length := by
  rw [← Nat.not_le, Nat.length_toDigits_le_iff (by decide) positive]
  exact Nat.lt_irrefl _

/-- The smallest whole number that is too long to be written. -/
def longNumber : Int := (Nat.pow 10 maxWholeDigits : Nat)

/-- The rows of a table with a number. -/
def rowsWith (number : Int) : Graph where
  nodes :=
    [⟨"s", .source { table := some "t" }, {}⟩,
      ⟨"f", .filter { conditions := [⟨"x", .equal, .int number⟩] }, {}⟩]
  edges := [⟨"e", "s", "f", none, none⟩]

theorem not_cycleBelow_rowsWith (number : Int) : ¬(rowsWith number).CycleBelow "s" := by
  rw [← cycleBelow_index, ← GraphIndex.cycle?_eq_none_iff (rowsWith number).closed_index "s"]
  cbv

theorem compiledNodes_rowsWith (number : Int) :
    (rowsWith number).compiledNodes ⟨"s", .source { table := some "t" }, {}⟩ =
      [⟨"f", .filter { conditions := [⟨"x", .equal, .int number⟩] }, {}⟩] := by
  cbv

/-- The number decides whether the rows are selected. -/
theorem compiles_rowsWith_iff {number : Int} :
    (∃ sql, ((rowsWith number).compile {}).outcome = .ok sql) ↔
      (Nat.toDigits 10 number.natAbs).length ≤ maxWholeDigits := by
  have found : (rowsWith number).sources = [⟨"s", .source { table := some "t" }, {}⟩] := rfl
  have isBase : Draft.baseOf ⟨"s", .source { table := some "t" }, {}⟩ = .ok "\"t\"" := rfl
  rw [(outcome_compile_of_order {} found isBase (not_cycleBelow_rowsWith number)).2,
    compiledNodes_rowsWith, List.forall_mem_singleton]
  constructor
  · intro clear
    have written := clear.short _ rfl _ (List.mem_singleton_self _)
    exact written.resolve_left Bool.false_ne_true number rfl
  · intro short
    refine ⟨fun _ => rfl, fun filter same condition member => .inr ?_⟩
    cases same
    rcases List.mem_singleton.mp member with rfl
    rintro other same
    cases same
    exact short

/-- A readable source without a cycle below it does not make sure of a statement. -/
theorem not_compiles_longNumber :
    ¬∀ (settings : Settings) (graph : Graph) (source : Node) (payload : Source),
      graph.nodes.find? (fun node => node.kind == .source) = some source →
        source.stage = .source payload → ¬Unreadable payload → ¬graph.CycleBelow source.id →
          ∃ sql, (graph.compile settings).outcome = .ok sql := by
  intro always
  have compiles := compiles_rowsWith_iff.mp
    (always {} (rowsWith longNumber) _ _ rfl rfl (by decide) (not_cycleBelow_rowsWith longNumber))
  rw [longNumber, Int.natAbs_natCast] at compiles
  exact absurd compiles (Nat.not_le.mpr (lt_length_toDigits_pow (by decide)))

end Graph

end SqlPipeline
