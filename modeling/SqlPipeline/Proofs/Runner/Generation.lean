import SqlPipeline.Proofs.Validation.PayloadKinds

/-!
# When a transformation document is produced

A transformation document is produced unless one of two things is in the way at some node: a
computation on places whose operation cannot be looked up, such as a list, or a payload of another
kind than the node's (`document_succeeds_iff`). Nothing else can go wrong. Each stage is taken by its
own kind, every kind of transformation but the basic one has settings, and the basic one never asks
for them. So there is a single error in a stage that holds the payload of its kind, and each step
from the operation up to the entries of a stage says exactly when it comes (`FailsWhen`). The first
node that fails is the one that is reported.
-/

namespace SqlPipeline

namespace Runner

variable {α β : Type}

/-- An outcome that is an error under a condition and a result otherwise. -/
structure FailsWhen (condition : Prop) (outcome : Except RunnerError α) : Prop where
  fails : condition → outcome = .error .unusableOperation
  succeeds : ¬condition → ∃ value, outcome = .ok value

namespace FailsWhen

variable {condition later : Prop} {outcome : Except RunnerError α}

theorem ok (value : α) : FailsWhen False (.ok value) :=
  ⟨False.elim, fun _ => ⟨value, rfl⟩⟩

theorem congr (fails : FailsWhen condition outcome) (same : condition ↔ later) :
    FailsWhen later outcome :=
  ⟨fun holds => fails.fails (same.mpr holds), fun fine => fails.succeeds (mt same.mp fine)⟩

theorem map (fails : FailsWhen condition outcome) (function : α → β) :
    FailsWhen condition (outcome.map function) := by
  constructor
  · intro holds
    rw [fails.fails holds]
    rfl
  · intro fine
    rcases fails.succeeds fine with ⟨value, rfl⟩
    exact ⟨function value, rfl⟩

/-- Of two steps one after the other either can fail. -/
theorem bind {next : α → Except RunnerError β} (fails : FailsWhen condition outcome)
    (failsLater : ∀ value, FailsWhen later (next value)) :
    FailsWhen (condition ∨ later) (outcome >>= next) := by
  by_cases holds : condition
  · have failed := fails.fails holds
    exact ⟨fun _ => by rw [failed]; rfl, fun fine => absurd (Or.inl holds) fine⟩
  · rcases fails.succeeds holds with ⟨value, rfl⟩
    exact (failsLater value).congr (by simp [holds])

/-- A run over a list fails when it fails at some item. -/
theorem mapM {conditionAt : α → Prop} {step : α → Except RunnerError β} (list : List α)
    (fails : ∀ item, FailsWhen (conditionAt item) (step item)) :
    FailsWhen (∃ item ∈ list, conditionAt item) (list.mapM step) := by
  induction list with
  | nil => exact (ok []).congr (by simp)
  | cons first rest ih =>
      rw [List.mapM_cons]
      have later (value : β) : FailsWhen (∃ item ∈ rest, conditionAt item)
          (rest.mapM step >>= fun values => pure (value :: values)) :=
        (ih.bind fun values => ok (value :: values)).congr (by simp)
      exact ((fails first).bind later).congr (by simp)

end FailsWhen

/-- An operation is given that cannot be looked up. -/
def GivesUnusable (overrides : Mapping) : Prop :=
  ∃ value, overrides.field? "operation" = some value ∧ canBeLookedUp value = false

/-- A transformation that asks for an operation on places that cannot be looked up. -/
def AsksUnusable (transform : Transform) : Prop :=
  transform.kind = some .geolocation ∧ GivesUnusable transform.config

/-- A stage with a transformation that asks for an operation that cannot be looked up. -/
def HoldsUnusable (stage : Stage) : Prop :=
  ∃ list, stage = .transform list ∧ ∃ transform ∈ list.transforms, AsksUnusable transform

theorem failsWhen_operationSettings (overrides : Mapping) :
    FailsWhen (GivesUnusable overrides) (operationSettings overrides) := by
  constructor
  · rintro ⟨value, given, unusable⟩
    rw [operationSettings, given]
    cases value <;> first | rfl | simp_all [canBeLookedUp]
  · intro fine
    rw [operationSettings]
    split
    · exact ⟨_, rfl⟩
    · next value _ given =>
      have usable : canBeLookedUp value = true := by
        by_contra unusable
        exact fine ⟨value, given, by simpa using unusable⟩
      rw [if_pos usable]
      exact ⟨[], rfl⟩
    · exact ⟨[], rfl⟩

/-- Every kind but the basic one has typed settings; only those of a computation on places depend on
something that may be unusable. -/
theorem failsWhen_typedSettings {kind : TransformKind} (typed : kind ≠ .basic)
    (overrides : Mapping) :
    FailsWhen (kind = .geolocation ∧ GivesUnusable overrides) (typedSettings kind overrides) := by
  simp only [typedSettings]
  rw [if_neg typed]
  by_cases place : kind = .geolocation
  · rw [if_pos place]
    exact ((failsWhen_operationSettings overrides).map _).congr (by simp [place])
  · rw [if_neg place]
    exact (FailsWhen.ok _).congr (by simp [place])

/-- A kind other than the basic one is written with its typed settings. -/
theorem transformEntry_of_typed {transform : Transform} {kind : TransformKind}
    (given : transform.kind = some kind) (typed : kind ≠ .basic) :
    transformEntry transform = (typedSettings kind transform.config).map (entry kind.label) := by
  rw [transformEntry, given]
  cases kind <;> first | exact absurd rfl typed | rfl

theorem failsWhen_transformEntry (transform : Transform) :
    FailsWhen (AsksUnusable transform) (transformEntry transform) := by
  rcases given : transform.kind with _ | kind
  · rw [transformEntry, given]
    exact (FailsWhen.ok _).congr (by simp [AsksUnusable, given])
  · by_cases basic : kind = .basic
    · subst basic
      rw [transformEntry, given]
      exact (FailsWhen.ok _).congr (by simp [AsksUnusable, given])
    · rw [transformEntry_of_typed given basic]
      exact ((failsWhen_typedSettings basic transform.config).map _).congr
        (by simp [AsksUnusable, given])

theorem failsWhen_stageEntries {stage : Stage} {result : Except RunnerError (List Value)}
    (fits : stage.Fits) (configured : stageEntries? stage = some result) :
    FailsWhen (HoldsUnusable stage) result := by
  cases stage with
  | source payload => cases configured
  | target payload => cases configured
  | transform list =>
      cases configured
      exact (FailsWhen.mapM list.transforms failsWhen_transformEntry).congr
        (by simp [HoldsUnusable])
  | misfit kind held apart => exact absurd fits apart
  | _ =>
      cases configured
      exact (FailsWhen.ok _).congr (by simp [HoldsUnusable])

theorem fits_of_holdsUnusable {stage : Stage} (holds : HoldsUnusable stage) : stage.Fits := by
  rcases holds with ⟨list, rfl, -⟩
  rfl

/-- How the entries of a stage fail: by an operation that cannot be looked up, or by the payload of
another kind, which lacks the field that is read first. -/
inductive StageFails (stage : Stage) : RunnerError → Prop where
  | unusable (holds : HoldsUnusable stage) : StageFails stage .unusableOperation
  | misfit {field : Field} (apart : ¬stage.Fits)
      (first : stage.kind.entryFields.head? = some field) :
      StageFails stage (.missingField ⟨stage.held.kind.model, field.plain⟩)

theorem outcome_nodeEntries_of_configured {node : Node} {result : Except RunnerError (List Value)}
    (configured : stageEntries? node.stage = some result) :
    (nodeEntries node).outcome = result := by
  rw [nodeEntries, configured]
  simp only [Traced.outcome_bind, Traced.outcome_ofExcept, Traced.outcome_tellAll,
    Traced.outcome_pure]
  cases result <;> rfl

theorem outcome_nodeEntries_of_none {node : Node} (none : stageEntries? node.stage = none) :
    (nodeEntries node).outcome = .ok [] := by
  rw [nodeEntries, none]
  rfl

theorem nodeEntries_eq_error_iff_of_fits {node : Node} {error : RunnerError}
    (fits : node.stage.Fits) :
    (nodeEntries node).outcome = .error error ↔ StageFails node.stage error := by
  have known : StageFails node.stage error ↔
      error = .unusableOperation ∧ HoldsUnusable node.stage := by
    constructor
    · rintro (holds | ⟨apart, -⟩)
      · exact ⟨rfl, holds⟩
      · exact absurd fits apart
    · rintro ⟨rfl, holds⟩
      exact .unusable holds
  rw [known]
  rcases configured : stageEntries? node.stage with _ | result
  · rw [outcome_nodeEntries_of_none configured]
    refine iff_of_false nofun ?_
    rintro ⟨-, list, isTransform, -⟩
    rw [isTransform] at configured
    cases configured
  · have fails := failsWhen_stageEntries fits configured
    rw [outcome_nodeEntries_of_configured configured]
    by_cases holds : HoldsUnusable node.stage
    · simp [fails.fails holds, holds, eq_comm]
    · rcases fails.succeeds holds with ⟨value, rfl⟩
      simp [holds]

/-- The entries of a node fail exactly as those of its stage do. -/
theorem nodeEntries_eq_error_iff {node : Node} {error : RunnerError} :
    (nodeEntries node).outcome = .error error ↔ StageFails node.stage error := by
  by_cases fits : node.stage.Fits
  · exact nodeEntries_eq_error_iff_of_fits fits
  · rcases reads : node.stage.kind.entryFields.head? with _ | field
    · have noField : node.stage.kind.entryFields = [] := List.head?_eq_none_iff.mp reads
      rw [outcome_nodeEntries_of_none (stageEntries?_of_noField noField)]
      refine iff_of_false nofun ?_
      rintro (holds | ⟨-, first⟩)
      · exact fits (fits_of_holdsUnusable holds)
      · rw [reads] at first
        cases first
    · rw [outcome_nodeEntries_of_configured (stageEntries?_of_not_fits fits reads)]
      constructor
      · intro same
        cases same
        exact .misfit fits reads
      · rintro (holds | ⟨-, first⟩)
        · exact absurd (fits_of_holdsUnusable holds) fits
        · rw [reads] at first
          cases first
          rfl

theorem nodeEntries_succeeds_iff {node : Node} :
    (∃ own, (nodeEntries node).outcome = .ok own) ↔ ∀ error, ¬StageFails node.stage error := by
  simp only [← nodeEntries_eq_error_iff]
  rcases (nodeEntries node).outcome with error | own
  · simp
  · simp

/-- The first of some nodes whose stage fails, and how. -/
inductive FailsFirst : List Node → RunnerError → Prop where
  | here {node : Node} {rest : List Node} {error : RunnerError}
      (fails : StageFails node.stage error) : FailsFirst (node :: rest) error
  | later {node : Node} {rest : List Node} {error : RunnerError}
      (fine : ∀ error, ¬StageFails node.stage error) (fails : FailsFirst rest error) :
      FailsFirst (node :: rest) error

/-- The entries of nodes fail as the first node does that fails. -/
theorem entries_eq_error_iff {nodes : List Node} {error : RunnerError} :
    (entries nodes).outcome = .error error ↔ FailsFirst nodes error := by
  induction nodes with
  | nil => exact iff_of_false nofun nofun
  | cons node rest ih =>
      simp only [entries, Traced.outcome_bind_eq_error_iff, Traced.outcome_pure, reduceCtorEq,
        and_false, exists_false, or_false, exists_and_right]
      rw [ih, nodeEntries_eq_error_iff, nodeEntries_succeeds_iff]
      constructor
      · rintro (fails | ⟨fine, later⟩)
        · exact .here fails
        · exact .later fine later
      · rintro (fails | ⟨fine, later⟩)
        · exact .inl fails
        · exact .inr ⟨fine, later⟩

/-- The entries of nodes are produced when no node fails. -/
theorem entries_succeeds_iff {nodes : List Node} :
    (∃ values, (entries nodes).outcome = .ok values) ↔
      ∀ node ∈ nodes, ∀ error, ¬StageFails node.stage error := by
  induction nodes with
  | nil => exact iff_of_true ⟨[], rfl⟩ (by simp)
  | cons node rest ih =>
      rw [List.forall_mem_cons, ← ih, ← nodeEntries_succeeds_iff]
      simp only [entries, Traced.outcome_bind_eq_ok_iff, Traced.outcome_pure]
      constructor
      · rintro ⟨_, own, isOwn, others, isRest, -⟩
        exact ⟨⟨own, isOwn⟩, others, isRest⟩
      · rintro ⟨⟨own, isOwn⟩, others, isRest⟩
        exact ⟨_, own, isOwn, others, isRest, rfl⟩

theorem document_eq_error_iff {graph : Graph} {error : RunnerError} :
    (document graph).outcome = .error error ↔ FailsFirst graph.nodes error := by
  simp only [document, Traced.outcome_bind_eq_error_iff, entries_eq_error_iff, Traced.outcome_pure,
    reduceCtorEq, and_false, exists_false, or_false]

theorem document_eq_ok_iff {graph : Graph} :
    (∃ entries, (document graph).outcome = .ok (.record [("transformations", .list entries)])) ↔
      ∀ node ∈ graph.nodes, ∀ error, ¬StageFails node.stage error := by
  rw [← entries_succeeds_iff]
  simp only [document, Traced.outcome_bind_eq_ok_iff, Traced.outcome_pure]
  constructor
  · rintro ⟨_, values, produced, -⟩
    exact ⟨values, produced⟩
  · rintro ⟨values, produced⟩
    exact ⟨values, values, produced, rfl⟩

/-- A payload of its own kind fails in one way only. -/
theorem FailsFirst.eq_unusable {nodes : List Node} {error : RunnerError}
    (fails : FailsFirst nodes error) (fits : ∀ node ∈ nodes, node.stage.Fits) :
    error = .unusableOperation := by
  induction fails with
  | here fails =>
      rcases fails with holds | ⟨apart, -⟩
      · rfl
      · exact absurd (fits _ List.mem_cons_self) apart
  | later _ _ ih => exact ih fun node member => fits node (List.mem_cons_of_mem _ member)

/-- A transformation document is produced exactly when no stage fails, and otherwise the first stage
that fails says how. Where every stage holds the payload of its kind, a stage fails exactly when it
asks for an operation on places that cannot be looked up, and that is the error. -/
theorem document_succeeds_iff (graph : Graph) :
    ((∃ entries, (document graph).outcome = .ok (.record [("transformations", .list entries)])) ↔
      ∀ node ∈ graph.nodes, ∀ error, ¬StageFails node.stage error) ∧
    (∀ error, (document graph).outcome = .error error ↔ FailsFirst graph.nodes error) ∧
    ((∀ node ∈ graph.nodes, node.stage.Fits) →
      ((∃ entries,
          (document graph).outcome = .ok (.record [("transformations", .list entries)])) ↔
        ¬∃ node ∈ graph.nodes, HoldsUnusable node.stage) ∧
      ((∃ node ∈ graph.nodes, HoldsUnusable node.stage) →
        (document graph).outcome = .error .unusableOperation)) := by
  refine ⟨document_eq_ok_iff, fun error => document_eq_error_iff, fun fits => ⟨?_, ?_⟩⟩
  · rw [document_eq_ok_iff]
    constructor
    · rintro fine ⟨node, member, holds⟩
      exact fine node member _ (.unusable holds)
    · rintro usable node member error (holds | ⟨apart, -⟩)
      · exact usable ⟨node, member, holds⟩
      · exact apart (fits node member)
  · rintro ⟨node, member, holds⟩
    rcases outcome : (entries graph.nodes).outcome with error | values
    · rw [(entries_eq_error_iff.mp outcome).eq_unusable fits] at outcome
      exact document_eq_error_iff.mpr (entries_eq_error_iff.mp outcome)
    · exact absurd (.unusable holds) (entries_succeeds_iff.mp ⟨values, outcome⟩ node member _)

/-- A graph whose distances are asked for by a list with the operation in it. -/
def distances : Graph where
  nodes := [{ id := "t", stage := .transform ⟨[
    { kind := some .geolocation, config := [(.str "operation", .list [.str "distance"])] }]⟩ }]

/-- Of these graphs only the one with usable settings has a transformation document. -/
theorem document_succeeds_cleaning :
    (∃ entries, (document Graph.cleaning).outcome =
        .ok (.record [("transformations", .list entries)])) ∧
      (document distances).outcome = .error .unusableOperation ∧
      (document Graph.mistyped).outcome =
        .error (.missingField ⟨"SourceNodeData", "conditions"⟩) := by
  have asks : HoldsUnusable (distances.nodes.head (by decide)).stage :=
    ⟨_, rfl, _, List.mem_singleton_self _, rfl, _, rfl, rfl⟩
  have apart : ¬(Graph.mistyped.nodes.head (by decide)).stage.Fits := by decide
  refine ⟨((document_succeeds_iff Graph.cleaning).2.2 (by decide)).1.mpr ?_,
    ((document_succeeds_iff distances).2.2 (by decide)).2 ⟨_, List.mem_singleton_self _, asks⟩,
    ((document_succeeds_iff Graph.mistyped).2.1 _).mpr (.here (.misfit apart rfl))⟩
  rintro ⟨node, member, list, isTransform, transform, inList, isPlace, -⟩
  simp only [Graph.cleaning, List.mem_cons, List.not_mem_nil, or_false] at member
  rcases member with rfl | rfl
  · cases isTransform
  · cases isTransform
    rcases List.mem_singleton.mp inList with rfl
    cases isPlace

/-- The graph as the editor sends it. -/
def distancesDocument : Value :=
  .record [("nodes", .list [.record [("id", .str "t"), ("type", .str "transform"),
    ("data", .record [("transforms", .list [.record [("transformationType", .str "geolocation"),
      ("config", .record [("operation", .list [.str "distance"])])]])])]])]

/-- Not every valid graph has a transformation document. -/
theorem not_document_distances :
    ¬∀ input graph, Graph.read input = .valid graph →
      ∃ result, (document graph).outcome = .ok result := by
  intro always
  have valid : Graph.read distancesDocument = .valid distances := by rfl
  rcases always _ _ valid with ⟨result, produced⟩
  cases produced

end Runner

end SqlPipeline
