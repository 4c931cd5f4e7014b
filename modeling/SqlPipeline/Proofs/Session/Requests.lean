import SqlPipeline.Proofs.Sql.RecoveredShape
import SqlPipeline.Proofs.Validation.Settings
import SqlPipeline.Proofs.Validation.WireRoundTrip
import SqlPipeline.Session

/-!
# What requests do to a session

A request that is answered changes one part of a session, if any, in the way that `Changes` says; a
request that fails changes nothing. So requests that fail could as well not have been made, and what
holds of the first session and is kept by every answered request holds of all sessions: the alias is
an identifier, recovered stages have positions, and the free settings of all nodes can be written.
-/

namespace SqlPipeline

namespace Session

/-- What a request that is answered makes of a session. -/
inductive Changes (session : Session) : Request → Session → Prop
  | settings {document : Value} {settings : Settings}
      (valid : Settings.read document = .valid settings) :
      Changes session (.setSettings document) { session with settings := settings }
  | graph {document : Value} {graph : Graph} (valid : Graph.read document = .valid graph) :
      Changes session (.setGraph document) { session with graph := graph }
  | node {document : Value} {node : Node} (valid : Node.read document = .valid node) :
      Changes session (.addNode document)
        { session with graph := { session.graph with nodes := session.graph.nodes ++ [node] } }
  | edge {document : Value} {edge : Edge} (valid : Edge.read document = .valid edge) :
      Changes session (.addEdge document)
        { session with graph := { session.graph with edges := session.graph.edges ++ [edge] } }
  | statement (sql : String) : Changes session (.setSql sql) { session with sql := sql }
  | compiled {sql : String} (made : (session.graph.compile session.settings).outcome = .ok sql) :
      Changes session .compile { session with sql := sql }
  | recovered {graph : Graph} (made : (recover session.settings session.sql).outcome = .ok graph) :
      Changes session .recover { session with graph := graph }
  | reloaded {stored graph : Graph} (putAway : session.graph.stored = .ok stored)
      (valid : Graph.read (stored.dump {}) = .valid graph) :
      Changes session .reload { session with graph := graph }
  | transformations {document : Value}
      (made : (Runner.document session.graph).outcome = .ok document) :
      Changes session .transformations session
  | reachable {id : String} {ids : List String}
      (found : session.graph.index.reachableFrom id = .ok ids) :
      Changes session (.reachable id) session

variable {session : Session} {request : Request}

theorem outcome_accept_eq_ok_iff {α : Type} {model : String} {checked : Checked α} {value : α} :
    (accept model checked).outcome = .ok value ↔ checked = .valid value := by
  cases checked <;> simp [accept]

/-- A request is answered if and only if there is something that it makes of the session. -/
theorem exists_answer_iff {next : Session} :
    (∃ value, (session.answer request).outcome = .ok (next, value)) ↔
      session.Changes request next := by
  constructor
  · rintro ⟨value, answered⟩
    cases request with
    | setSettings document =>
        rcases Traced.outcome_bind_eq_ok_iff.mp answered with ⟨settings, valid, rest⟩
        cases rest
        exact .settings (outcome_accept_eq_ok_iff.mp valid)
    | setGraph document =>
        rcases Traced.outcome_bind_eq_ok_iff.mp answered with ⟨graph, valid, rest⟩
        cases rest
        exact .graph (outcome_accept_eq_ok_iff.mp valid)
    | addNode document =>
        rcases Traced.outcome_bind_eq_ok_iff.mp answered with ⟨node, valid, rest⟩
        cases rest
        exact .node (outcome_accept_eq_ok_iff.mp valid)
    | addEdge document =>
        rcases Traced.outcome_bind_eq_ok_iff.mp answered with ⟨edge, valid, rest⟩
        cases rest
        exact .edge (outcome_accept_eq_ok_iff.mp valid)
    | setSql sql =>
        cases answered
        exact .statement sql
    | compile =>
        rcases Traced.outcome_bind_eq_ok_iff.mp answered with ⟨sql, made, rest⟩
        cases rest
        exact .compiled (mapError_eq_ok_iff.mp made)
    | recover =>
        rcases Traced.outcome_bind_eq_ok_iff.mp answered with ⟨graph, made, rest⟩
        cases rest
        exact .recovered (mapError_eq_ok_iff.mp made)
    | reload =>
        rcases Traced.outcome_bind_eq_ok_iff.mp answered with ⟨stored, putAway, rest⟩
        rcases Traced.outcome_bind_eq_ok_iff.mp rest with ⟨graph, valid, rest⟩
        cases rest
        exact .reloaded (mapError_eq_ok_iff.mp putAway) (outcome_accept_eq_ok_iff.mp valid)
    | transformations =>
        rcases Traced.outcome_bind_eq_ok_iff.mp answered with ⟨document, made, rest⟩
        cases rest
        exact .transformations (mapError_eq_ok_iff.mp made)
    | reachable id =>
        rcases Traced.outcome_bind_eq_ok_iff.mp answered with ⟨_, -, rest⟩
        rcases Traced.outcome_bind_eq_ok_iff.mp rest with ⟨ids, found, rest⟩
        cases rest
        exact .reachable (mapError_eq_ok_iff.mp found)
  · intro changes
    cases changes with
    | settings valid =>
        exact ⟨_, Traced.outcome_bind_of_ok _ (outcome_accept_eq_ok_iff.mpr valid)⟩
    | graph valid => exact ⟨_, Traced.outcome_bind_of_ok _ (outcome_accept_eq_ok_iff.mpr valid)⟩
    | node valid => exact ⟨_, Traced.outcome_bind_of_ok _ (outcome_accept_eq_ok_iff.mpr valid)⟩
    | edge valid => exact ⟨_, Traced.outcome_bind_of_ok _ (outcome_accept_eq_ok_iff.mpr valid)⟩
    | statement sql => exact ⟨_, rfl⟩
    | compiled made => exact ⟨_, Traced.outcome_bind_of_ok _ (mapError_eq_ok_iff.mpr made)⟩
    | recovered made => exact ⟨_, Traced.outcome_bind_of_ok _ (mapError_eq_ok_iff.mpr made)⟩
    | reloaded putAway valid =>
        exact ⟨_, (Traced.outcome_bind_of_ok _ (mapError_eq_ok_iff.mpr putAway)).trans
          (Traced.outcome_bind_of_ok _ (outcome_accept_eq_ok_iff.mpr valid))⟩
    | transformations made => exact ⟨_, Traced.outcome_bind_of_ok _ (mapError_eq_ok_iff.mpr made)⟩
    | reachable found =>
        exact ⟨_, (Traced.outcome_bind_of_ok _ (Traced.outcome_tellAll _)).trans
          (Traced.outcome_bind_of_ok _ (mapError_eq_ok_iff.mpr found))⟩

theorem Changes.next_eq {next : Session} (changes : session.Changes request next) :
    session.next request = next := by
  rcases exists_answer_iff.mpr changes with ⟨value, answered⟩
  rw [Session.next, answered]

/-- The session after a request is what the request makes of it, if it is answered, and the same
session if it fails. -/
theorem next_cases (session : Session) (request : Request) :
    ((∃ value, (session.reply request).outcome = .ok value) ∧
        session.Changes request (session.next request)) ∨
      ((∃ error, (session.reply request).outcome = .error error) ∧
        session.next request = session) := by
  rcases answered : (session.answer request).outcome with error | ⟨next, value⟩
  · refine Or.inr ⟨⟨error, Traced.outcome_bind_of_error _ answered⟩, ?_⟩
    rw [Session.next, answered]
  · have changes := exists_answer_iff.mp ⟨value, answered⟩
    refine Or.inl ⟨⟨value, Traced.outcome_bind_of_ok _ answered⟩, ?_⟩
    rwa [changes.next_eq]

/-- The requests that fail could as well not have been made: the others have the same replies and
leave the same session. -/
theorem exists_sublist_after (session : Session) (requests : List Request) :
    ∃ answered, answered.Sublist requests ∧ session.after answered = session.after requests ∧
      session.replies answered =
        (session.replies requests).filter fun reply => reply.outcome.isOk := by
  induction requests generalizing session with
  | nil => exact ⟨[], .slnil, rfl, rfl⟩
  | cons request rest ih =>
      rcases ih (session.next request) with ⟨answered, sublist, sameSession, sameReplies⟩
      rw [replies, List.filter_cons]
      rcases next_cases session request with ⟨⟨value, isReply⟩, -⟩ | ⟨⟨error, isReply⟩, unchanged⟩
      · refine ⟨request :: answered, sublist.cons_cons request, sameSession, ?_⟩
        rw [isReply, replies, sameReplies]
        rfl
      · rw [unchanged] at sameSession sameReplies
        refine ⟨answered, sublist.cons request, ?_, ?_⟩
        · rw [sameSession, after, after, List.foldl_cons, unchanged]
        · rw [isReply, unchanged, sameReplies]
          rfl

/-- What every session has: an alias that is an identifier, a position for each stage that recovery
produces, and free settings that can be written. -/
structure Sound (session : Session) : Prop where
  sourceAlias : Text.isIdentifier session.settings.sourceAlias.toList = true
  positions : ∀ kind ∈ StagePositions.recovered,
    (session.settings.stagePositions.position? kind).isSome = true
  named : session.graph.Named

theorem sound_empty : Sound {} where
  sourceAlias := by
    change Text.isIdentifier "source".toList = true
    decide +kernel
  positions := fun _ isRecovered => StagePositions.isSome_position?_default isRecovered
  named := fun _ member => nomatch member

/-- What is recovered has no free settings. -/
theorem named_of_recover {settings : Settings} {sql : String} {graph : Graph}
    (made : (recover settings sql).outcome = .ok graph) : graph.Named := by
  rcases table : Clause.table? sql.toList with _ | reference
  · obtain rfl := eq_empty_of_recover made table
    exact fun _ member => nomatch member
  · rcases exists_of_recover made table with ⟨conditions, grouped, rfl⟩
    intro node member
    rcases Graph.cases_of_mem_chain member with same | ⟨-, same⟩ | ⟨aggregate, same⟩ | same <;>
      rw [same] <;> trivial

/-- An answered request keeps a session sound. -/
theorem Sound.of_changes {next : Session} (sound : session.Sound)
    (changes : session.Changes request next) : next.Sound := by
  cases changes with
  | settings valid =>
      rcases Settings.wellFormed_of_read valid with ⟨sourceAlias, positions⟩
      exact ⟨sourceAlias, positions, sound.named⟩
  | graph valid => exact ⟨sound.sourceAlias, sound.positions, Graph.named_of_read valid⟩
  | node valid =>
      refine ⟨sound.sourceAlias, sound.positions, fun node member => ?_⟩
      rcases List.mem_append.mp member with old | new
      · exact sound.named node old
      · rw [List.mem_singleton.mp new]
        exact Node.named_of_read valid
  | recovered made => exact ⟨sound.sourceAlias, sound.positions, named_of_recover made⟩
  | reloaded putAway valid => exact ⟨sound.sourceAlias, sound.positions, Graph.named_of_read valid⟩
  | edge | statement | compiled => exact ⟨sound.sourceAlias, sound.positions, sound.named⟩
  | transformations | reachable => exact sound

theorem Sound.next (sound : session.Sound) (request : Request) : (session.next request).Sound := by
  rcases next_cases session request with ⟨-, changes⟩ | ⟨-, unchanged⟩
  · exact sound.of_changes changes
  · rwa [unchanged]

/-- Whatever is asked of a session, in whatever order, it is sound. -/
theorem sound_after (requests : List Request) : (after {} requests).Sound := by
  have kept {session : Session} (sound : session.Sound) (requests : List Request) :
      (session.after requests).Sound := by
    induction requests generalizing session with
    | nil => exact sound
    | cons request rest ih => exact ih (sound.next request)
  exact kept sound_empty requests

end Session

end SqlPipeline
