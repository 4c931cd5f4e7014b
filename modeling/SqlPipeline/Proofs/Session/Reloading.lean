import SqlPipeline.Proofs.Session.Requests

/-!
# Reloading

A graph that is put away keeps its kinds, the keys of its free settings and all else but their
numbers that storage has no form for, and what came back once comes back again as it is. So a graph
whose payloads are of their kinds is reloaded unless it is nested too deeply (`reload_cases`), and
reloading it once more changes nothing (`reload_reload`).
-/

namespace SqlPipeline

theorem Value.stored_zero (value : Value) : value.stored 0 = .error {} := by
  cases value <;> simp [Value.stored]

mutual

/-- A document that came back comes back again as it is. -/
theorem Value.stored_of_stored {levels : Nat} {value back : Value}
    (putAway : value.stored levels = .ok back) : back.stored levels = .ok back := by
  by_cases full : levels = 0
  · rw [full, Value.stored_zero] at putAway
    cases putAway
  · cases value with
    | list items =>
        rw [Value.stored, if_neg full] at putAway
        rcases inner : storedItems (levels - 1) items with tooDeep | kept <;>
          rw [inner] at putAway <;> cases putAway
        rw [Value.stored, if_neg full, storedItems_of_storedItems inner]
        rfl
    | map entries =>
        rw [Value.stored, if_neg full] at putAway
        rcases inner : storedEntries (levels - 1) entries with tooDeep | kept <;>
          rw [inner] at putAway <;> cases putAway
        rw [Value.stored, if_neg full, storedEntries_of_storedEntries inner]
        rfl
    | float number =>
        rw [Value.stored, if_neg full] at putAway
        cases putAway
        by_cases finite : number.isFinite = true <;> simp [Value.stored, finite, full]
    | _ =>
        simp only [Value.stored, if_neg full] at putAway
        cases putAway
        simp only [Value.stored, if_neg full]

theorem storedItems_of_storedItems {levels : Nat} {items back : List Value}
    (putAway : storedItems levels items = .ok back) : storedItems levels back = .ok back := by
  cases items with
  | nil =>
      cases putAway
      rfl
  | cons item items =>
      rcases bind_eq_ok_iff.mp putAway with ⟨first, isFirst, onward⟩
      rcases bind_eq_ok_iff.mp onward with ⟨others, areOthers, last⟩
      cases last
      rw [storedItems, Value.stored_of_stored isFirst, storedItems_of_storedItems areOthers]
      rfl

theorem storedEntries_of_storedEntries {levels : Nat} {entries back : List (Key × Value)}
    (putAway : storedEntries levels entries = .ok back) :
    storedEntries levels back = .ok back := by
  cases entries with
  | nil =>
      cases putAway
      rfl
  | cons entry entries =>
      rcases entry with ⟨key, value⟩
      rcases bind_eq_ok_iff.mp putAway with ⟨first, isFirst, onward⟩
      rcases bind_eq_ok_iff.mp onward with ⟨others, areOthers, last⟩
      cases last
      rw [storedEntries, Value.stored_of_stored isFirst, storedEntries_of_storedEntries areOthers]
      rfl

end

/-- Entries come back under their keys. -/
theorem keys_of_storedEntries {levels : Nat} {entries back : List (Key × Value)}
    (putAway : storedEntries levels entries = .ok back) :
    back.map Prod.fst = entries.map Prod.fst := by
  induction entries generalizing back with
  | nil =>
      cases putAway
      rfl
  | cons entry entries ih =>
      rcases entry with ⟨key, value⟩
      rcases bind_eq_ok_iff.mp putAway with ⟨first, -, onward⟩
      rcases bind_eq_ok_iff.mp onward with ⟨others, areOthers, last⟩
      cases last
      rw [List.map_cons, List.map_cons, ih areOthers]

theorem Mapping.Named.of_keys {entries others : Mapping} (named : entries.Named)
    (sameKeys : others.map Prod.fst = entries.map Prod.fst) : others.Named where
  textual := by
    intro entry member
    rcases List.mem_map.mp (sameKeys ▸ List.mem_map_of_mem member) with ⟨old, inEntries, same⟩
    rw [← same]
    exact named.textual old inEntries
  distinct := by
    have identities (list : Mapping) :
        Mapping.identities list = (list.map Prod.fst).map Key.identity := by
      rw [Mapping.identities, List.map_map]
      rfl
    have distinct := named.distinct
    rwa [Mapping.Distinct, identities, ← sameKeys, ← identities] at distinct

section Lists

variable {ε α β : Type} {step : α → Except ε β}

/-- Each result of a run over a list is the result for an item. -/
theorem exists_of_mem_mapM {items : List α} {results : List β} (run : items.mapM step = .ok results)
    {result : β} (member : result ∈ results) : ∃ item ∈ items, step item = .ok result := by
  induction items generalizing results with
  | nil =>
      cases run
      cases member
  | cons item rest ih =>
      rw [List.mapM_cons] at run
      rcases bind_eq_ok_iff.mp run with ⟨first, isFirst, onward⟩
      rcases bind_eq_ok_iff.mp onward with ⟨others, areOthers, last⟩
      cases last
      rcases List.mem_cons.mp member with rfl | behind
      · exact ⟨item, List.mem_cons_self, isFirst⟩
      · rcases ih areOthers behind with ⟨other, inRest, isResult⟩
        exact ⟨other, List.mem_cons_of_mem _ inRest, isResult⟩

/-- A run over a list gives back the list when each step gives back its item. -/
theorem mapM_eq_self {step : α → Except ε α} {items : List α}
    (same : ∀ item ∈ items, step item = .ok item) : items.mapM step = .ok items := by
  induction items with
  | nil => rfl
  | cons item rest ih =>
      rw [List.mapM_cons, same item List.mem_cons_self,
        ih fun other member => same other (List.mem_cons_of_mem _ member)]
      rfl

end Lists

/-- A payload came back: it is of the same kind, its free settings have the same keys, and it comes
back again as it is. -/
structure Held.CameBack (held back : Held) : Prop where
  kind : back.kind = held.kind
  named : held.Named → back.Named
  again : back.stored = .ok back

theorem Held.cameBack_of_stored {held back : Held} (putAway : held.stored = .ok back) :
    held.CameBack back := by
  rcases held with ⟨kind, payload⟩
  cases kind with
  | transform =>
      rcases bind_eq_ok_iff.mp putAway with ⟨transforms, areTransforms, last⟩
      cases last
      -- where each transform comes from
      have origin : ∀ transform ∈ transforms, ∃ old ∈ payload.transforms,
          old.config.stored = .ok transform.config := by
        intro transform member
        rcases exists_of_mem_mapM areTransforms member with ⟨old, inPayload, isTransform⟩
        rcases bind_eq_ok_iff.mp isTransform with ⟨config, isConfig, last⟩
        cases last
        exact ⟨old, inPayload, isConfig⟩
      refine ⟨rfl, fun named transform member => ?_, ?_⟩
      · rcases origin transform member with ⟨old, inPayload, isConfig⟩
        exact (named old inPayload).of_keys (keys_of_storedEntries isConfig)
      · rw [Held.stored, mapM_eq_self]
        · rfl
        · intro transform member
          rcases origin transform member with ⟨old, -, isConfig⟩
          rw [Mapping.stored, storedEntries_of_storedEntries isConfig]
          rfl
  | _ =>
      cases putAway
      exact ⟨rfl, id, rfl⟩

theorem Stage.cameBack_of_stored {stage back : Stage} (putAway : stage.stored = .ok back) :
    back.kind = stage.kind ∧ stage.held.CameBack back.held := by
  rcases isHeld : stage.held.stored with tooDeep | held
  · rw [Stage.stored, isHeld] at putAway
    cases putAway
  · rw [Stage.stored, isHeld] at putAway
    cases putAway
    rw [held_holding]
    exact ⟨kind_holding _ _, Held.cameBack_of_stored isHeld⟩

theorem Stage.stored_eq_self {stage : Stage} (again : stage.held.stored = .ok stage.held) :
    stage.stored = .ok stage := by
  rw [Stage.stored, again]
  exact congrArg Except.ok stage.holding_held

namespace Graph

/-- The payloads of a graph come back as they are. -/
def Storable (graph : Graph) : Prop :=
  ∀ node ∈ graph.nodes, node.stage.held.stored = .ok node.stage.held

/-- A graph came back: its free settings can still be written, its payloads are still of their
kinds, and they come back again as they are. -/
structure CameBack (graph back : Graph) : Prop where
  named : graph.Named → back.Named
  fits : (∀ node ∈ graph.nodes, node.stage.Fits) → ∀ node ∈ back.nodes, node.stage.Fits
  storable : back.Storable

theorem cameBack_of_stored {graph back : Graph} (putAway : graph.stored = .ok back) :
    graph.CameBack back := by
  rcases bind_eq_ok_iff.mp putAway with ⟨nodes, areNodes, last⟩
  cases last
  have origin : ∀ node ∈ nodes, ∃ old ∈ graph.nodes,
      node.stage.kind = old.stage.kind ∧ old.stage.held.CameBack node.stage.held := by
    intro node member
    rcases exists_of_mem_mapM areNodes member with ⟨old, inGraph, isNode⟩
    rcases bind_eq_ok_iff.mp isNode with ⟨stage, isStage, last⟩
    cases last
    exact ⟨old, inGraph, Stage.cameBack_of_stored isStage⟩
  refine ⟨fun named node member => ?_, fun fits node member => ?_, fun node member => ?_⟩ <;>
    rcases origin node member with ⟨old, inGraph, sameKind, cameBack⟩
  · exact cameBack.named (named old inGraph)
  · rw [Stage.Fits, cameBack.kind, sameKind]
    exact fits old inGraph
  · exact cameBack.again

theorem Storable.settled {graph : Graph} (storable : graph.Storable) : graph.settled.Storable :=
  List.forall_mem_map.mpr storable

theorem Storable.stored_eq {graph : Graph} (storable : graph.Storable) :
    graph.stored = .ok graph := by
  rw [stored, mapM_eq_self]
  · rfl
  · intro node member
    rw [Stage.stored_eq_self (storable node member)]
    rfl

end Graph

namespace Session

variable {session : Session}

/-- A graph that can be put away is reloaded: all that changes are coordinates that were left alone
and what storage has no form for. -/
theorem reloaded_of_stored (sound : session.Sound)
    (fits : ∀ node ∈ session.graph.nodes, node.stage.Fits) {stored : Graph}
    (putAway : session.graph.stored = .ok stored) :
    session.Changes .reload { session with graph := stored.settled } := by
  have cameBack := Graph.cameBack_of_stored putAway
  exact .reloaded putAway
    (Graph.read_dump_of_fits {} (cameBack.named sound.named) (cameBack.fits fits))

/-- A graph whose payloads are of their kinds is reloaded unless it is nested too deeply. -/
theorem reload_cases (sound : session.Sound)
    (fits : ∀ node ∈ session.graph.nodes, node.stage.Fits) :
    (∃ stored, session.graph.stored = .ok stored ∧
        session.next .reload = { session with graph := stored.settled }) ∨
      (session.reply .reload).outcome = .error (.tooDeep {}) ∧ session.next .reload = session := by
  rcases putAway : session.graph.stored with tooDeep | stored
  · have failed : (session.answer .reload).outcome = .error (.tooDeep {}) := by
      rw [answer, putAway]
      rfl
    refine Or.inr ⟨Traced.outcome_bind_of_error _ failed, ?_⟩
    rw [next, failed]
  · exact Or.inl ⟨stored, rfl, (reloaded_of_stored sound fits putAway).next_eq⟩

/-- Reloading once more changes nothing. -/
theorem reload_reload (sound : session.Sound)
    (fits : ∀ node ∈ session.graph.nodes, node.stage.Fits) :
    (session.next .reload).next .reload = session.next .reload := by
  rcases reload_cases sound fits with ⟨stored, putAway, reloaded⟩ | ⟨-, unchanged⟩
  · have cameBack := Graph.cameBack_of_stored putAway
    have soundAfter := sound.next .reload
    rw [reloaded] at soundAfter ⊢
    have again := reloaded_of_stored soundAfter
      (Graph.fits_settled_iff.mpr (cameBack.fits fits)) cameBack.storable.settled.stored_eq
    rw [again.next_eq, Graph.settled_settled]
  · rw [unchanged, unchanged]

end Session

end SqlPipeline
