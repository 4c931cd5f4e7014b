import SqlPipeline.Proofs.Graph.Preorder

/-!
# What a traversal finds

A traversal may join successors to its pending ids in any way that loses none and brings in no
other id (`Fair`). It then finds what can be reached from its pending ids by way of unmet ids, and
nothing else. Both orders in use are fair, so the ids that are reported as reachable are those that
can be reached (`mem_reachable`), which are those of the depth-first order.
-/

namespace SqlPipeline

open Relation

namespace GraphIndex

/-- A way of joining successors to pending ids that loses none and brings in no other id. -/
def Fair (enqueue : List String → List String → List String) : Prop :=
  ∀ successors pending id, id ∈ enqueue successors pending ↔ id ∈ successors ∨ id ∈ pending

theorem fair_breadthFirst : Fair breadthFirst := by
  intro successors pending id
  rw [breadthFirst, List.mem_append, or_comm]

variable {index : GraphIndex} {enqueue : List String → List String → List String}
  {unmet pending : List String}

/-- What is found can be reached from something pending. -/
theorem exists_walk_of_mem_explore (fair : Fair enqueue) {id : String}
    (found : id ∈ index.explore enqueue unmet pending) :
    ∃ first ∈ pending, ReflTransGen index.Follows first id := by
  induction unmet, pending using explore.induct index enqueue with
  | case1 => simp [explore] at found
  | case2 unmet first later new ih =>
      rw [explore, if_pos new] at found
      rcases List.mem_cons.mp found with rfl | found
      · exact ⟨id, List.mem_cons_self, ReflTransGen.refl⟩
      · rcases ih found with ⟨start, queued, walk⟩
        rcases (fair _ _ start).mp queued with follows | later
        · exact ⟨first, List.mem_cons_self, ReflTransGen.head follows walk⟩
        · exact ⟨start, List.mem_cons_of_mem _ later, walk⟩
  | case3 unmet first later old ih =>
      rw [explore, if_neg old] at found
      rcases ih found with ⟨start, queued, walk⟩
      exact ⟨start, List.mem_cons_of_mem _ queued, walk⟩

/-- Whatever is pending and unmet is found. -/
theorem mem_explore_of_pending (fair : Fair enqueue) {id : String} (queued : id ∈ pending)
    (isUnmet : id ∈ unmet) : id ∈ index.explore enqueue unmet pending := by
  induction unmet, pending using explore.induct index enqueue with
  | case1 => cases queued
  | case2 unmet first later new ih =>
      rw [explore, if_pos new]
      by_cases same : id = first
      · rw [same]
        exact List.mem_cons_self
      · have behind : id ∈ later := (List.mem_cons.mp queued).resolve_left same
        exact List.mem_cons_of_mem _
          (ih ((fair _ _ id).mpr (Or.inr behind)) (mem_removeId.mpr ⟨isUnmet, same⟩))
  | case3 unmet first later old ih =>
      rw [explore, if_neg old]
      rcases List.mem_cons.mp queued with rfl | behind
      · exact absurd isUnmet old
      · exact ih behind isUnmet

/-- Whatever follows what is found, and was unmet, is found. -/
theorem mem_explore_of_follows (fair : Fair enqueue) {id next : String}
    (found : id ∈ index.explore enqueue unmet pending) (follows : index.Follows id next)
    (isUnmet : next ∈ unmet) : next ∈ index.explore enqueue unmet pending := by
  induction unmet, pending using explore.induct index enqueue with
  | case1 => simp [explore] at found
  | case2 unmet first later new ih =>
      rw [explore, if_pos new] at found ⊢
      by_cases same : next = first
      · rw [same]
        exact List.mem_cons_self
      · have stillUnmet : next ∈ removeId first unmet := mem_removeId.mpr ⟨isUnmet, same⟩
        apply List.mem_cons_of_mem
        rcases List.mem_cons.mp found with rfl | behind
        · exact mem_explore_of_pending fair ((fair _ _ next).mpr (Or.inl follows)) stillUnmet
        · exact ih behind stillUnmet
  | case3 unmet first later old ih =>
      rw [explore, if_neg old] at found ⊢
      exact ih found isUnmet

/-- The ids reported as reachable are those at the ends of walks, but for the start. -/
theorem mem_reachable (closed : index.Closed) {start id : String} :
    id ∈ index.reachable start ↔ ReflTransGen index.Follows start id ∧ id ≠ start := by
  rw [reachable, List.mem_mergeSort, mem_removeId, and_congr_left_iff]
  intro other
  constructor
  · intro found
    rcases exists_walk_of_mem_explore fair_breadthFirst found with ⟨first, follows, walk⟩
    exact ReflTransGen.head follows walk
  · intro walk
    rcases ReflTransGen.cases_head walk with same | ⟨first, follows, rest⟩
    · exact absurd same.symm other
    · clear other walk
      induction rest with
      | refl => exact mem_explore_of_pending fair_breadthFirst follows (closed _ _ follows)
      | tail _ next ih => exact mem_explore_of_follows fair_breadthFirst ih next (closed _ _ next)

end GraphIndex

end SqlPipeline
