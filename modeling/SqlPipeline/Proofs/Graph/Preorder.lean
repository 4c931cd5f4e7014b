import Mathlib.Tactic.Common
import SqlPipeline.Proofs.Graph.Walk

/-!
# The recursive depth-first order

`Visits` describes a depth-first walk by recursion: an id met before is left out, and any other id
comes before what is below it, which comes before what was pending after it. The traversal with one
list of pending ids, `explore depthFirst`, runs exactly this walk (`visits_explore`). The pending
list of the traversal is the concatenation of what the suspended recursive calls still have to do,
and `explore_depthFirst_append` takes it apart again.

From a start, the walk visits exactly the ids that can be reached, each once (`nodup_preorder`,
`mem_preorder`).
-/

namespace SqlPipeline

open Relation

namespace GraphIndex

/-- A recursive walk over pending ids, which leaves out the ids met before, visits the given ids in
the given order. -/
inductive Visits (index : GraphIndex) : List String → List String → List String → Prop where
  | done (met : List String) : Visits index met [] []
  | skip {id : String} {met later order : List String} (old : id ∈ met)
      (rest : Visits index met later order) : Visits index met (id :: later) order
  | visit {id : String} {met later below after : List String} (new : id ∉ met)
      (inner : Visits index (id :: met) (index.successors id) below)
      (rest : Visits index (below ++ id :: met) later after) :
      Visits index met (id :: later) (id :: below ++ after)

namespace Visits

variable {index : GraphIndex} {met pending order : List String}

/-- There is only one such order. -/
theorem unique {other : List String} (first : index.Visits met pending order)
    (second : index.Visits met pending other) : order = other := by
  induction first generalizing other with
  | done met => cases second with
    | done => rfl
  | skip old _ ih => cases second with
    | skip _ rest => exact ih rest
    | visit new _ _ => exact absurd old new
  | visit new _ _ ihInner ihRest => cases second with
    | skip old _ => exact absurd old new
    | visit _ inner rest =>
        obtain rfl := ihInner inner
        obtain rfl := ihRest rest
        rfl

theorem not_mem_met (visits : index.Visits met pending order) : ∀ id ∈ order, id ∉ met := by
  induction visits with
  | done => simp
  | skip _ _ ih => exact ih
  | @visit id met _ below after new _ _ ihInner ihRest =>
      intro visited member
      simp only [List.cons_append, List.mem_cons, List.mem_append] at member
      rcases member with rfl | member | member
      · exact new
      · intro old
        exact ihInner visited member (List.mem_cons_of_mem _ old)
      · intro old
        exact ihRest visited member (by simp [old])

theorem nodup (visits : index.Visits met pending order) : order.Nodup := by
  induction visits with
  | done => exact List.nodup_nil
  | skip _ _ ih => exact ih
  | @visit id met _ below after new inner rest ihInner ihRest =>
      have notBelow : id ∉ below := fun member => inner.not_mem_met id member (by simp)
      have apart : ∀ other ∈ after, other ∉ below ++ id :: met := rest.not_mem_met
      rw [List.cons_append, List.nodup_cons, List.nodup_append]
      refine ⟨?_, ihInner, ihRest, ?_⟩
      · simp only [List.mem_append, not_or]
        exact ⟨notBelow, fun member => apart id member (by simp)⟩
      · rintro other memberBelow _ memberAfter rfl
        exact apart other memberAfter (by simp [memberBelow])

/-- What is visited can be reached from something pending. -/
theorem exists_walk (visits : index.Visits met pending order) :
    ∀ id ∈ order, ∃ first ∈ pending, ReflTransGen index.Follows first id := by
  induction visits with
  | done => simp
  | skip _ _ ih =>
      intro id member
      rcases ih id member with ⟨first, pending, walk⟩
      exact ⟨first, List.mem_cons_of_mem _ pending, walk⟩
  | @visit id met _ below after _ _ _ ihInner ihRest =>
      intro visited member
      simp only [List.cons_append, List.mem_cons, List.mem_append] at member
      rcases member with rfl | member | member
      · exact ⟨visited, by simp, ReflTransGen.refl⟩
      · rcases ihInner visited member with ⟨first, follows, walk⟩
        exact ⟨id, by simp, ReflTransGen.head follows walk⟩
      · rcases ihRest visited member with ⟨first, pending, walk⟩
        exact ⟨first, List.mem_cons_of_mem _ pending, walk⟩

/-- Everything pending is met in the end. -/
theorem mem_of_pending (visits : index.Visits met pending order) :
    ∀ id ∈ pending, id ∈ met ∨ id ∈ order := by
  induction visits with
  | done => simp
  | skip old _ ih =>
      intro id member
      rcases List.mem_cons.mp member with rfl | member
      · exact Or.inl old
      · exact ih id member
  | @visit id met _ below after _ _ _ _ ihRest =>
      intro other member
      rcases List.mem_cons.mp member with rfl | member
      · simp
      · have met := ihRest other member
        simp only [List.mem_append, List.mem_cons] at met ⊢
        tauto

/-- Whatever follows a visited id is met in the end. -/
theorem mem_of_follows (visits : index.Visits met pending order) :
    ∀ id ∈ order, ∀ next, index.Follows id next → next ∈ met ∨ next ∈ order := by
  induction visits with
  | done => simp
  | skip _ _ ih => exact ih
  | @visit id met _ below after _ inner rest ihInner ihRest =>
      intro visited member next follows
      simp only [List.cons_append, List.mem_cons, List.mem_append] at member
      have found : next ∈ id :: met ∨ next ∈ below ∨ next ∈ below ++ id :: met ∨ next ∈ after := by
        rcases member with rfl | member | member
        · exact (inner.mem_of_pending next follows).imp_right Or.inl
        · exact (ihInner visited member next follows).imp_right Or.inl
        · exact Or.inr (Or.inr (ihRest visited member next follows))
      simp only [List.cons_append, List.mem_append, List.mem_cons] at found ⊢
      tauto

end Visits

variable {index : GraphIndex}

theorem mem_explore {unmet pending : List String} {enqueue : List String → List String → List String}
    {id : String} (visited : id ∈ index.explore enqueue unmet pending) : id ∈ unmet := by
  induction unmet, pending using explore.induct index enqueue with
  | case1 => simp [explore] at visited
  | case2 unmet first later member ih =>
      rw [explore, if_pos member] at visited
      rcases List.mem_cons.mp visited with rfl | visited
      · exact member
      · exact (mem_removeId.mp (ih visited)).1
  | case3 unmet first later absent ih =>
      rw [explore, if_neg absent] at visited
      exact ih visited

theorem filter_removeId (test : String → Bool) (id : String) (ids : List String) :
    (removeId id ids).filter test = ids.filter fun other => test other && other != id :=
  List.filter_filter

/-- The ids that are not visited from the given pending ids. -/
def unmetAfter (index : GraphIndex) (unmet pending : List String) : List String :=
  unmet.filter fun id => id ∉ index.explore depthFirst unmet pending

/-- Pending ids are worked off from left to right, whatever stands behind them. -/
theorem explore_depthFirst_append (unmet pending behind : List String) :
    index.explore depthFirst unmet (pending ++ behind) =
      index.explore depthFirst unmet pending ++
        index.explore depthFirst (index.unmetAfter unmet pending) behind := by
  induction unmet, pending using explore.induct index depthFirst with
  | case1 unmet =>
      have nothing : index.unmetAfter unmet [] = unmet := by
        simp [unmetAfter, explore]
      rw [List.nil_append, nothing, explore, List.nil_append]
  | case2 unmet first later member ih =>
      have front : index.explore depthFirst unmet (first :: later) =
          first :: index.explore depthFirst (removeId first unmet)
            (depthFirst (index.successors first) later) := by
        rw [explore, if_pos member]
      have left : index.unmetAfter unmet (first :: later) =
          index.unmetAfter (removeId first unmet)
            (depthFirst (index.successors first) later) := by
        rw [unmetAfter, unmetAfter, filter_removeId, front]
        apply List.filter_congr
        intro id _
        rw [Bool.eq_iff_iff]
        simp only [decide_eq_true_eq, Bool.and_eq_true, bne_iff_ne, List.mem_cons, not_or]
        exact and_comm
      rw [List.cons_append, explore, if_pos member, front, left, List.cons_append, ← ih]
      simp [depthFirst, List.append_assoc]
  | case3 unmet first later absent ih =>
      have front : index.explore depthFirst unmet (first :: later) =
          index.explore depthFirst unmet later := by
        rw [explore, if_neg absent]
      have left : index.unmetAfter unmet (first :: later) = index.unmetAfter unmet later := by
        simp only [unmetAfter, front]
      rw [List.cons_append, explore, if_neg absent, front, left, ih]

/-- The ids not met yet are exactly those of the nodes that are not among the ids met. -/
def Complement (index : GraphIndex) (met unmet : List String) : Prop :=
  ∀ id, id ∈ unmet ↔ id ∈ index.ids ∧ id ∉ met

theorem Complement.removeId {met unmet : List String} (complement : index.Complement met unmet)
    (id : String) : index.Complement (id :: met) (removeId id unmet) := by
  intro other
  rw [mem_removeId, complement other, List.mem_cons, not_or]
  tauto

theorem Complement.unmetAfter {met unmet : List String} (complement : index.Complement met unmet)
    (pending : List String) :
    index.Complement (index.explore depthFirst unmet pending ++ met)
      (index.unmetAfter unmet pending) := by
  intro other
  simp only [GraphIndex.unmetAfter, List.mem_filter, decide_eq_true_eq, List.mem_append, not_or]
  rw [complement other]
  tauto

/-- The traversal runs the recursive walk. -/
theorem visits_explore (closed : index.Closed) {met unmet pending : List String}
    (complement : index.Complement met unmet) (known : ∀ id ∈ pending, id ∈ index.ids) :
    index.Visits met pending (index.explore depthFirst unmet pending) := by
  match pending with
  | [] =>
      rw [explore]
      exact .done met
  | id :: later =>
      have knownLater : ∀ other ∈ later, other ∈ index.ids := fun other member =>
        known other (List.mem_cons_of_mem _ member)
      by_cases member : id ∈ unmet
      · have inner := visits_explore closed (complement.removeId id) (closed id)
        have rest := visits_explore closed
          ((complement.removeId id).unmetAfter (index.successors id)) knownLater
        rw [explore, if_pos member, depthFirst, explore_depthFirst_append]
        exact .visit ((complement id).mp member).2 inner rest
      · have old : id ∈ met := by
          by_contra new
          exact member ((complement id).mpr ⟨known id (by simp), new⟩)
        rw [explore, if_neg member]
        exact .skip old (visits_explore closed complement knownLater)
termination_by (unmet.length, pending.length)
decreasing_by
  · exact Prod.Lex.left _ _ (length_removeId_lt member)
  · exact Prod.Lex.left _ _ (Nat.lt_of_le_of_lt (List.length_filter_le _ _)
      (length_removeId_lt member))
  · exact Prod.Lex.right _ (by simp)

theorem complement_start (index : GraphIndex) (start : String) :
    index.Complement [start] (removeId start index.ids) := by
  intro id
  rw [mem_removeId, List.mem_singleton]

theorem visits_preorder (closed : index.Closed) (start : String) :
    index.Visits [start] (index.successors start) (index.preorder start) :=
  visits_explore closed (complement_start index start) (closed start)

theorem nodup_preorder (closed : index.Closed) (start : String) : (index.preorder start).Nodup :=
  (visits_preorder closed start).nodup

/-- The order from a start holds what can be reached, without the start. -/
theorem mem_preorder (closed : index.Closed) {start id : String} :
    id ∈ index.preorder start ↔ ReflTransGen index.Follows start id ∧ id ≠ start := by
  have visits := visits_preorder closed start
  constructor
  · intro member
    rcases visits.exists_walk id member with ⟨first, follows, walk⟩
    refine ⟨ReflTransGen.head follows walk, ?_⟩
    simpa using visits.not_mem_met id member
  · rintro ⟨walk, other⟩
    have met : id = start ∨ id ∈ index.preorder start := by
      clear other
      induction walk with
      | refl => exact Or.inl rfl
      | tail _ follows ih =>
          -- what follows the start was pending, what follows a visited id is met
          rcases ih with rfl | member
          · simpa using visits.mem_of_pending _ follows
          · simpa using visits.mem_of_follows _ member _ follows
    exact met.resolve_left other

theorem mem_ids_of_mem_preorder {start id : String} (member : id ∈ index.preorder start) :
    id ∈ index.ids :=
  (mem_removeId.mp (mem_explore member)).1

end GraphIndex

end SqlPipeline
