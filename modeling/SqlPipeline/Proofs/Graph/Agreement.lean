import SqlPipeline.Proofs.Graph.CycleSearch
import SqlPipeline.Proofs.Graph.Preorder

/-!
# Searches only see what can be reached

Two indices agree below a start when every id that can be reached from it has the same successors
in both. What else the indices hold is different in general, and so are the ids that the searches
start with as unmet. On reachable ids they differ in nothing, though, and a search never asks about
another id: the depth-first order and the cycle that is found are the same
(`preorder_eq_of_agreesBelow`, `cycle?_eq_of_agreesBelow`).
-/

namespace SqlPipeline

open Relation

namespace GraphIndex

/-- Whatever can be reached from the start in the first index has the same successors in both. -/
def AgreesBelow (index other : GraphIndex) (start : String) : Prop :=
  ∀ id, ReflTransGen index.Follows start id → index.successors id = other.successors id

variable {index other : GraphIndex} {start : String}

/-- A walk that only visits ids with the same successors is a walk of both. -/
theorem Visits.transfer {met pending order : List String} (visits : index.Visits met pending order)
    (same : ∀ id ∈ order, index.successors id = other.successors id) :
    other.Visits met pending order := by
  induction visits with
  | done met => exact .done met
  | skip old _ ih => exact .skip old (ih same)
  | @visit id met _ below after new _ _ ihInner ihRest =>
      have inner := ihInner fun visited member => same visited (by simp [member])
      rw [same id (by simp)] at inner
      exact .visit new inner (ihRest fun visited member => same visited (by simp [member]))

/-- The order from a start is the same in indices that agree below it. -/
theorem preorder_eq_of_agreesBelow (closed : index.Closed) (otherClosed : other.Closed)
    (agrees : index.AgreesBelow other start) : index.preorder start = other.preorder start := by
  have visits : other.Visits [start] (index.successors start) (index.preorder start) :=
    (visits_preorder closed start).transfer fun id member =>
      agrees id ((mem_preorder closed).mp member).1
  rw [agrees start ReflTransGen.refl] at visits
  exact visits.unique (visits_preorder otherClosed start)

/-- Everything that is still to be tried on a way can be reached. -/
def TriesReachable (index : GraphIndex) (start : String) (way : List Frame) : Prop :=
  ∀ frame ∈ way, ∀ next ∈ frame.untried, ReflTransGen index.Follows start next

/-- The same reachable ids are unmet. -/
def SameUnmet (index : GraphIndex) (start : String) (unmet otherUnmet : List String) : Prop :=
  ∀ id, ReflTransGen index.Follows start id → (id ∈ unmet ↔ id ∈ otherUnmet)

theorem TriesReachable.next {id next : String} {untried : List String} {before : List Frame}
    (tries : index.TriesReachable start (⟨id, next :: untried⟩ :: before)) :
    ReflTransGen index.Follows start next :=
  tries _ List.mem_cons_self next List.mem_cons_self

theorem TriesReachable.pass {id next : String} {untried : List String} {before : List Frame}
    (tries : index.TriesReachable start (⟨id, next :: untried⟩ :: before)) :
    index.TriesReachable start (⟨id, untried⟩ :: before) := by
  intro frame member tried queued
  rcases List.mem_cons.mp member with rfl | earlier
  · exact tries _ List.mem_cons_self tried (List.mem_cons_of_mem _ queued)
  · exact tries frame (List.mem_cons_of_mem _ earlier) tried queued

theorem TriesReachable.enter {next : String} {way : List Frame}
    (tries : index.TriesReachable start way) (reached : ReflTransGen index.Follows start next) :
    index.TriesReachable start (⟨next, index.successors next⟩ :: way) := by
  intro frame member tried queued
  rcases List.mem_cons.mp member with rfl | earlier
  · exact ReflTransGen.tail reached queued
  · exact tries frame earlier tried queued

theorem SameUnmet.removeId {unmet otherUnmet : List String}
    (same : index.SameUnmet start unmet otherUnmet) (id : String) :
    index.SameUnmet start (removeId id unmet) (removeId id otherUnmet) := by
  intro tried reached
  rw [mem_removeId, mem_removeId, same tried reached]

/-- Two searches on the same way go on alike when they differ in nothing that can be reached. -/
theorem searchCycle_eq_of_agreesBelow (agrees : index.AgreesBelow other start)
    {unmet otherUnmet : List String} {way : List Frame}
    (same : index.SameUnmet start unmet otherUnmet) (tries : index.TriesReachable start way) :
    index.searchCycle unmet way = other.searchCycle otherUnmet way := by
  revert otherUnmet
  induction unmet, way using searchCycle.induct index with
  | case1 =>
      intro otherUnmet same
      rw [searchCycle, searchCycle]
  | case2 unmet id before ih =>
      intro otherUnmet same
      rw [searchCycle, searchCycle]
      exact ih (fun frame member => tries frame (List.mem_cons_of_mem _ member)) same
  | case3 unmet id next untried before here back =>
      intro otherUnmet same
      rw [searchCycle, if_pos back, searchCycle, if_pos back]
  | case4 unmet id next untried before here notBack new ih =>
      intro otherUnmet same
      have reached := tries.next
      have otherNew : next ∈ otherUnmet := (same next reached).mp new
      rw [searchCycle, if_neg notBack, if_pos new, searchCycle, if_neg notBack, if_pos otherNew,
        ← agrees next reached]
      exact ih (tries.pass.enter reached) (same.removeId next)
  | case5 unmet id next untried before here notBack old ih =>
      intro otherUnmet same
      have otherOld : next ∉ otherUnmet := fun member => old ((same next tries.next).mpr member)
      rw [searchCycle, if_neg notBack, if_neg old, searchCycle, if_neg notBack, if_neg otherOld]
      exact ih tries.pass same

theorem AgreesBelow.mem_ids_iff (closed : index.Closed) (otherClosed : other.Closed)
    (agrees : index.AgreesBelow other start) {id : String}
    (reached : ReflTransGen index.Follows start id) (further : id ≠ start) :
    id ∈ index.ids ∧ id ∈ other.ids := by
  rcases ReflTransGen.cases_tail reached with same | ⟨last, walk, follows⟩
  · exact absurd same further
  · refine ⟨closed last id follows, otherClosed last id ?_⟩
    rw [Follows, ← agrees last walk]
    exact follows

/-- The cycle that is found below a start is the same in indices that agree below it. -/
theorem cycle?_eq_of_agreesBelow (closed : index.Closed) (otherClosed : other.Closed)
    (agrees : index.AgreesBelow other start) : index.cycle? start = other.cycle? start := by
  have same : index.SameUnmet start (removeId start index.ids) (removeId start other.ids) := by
    intro id reached
    rw [mem_removeId, mem_removeId, and_congr_left_iff]
    intro further
    have known := agrees.mem_ids_iff closed otherClosed reached further
    exact iff_of_true known.1 known.2
  have tries : index.TriesReachable start [⟨start, index.successors start⟩] := by
    intro frame member next follows
    obtain rfl := List.mem_singleton.mp member
    exact ReflTransGen.single follows
  rw [cycle?, cycle?, ← agrees start ReflTransGen.refl]
  exact searchCycle_eq_of_agreesBelow agrees same tries

end GraphIndex

end SqlPipeline
