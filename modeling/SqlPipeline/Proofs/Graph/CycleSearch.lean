import Mathlib.Tactic.Common
import SqlPipeline.Proofs.Graph.Walk

/-!
# The search for a cycle is exact

The search holds a way from its start to where it stands. On a `Way` each place follows the one
before it, and what is still untried at a place follows that place. So an edge back onto the way
closes a cycle.

For the converse, ids that were met and left again are *settled*: every walk below them ends. A
place is left when nothing is untried there, and by then each of its successors has been settled, so
the place is settled too. When the way is empty, the start itself is settled, and there is no cycle
below it.

`Searching` collects what holds between two steps. Each step of the search has one lemma that it
keeps `Searching`: leaving a place, entering a new one, and passing over an id met before.
-/

namespace SqlPipeline

open Relation

namespace GraphIndex

/-- A way from the start, given from its end. -/
inductive Way (index : GraphIndex) (start : String) : List Frame → Prop where
  | start {untried : List String} (follow : ∀ next ∈ untried, index.Follows start next) :
      Way index start [⟨start, untried⟩]
  | step {id : String} {untried : List String} {last : Frame} {before : List Frame}
      (way : Way index start (last :: before)) (follows : index.Follows last.id id)
      (follow : ∀ next ∈ untried, index.Follows id next) :
      Way index start (⟨id, untried⟩ :: last :: before)

namespace Way

variable {index : GraphIndex} {start : String} {last : Frame} {before : List Frame}

theorem follow (way : index.Way start (last :: before)) :
    ∀ next ∈ last.untried, index.Follows last.id next := by
  cases way with
  | start follow => exact follow
  | step _ _ follow => exact follow

theorem dropLast (way : index.Way start (last :: before)) :
    before = [] ∨ index.Way start before := by
  cases way with
  | start _ => exact Or.inl rfl
  | step way _ _ => exact Or.inr way

/-- Fewer untried successors leave a way a way. -/
theorem retry {untried : List String} (way : index.Way start (last :: before))
    (fewer : ∀ next ∈ untried, next ∈ last.untried) :
    index.Way start (⟨last.id, untried⟩ :: before) := by
  cases way with
  | start follow => exact .start fun next member => follow next (fewer next member)
  | step way follows follow =>
      exact .step way follows fun next member => follow next (fewer next member)

theorem walk_to_end (way : index.Way start (last :: before)) :
    ∀ id ∈ (last :: before).map Frame.id, ReflTransGen index.Follows id last.id := by
  induction before generalizing last with
  | nil =>
      intro id member
      obtain rfl : id = last.id := by simpa using member
      exact ReflTransGen.refl
  | cons frame before ih =>
      intro id member
      cases way with
      | step way follows _ =>
          rcases List.mem_cons.mp member with rfl | member
          · exact ReflTransGen.refl
          · exact ReflTransGen.tail (ih way id member) follows

theorem walk_from_start (way : index.Way start (last :: before)) :
    ReflTransGen index.Follows start last.id := by
  induction before generalizing last with
  | nil => cases way with
    | start _ => exact ReflTransGen.refl
  | cons frame before ih => cases way with
    | step way follows _ => exact ReflTransGen.tail (ih way) follows

/-- An edge back onto the way closes a cycle. -/
theorem cycleBelow_of_mem {next : String} (way : index.Way start (last :: before))
    (follows : index.Follows last.id next) (back : next ∈ (last :: before).map Frame.id) :
    index.CycleBelow start :=
  ⟨last.id, way.walk_from_start, TransGen.head' follows (way.walk_to_end next back)⟩

end Way

variable {index : GraphIndex}

/-- At each place of a way, every successor is untried, settled, or the next place of the way. The
first argument is the place after the ones given. -/
def Tried (index : GraphIndex) : Option String → List Frame → Prop
  | _, [] => True
  | after, frame :: before =>
      (∀ next, index.Follows frame.id next →
        next ∈ frame.untried ∨ index.EndsBelow next ∨ after = some next) ∧
      Tried index (some frame.id) before

/-- Every id of a node is unmet, on the way, or settled. -/
def Sorted (index : GraphIndex) (unmet : List String) (way : List Frame) : Prop :=
  ∀ id ∈ index.ids, id ∈ unmet ∨ id ∈ way.map Frame.id ∨ index.EndsBelow id

/-- A place at which nothing is untried is settled. -/
theorem Tried.endsBelow {id : String} {before : List Frame}
    (tried : index.Tried none (⟨id, []⟩ :: before)) : index.EndsBelow id := by
  apply Acc.intro id
  intro next follows
  rcases tried.1 next follows with untried | settled | after
  · cases untried
  · exact settled
  · cases after

/-- When the last place is settled, the place before it has nothing after it any more. -/
theorem Tried.settle {id : String} {before : List Frame} (settled : index.EndsBelow id)
    (tried : index.Tried (some id) before) : index.Tried none before := by
  cases before with
  | nil => trivial
  | cons frame before =>
      refine ⟨fun next follows => ?_, tried.2⟩
      rcases tried.1 next follows with untried | ends | after
      · exact Or.inl untried
      · exact Or.inr (Or.inl ends)
      · obtain rfl := Option.some.inj after
        exact Or.inr (Or.inl settled)

/-- The last place of a way with its next successor taken away, which is settled or comes next. -/
theorem Tried.next {id next : String} {untried : List String} {before : List Frame}
    {after : Option String} (tried : index.Tried none (⟨id, next :: untried⟩ :: before))
    (handled : index.EndsBelow next ∨ after = some next) :
    index.Tried after (⟨id, untried⟩ :: before) := by
  refine ⟨fun other follows => ?_, tried.2⟩
  rcases tried.1 other follows with member | settled | impossible
  · rcases List.mem_cons.mp member with rfl | member
    · exact Or.inr handled
    · exact Or.inl member
  · exact Or.inr (Or.inl settled)
  · cases impossible

/-- What holds between two steps of a search. -/
structure Searching (index : GraphIndex) (start : String) (unmet : List String)
    (way : List Frame) : Prop where
  isWay : way = [] ∨ index.Way start way
  tried : index.Tried none way
  sorted : index.Sorted unmet way

namespace Searching

variable {start id next : String} {unmet untried : List String} {before : List Frame}

theorem init (index : GraphIndex) (start : String) :
    index.Searching start (removeId start index.ids) [⟨start, index.successors start⟩] where
  isWay := Or.inr (.start fun _ follows => follows)
  tried := ⟨fun _ follows => Or.inl follows, trivial⟩
  sorted := by
    intro id known
    by_cases same : id = start
    · exact Or.inr (Or.inl (by simp [same]))
    · exact Or.inl (mem_removeId.mpr ⟨known, same⟩)

theorem way {last : Frame} (searching : index.Searching start unmet (last :: before)) :
    index.Way start (last :: before) :=
  searching.isWay.resolve_left (by simp)

theorem follows (searching : index.Searching start unmet (⟨id, next :: untried⟩ :: before)) :
    index.Follows id next :=
  searching.way.follow next (by simp)

theorem leave (searching : index.Searching start unmet (⟨id, []⟩ :: before)) :
    index.Searching start unmet before where
  isWay := searching.way.dropLast
  tried := searching.tried.2.settle searching.tried.endsBelow
  sorted := by
    intro other known
    rcases searching.sorted other known with new | onWay | ends
    · exact Or.inl new
    · rcases List.mem_cons.mp onWay with rfl | onWay
      · exact Or.inr (Or.inr searching.tried.endsBelow)
      · exact Or.inr (Or.inl onWay)
    · exact Or.inr (Or.inr ends)

theorem enter (searching : index.Searching start unmet (⟨id, next :: untried⟩ :: before)) :
    index.Searching start (removeId next unmet)
      (⟨next, index.successors next⟩ :: ⟨id, untried⟩ :: before) where
  isWay := by
    have shorter : index.Way start (⟨id, untried⟩ :: before) :=
      searching.way.retry fun other member => by simp [member]
    exact Or.inr (.step shorter searching.follows fun _ follows => follows)
  tried := ⟨fun _ follows => Or.inl follows, searching.tried.next (Or.inr rfl)⟩
  sorted := by
    intro other known
    by_cases same : other = next
    · exact Or.inr (Or.inl (by simp [same]))
    · rcases searching.sorted other known with new | onWay | ends
      · exact Or.inl (mem_removeId.mpr ⟨new, same⟩)
      · exact Or.inr (Or.inl (List.mem_cons_of_mem _ onWay))
      · exact Or.inr (Or.inr ends)

theorem pass (closed : index.Closed)
    (searching : index.Searching start unmet (⟨id, next :: untried⟩ :: before))
    (notBack : next ∉ (⟨id, untried⟩ :: before : List Frame).map Frame.id) (old : next ∉ unmet) :
    index.Searching start unmet (⟨id, untried⟩ :: before) where
  isWay := Or.inr (searching.way.retry fun other member => by simp [member])
  tried := by
    rcases searching.sorted next (closed id next searching.follows) with new | onWay | settled
    · exact absurd new old
    · exact absurd onWay notBack
    · exact searching.tried.next (Or.inl settled)
  sorted := searching.sorted

end Searching

/-- What the search finds tells of a cycle. -/
theorem cycleBelow_of_searchCycle (closed : index.Closed) {start : String}
    {unmet ids : List String} {way : List Frame} (searching : index.Searching start unmet way)
    (found : index.searchCycle unmet way = some ids) : index.CycleBelow start := by
  induction unmet, way using searchCycle.induct index with
  | case1 => simp [searchCycle] at found
  | case2 unmet id before ih =>
      rw [searchCycle] at found
      exact ih searching.leave found
  | case3 unmet id next untried before here back =>
      exact searching.way.cycleBelow_of_mem searching.follows back
  | case4 unmet id next untried before here notBack new ih =>
      rw [searchCycle, if_neg notBack, if_pos new] at found
      exact ih searching.enter found
  | case5 unmet id next untried before here notBack old ih =>
      rw [searchCycle, if_neg notBack, if_neg old] at found
      exact ih (searching.pass closed notBack old) found

/-- When the search finds nothing, everything on its way is settled. -/
theorem endsBelow_of_searchCycle (closed : index.Closed) {start : String} {unmet : List String}
    {way : List Frame} (searching : index.Searching start unmet way)
    (notFound : index.searchCycle unmet way = none) :
    ∀ id ∈ way.map Frame.id, index.EndsBelow id := by
  induction unmet, way using searchCycle.induct index with
  | case1 => simp
  | case2 unmet id before ih =>
      rw [searchCycle] at notFound
      intro other member
      rcases List.mem_cons.mp member with rfl | member
      · exact searching.tried.endsBelow
      · exact ih searching.leave notFound other member
  | case3 unmet id next untried before here back =>
      rw [searchCycle, if_pos back] at notFound
      cases notFound
  | case4 unmet id next untried before here notBack new ih =>
      rw [searchCycle, if_neg notBack, if_pos new] at notFound
      intro other member
      exact ih searching.enter notFound other (List.mem_cons_of_mem _ member)
  | case5 unmet id next untried before here notBack old ih =>
      rw [searchCycle, if_neg notBack, if_neg old] at notFound
      exact ih (searching.pass closed notBack old) notFound

/-- The search finds nothing exactly when there is no cycle below its start. -/
theorem cycle?_eq_none_iff (closed : index.Closed) (start : String) :
    index.cycle? start = none ↔ ¬index.CycleBelow start := by
  have searching := Searching.init index start
  constructor
  · intro notFound
    exact (endsBelow_of_searchCycle closed searching notFound start (by simp)).not_cycleBelow
  · intro noCycle
    rcases found : index.cycle? start with _ | ids
    · rfl
    · exact absurd (cycleBelow_of_searchCycle closed searching found) noCycle

end GraphIndex

end SqlPipeline
