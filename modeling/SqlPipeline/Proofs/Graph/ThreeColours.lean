import Mathlib.Data.List.Chain
import Mathlib.Data.List.Nodup
import SqlPipeline.Proofs.Graph.CycleSearch
import SqlPipeline.Proofs.Graph.Preorder

/-!
# The recursive search in three colours

`Searches` describes the search for a cycle by recursion. While the call for an id is under way the
id is grey, and the grey ids make up the path from the start to the place of the search. When the
call is over the id turns black. All other ids are white. Only an edge to a grey id closes a cycle,
and the first one ends all calls at once.

The search that runs keeps its own list of places, each with what is still to be tried there. These
are the suspended calls, so it comes to the same cycle (`exists_searches`). What the cycle is like
is read off the recursion: the path has no id twice and follows the edges, and the cycle is its end
(`Searches.circuit`).
-/

namespace SqlPipeline

open Relation

/-- A list of ids that leads back to its first id and meets no id twice before that. -/
structure Circuit (follows : String → String → Prop) (ids : List String) : Prop where
  length : 2 ≤ ids.length
  closed : ids.head? = ids.getLast?
  distinct : ids.dropLast.Nodup
  steps : ids.IsChain follows

namespace GraphIndex

/-- How a search in three colours ends: with the cycle closed by the first edge to a grey id, or
with the ids that are black by then. -/
inductive Verdict where
  | cycle (ids : List String)
  | clear (black : List String)

/-- The recursive search tries successors of the last id on a path, in order. The ids on the path
are grey. -/
inductive Searches (index : GraphIndex) :
    List String → List String → List String → Verdict → Prop where
  | done (path black : List String) : Searches index path black [] (.clear black)
  | back {path black later : List String} {next : String} (grey : next ∈ path) :
      Searches index path black (next :: later) (.cycle (path.dropWhile (· != next) ++ [next]))
  | skip {path black later : List String} {next : String} {verdict : Verdict}
      (notGrey : next ∉ path) (isBlack : next ∈ black)
      (rest : Searches index path black later verdict) :
      Searches index path black (next :: later) verdict
  | stop {path black later ids : List String} {next : String}
      (notGrey : next ∉ path) (notBlack : next ∉ black)
      (inner : Searches index (path ++ [next]) black (index.successors next) (.cycle ids)) :
      Searches index path black (next :: later) (.cycle ids)
  | finish {path black below later : List String} {next : String} {verdict : Verdict}
      (notGrey : next ∉ path) (notBlack : next ∉ black)
      (inner : Searches index (path ++ [next]) black (index.successors next) (.clear below))
      (rest : Searches index path (next :: below) later verdict) :
      Searches index path black (next :: later) verdict

/-- A path from a start along edges that meets no id twice. -/
structure Path (index : GraphIndex) (start : String) (path : List String) : Prop where
  starts : path.head? = some start
  distinct : path.Nodup
  steps : path.IsChain index.Follows

variable {index : GraphIndex} {start : String}

theorem Path.single (index : GraphIndex) (start : String) : index.Path start [start] where
  starts := rfl
  distinct := List.nodup_singleton start
  steps := List.isChain_singleton start

/-- A path goes on to a successor of its last id that is not on it. -/
theorem Path.extend {path : List String} {last next : String} (isPath : index.Path start path)
    (isLast : path.getLast? = some last) (follows : index.Follows last next) (new : next ∉ path) :
    index.Path start (path ++ [next]) where
  starts := by rw [List.head?_append, isPath.starts, Option.some_or]
  distinct := by
    rw [← List.concat_eq_append]
    exact List.Nodup.concat new isPath.distinct
  steps := by
    refine isPath.steps.append (List.isChain_singleton next) fun before isBefore after isAfter => ?_
    obtain rfl := Option.mem_unique isBefore isLast
    obtain rfl : next = after := by simpa using isAfter
    exact follows

theorem Path.walk {path : List String} (isPath : index.Path start path) :
    ∀ id ∈ path, ReflTransGen index.Follows start id := by
  rcases List.head?_eq_some_iff.mp isPath.starts with ⟨rest, rfl⟩
  refine isPath.steps.induction (ReflTransGen index.Follows start) _ ?_ ?_
  · intro id next follows walk
    exact walk.tail follows
  · intro _
    exact ReflTransGen.refl

/-- From an id on a path on to its end and back along an edge is a circuit. -/
theorem Path.circuit {path : List String} {last next : String} (isPath : index.Path start path)
    (isLast : path.getLast? = some last) (follows : index.Follows last next) (back : next ∈ path) :
    Circuit index.Follows (path.dropWhile (· != next) ++ [next]) := by
  rcases List.append_of_mem back with ⟨before, after, rfl⟩
  have notBefore : ∀ id ∈ before, (id != next) = true := by
    intro id member
    have apart := (List.nodup_append.mp isPath.distinct).2.2 id member next List.mem_cons_self
    simpa using apart
  have ending : (before ++ next :: after).dropWhile (· != next) = next :: after := by
    rw [List.dropWhile_append_of_pos notBefore, List.dropWhile_cons_of_neg (by simp)]
  rw [ending]
  have endsIn : (next :: after).getLast? = some last := by
    rw [← List.getLast?_append_of_ne_nil before (List.cons_ne_nil next after), isLast]
  exact {
    length := by simp
    closed := by
      rw [List.getLast?_concat]
      rfl
    distinct := by
      rw [List.dropLast_concat]
      exact (List.nodup_append.mp isPath.distinct).2.1
    steps := by
      refine isPath.steps.right_of_append.append (List.isChain_singleton next) ?_
      intro place isPlace back isBack
      obtain rfl := Option.mem_unique isPlace endsIn
      obtain rfl : next = back := by simpa using isBack
      exact follows }

namespace Searches

variable {path black pending : List String} {verdict : Verdict}

/-- The search has only one end. -/
theorem unique {other : Verdict} (first : index.Searches path black pending verdict)
    (second : index.Searches path black pending other) : verdict = other := by
  induction first generalizing other with
  | done => cases second with
    | done => rfl
  | back grey => cases second with
    | back => rfl
    | skip notGrey => exact absurd grey notGrey
    | stop notGrey => exact absurd grey notGrey
    | finish notGrey => exact absurd grey notGrey
  | skip notGrey isBlack _ ih => cases second with
    | back grey => exact absurd grey notGrey
    | skip _ _ rest => exact ih rest
    | stop _ notBlack => exact absurd isBlack notBlack
    | finish _ notBlack => exact absurd isBlack notBlack
  | stop notGrey notBlack _ ih => cases second with
    | back grey => exact absurd grey notGrey
    | skip _ isBlack => exact absurd isBlack notBlack
    | stop _ _ inner => exact ih inner
    | finish _ _ inner => cases ih inner
  | finish notGrey notBlack _ _ ihInner ihRest => cases second with
    | back grey => exact absurd grey notGrey
    | skip _ isBlack => exact absurd isBlack notBlack
    | stop _ _ inner => cases ihInner inner
    | finish _ _ inner rest =>
        obtain rfl := Verdict.clear.inj (ihInner inner)
        exact ihRest rest

/-- What is found from a path is a circuit, and all of it can be reached. -/
theorem circuit {ids : List String} {last : String}
    (searches : index.Searches path black pending (.cycle ids)) (isPath : index.Path start path)
    (isLast : path.getLast? = some last) (follow : ∀ next ∈ pending, index.Follows last next) :
    Circuit index.Follows ids ∧ ∀ id ∈ ids, ReflTransGen index.Follows start id := by
  generalize found : Verdict.cycle ids = verdict at searches
  induction searches generalizing last with
  | done => cases found
  | @back path black later next grey =>
      obtain rfl := Verdict.cycle.inj found
      refine ⟨isPath.circuit isLast (follow next List.mem_cons_self) grey, fun id member => ?_⟩
      rcases List.mem_append.mp member with onPath | isNext
      · exact isPath.walk id ((List.dropWhile_suffix _).subset onPath)
      · obtain rfl := List.mem_singleton.mp isNext
        exact isPath.walk id grey
  | skip _ _ _ ih =>
      exact ih isPath isLast (fun next member => follow next (List.mem_cons_of_mem _ member)) found
  | @stop path _ _ _ next notGrey _ _ ih =>
      have extended := isPath.extend isLast (follow next List.mem_cons_self) notGrey
      exact ih extended List.getLast?_concat (fun _ below => below) found
  | finish _ _ _ _ _ ih =>
      exact ih isPath isLast (fun next member => follow next (List.mem_cons_of_mem _ member)) found

end Searches

/-- The ids on a way, from its beginning. -/
def pathOf (way : List Frame) : List String :=
  (way.map Frame.id).reverse

theorem mem_pathOf {id : String} {way : List Frame} :
    id ∈ pathOf way ↔ id ∈ way.map Frame.id :=
  List.mem_reverse

theorem pathOf_cons (frame : Frame) (way : List Frame) :
    pathOf (frame :: way) = pathOf way ++ [frame.id] := by
  rw [pathOf, List.map_cons, List.reverse_cons, pathOf]

/-- The part of a way from an id on it is what its path holds from that id on. -/
theorem wayFrom_eq_dropWhile {id : String} {way : List Frame} (distinct : (pathOf way).Nodup)
    (member : id ∈ pathOf way) : wayFrom id way = (pathOf way).dropWhile (· != id) := by
  rw [wayFrom]
  rcases List.append_of_mem (mem_pathOf.mp member) with ⟨after, before, split⟩
  rw [pathOf, split] at distinct ⊢
  rw [List.nodup_reverse, List.nodup_middle, List.nodup_cons, List.mem_append, not_or] at distinct
  have notIn : ∀ {ids : List String}, id ∉ ids → ∀ other ∈ ids, (other != id) = true := by
    intro ids absent other inIds
    rw [bne_iff_ne]
    rintro rfl
    exact absent inIds
  have notBefore : id ∉ before.reverse := by
    rw [List.mem_reverse]
    exact distinct.1.2
  have turned : (after ++ id :: before).reverse = before.reverse ++ id :: after.reverse := by
    rw [List.reverse_append, List.reverse_cons, List.append_assoc, List.singleton_append]
  rw [List.takeWhile_append_of_pos (notIn distinct.1.1), List.takeWhile_cons_of_neg (by simp),
    List.append_nil, List.reverse_concat, turned, List.dropWhile_append_of_pos (notIn notBefore),
    List.dropWhile_cons_of_neg (by simp)]

section Colours

variable {path black unmet : List String} {next : String}

/-- A white id turns grey. -/
theorem Complement.enter (colours : index.Complement (path ++ black) unmet) (next : String) :
    index.Complement (path ++ [next] ++ black) (GraphIndex.removeId next unmet) := by
  intro id
  rw [colours.removeId next id]
  simp only [List.mem_cons, List.mem_append, List.not_mem_nil]
  tauto

/-- A grey id turns black. -/
theorem Complement.leave (colours : index.Complement (path ++ [next] ++ black) unmet) :
    index.Complement (path ++ next :: black) unmet := by
  rwa [List.append_assoc, List.singleton_append] at colours

end Colours

/-- The search with a list of places runs the recursive one at its last place. If that finds a
cycle, it is the one found in the end. If not, the search goes on at the place before. -/
theorem exists_searches (closed : index.Closed) {unmet black pending : List String} {id : String}
    {before : List Frame} (distinct : (pathOf (⟨id, pending⟩ :: before)).Nodup)
    (colours : index.Complement (pathOf (⟨id, pending⟩ :: before) ++ black) unmet)
    (known : ∀ next ∈ pending, next ∈ index.ids) :
    (∃ ids, index.Searches (pathOf (⟨id, pending⟩ :: before)) black pending (.cycle ids) ∧
      index.searchCycle unmet (⟨id, pending⟩ :: before) = some ids) ∨
    ∃ below left, index.Searches (pathOf (⟨id, pending⟩ :: before)) black pending (.clear below) ∧
      index.Complement (pathOf (⟨id, pending⟩ :: before) ++ below) left ∧
      left.length ≤ unmet.length ∧
      index.searchCycle unmet (⟨id, pending⟩ :: before) = index.searchCycle left before := by
  match pending with
  | [] =>
      right
      refine ⟨black, unmet, .done _ _, colours, le_rfl, ?_⟩
      rw [searchCycle]
  | next :: untried =>
      have knownLater : ∀ other ∈ untried, other ∈ index.ids := fun other member =>
        known other (List.mem_cons_of_mem _ member)
      have isPath : pathOf (⟨id, next :: untried⟩ :: before) = pathOf (⟨id, untried⟩ :: before) :=
        rfl
      rw [isPath] at distinct colours ⊢
      rw [searchCycle]
      by_cases grey : next ∈ pathOf (⟨id, untried⟩ :: before)
      · left
        refine ⟨_, .back grey, ?_⟩
        rw [if_pos (mem_pathOf.mp grey), wayFrom_eq_dropWhile distinct grey]
      · rw [if_neg (mt mem_pathOf.mpr grey)]
        by_cases white : next ∈ unmet
        · have notBlack : next ∉ black := fun isBlack =>
            ((colours next).mp white).2 (List.mem_append_right _ isBlack)
          have longer : pathOf (⟨next, index.successors next⟩ :: ⟨id, untried⟩ :: before) =
              pathOf (⟨id, untried⟩ :: before) ++ [next] := pathOf_cons _ _
          have innerDistinct : (pathOf (⟨next, index.successors next⟩ :: ⟨id, untried⟩ ::
              before)).Nodup := by
            rw [longer, ← List.concat_eq_append]
            exact List.Nodup.concat grey distinct
          have innerColours : index.Complement (pathOf (⟨next, index.successors next⟩ ::
              ⟨id, untried⟩ :: before) ++ black) (removeId next unmet) := by
            rw [longer]
            exact colours.enter next
          have fewer : (removeId next unmet).length < unmet.length := length_removeId_lt white
          rw [if_pos white]
          rcases exists_searches closed innerDistinct innerColours (closed next) with
            ⟨ids, inner, found⟩ | ⟨below, left, inner, innerLeft, shorter, goesOn⟩
          · left
            rw [longer] at inner
            exact ⟨ids, .stop grey notBlack inner, found⟩
          · rw [longer] at inner innerLeft
            have fewerLeft : left.length < unmet.length := Nat.lt_of_le_of_lt shorter fewer
            rw [goesOn]
            rcases exists_searches closed distinct innerLeft.leave knownLater with
              ⟨ids, rest, found⟩ | ⟨further, last, rest, lastColours, evenShorter, goesOn⟩
            · exact Or.inl ⟨ids, .finish grey notBlack inner rest, found⟩
            · exact Or.inr ⟨further, last, .finish grey notBlack inner rest, lastColours,
                evenShorter.trans fewerLeft.le, goesOn⟩
        · have isBlack : next ∈ black := by
            by_contra notBlack
            refine white ((colours next).mpr ⟨known next List.mem_cons_self, fun met => ?_⟩)
            exact (List.mem_append.mp met).elim grey notBlack
          rw [if_neg white]
          rcases exists_searches closed distinct colours knownLater with
            ⟨ids, rest, found⟩ | ⟨below, left, rest, leftColours, shorter, goesOn⟩
          · exact Or.inl ⟨ids, .skip grey isBlack rest, found⟩
          · exact Or.inr ⟨below, left, .skip grey isBlack rest, leftColours, shorter, goesOn⟩
termination_by (unmet.length, pending.length)
decreasing_by
  · exact Prod.Lex.left _ _ fewer
  · exact Prod.Lex.left _ _ fewerLeft
  · exact Prod.Lex.right _ (by simp)

/-- From a start, the search finds what the recursive one finds. -/
theorem exists_searches_start (closed : index.Closed) (start : String) :
    (∃ ids, index.Searches [start] [] (index.successors start) (.cycle ids) ∧
      index.cycle? start = some ids) ∨
    ∃ below, index.Searches [start] [] (index.successors start) (.clear below) ∧
      index.cycle? start = none := by
  have colours : index.Complement (pathOf [⟨start, index.successors start⟩] ++ [])
      (removeId start index.ids) := complement_start index start
  have distinct : (pathOf [⟨start, index.successors start⟩]).Nodup := List.nodup_singleton start
  rcases exists_searches closed distinct colours (closed start) with
    found | ⟨below, left, search, -, -, none⟩
  · exact Or.inl found
  · right
    rw [searchCycle] at none
    exact ⟨below, search, none⟩

theorem checkCycles_of_none (none : index.cycle? start = none) :
    index.checkCycles start = .ok () := by
  rw [checkCycles, none]

theorem checkCycles_of_some {ids : List String} (found : index.cycle? start = some ids) :
    index.checkCycles start = .error (.cyclic PipelineError.cycleMessage (some ids)) := by
  rw [checkCycles, found]

end GraphIndex

namespace Graph

theorem exists_checkCycles_error_iff (graph : Graph) (start : String) :
    (∃ error, graph.index.checkCycles start = .error error) ↔ graph.CycleBelow start := by
  have exact := GraphIndex.cycle?_eq_none_iff graph.closed_index start
  rw [cycleBelow_index] at exact
  rcases cycle : graph.index.cycle? start with _ | ids
  · rw [GraphIndex.checkCycles_of_none cycle]
    simpa using exact.mp cycle
  · rw [GraphIndex.checkCycles_of_some cycle]
    have some : graph.CycleBelow start := by
      by_contra none
      rw [exact.mpr none] at cycle
      cases cycle
    exact iff_of_true ⟨_, rfl⟩ some

/-- The search for a cycle fails exactly when there is one below the start. It then reports the
circuit that the recursive search in three colours comes upon, and everything on it can be
reached. -/
theorem checkCycles_exact (graph : Graph) (start : String) :
    ((∃ error, graph.index.checkCycles start = .error error) ↔ graph.CycleBelow start) ∧
    ∀ error, graph.index.checkCycles start = .error error →
      ∃ ids, error = .cyclic PipelineError.cycleMessage (some ids) ∧
        Circuit graph.Kept ids ∧
        (∀ id ∈ ids, ReflTransGen graph.Kept start id) ∧
        ∀ verdict, graph.index.Searches [start] [] (graph.index.successors start) verdict ↔
          verdict = .cycle ids := by
  refine ⟨exists_checkCycles_error_iff graph start, fun error failed => ?_⟩
  rcases GraphIndex.exists_searches_start graph.closed_index start with
    ⟨ids, searches, found⟩ | ⟨below, -, none⟩
  · rw [GraphIndex.checkCycles_of_some found] at failed
    have circuit := searches.circuit (GraphIndex.Path.single graph.index start) rfl
      fun _ follows => follows
    rw [follows_index_eq] at circuit
    refine ⟨ids, (Except.error.inj failed).symm, circuit.1, circuit.2, fun verdict => ?_⟩
    constructor
    · exact fun other => other.unique searches
    · rintro rfl
      exact searches
  · rw [GraphIndex.checkCycles_of_none none] at failed
    cases failed

/-- Two ways lead to `m`, one edge is drawn twice and one dangles. The edge from `m` to itself is
listed behind the one that closes the longer circuit. -/
def looped : Graph where
  nodes :=
    [⟨"s", .source { table := some "t" }, {}⟩, ⟨"l", .lookup {}, {}⟩, ⟨"r", .transform {}, {}⟩,
      ⟨"m", .target {}, {}⟩]
  edges :=
    [⟨"1", "s", "l", none, none⟩, ⟨"2", "s", "r", none, none⟩, ⟨"3", "s", "r", none, none⟩,
      ⟨"4", "r", "ghost", none, none⟩, ⟨"5", "r", "m", none, none⟩, ⟨"6", "m", "l", none, none⟩,
      ⟨"7", "m", "r", none, none⟩, ⟨"8", "m", "m", none, none⟩]

theorem checkCycles_exact_looped :
    looped.index.checkCycles "s" =
        .error (.cyclic PipelineError.cycleMessage (some ["r", "m", "r"])) ∧
      ∃ ids, PipelineError.cyclic PipelineError.cycleMessage (some ["r", "m", "r"]) =
          .cyclic PipelineError.cycleMessage (some ids) ∧
        Circuit looped.Kept ids ∧
        (∀ id ∈ ids, ReflTransGen looped.Kept "s" id) ∧
        ∀ verdict, looped.index.Searches ["s"] [] (looped.index.successors "s") verdict ↔
          verdict = .cycle ids := by
  have failed : looped.index.checkCycles "s" =
      .error (.cyclic PipelineError.cycleMessage (some ["r", "m", "r"])) := by
    cbv
  exact ⟨failed, (checkCycles_exact looped "s").2 _ failed⟩

end Graph

end SqlPipeline
