import SqlPipeline.Config.Files
import SqlPipeline.Proofs.Text.Pieces

/-!
# Plain paths

The names of a plain path are names of files and directories: none is empty, a point or two points,
and none holds a slash. Such names are the names of the path that they make, so the plain form of a
path has the same names as the path (`plainNames_plain`), and different plain paths have different
names (`plain_injective`).
-/

namespace SqlPipeline

namespace Path

/-- A name that a file or a directory can have. -/
structure ProperName (name : String) : Prop where
  nonempty : name ≠ ""
  notPoint : name ≠ "."
  notBack : name ≠ ".."
  noSlash : '/' ∉ name.toList

theorem not_mem_of_mem_names {path name : String} (member : name ∈ names path) :
    '/' ∉ name.toList := by
  rcases List.mem_map.mp member with ⟨piece, isPiece, rfl⟩
  rw [String.toList_ofList]
  exact Text.not_mem_of_mem_splitOn isPiece

theorem properName_of_mem_enter {way : List String} {next name : String}
    (noSlash : '/' ∉ next.toList) (proper : ∀ name ∈ way, ProperName name)
    (member : name ∈ enter way next) : ProperName name := by
  unfold enter at member
  split at member
  · exact proper name member
  · next entered =>
    rw [not_or] at entered
    split at member
    · exact proper name ((List.dropLast_sublist way).subset member)
    · next notBack =>
      rcases List.mem_append.mp member with old | new
      · exact proper name old
      · rw [List.mem_singleton] at new
        subst new
        exact ⟨entered.1, entered.2, notBack, noSlash⟩

theorem properName_of_mem_foldl_enter {names way : List String}
    (noSlash : ∀ name ∈ names, '/' ∉ name.toList) (proper : ∀ name ∈ way, ProperName name) :
    ∀ name ∈ names.foldl enter way, ProperName name := by
  induction names generalizing way with
  | nil => exact proper
  | cons first rest ih =>
      apply ih fun name member => noSlash name (List.mem_cons_of_mem _ member)
      intro name member
      exact properName_of_mem_enter (noSlash first List.mem_cons_self) proper member

theorem properName_of_mem_plainNames {path name : String} (member : name ∈ plainNames path) :
    ProperName name := by
  apply properName_of_mem_foldl_enter _ _ name member
  · intro name
    exact not_mem_of_mem_names
  · intro name impossible
    cases impossible

theorem enter_of_properName (way : List String) {name : String} (proper : ProperName name) :
    enter way name = way ++ [name] := by
  rw [enter, if_neg (not_or.mpr ⟨proper.nonempty, proper.notPoint⟩), if_neg proper.notBack]

theorem foldl_enter_of_properName {names : List String} (proper : ∀ name ∈ names, ProperName name)
    (way : List String) : names.foldl enter way = way ++ names := by
  induction names generalizing way with
  | nil => simp
  | cons first rest ih =>
      rw [List.foldl_cons, enter_of_properName way (proper first List.mem_cons_self),
        ih fun name member => proper name (List.mem_cons_of_mem _ member), List.append_assoc,
        List.singleton_append]

/-- The names of a path that is made of names, behind the empty name at its top. -/
theorem names_ofNames {written : List String} (nonempty : written ≠ [])
    (proper : ∀ name ∈ written, ProperName name) : names (ofNames written) = "" :: written := by
  have joined : (ofNames written).toList =
      '/' :: List.intercalate ['/'] (written.map String.toList) := by
    rw [ofNames, String.toList_append, String.toList_intercalate]
    rfl
  have pieces : Text.splitOn '/' (List.intercalate ['/'] (written.map String.toList)) =
      written.map String.toList := by
    apply Text.splitOn_intercalate (by simpa using nonempty)
    intro piece member
    rcases List.mem_map.mp member with ⟨name, isName, rfl⟩
    exact (proper name isName).noSlash
  rw [names, joined, Text.splitOn, if_pos (by simp), pieces, List.map_cons, List.map_map]
  simp

/-- Proper names are the plain names of the path that they make. -/
theorem plainNames_ofNames {written : List String} (proper : ∀ name ∈ written, ProperName name) :
    plainNames (ofNames written) = written := by
  rcases written with _ | ⟨first, rest⟩
  · decide +kernel
  · rw [plainNames, names_ofNames (List.cons_ne_nil _ _) proper, List.foldl_cons]
    change List.foldl enter [] (first :: rest) = _
    rw [foldl_enter_of_properName proper, List.nil_append]

@[simp] theorem plainNames_plain (path : String) : plainNames (plain path) = plainNames path :=
  plainNames_ofNames fun _ => properName_of_mem_plainNames

@[simp] theorem plain_plain (path : String) : plain (plain path) = plain path :=
  congrArg ofNames (plainNames_plain path)

/-- Plain paths with the same names are the same. -/
theorem plain_injective {path other : String}
    (same : plainNames (plain path) = plainNames (plain other)) :
    plain path = plain other := by
  rw [plainNames_plain, plainNames_plain] at same
  exact congrArg ofNames same

end Path

namespace Route

@[simp] theorem plain_plain (route : Route) : route.plain.plain = route.plain :=
  congrArg (fun path => Route.mk path route.inBytes) (Path.plain_plain route.path)

/-- Plain paths that are given in the same way and have the same names are the same. -/
theorem plain_injective {route other : Route}
    (same : Path.plainNames route.plain.path = Path.plainNames other.plain.path)
    (alike : route.inBytes = other.inBytes) : route.plain = other.plain := by
  have path : route.plain.path = other.plain.path := Path.plain_injective same
  rw [plain, plain, Route.mk.injEq]
  exact ⟨path, alike⟩

end Route

end SqlPipeline
