import Mathlib.Data.List.Perm.Subperm
import Mathlib.Data.List.ProdSigma
import Mathlib.Logic.Relation
import SqlPipeline.Proofs.Config.Failures
import SqlPipeline.Proofs.Config.Paths

/-!
# Imports without circles

Where no file imports itself, directly or through others, loading has depth enough
(`settled_load`). Files that import one another in a row are different files of the site, up to how
their paths are given, so a row is no longer than twice the number of files. With an environment each
file on the way may have a file of that environment beside it, which is loaded without an environment
and starts a row of its own.
-/

namespace SqlPipeline

namespace Config

/-- A file imports another. -/
def ImportsFile (site : Site) (file target : Route) : Prop :=
  ∃ top items item found path, (topMapping site file).outcome = .ok top ∧
    importList ((top.field? "imports").getD .null) = .ok items ∧ item ∈ items ∧
    importNamed file.directory item = .ok found ∧
    found.target? site.files = some path ∧ target = path.plain

/-- No file imports itself, directly or through others. -/
def Site.Acyclic (site : Site) : Prop :=
  ∀ file, ¬Relation.TransGen (ImportsFile site) file file

/-- Files that import one another in a row, the last first, down to one still to be loaded. -/
inductive ImportRow (site : Site) : List Route → Route → Prop where
  | start (path : Route) : ImportRow site [] path.plain
  | next {passed : List Route} {file target : Route} (row : ImportRow site passed file)
      (imports : ImportsFile site file target) : ImportRow site (file :: passed) target

theorem ImportsFile.exists_top {site : Site} {file target : Route}
    (imports : ImportsFile site file target) : ∃ top, (topMapping site file).outcome = .ok top := by
  rcases imports with ⟨top, _, _, _, _, isTop, -⟩
  exact ⟨top, isTop⟩

namespace ImportRow

variable {site : Site} {passed : List Route} {file : Route}

theorem exists_plain (row : ImportRow site passed file) : ∃ path : Route, file = path.plain := by
  cases row with
  | start path => exact ⟨path, rfl⟩
  | next _ imports =>
      rcases imports with ⟨_, _, _, _, path, _, _, _, _, _, isPlain⟩
      exact ⟨path, isPlain⟩

/-- Every file in a row imports the last, directly or through others. -/
theorem transGen_of_mem (row : ImportRow site passed file) {earlier : Route}
    (member : earlier ∈ passed) : Relation.TransGen (ImportsFile site) earlier file := by
  induction row with
  | start path => cases member
  | next _ imports ih =>
      rcases List.mem_cons.mp member with rfl | further
      · exact .single imports
      · exact .tail (ih further) imports

theorem nodup (row : ImportRow site passed file) (acyclic : site.Acyclic) :
    (file :: passed).Nodup := by
  rw [List.nodup_cons]
  constructor
  · intro again
    exact acyclic file (row.transGen_of_mem again)
  · induction row with
    | start path => exact List.nodup_nil
    | next row _ ih =>
        rw [List.nodup_cons]
        exact ⟨fun again => acyclic _ (row.transGen_of_mem again), ih⟩

/-- The files in a row have plain paths and were read. -/
theorem readable_of_mem (row : ImportRow site passed file) {earlier : Route}
    (member : earlier ∈ passed) :
    (∃ path : Route, earlier = path.plain) ∧ ∃ top, (topMapping site earlier).outcome = .ok top := by
  induction row with
  | start path => cases member
  | next row imports ih =>
      rcases List.mem_cons.mp member with rfl | further
      · exact ⟨row.exists_plain, imports.exists_top⟩
      · exact ih further

end ImportRow

/-- There are no more different plain paths of files that were read than two for each file. -/
theorem length_le_of_readable {site : Site} {paths : List Route} (nodup : paths.Nodup)
    (readable : ∀ file ∈ paths, (∃ path : Route, file = path.plain) ∧
      ∃ top, (topMapping site file).outcome = .ok top) :
    paths.length ≤ 2 * site.files.files.length := by
  have apart : (paths.map fun file => (file.inBytes, Path.plainNames file.path)).Nodup := by
    apply List.Nodup.map_on _ nodup
    intro file member other otherMember same
    rcases (readable file member).1 with ⟨path, rfl⟩
    rcases (readable other otherMember).1 with ⟨otherPath, rfl⟩
    rw [Prod.mk.injEq] at same
    exact Route.plain_injective same.2 same.1
  have among : (paths.map fun file => (file.inBytes, Path.plainNames file.path)) ⊆
      [false, true] ×ˢ site.files.files.map Prod.fst := by
    intro names member
    rcases List.mem_map.mp member with ⟨file, isFile, rfl⟩
    rcases (readable file isFile).2 with ⟨top, isTop⟩
    exact List.mem_product.mpr ⟨by simp, mem_files_of_topMapping isTop⟩
  simpa [List.length_product, Nat.two_mul] using (apart.subperm among).length_le

theorem ImportRow.length_le {site : Site} {passed : List Route} {file : Route}
    (row : ImportRow site passed file) (acyclic : site.Acyclic) :
    passed.length ≤ 2 * site.files.files.length :=
  length_le_of_readable (List.nodup_cons.mp (row.nodup acyclic)).2 fun _ => row.readable_of_mem

theorem ImportRow.length_lt {site : Site} {passed : List Route} {file : Route}
    (row : ImportRow site passed file) (acyclic : site.Acyclic) {top : Mapping}
    (isTop : (topMapping site file).outcome = .ok top) :
    passed.length < 2 * site.files.files.length := by
  apply length_le_of_readable (row.nodup acyclic)
  intro other member
  rcases List.mem_cons.mp member with rfl | earlier
  · exact ⟨row.exists_plain, top, isTop⟩
  · exact row.readable_of_mem earlier

/-- The depth that loading needs at most. -/
def depthNeeded (site : Site) (environment : Option String) : Nat :=
  match chosen? environment with
  | none => 2 * site.files.files.length + 1
  | some _ => 4 * site.files.files.length + 1

section Roots

variable {site : Site} {load : Route → Option String → Traced LoadError Mapping}
variable {file : Route} {environment : Option String} {item : Value} {error : LoadError}

theorem TopFails.root_ne (fails : TopFails site file error) : error.root ≠ .circularImports := by
  cases fails <;> nofun

theorem root_ne_of_importList (unlisted : importList item = .error error) :
    error.root ≠ .circularImports := by
  unfold importList at unlisted
  split at unlisted <;> try cases unlisted
  split at unlisted <;> cases unlisted
  nofun

theorem root_ne_of_importNamed {directory : Route}
    (unnamed : importNamed directory item = .error error) : error.root ≠ .circularImports := by
  unfold importNamed at unnamed
  split at unnamed
  · split at unnamed <;> cases unnamed
    nofun
  · split at unnamed <;> cases unnamed
    nofun
  · cases unnamed
    nofun

/-- A step over files that are loaded without want of depth is not for want of depth. -/
theorem FileFails.root_ne
    (settled : ∀ target, ImportsFile site file target.plain →
      Settled (load target environment).outcome)
    (fails : FileFails site load file environment error) : error.root ≠ .circularImports := by
  cases fails with
  | top fails => exact fails.root_ne
  | unlisted _ unlisted => exact root_ne_of_importList unlisted
  | imports isTop listed _ fails =>
      cases fails with
      | unnamed unnamed => exact root_ne_of_importNamed unnamed
      | missing => nofun
      | failed named leads failed =>
          have imports : ImportsFile site file (Route.plain _) :=
            ⟨_, _, _, _, _, isTop, listed, by simp, named, leads, rfl⟩
          rw [LoadError.root]
          exact settled _ imports _ failed
  | blocks => nofun
  | block => nofun

end Roots

/-- With a row of imports behind it a load needs only the rest of the depth. -/
theorem settled_loadTo {site : Site} (acyclic : site.Acyclic) (depth : Nat) {passed : List Route}
    {path : Route} {environment : Option String} (row : ImportRow site passed path.plain)
    (enough : depthNeeded site environment ≤ passed.length + depth) :
    Settled (loadTo site depth path environment).outcome := by
  induction depth generalizing passed path environment with
  | zero =>
      have short := row.length_le acyclic
      unfold depthNeeded at enough
      split at enough <;> omega
  | succ depth ih =>
      intro error failed
      cases loadFails_of_loadWith failed with
      | nowhere =>
          intro impossible
          cases impossible
      | unjoined =>
          intro impossible
          cases impossible
      | file _ fails =>
          refine fails.root_ne fun target imports => ?_
          apply ih (.next row imports)
          simp only [List.length_cons]
          omega
      | @beside name data _ leads isChosen isData leadsBeside fails =>
          rcases Traced.outcome_bind_eq_ok_iff.mp isData with ⟨top, isTop, -⟩
          have short := row.length_lt acyclic isTop
          have enoughBeside : depthNeeded site none ≤ ([] : List Route).length + depth := by
            simp only [depthNeeded, isChosen] at enough
            change 2 * site.files.files.length + 1 ≤ 0 + depth
            omega
          exact ih (.start _) enoughBeside error fails

/-- Where imports make no circle loading is never for want of depth. -/
theorem settled_load {site : Site} (acyclic : site.Acyclic) (path : Route)
    (environment : Option String) : Settled (load site path environment).outcome := by
  have enough : depthNeeded site environment ≤ depthFor site := by
    unfold depthNeeded depthFor
    split <;> omega
  apply settled_loadTo acyclic _ (.start path)
  simpa using enough

end Config

end SqlPipeline
