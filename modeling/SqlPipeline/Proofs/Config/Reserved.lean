import SqlPipeline.Proofs.Config.Acyclic
import SqlPipeline.Proofs.Config.Precedence

/-!
# What is left of imports and blocks

In a file `imports` and `environments` say what else to load, and loading takes them out. A block is
laid over the file after that, and so what a block holds under these names is left in the
configuration. Nothing else brings them back, and where no environment is chosen nothing does
(`consumed_loadTo_of_unchosen`). Where a file is imported by another, the imports that its block
leaves go up to the other, and the blocks that its block leaves are taken for blocks of the other.
So the configuration is free of both exactly when no block that is applied on the way holds imports
and the one that is applied last holds no blocks (`consumed_load_iff`).
-/

namespace SqlPipeline

namespace Config

open Mapping (find? erase overlay atop)

/-- Whether nothing is left under the names that say what else to load. -/
structure Consumed (entries : Mapping) : Prop where
  imports : entries.field? "imports" = none
  environments : entries.field? "environments" = none

theorem consumed_iff {entries : Mapping} :
    Consumed entries ↔
      entries.field? "environments" = none ∧ entries.field? "imports" = none :=
  ⟨fun ⟨imports, environments⟩ => ⟨environments, imports⟩,
    fun ⟨environments, imports⟩ => ⟨imports, environments⟩⟩

theorem consumed_empty : Consumed [] := ⟨rfl, rfl⟩

/-- A file that is read with a path: the file there, or one that it imports, directly or through
others. -/
def Reads (site : Site) (path file : Route) : Prop :=
  Relation.ReflTransGen (ImportsFile site) path.plain file

/-- The block of an environment that is applied in a file: the one that is found in the blocks of
the file over those that its imports leave, every import being loaded in full. -/
def AppliesBlock (site : Site) (environment : Option String) (file : Route) (applied : Mapping) :
    Prop :=
  ∃ layers, Layers.Of site (load site) file environment layers ∧
    applied = block environment layers.overImports

namespace Layers

theorem field?_imports_combined (layers : Layers) (environment : Option String) :
    (layers.combined environment).field? "imports" = none ↔
      (∀ imported ∈ layers.imports, imported.field? "imports" = none) ∧
        (block environment layers.overImports).field? "imports" = none ∧
          layers.beside.field? "imports" = none := by
  have ofOver : find? (.str "imports") (erase "environments" layers.overImports) = none ↔
      ∀ imported ∈ layers.imports, find? (.str "imports") imported = none := by
    rw [Mapping.find?_erase, overImports, if_neg (by simp), Mapping.find?_atop_eq_none_iff,
      Mapping.find?_erase, if_pos (by simp)]
    simp
  simp only [Mapping.field?, combined, Mapping.find?_overlay_eq_none_iff, ofOver, and_assoc]

theorem field?_environments_combined (layers : Layers) (environment : Option String) :
    (layers.combined environment).field? "environments" = none ↔
      (block environment layers.overImports).field? "environments" = none ∧
        layers.beside.field? "environments" = none := by
  simp only [Mapping.field?, combined, Mapping.find?_overlay_eq_none_iff, Mapping.find?_erase]
  simp

namespace Of

variable {site : Site} {load change : Route → Option String → Traced LoadError Mapping}
variable {path : Route} {environment : Option String} {layers others : Layers}

/-- The layers of a file stay what they are when files that load still load to the same. -/
theorem mono (of : Layers.Of site load path environment layers)
    (agree : ∀ path environment entries, (load path environment).outcome = .ok entries →
      (change path environment).outcome = .ok entries) :
    Layers.Of site change path environment layers where
  top := of.top
  imports := by
    rcases of.imports with ⟨items, listed, loads⟩
    refine ⟨items, listed, loads.imp ?_⟩
    rintro item entries ⟨found, target, named, leads, loaded⟩
    exact ⟨found, target, named, leads, agree target environment entries loaded⟩
  beside := by
    have beside := of.beside
    unfold BesideLoads at beside ⊢
    rcases isChosen : chosen? environment with _ | name
    · simpa only [isChosen] using beside
    · simp only [isChosen] at beside ⊢
      refine ⟨beside.1, ?_⟩
      replace beside := beside.2
      split
      · next leads =>
        rw [if_pos leads] at beside
        exact agree _ none _ beside
      · next nowhere => rwa [if_neg nowhere] at beside

theorem toPlain (of : Layers.Of site load path environment layers) :
    Layers.Of site load path.plain environment layers := by
  rcases of with ⟨top, imports, beside⟩
  constructor <;> rwa [Route.plain_plain]

/-- A file has its layers in one way only. -/
theorem eq_of_again (of : Layers.Of site load path environment layers)
    (again : Layers.Of site load path environment others) : others = layers := by
  have agree (path : Route) (environment : Option String) (entries other : Mapping)
      (loaded : (load path environment).outcome = .ok entries)
      (loadedAgain : (load path environment).outcome = .ok other) : other = entries := by
    cases loaded.symm.trans loadedAgain
    rfl
  have alone := SameBut.refl environment site
  have top : others.top = layers.top := Except.ok.inj (again.top.symm.trans of.top)
  have beside : others.beside = layers.beside :=
    alone.beside_eq (fun path => agree path none) of.beside again.beside
  have imports : others.imports = layers.imports := by
    rcases of.imports with ⟨items, listed, loads⟩
    rcases again.imports with ⟨itemsAgain, listedAgain, loadsAgain⟩
    rw [top, listed] at listedAgain
    cases listedAgain
    exact alone.imports_eq (fun path => agree path environment) loads loadsAgain
  cases layers
  cases others
  cases top
  cases beside
  cases imports
  rfl

/-- What an import of a file loads is loaded from a file that it imports. -/
theorem exists_importsFile (of : Layers.Of site load path environment layers)
    {imported : Mapping} (member : imported ∈ layers.imports) :
    ∃ target, ImportsFile site path.plain target.plain ∧
      (load target environment).outcome = .ok imported := by
  rcases of.imports with ⟨items, listed, loads⟩
  rcases exists_mem_of_forall₂ loads member with
    ⟨item, isItem, found, target, named, leads, loaded⟩
  exact ⟨target, ⟨_, items, item, found, target, of.top, listed, isItem, named, leads, rfl⟩, loaded⟩

/-- What a file imports is loaded as one of its imports. -/
theorem exists_imported (of : Layers.Of site load path environment layers) {file : Route}
    (imports : ImportsFile site path.plain file) :
    ∃ target imported, file = target.plain ∧ imported ∈ layers.imports ∧
      (load target environment).outcome = .ok imported := by
  rcases imports with
    ⟨top, items, item, found, target, isTop, listed, isItem, named, leads, isTarget⟩
  rcases of.imports with ⟨itemsAgain, listedAgain, loads⟩
  rw [of.top] at isTop
  cases isTop
  rw [listed] at listedAgain
  cases listedAgain
  have flipped : List.Forall₂ (flip (ImportLoads site load path.plain environment))
      layers.imports items := loads.flip
  rcases exists_mem_of_forall₂ flipped isItem with
    ⟨imported, member, foundAgain, targetAgain, namedAgain, leadsAgain, loaded⟩
  rw [named] at namedAgain
  cases namedAgain
  rw [leads] at leadsAgain
  cases leadsAgain
  exact ⟨target, imported, isTarget, member, loaded⟩

end Of

end Layers

section Loading

variable {site : Site} {depth : Nat} {path : Route} {environment : Option String}
variable {result : Mapping}

theorem load_of_loadTo (enough : depth ≤ depthFor site)
    (loaded : (loadTo site depth path environment).outcome = .ok result) :
    (load site path environment).outcome = .ok result := by
  rw [← loaded]
  exact deepens_loadTo site enough path environment (by rw [loaded]; exact settled_ok result)

/-- Where no environment is chosen nothing is left. -/
theorem consumed_loadTo_of_unchosen (unchosen : chosen? environment = none)
    (loaded : (loadTo site depth path environment).outcome = .ok result) : Consumed result := by
  induction depth generalizing path result with
  | zero => cases loaded
  | succ depth ih =>
      rcases exists_combined loaded with ⟨layers, of, rfl⟩
      have noBlock : block environment layers.overImports = [] := by
        simp only [block, blockIn, unchosen]
      have noBeside : layers.beside = [] := by
        simpa only [BesideLoads, unchosen] using of.beside
      constructor
      · rw [layers.field?_imports_combined, noBlock, noBeside]
        refine ⟨fun imported member => ?_, rfl, rfl⟩
        rcases of.exists_importsFile member with ⟨target, -, isLoaded⟩
        exact (ih isLoaded).imports
      · rw [layers.field?_environments_combined, noBlock, noBeside]
        exact ⟨rfl, rfl⟩

/-- The file of an environment beside another file brings nothing back. -/
theorem Layers.Of.consumed_beside {layers : Layers}
    (of : Layers.Of site (loadTo site depth) path environment layers) :
    Consumed layers.beside := by
  rcases of.beside_eq_nil_or_exists_load with empty | ⟨target, loaded⟩
  · rw [empty]
    exact consumed_empty
  · exact consumed_loadTo_of_unchosen rfl loaded

/-- Imports are left exactly when a block that is applied in a file on the way leaves them. -/
theorem field?_imports_loadTo (enough : depth ≤ depthFor site)
    (loaded : (loadTo site depth path environment).outcome = .ok result) :
    result.field? "imports" = none ↔
      ∀ file, Reads site path file → ∀ applied, AppliesBlock site environment file applied →
        applied.field? "imports" = none := by
  induction depth generalizing path result with
  | zero => cases loaded
  | succ depth ih =>
      rcases exists_combined loaded with ⟨layers, of, rfl⟩
      have shallower : depth ≤ depthFor site := Nat.le_of_succ_le enough
      have full : Layers.Of site (load site) path.plain environment layers :=
        (of.mono fun path environment entries => load_of_loadTo shallower).toPlain
      rw [layers.field?_imports_combined]
      constructor
      · rintro ⟨unimported, unapplied, -⟩ file reads applied applies
        rcases Relation.ReflTransGen.cases_head reads with rfl | ⟨next, imports, further⟩
        · rcases applies with ⟨again, ofAgain, rfl⟩
          rw [full.eq_of_again ofAgain]
          exact unapplied
        · rcases of.exists_imported imports with ⟨target, imported, rfl, member, isLoaded⟩
          exact (ih shallower isLoaded).mp (unimported imported member) file further applied applies
      · intro unapplied
        refine ⟨fun imported member => ?_, ?_, of.consumed_beside.imports⟩
        · rcases of.exists_importsFile member with ⟨target, imports, isLoaded⟩
          exact (ih shallower isLoaded).mpr fun file further =>
            unapplied file (.head imports further)
        · exact unapplied _ .refl _ ⟨layers, full, rfl⟩

/-- What is loaded is combined from layers, the files among which are loaded in full. -/
theorem exists_layers_of_load (loaded : (load site path environment).outcome = .ok result) :
    ∃ layers, Layers.Of site (load site) path environment layers ∧
      result = layers.combined environment := by
  apply exists_combined
  rw [← outcome_load_of_settled site (by rw [loaded]; exact settled_ok result), loaded]

/-- Blocks are left exactly when the block that is applied last leaves them. -/
theorem field?_environments_load (loaded : (load site path environment).outcome = .ok result) :
    result.field? "environments" = none ↔
      ∀ applied, AppliesBlock site environment path.plain applied →
        applied.field? "environments" = none := by
  rcases exists_layers_of_load loaded with ⟨layers, of, rfl⟩
  have beside : Consumed layers.beside := Layers.Of.consumed_beside of
  rw [layers.field?_environments_combined]
  constructor
  · rintro ⟨unapplied, -⟩ applied ⟨again, ofAgain, rfl⟩
    rw [of.toPlain.eq_of_again ofAgain]
    exact unapplied
  · intro unapplied
    exact ⟨unapplied _ ⟨layers, of.toPlain, rfl⟩, beside.environments⟩

/-- Every file that is read with a path is loaded on the way. -/
theorem Reads.exists_load {file : Route} (reads : Reads site path file)
    (loaded : (load site path environment).outcome = .ok result) :
    ∃ target entries, file = target.plain ∧
      (load site target environment).outcome = .ok entries := by
  induction reads with
  | refl => exact ⟨path, result, rfl, loaded⟩
  | tail _ imports ih =>
      rcases ih with ⟨target, entries, rfl, isLoaded⟩
      rcases exists_layers_of_load isLoaded with ⟨layers, of, -⟩
      rcases of.exists_imported imports with ⟨next, imported, rfl, -, isLoadedNext⟩
      exact ⟨next, imported, rfl, isLoadedNext⟩

/-- Where blocks hold no blocks the block that is applied in a file is the one that is written
there. -/
theorem AppliesBlock.eq_block {file : Route} {applied top : Mapping}
    (applies : AppliesBlock site environment file applied) (plain : site.Plain environment)
    (isTop : (topMapping site file.plain).outcome = .ok top) :
    applied = block environment top := by
  rcases applies with ⟨layers, of, rfl⟩
  obtain rfl : layers.top = top := Except.ok.inj (of.top.symm.trans isTop)
  have tidy := of.tidy_imports fun path entries => tidy_loadTo (depthFor site) plain
  exact layers.block_overImports (plain.unambiguous_top of.top) tidy environment

/-- A configuration is free of imports and blocks exactly when no block that is applied in a file on
the way holds imports and the one that is applied last holds no blocks. Where no block of the
environment is written with blocks of its own, it is free of both exactly when none of them that is
read is written with imports. -/
theorem consumed_load_iff (loaded : (load site path environment).outcome = .ok result) :
    (Consumed result ↔
      (∀ applied, AppliesBlock site environment path.plain applied →
        applied.field? "environments" = none) ∧
      ∀ file, Reads site path file → ∀ applied, AppliesBlock site environment file applied →
        applied.field? "imports" = none) ∧
    (site.Plain environment →
      (Consumed result ↔ ∀ file, Reads site path file →
        ∀ top, (topMapping site file).outcome = .ok top →
          (block environment top).field? "imports" = none)) := by
  constructor
  · rw [consumed_iff, field?_environments_load loaded, field?_imports_loadTo le_rfl loaded]
  intro plain
  rw [consumed_iff, field?_environments_load loaded, field?_imports_loadTo le_rfl loaded]
  constructor
  · rintro ⟨-, unapplied⟩ file reads top isTop
    rcases reads.exists_load loaded with ⟨target, entries, rfl, isLoaded⟩
    rcases exists_layers_of_load isLoaded with ⟨layers, of, -⟩
    have applies : AppliesBlock site environment target.plain
        (block environment layers.overImports) := ⟨layers, of.toPlain, rfl⟩
    rw [← applies.eq_block plain (by rwa [Route.plain_plain])]
    exact unapplied _ reads _ applies
  · intro unwritten
    constructor
    · rintro applied ⟨layers, of, rfl⟩
      rw [AppliesBlock.eq_block ⟨layers, of, rfl⟩ plain of.top]
      exact plain.blocks _ _ of.top
    · rintro file reads applied ⟨layers, of, rfl⟩
      rcases reads.exists_load loaded with ⟨target, -, rfl, -⟩
      rw [AppliesBlock.eq_block ⟨layers, of, rfl⟩ plain of.top]
      exact unwritten _ reads _ (by simpa only [Route.plain_plain] using of.top)

end Loading

theorem consumed_load_layeredSite :
    (load layeredSite "/s.yaml" (some "prod")).outcome = .ok layeredResult ∧
      layeredSite.Plain (some "prod") ∧ Consumed layeredResult ∧
      (∀ applied, AppliesBlock layeredSite (some "prod") (Route.plain "/s.yaml") applied →
        applied.field? "environments" = none) ∧
      (∀ file, Reads layeredSite "/s.yaml" file → ∀ applied,
        AppliesBlock layeredSite (some "prod") file applied → applied.field? "imports" = none) ∧
      ∀ file, Reads layeredSite "/s.yaml" file →
        ∀ top, (topMapping layeredSite file).outcome = .ok top →
          (block (some "prod") top).field? "imports" = none := by
  have consumed : Consumed layeredResult := ⟨rfl, rfl⟩
  rcases consumed_load_iff load_layeredSite with ⟨exactly, ofPlain⟩
  rcases exactly.mp consumed with ⟨noBlocks, noImports⟩
  exact ⟨load_layeredSite, plain_layeredSite, consumed, noBlocks, noImports,
    (ofPlain plain_layeredSite).mp consumed⟩

/-- A file whose block for an environment lists an import. -/
def blockedFile : Mapping :=
  [(.str "environments", .record [("prod", .record [("imports", .texts ["extra.yaml"])])])]

/-- A site with this file and the file that the block lists, each of which is told by its text. -/
def blockedSite : Site where
  files := { root := [], files := [(["s.yaml"], .text "blocked"), (["extra.yaml"], .text "extra")] }
  valueOf := fun _ => none
  parse := fun text =>
    if text = "blocked" then .ok (.map blockedFile)
    else .ok (.record [("source_alias", .str "extra")])

theorem acyclic_blockedSite : blockedSite.Acyclic := by
  have noImports (file target : Route) : ¬ImportsFile blockedSite file target := by
    rintro ⟨top, items, item, found, path, isTop, listed, isItem, -⟩
    rcases exists_of_topMapping isTop with ⟨text, value, read, rfl⟩
    have unlisted : (entriesOf value).field? "imports" = none := by
      change (if text = "blocked" then _ else _) = _ at read
      split at read <;> cases read <;> rfl
    rw [unlisted] at listed
    cases listed
    cases isItem
  intro file circle
  rcases Relation.TransGen.head'_iff.mp circle with ⟨target, imports, -⟩
  exact noImports file target imports

theorem load_blockedSite :
    (load blockedSite "/s.yaml" (some "prod")).outcome =
      .ok [(.str "imports", .texts ["extra.yaml"])] := by
  have top : (topMapping blockedSite (Route.plain "/s.yaml")).outcome = .ok blockedFile := by
    cbv
  have file : (fileMapping blockedSite (loadTo blockedSite 8) (Route.plain "/s.yaml")
      (some "prod")).outcome = .ok [(.str "imports", .texts ["extra.yaml"])] :=
    (Traced.outcome_bind_of_ok _ top).trans rfl
  change (loadWith blockedSite (loadTo blockedSite 8) "/s.yaml" (some "prod")).outcome = _
  rw [outcome_loadWith_of_leads _ (by rfl), Traced.outcome_bind_of_ok _ file]
  rfl

/-- A block may list imports, which are then left in the configuration. -/
theorem not_consumed_blockedSite :
    ¬∀ (site : Site) (path : Route) (environment : Option String) (result : Mapping),
      site.Acyclic → (load site path environment).outcome = .ok result → Consumed result := by
  intro always
  have consumed := always blockedSite "/s.yaml" (some "prod") _ acyclic_blockedSite load_blockedSite
  cases consumed.imports

end Config

end SqlPipeline
