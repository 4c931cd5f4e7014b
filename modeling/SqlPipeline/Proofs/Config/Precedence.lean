import SqlPipeline.Proofs.Config.Layers

/-!
# Which layer of a configuration wins

The main statement (`resolves_load`) is about any configuration that loads, for any files and any
reader of documents. The configuration resolves its layers, the files among them being loaded in
full: what a layer holds stands unless a stronger layer has its say there, and all that stands comes
from a layer. The blocks of other environments have no part in it: with other blocks for them the
configuration is the same.
-/

namespace SqlPipeline

namespace Config

open Mapping (find? erase)

/-- Two sites have the same files, up to blocks of other environments in them. -/
structure SameBut (environment : Option String) (site other : Site) : Prop where
  leads : ∀ path, other.files.leads path = site.files.leads path
  rest : ∀ path top changed, (topMapping site path).outcome = .ok top →
    (topMapping other path).outcome = .ok changed →
      changed.erase "environments" = top.erase "environments"
  block : ∀ path top changed, (topMapping site path).outcome = .ok top →
    (topMapping other path).outcome = .ok changed →
      block environment changed = block environment top

namespace SameBut

variable {environment : Option String} {site other : Site}

theorem refl (environment : Option String) (site : Site) : SameBut environment site site where
  leads := fun _ => rfl
  rest := by
    intro path top again isTop isTopAgain
    cases isTop.symm.trans isTopAgain
    rfl
  block := by
    intro path top again isTop isTopAgain
    cases isTop.symm.trans isTopAgain
    rfl

theorem unchosen (same : SameBut environment site other) : SameBut none site other where
  leads := same.leads
  rest := same.rest
  block := fun _ _ _ _ _ => rfl

/-- Imports lead to the same places. -/
theorem target? (same : SameBut environment site other) (found : Import) :
    found.target? other.files = found.target? site.files :=
  congrArg found.route?.filter (funext same.leads)

variable {load change : Route → Option String → Traced LoadError Mapping}

theorem beside_eq (same : SameBut environment site other)
    (agree : ∀ path entries changed, (load path none).outcome = .ok entries →
      (change path none).outcome = .ok changed → changed = entries)
    {file : Route} {entries changed : Mapping}
    (loads : BesideLoads site load file environment entries)
    (changes : BesideLoads other change file environment changed) : changed = entries := by
  unfold BesideLoads at loads changes
  rcases isChosen : chosen? environment with _ | name
  · simp only [isChosen] at loads changes
    rw [loads, changes]
  · simp only [isChosen, same.leads] at loads changes
    replace loads := loads.2
    replace changes := changes.2
    split at loads
    · next leads =>
      rw [if_pos leads] at changes
      exact agree _ _ _ loads changes
    · next nowhere =>
      rw [if_neg nowhere] at changes
      rw [loads, changes]

theorem imports_eq (same : SameBut environment site other)
    (agree : ∀ path entries changed, (load path environment).outcome = .ok entries →
      (change path environment).outcome = .ok changed → changed = entries)
    {file : Route} {items : List Value} {imports changed : List Mapping}
    (loads : List.Forall₂ (ImportLoads site load file environment) items imports)
    (changes : List.Forall₂ (ImportLoads other change file environment) items changed) :
    changed = imports := by
  induction loads generalizing changed with
  | nil =>
      cases changes
      rfl
  | cons first _ ih =>
      cases changes with
      | cons firstChanged later =>
          rcases first with ⟨found, target, isFound, leads, loaded⟩
          rcases firstChanged with ⟨again, place, isAgain, leadsAgain, loadedAgain⟩
          rw [isFound] at isAgain
          cases isAgain
          rw [same.target?, leads] at leadsAgain
          cases leadsAgain
          rw [agree _ _ _ loaded loadedAgain, ih later]

/-- The layers of a file at both sites are put together to the same. -/
theorem merged_eq (same : SameBut environment site other)
    (agree : ∀ path entries changed, (load path environment).outcome = .ok entries →
      (change path environment).outcome = .ok changed → changed = entries)
    (agreeBeside : ∀ path entries changed, (load path none).outcome = .ok entries →
      (change path none).outcome = .ok changed → changed = entries)
    {path : Route} {layers changed : Layers} (of : Layers.Of site load path environment layers)
    (ofChanged : Layers.Of other change path environment changed) :
    changed.merged environment = layers.merged environment := by
  have rest := same.rest _ _ _ of.top ofChanged.top
  have ownSame : own changed.top = own layers.top := by
    rw [own, own, Mapping.erase_comm, rest, Mapping.erase_comm]
  have blockSame := same.block _ _ _ of.top ofChanged.top
  have besideSame := same.beside_eq agreeBeside of.beside ofChanged.beside
  have importsSame : changed.imports = layers.imports := by
    rcases of.imports with ⟨items, isItems, loads⟩
    rcases ofChanged.imports with ⟨others, isOthers, changes⟩
    have kept (top : Mapping) :
        (top.erase "environments").field? "imports" = top.field? "imports" := by
      change find? _ (erase _ _) = _
      rw [Mapping.find?_erase]
      rfl
    rw [← kept, rest, kept, isItems] at isOthers
    cases isOthers
    exact same.imports_eq agree loads changes
  rw [Layers.merged, Layers.merged, ownSame, blockSame, besideSame, importsSame]

/-- What loads at both sites is the same. -/
theorem loadTo_eq (same : SameBut environment site other) (plain : site.Plain environment)
    (plainOther : other.Plain environment) {depth more : Nat} {path : Route}
    {entries changed : Mapping}
    (loaded : (loadTo site depth path environment).outcome = .ok entries)
    (loadedOther : (loadTo other more path environment).outcome = .ok changed) :
    changed = entries := by
  induction depth generalizing environment more path entries changed with
  | zero => cases loaded
  | succ depth ih =>
      cases more with
      | zero => cases loadedOther
      | succ more =>
          have tidy := fun path entries => @tidy_loadTo site depth path environment entries plain
          have tidyOther := fun path entries =>
            @tidy_loadTo other more path environment entries plainOther
          rcases exists_layers plain tidy loaded with ⟨layers, of, rfl⟩
          rcases exists_layers plainOther tidyOther loadedOther with ⟨altered, ofAltered, rfl⟩
          apply same.merged_eq _ _ of ofAltered
          · intro path entries changed
            exact ih same plain plainOther
          · intro path entries changed
            exact ih same.unchosen plain.unchosen plainOther.unchosen

end SameBut

/-- A configuration that loads resolves its layers, in which every file is loaded in full, and
blocks of other environments do not change it. -/
theorem resolves_load {site : Site} {path : Route} {environment : Option String} {result : Mapping}
    (plain : site.Plain environment) (loaded : (load site path environment).outcome = .ok result) :
    ∃ layers : Layers, Layers.Of site (load site) path environment layers ∧
      Mapping.Resolves (layers.strongestFirst environment) result ∧
      ∀ (other : Site) (changed : Mapping), SameBut environment site other →
        other.Plain environment → (load other path environment).outcome = .ok changed →
          changed = result := by
  have step : (loadWith site (load site) path environment).outcome = .ok result := by
    rw [← outcome_load_of_settled site (by rw [loaded]; exact settled_ok result), loaded]
  have tidy (path : Route) (entries : Mapping)
      (loaded : (load site path environment).outcome = .ok entries) : Tidy entries :=
    tidy_loadTo (depthFor site) plain loaded
  have tidyBeside (path : Route) (entries : Mapping)
      (loaded : (load site path none).outcome = .ok entries) : Tidy entries :=
    tidy_loadTo (depthFor site) plain.unchosen loaded
  rcases exists_layers plain tidy step with ⟨layers, of, rfl⟩
  refine ⟨layers, of, of.resolves plain tidy tidyBeside, ?_⟩
  intro other changed same plainOther loadedOther
  exact same.loadTo_eq plain plainOther loaded loadedOther

/-- A file that imports another and has a block for each of two environments. -/
def importingFile : Mapping :=
  [(.str "imports", .str "lib/base.yaml"), (.str "source_alias", .str "own"),
    (.str "environments", .record [
      ("prod", .record [("logging", .record [("level", .str "ERROR")])]),
      ("dev", .record [("source_alias", .str "dev")])])]

/-- What it imports. -/
def importedFile : Mapping :=
  [(.str "source_alias", .str "base"),
    (.str "logging", .record [("level", .str "INFO"), ("structured", .bool true)])]

/-- The file of an environment beside it. -/
def besideFile : Mapping := [(.str "target_load_strategy", .str "APPEND")]

/-- A site with these files, each of which is told by its text. -/
def layeredSite : Site where
  files := { root := [], files := [(["s.yaml"], .text "importing"),
    (["lib", "base.yaml"], .text "imported"), (["env.prod.yaml"], .text "beside")] }
  valueOf := fun _ => none
  parse := fun text =>
    if text = "importing" then .ok (.map importingFile)
    else if text = "imported" then .ok (.map importedFile)
    else .ok (.map besideFile)

/-- What is loaded: the alias of the file itself, the level of the block, what is left of the
import, and what the file beside it adds. -/
def layeredResult : Mapping :=
  [(.str "source_alias", .str "own"),
    (.str "logging", .record [("level", .str "ERROR"), ("structured", .bool true)]),
    (.str "target_load_strategy", .str "APPEND")]

theorem unambiguous_layeredSite (text : String) (value : Value)
    (read : layeredSite.parse text = .ok value) : value.Unambiguous := by
  have str (text : String) : (Value.str text).Unambiguous := Value.unambiguous_of_not_isMapping rfl
  have bool (flag : Bool) : (Value.bool flag).Unambiguous := Value.unambiguous_of_not_isMapping rfl
  change (if text = "importing" then _ else if text = "imported" then _ else _) = _ at read
  split at read
  · cases read
    have logging : (Value.record [("level", .str "ERROR")]).Unambiguous :=
      Value.Unambiguous.of_forall (by decide) (by simp [str])
    have prod : (Value.record [("logging", .record [("level", .str "ERROR")])]).Unambiguous :=
      Value.Unambiguous.of_forall (by decide) (by simp [logging])
    have dev : (Value.record [("source_alias", .str "dev")]).Unambiguous :=
      Value.Unambiguous.of_forall (by decide) (by simp [str])
    have blocks : (Value.record [("prod", .record [("logging", .record [("level", .str "ERROR")])]),
        ("dev", .record [("source_alias", .str "dev")])]).Unambiguous :=
      Value.Unambiguous.of_forall (by decide) (by simp [prod, dev])
    exact Value.Unambiguous.of_forall (by decide) (by simp [importingFile, str, blocks])
  · split at read
    · cases read
      have logging :
          (Value.record [("level", .str "INFO"), ("structured", .bool true)]).Unambiguous :=
        Value.Unambiguous.of_forall (by decide) (by simp [str, bool])
      exact Value.Unambiguous.of_forall (by decide) (by simp [importedFile, str, logging])
    · cases read
      exact Value.Unambiguous.of_forall (by decide) (by simp [besideFile, str])

theorem plain_layeredSite : layeredSite.Plain (some "prod") where
  unambiguous := unambiguous_layeredSite
  blocks := by
    intro path top isTop
    rcases exists_of_topMapping isTop with ⟨text, value, read, rfl⟩
    change (if text = "importing" then _ else if text = "imported" then _ else _) = _ at read
    split at read
    · cases read
      rfl
    · split at read <;> cases read <;> rfl

theorem load_layeredSite :
    (load layeredSite "/s.yaml" (some "prod")).outcome = .ok layeredResult := by
  have importing : (topMapping layeredSite (Route.plain "/s.yaml")).outcome = .ok importingFile := by
    cbv
  have imported :
      (topMapping layeredSite (Route.plain "/lib/base.yaml")).outcome = .ok importedFile := by
    cbv
  have beside :
      (topMapping layeredSite (Route.plain "/env.prod.yaml")).outcome = .ok besideFile := by
    cbv
  have loadBase (depth : Nat) :
      (loadTo layeredSite (depth + 1) "/lib/base.yaml" (some "prod")).outcome =
        .ok importedFile := by
    rw [loadTo, outcome_loadWith_of_leads _ (by rfl)]
    have file : (fileMapping layeredSite (loadTo layeredSite depth) (Route.plain "/lib/base.yaml")
        (some "prod")).outcome = .ok importedFile :=
      (Traced.outcome_bind_of_ok _ imported).trans rfl
    rw [Traced.outcome_bind_of_ok _ file]
    rfl
  have loadBeside (depth : Nat) :
      (loadTo layeredSite (depth + 1) "/env.prod.yaml" none).outcome = .ok besideFile := by
    rw [loadTo, outcome_loadWith_of_leads _ (by rfl)]
    have file : (fileMapping layeredSite (loadTo layeredSite depth) (Route.plain "/env.prod.yaml")
        none).outcome = .ok besideFile :=
      (Traced.outcome_bind_of_ok _ beside).trans rfl
    rw [Traced.outcome_bind_of_ok _ file]
    rfl
  have base : ImportLoads layeredSite (loadTo layeredSite 12) (Route.plain "/s.yaml") (some "prod")
      (.str "lib/base.yaml") importedFile :=
    ⟨_, _, rfl, rfl, loadBase 11⟩
  have file : (fileMapping layeredSite (loadTo layeredSite 12) (Route.plain "/s.yaml")
      (some "prod")).outcome = .ok (layeredResult.take 2) := by
    have items : (Traced.ofExcept (importList ((importingFile.field? "imports").getD .null)) :
        Traced LoadError (List Value)).outcome = .ok [.str "lib/base.yaml"] := rfl
    rw [fileMapping, Traced.outcome_bind_of_ok _ importing, Traced.outcome_bind_of_ok _ items,
      Traced.outcome_bind_of_ok _ (outcome_withImports_eq_ok_iff.mpr ⟨_, .cons base .nil, rfl⟩)]
    rfl
  change (loadWith layeredSite (loadTo layeredSite 12) "/s.yaml" (some "prod")).outcome = _
  rw [outcome_loadWith_of_leads _ (by rfl), Traced.outcome_bind_of_ok _ file]
  change ((do
    Traced.tell _ _ _
    overlaid _ (← loadTo layeredSite 12 "/env.prod.yaml" none) :
      Traced LoadError Mapping)).outcome = _
  rw [Traced.outcome_bind_of_ok _ rfl, Traced.outcome_bind_of_ok _ (loadBeside 11)]
  rfl

theorem resolves_load_layeredSite :
    layeredSite.Plain (some "prod") ∧
      (load layeredSite "/s.yaml" (some "prod")).outcome = .ok layeredResult ∧
      ∃ layers : Layers, Layers.Of layeredSite (load layeredSite) "/s.yaml" (some "prod") layers ∧
        Mapping.Resolves (layers.strongestFirst (some "prod")) layeredResult ∧
        ∀ (other : Site) (changed : Mapping), SameBut (some "prod") layeredSite other →
          other.Plain (some "prod") → (load other "/s.yaml" (some "prod")).outcome = .ok changed →
            changed = layeredResult :=
  ⟨plain_layeredSite, load_layeredSite, resolves_load plain_layeredSite load_layeredSite⟩

end Config

end SqlPipeline
