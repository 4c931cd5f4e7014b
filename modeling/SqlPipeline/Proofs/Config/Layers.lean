import SqlPipeline.Proofs.Config.Depth
import SqlPipeline.Proofs.Config.Imports
import SqlPipeline.Proofs.Yaml.DistinctKeys

/-!
# Configurations as layers

What is loaded from a file is put together from layers: the file of the chosen environment beside
it, the block of that environment in it, what else is in it, and its imports in the order in which
they are listed. The first of these is the strongest. One step of loading combines the layers
(`exists_combined`), which puts them together where no import brings blocks (`exists_layers`), and
then what it gives resolves them (`Layers.Of.resolves`).

Two things are asked of the files (`Site.Plain`): a document has no key twice, as the reader of
documents sees to (`Site.plain_of_read`), and the block of the chosen environment has no blocks of
environments of its own. Such blocks would be taken for blocks of the file that imports them.
-/

namespace SqlPipeline

namespace Config

open Mapping (find? erase overlay atop)

/-- The entries of a mapping; nothing else has any. -/
def entriesOf : Value → Mapping
  | .map entries => entries
  | _ => []

/-- What a file holds besides its imports and its blocks. -/
def own (top : Mapping) : Mapping :=
  (top.erase "imports").erase "environments"

/-- What a mapping of blocks holds for an environment. -/
def blockIn (environment : Option String) (blocks : Mapping) : Mapping :=
  match chosen? environment with
  | none => []
  | some name => entriesOf ((blocks.field? name).getD .null)

/-- The block of an environment in a file. -/
def block (environment : Option String) (top : Mapping) : Mapping :=
  blockIn environment (entriesOf ((top.field? "environments").getD .null))

/-- What the file of an environment beside a file has, if there is one. It cannot be looked for beside
a file whose path is given in bytes. -/
def BesideLoads (site : Site) (load : Route → Option String → Traced LoadError Mapping)
    (file : Route) (environment : Option String) (entries : Mapping) : Prop :=
  match chosen? environment with
  | none => entries = []
  | some name =>
    file.inBytes = false ∧
      if site.files.leads (environmentFile file.directory name) then
        (load (environmentFile file.directory name) none).outcome = .ok entries
      else entries = []

/-- The parts of a configuration: what is in the file itself, what the file of the environment
beside it loads, and what its imports load. -/
structure Layers where
  top : Mapping
  beside : Mapping
  imports : List Mapping

namespace Layers

/-- The layers, the strongest first. -/
def strongestFirst (layers : Layers) (environment : Option String) : List Mapping :=
  layers.beside :: block environment layers.top :: own layers.top :: layers.imports

/-- The layers put together. -/
def merged (layers : Layers) (environment : Option String) : Mapping :=
  overlay (overlay (atop layers.imports (own layers.top)) (block environment layers.top))
    layers.beside

/-- The file over its imports, with the blocks of all of them. -/
def overImports (layers : Layers) : Mapping :=
  atop layers.imports (layers.top.erase "imports")

/-- The layers as one step of loading combines them: the block that is applied is the one that is
found over the imports. -/
def combined (layers : Layers) (environment : Option String) : Mapping :=
  overlay (overlay (layers.overImports.erase "environments") (block environment layers.overImports))
    layers.beside

/-- The layers of a file, in which other files are loaded by the given function. -/
structure Of (site : Site) (load : Route → Option String → Traced LoadError Mapping)
    (path : Route) (environment : Option String) (layers : Layers) : Prop where
  top : (topMapping site path.plain).outcome = .ok layers.top
  imports : ∃ items, importList ((layers.top.field? "imports").getD .null) = .ok items ∧
    List.Forall₂ (ImportLoads site load path.plain environment) items layers.imports
  beside : BesideLoads site load path.plain environment layers.beside

end Layers

theorem mappingOr_eq_ok {error : LoadError} {value : Value} {entries : Mapping}
    (read : mappingOr error value = .ok entries) : entries = entriesOf value := by
  unfold mappingOr at read
  split at read
  · cases read
    rfl
  · next notMapping =>
    split at read
    · cases read
    · cases read
      cases value with
      | map below => exact absurd rfl (notMapping below)
      | _ => rfl

/-- What is at the top of a file are the entries of a document. -/
theorem exists_of_topMapping {site : Site} {path : Route} {top : Mapping}
    (isTop : (topMapping site path).outcome = .ok top) :
    ∃ text value, site.parse text = .ok value ∧ top = entriesOf value := by
  rcases Traced.outcome_bind_eq_ok_iff.mp isTop with ⟨text, -, onward⟩
  rcases parsed : site.parse text with fault | value
  · simp only [parsed] at onward
    split at onward <;> cases onward
  · simp only [parsed] at onward
    exact ⟨text, value, parsed, mappingOr_eq_ok onward⟩

section Steps

variable {site : Site} {load : Route → Option String → Traced LoadError Mapping}
variable {file : Route} {environment : Option String}

theorem eq_of_withBlock {blocks data result : Mapping}
    (loaded : (withBlock file blocks environment data).outcome = .ok result) :
    result = overlay data (blockIn environment blocks) := by
  unfold withBlock at loaded
  rcases isChosen : chosen? environment with _ | name
  · simp only [isChosen] at loaded
    cases loaded
    simp [blockIn, isChosen]
  · simp only [isChosen] at loaded
    rcases present : blocks.field? name with _ | value
    · simp only [present] at loaded
      cases loaded
      simp [blockIn, isChosen, present, entriesOf]
    · simp only [present] at loaded
      rcases Traced.outcome_bind_eq_ok_iff.mp loaded with ⟨entries, isEntries, onward⟩
      rcases Traced.outcome_bind_eq_ok_iff.mp onward with ⟨_, -, last⟩
      cases last
      simp [blockIn, isChosen, present, mappingOr_eq_ok isEntries]

theorem exists_of_withOverlay {data result : Mapping}
    (loaded : (withOverlay site file (fun path => load path none) environment data).outcome =
      .ok result) :
    ∃ beside, BesideLoads site load file environment beside ∧ result = overlay data beside := by
  unfold withOverlay at loaded
  rcases isChosen : chosen? environment with _ | name
  · simp only [isChosen] at loaded
    cases loaded
    exact ⟨[], by simp [BesideLoads, isChosen], by simp⟩
  · simp only [isChosen] at loaded
    split at loaded
    · cases loaded
    · next isText =>
      have isText : file.inBytes = false := by simpa using isText
      split at loaded
      · next leads =>
        rcases Traced.outcome_bind_eq_ok_iff.mp loaded with ⟨_, -, onward⟩
        rcases Traced.outcome_bind_eq_ok_iff.mp onward with ⟨beside, isBeside, last⟩
        cases last
        exact ⟨beside, by simpa [BesideLoads, isChosen, isText, leads] using isBeside, rfl⟩
      · next nowhere =>
        cases loaded
        exact ⟨[], by simp [BesideLoads, isChosen, isText, nowhere], by simp⟩

end Steps

/-- What is asked of the files for an environment. -/
structure Site.Plain (site : Site) (environment : Option String) : Prop where
  /-- Documents have no key twice. -/
  unambiguous : ∀ text value, site.parse text = .ok value → value.Unambiguous
  /-- The block of the environment in a file has no blocks of its own. -/
  blocks : ∀ path top, (topMapping site path).outcome = .ok top →
    (block environment top).field? "environments" = none

/-- Where files are read as documents, only the blocks are left to be asked about. -/
theorem Site.plain_of_read {site : Site} {environment : Option String}
    (reads : site.parse = Yaml.read)
    (blocks : ∀ path top, (topMapping site path).outcome = .ok top →
      (block environment top).field? "environments" = none) : site.Plain environment where
  unambiguous := by
    intro text value spelled
    rw [reads] at spelled
    exact Yaml.unambiguous_of_read spelled
  blocks := blocks

/-- Entries that can be layered: no key comes twice, and no blocks are left in them. -/
structure Tidy (entries : Mapping) : Prop where
  unambiguous : (Value.map entries).Unambiguous
  unblocked : entries.field? "environments" = none

theorem unambiguous_empty : (Value.map []).Unambiguous := by
  apply Value.Unambiguous.of_distinct Mapping.distinct_nil
  intro key value found
  cases found

theorem tidy_empty : Tidy [] := ⟨unambiguous_empty, rfl⟩

theorem Tidy.overlay {weaker stronger : Mapping} (lower : Tidy weaker) (upper : Tidy stronger) :
    Tidy (overlay weaker stronger) where
  unambiguous := Mapping.unambiguous_overlay lower.unambiguous upper.unambiguous
  unblocked := Mapping.find?_overlay_eq_none_iff.mpr ⟨lower.unblocked, upper.unblocked⟩

theorem unambiguous_entriesOf {value : Value} (unambiguous : value.Unambiguous) :
    (Value.map (entriesOf value)).Unambiguous := by
  cases value with
  | map entries => exact unambiguous
  | _ => exact unambiguous_empty

/-- What is at a name in an unambiguous mapping is unambiguous, if anything is there. -/
theorem unambiguous_entriesOf_field? {entries : Mapping}
    (unambiguous : (Value.map entries).Unambiguous) (name : String) :
    (Value.map (entriesOf ((entries.field? name).getD .null))).Unambiguous := by
  apply unambiguous_entriesOf
  rcases found : entries.field? name with _ | value
  · exact Value.unambiguous_of_not_isMapping rfl
  · exact unambiguous.of_find? found

namespace Site.Plain

variable {site : Site} {environment : Option String}

/-- Where no environment is chosen no block matters. -/
theorem unchosen (plain : site.Plain environment) : site.Plain none where
  unambiguous := plain.unambiguous
  blocks := fun _ _ _ => rfl

theorem unambiguous_top (plain : site.Plain environment) {path : Route} {top : Mapping}
    (isTop : (topMapping site path).outcome = .ok top) : (Value.map top).Unambiguous := by
  rcases exists_of_topMapping isTop with ⟨text, value, parsed, rfl⟩
  exact unambiguous_entriesOf (plain.unambiguous text value parsed)

theorem tidy_own (plain : site.Plain environment) {path : Route} {top : Mapping}
    (isTop : (topMapping site path).outcome = .ok top) : Tidy (own top) where
  unambiguous := ((plain.unambiguous_top isTop).erase _).erase _
  unblocked := by
    change find? _ (erase _ _) = _
    rw [Mapping.find?_erase]
    simp

theorem tidy_block (plain : site.Plain environment) {path : Route} {top : Mapping}
    (isTop : (topMapping site path).outcome = .ok top) : Tidy (block environment top) where
  unambiguous := by
    unfold block blockIn
    split
    · exact unambiguous_empty
    · exact unambiguous_entriesOf_field?
        (unambiguous_entriesOf_field? (plain.unambiguous_top isTop) _) _
  unblocked := plain.blocks path top isTop

end Site.Plain

namespace Layers

/-- Where no import brings blocks the block of the file itself is applied. -/
theorem block_overImports (layers : Layers) (unambiguous : (Value.map layers.top).Unambiguous)
    (tidy : ∀ imported ∈ layers.imports, Tidy imported) (environment : Option String) :
    block environment layers.overImports = block environment layers.top := by
  have unerased : (layers.top.erase "imports").field? "environments" =
      layers.top.field? "environments" := by
    change find? _ (erase _ _) = _
    rw [Mapping.find?_erase]
    rfl
  have sameBlocks : layers.overImports.field? "environments" =
      (layers.top.erase "imports").field? "environments" :=
    Mapping.find?_atop (unambiguous.erase "imports")
      (fun imported member => (tidy imported member).unambiguous)
      fun imported member => (tidy imported member).unblocked
  rw [block, block, sameBlocks, unerased]

theorem combined_eq_merged (layers : Layers) (unambiguous : (Value.map layers.top).Unambiguous)
    (tidy : ∀ imported ∈ layers.imports, Tidy imported) (environment : Option String) :
    layers.combined environment = layers.merged environment := by
  have sameOwn : layers.overImports.erase "environments" = atop layers.imports (own layers.top) :=
    Mapping.erase_atop _ fun imported member => (tidy imported member).unblocked
  rw [combined, merged, layers.block_overImports unambiguous tidy, sameOwn]

end Layers

section Step

variable {site : Site} {load : Route → Option String → Traced LoadError Mapping}
variable {path : Route} {environment : Option String} {layers : Layers}

/-- Every import in layers was loaded. -/
theorem Layers.Of.exists_load (of : Layers.Of site load path environment layers)
    {imported : Mapping} (member : imported ∈ layers.imports) :
    ∃ target, (load target environment).outcome = .ok imported := by
  rcases of.imports with ⟨items, -, loads⟩
  rcases exists_mem_of_forall₂ loads member with ⟨item, -, found, target, -, -, isLoaded⟩
  exact ⟨target, isLoaded⟩

theorem Layers.Of.tidy_imports (of : Layers.Of site load path environment layers)
    (tidy : ∀ path entries, (load path environment).outcome = .ok entries → Tidy entries) :
    ∀ imported ∈ layers.imports, Tidy imported := by
  intro imported member
  rcases of.exists_load member with ⟨target, loaded⟩
  exact tidy target imported loaded

/-- What the file beside it has was loaded without an environment, if it has anything. -/
theorem Layers.Of.beside_eq_nil_or_exists_load (of : Layers.Of site load path environment layers) :
    layers.beside = [] ∨ ∃ target, (load target none).outcome = .ok layers.beside := by
  have beside := of.beside
  unfold BesideLoads at beside
  split at beside
  · exact Or.inl beside
  · rcases beside with ⟨-, beside⟩
    split at beside
    · exact Or.inr ⟨_, beside⟩
    · exact Or.inl beside

theorem Layers.Of.tidy_beside (of : Layers.Of site load path environment layers)
    (tidy : ∀ path entries, (load path none).outcome = .ok entries → Tidy entries) :
    Tidy layers.beside := by
  rcases of.beside_eq_nil_or_exists_load with empty | ⟨target, loaded⟩
  · rw [empty]
    exact tidy_empty
  · exact tidy target _ loaded

/-- What one step of loading gives is combined from layers. -/
theorem exists_combined {result : Mapping}
    (loaded : (loadWith site load path environment).outcome = .ok result) :
    ∃ layers, Layers.Of site load path environment layers ∧
      result = layers.combined environment := by
  rcases Traced.outcome_bind_eq_ok_iff.mp loaded with ⟨_, -, onward⟩
  split at onward
  · rcases Traced.outcome_bind_eq_ok_iff.mp onward with ⟨data, isData, overlaying⟩
    rcases Traced.outcome_bind_eq_ok_iff.mp overlaying with ⟨whole, isWhole, last⟩
    cases last
    rcases Traced.outcome_bind_eq_ok_iff.mp isData with ⟨top, isTop, importing⟩
    rcases Traced.outcome_bind_eq_ok_iff.mp importing with ⟨items, isItems, merging⟩
    rcases Traced.outcome_bind_eq_ok_iff.mp merging with ⟨withAll, isWithAll, blocking⟩
    rcases Traced.outcome_bind_eq_ok_iff.mp blocking with ⟨blocks, isBlocks, isBlocked⟩
    rcases outcome_withImports_eq_ok_iff.mp isWithAll with ⟨imports, loads, rfl⟩
    rcases exists_of_withOverlay isWhole with ⟨beside, besideLoads, rfl⟩
    refine ⟨⟨top, beside, imports⟩, ⟨isTop, ⟨items, isItems, loads⟩, besideLoads⟩, ?_⟩
    rw [eq_of_withBlock isBlocked, mappingOr_eq_ok isBlocks]
    rfl
  · cases onward

/-- What one step of loading gives is put together from layers. -/
theorem exists_layers (plain : site.Plain environment)
    (tidy : ∀ path entries, (load path environment).outcome = .ok entries → Tidy entries)
    {result : Mapping} (loaded : (loadWith site load path environment).outcome = .ok result) :
    ∃ layers, Layers.Of site load path environment layers ∧ result = layers.merged environment := by
  rcases exists_combined loaded with ⟨layers, of, rfl⟩
  exact ⟨layers, of,
    layers.combined_eq_merged (plain.unambiguous_top of.top) (of.tidy_imports tidy) environment⟩

theorem Layers.Of.tidy_merged (of : Layers.Of site load path environment layers)
    (plain : site.Plain environment)
    (tidy : ∀ path entries, (load path environment).outcome = .ok entries → Tidy entries)
    (tidyBeside : ∀ path entries, (load path none).outcome = .ok entries → Tidy entries) :
    Tidy (layers.merged environment) := by
  have imports := of.tidy_imports tidy
  have isOwn := plain.tidy_own of.top
  apply Tidy.overlay _ (of.tidy_beside tidyBeside)
  apply Tidy.overlay _ (plain.tidy_block of.top)
  exact ⟨Mapping.unambiguous_atop isOwn.unambiguous fun imported member =>
      (imports imported member).unambiguous,
    Mapping.find?_atop_eq_none_iff.mpr ⟨isOwn.unblocked, fun imported member =>
      (imports imported member).unblocked⟩⟩

theorem Layers.Of.resolves (of : Layers.Of site load path environment layers)
    (plain : site.Plain environment)
    (tidy : ∀ path entries, (load path environment).outcome = .ok entries → Tidy entries)
    (tidyBeside : ∀ path entries, (load path none).outcome = .ok entries → Tidy entries) :
    Mapping.Resolves (layers.strongestFirst environment) (layers.merged environment) := by
  have base : Mapping.Resolves (own layers.top :: layers.imports)
      (atop layers.imports (own layers.top)) :=
    (Mapping.Resolves.single (own layers.top)).atop (plain.tidy_own of.top).unambiguous
      fun imported member => (of.tidy_imports tidy imported member).unambiguous
  have blocked := (Mapping.Resolves.single (block environment layers.top)).overlay base
    (plain.tidy_block of.top).unambiguous
  exact (Mapping.Resolves.single layers.beside).overlay blocked
    (of.tidy_beside tidyBeside).unambiguous

end Step

/-- Whatever is loaded can be layered. -/
theorem tidy_loadTo {site : Site} (depth : Nat) {path : Route} {environment : Option String}
    {entries : Mapping} (plain : site.Plain environment)
    (loaded : (loadTo site depth path environment).outcome = .ok entries) : Tidy entries := by
  induction depth generalizing path environment entries with
  | zero => cases loaded
  | succ depth ih =>
      rcases exists_layers plain (fun path entries => ih plain) loaded with ⟨layers, of, rfl⟩
      exact of.tidy_merged plain (fun path entries => ih plain)
        fun path entries => ih plain.unchosen

end Config

end SqlPipeline
