import SqlPipeline.Proofs.Config.Depth
import SqlPipeline.Proofs.Config.Imports

/-!
# Why loading fails

One step of loading has a fixed number of ways to fail: the path leads nowhere, the file cannot be
read, what it lists as imports is no list, an import fails, its blocks or the chosen block are no
mapping, or the file of the environment beside it cannot be loaded. `TopFails`, `FileFails` and
`LoadFails` have one constructor for each, with what is known when it happens, and there is no other
way (`loadFails_of_loadWith`).
-/

namespace SqlPipeline

namespace Config

/-- The mapping at the top of a file cannot be read. -/
inductive TopFails (site : Site) (file : Route) : LoadError → Prop where
  | noFile (noFile : ∀ content, site.files.look? file ≠ some (.file content)) :
      TopFails site file (.directory file)
  | notText (error : Text.DecodeError) : TopFails site file (.notText error)
  | unset (name : String) : TopFails site file (.unset name)
  | unreadable {text : String} {fault : Yaml.Fault} (unread : site.parse text = .error fault) :
      TopFails site file (.unreadable fault)
  | notMapping : TopFails site file (.notMapping file)

/-- A file cannot be loaded by itself, with its imports and with its block. -/
inductive FileFails (site : Site) (load : Route → Option String → Traced LoadError Mapping)
    (file : Route) (environment : Option String) : LoadError → Prop where
  | top {error : LoadError} (fails : TopFails site file error) :
      FileFails site load file environment error
  | unlisted {top : Mapping} {error : LoadError} (isTop : (topMapping site file).outcome = .ok top)
      (unlisted : importList ((top.field? "imports").getD .null) = .error error) :
      FileFails site load file environment error
  | imports {top : Mapping} {before after : List Value} {item : Value} {imports : List Mapping}
      {error : LoadError} (isTop : (topMapping site file).outcome = .ok top)
      (listed : importList ((top.field? "imports").getD .null) = .ok (before ++ item :: after))
      (earlier : List.Forall₂ (ImportLoads site load file environment) before imports)
      (fails : ImportFails site load file environment item error) :
      FileFails site load file environment error
  | blocks : FileFails site load file environment (.environmentsNotMapping file)
  | block (name : String) : FileFails site load file environment (.environmentNotMapping name file)

/-- A configuration cannot be loaded. -/
inductive LoadFails (site : Site) (load : Route → Option String → Traced LoadError Mapping)
    (path : Route) (environment : Option String) : LoadError → Prop where
  | nowhere (nowhere : site.files.leads path = false) :
      LoadFails site load path environment (.noFile path)
  | file {error : LoadError} (leads : site.files.leads path = true)
      (fails : FileFails site load path.plain environment error) :
      LoadFails site load path environment error
  | unjoined {name : String} {data : Mapping} (leads : site.files.leads path = true)
      (isChosen : chosen? environment = some name)
      (isData : (fileMapping site load path.plain environment).outcome = .ok data)
      (inBytes : path.inBytes = true) : LoadFails site load path environment .mixedPath
  | beside {name : String} {data : Mapping} {error : LoadError}
      (leads : site.files.leads path = true) (isChosen : chosen? environment = some name)
      (isData : (fileMapping site load path.plain environment).outcome = .ok data)
      (leadsBeside :
        site.files.leads (environmentFile path.plain.directory name) = true)
      (fails : (load (environmentFile path.plain.directory name) none).outcome =
        .error error) :
      LoadFails site load path environment error

theorem eq_of_mappingOr_error {error other : LoadError} {value : Value}
    (failed : mappingOr error value = .error other) : other = error := by
  unfold mappingOr at failed
  split at failed
  · cases failed
  · split at failed <;> cases failed
    rfl

section Steps

variable {site : Site} {load : Route → Option String → Traced LoadError Mapping}
variable {file path : Route} {environment : Option String} {error : LoadError}

theorem topFails_of_substituted (failed : (substituted site file).outcome = .error error) :
    TopFails site file error := by
  rcases Traced.outcome_bind_eq_error_iff.mp failed with looking | ⟨content, -, reading⟩
  · change contentAt site file = .error error at looking
    unfold contentAt at looking
    split at looking
    · cases looking
    · next noFile =>
      cases looking
      exact .noFile noFile
  · rcases Traced.outcome_bind_eq_error_iff.mp reading with decoding | ⟨text, -, replacing⟩
    · rcases decoded : content.read with cause | text
      · rw [decoded] at decoding
        cases decoding
        exact .notText cause
      · rw [decoded] at decoding
        cases decoding
    · split at replacing
      · cases replacing
      · cases replacing
        exact .unset _

theorem topFails_of_topMapping (failed : (topMapping site file).outcome = .error error) :
    TopFails site file error := by
  rcases Traced.outcome_bind_eq_error_iff.mp failed with reading | ⟨text, -, parsing⟩
  · exact topFails_of_substituted reading
  · rcases parsed : site.parse text with fault | value
    · simp only [parsed] at parsing
      have isFault : error = .unreadable fault := by
        split at parsing <;> cases parsing <;> rfl
      rw [isFault]
      exact .unreadable parsed
    · simp only [parsed] at parsing
      rw [eq_of_mappingOr_error parsing]
      exact .notMapping

/-- A file that was read is one of the files of the site. -/
theorem mem_files_of_topMapping {top : Mapping} (isTop : (topMapping site file).outcome = .ok top) :
    Path.plainNames file.path ∈ site.files.files.map Prod.fst := by
  rcases Traced.outcome_bind_eq_ok_iff.mp isTop with ⟨text, isText, -⟩
  rcases Traced.outcome_bind_eq_ok_iff.mp isText with ⟨content, looked, -⟩
  change contentAt site file = .ok content at looked
  unfold contentAt at looked
  split at looked
  · next found =>
    rw [FileTree.look?, FileTree.place?] at found
    split at found
    · next names _ isEntry =>
      have same := List.find?_some isEntry
      rw [beq_iff_eq] at same
      exact List.mem_map.mpr ⟨_, List.mem_of_find?_eq_some isEntry, same⟩
    · split at found <;> cases found
  · cases looked

theorem exists_name_of_withBlock {blocks data : Mapping}
    (failed : (withBlock file blocks environment data).outcome = .error error) :
    ∃ name, error = .environmentNotMapping name file := by
  unfold withBlock at failed
  split at failed
  · cases failed
  · next name _ =>
    split at failed
    · cases failed
    · rcases Traced.outcome_bind_eq_error_iff.mp failed with shaping | ⟨entries, -, overlaying⟩
      · exact ⟨name, eq_of_mappingOr_error shaping⟩
      · cases overlaying

theorem fileFails_of_fileMapping
    (failed : (fileMapping site load file environment).outcome = .error error) :
    FileFails site load file environment error := by
  rcases Traced.outcome_bind_eq_error_iff.mp failed with reading | ⟨top, isTop, listing⟩
  · exact .top (topFails_of_topMapping reading)
  rcases Traced.outcome_bind_eq_error_iff.mp listing with unlisted | ⟨items, listed, importing⟩
  · exact .unlisted isTop unlisted
  rcases Traced.outcome_bind_eq_error_iff.mp importing with unmerged | ⟨data, -, blocking⟩
  · rcases outcome_withImports_eq_error_iff.mp unmerged with
      ⟨before, item, after, imports, rfl, earlier, fails⟩
    exact .imports isTop listed earlier fails
  rcases Traced.outcome_bind_eq_error_iff.mp blocking with shaping | ⟨blocks, -, overlaying⟩
  · rw [eq_of_mappingOr_error shaping]
    exact .blocks
  · rcases exists_name_of_withBlock overlaying with ⟨name, rfl⟩
    exact .block name

/-- An import that fails after others have loaded is how the file fails. -/
theorem outcome_fileMapping_of_importFails {top : Mapping} {before after : List Value}
    {item : Value} {imports : List Mapping} (isTop : (topMapping site file).outcome = .ok top)
    (listed : importList ((top.field? "imports").getD .null) = .ok (before ++ item :: after))
    (earlier : List.Forall₂ (ImportLoads site load file environment) before imports)
    (fails : ImportFails site load file environment item error) :
    (fileMapping site load file environment).outcome = .error error := by
  have importing : (withImports site file (fun path => load path environment)
      (before ++ item :: after) (top.erase "imports")).outcome = .error error :=
    outcome_withImports_eq_error_iff.mpr ⟨before, item, after, imports, rfl, earlier, fails⟩
  rw [fileMapping, Traced.outcome_bind_of_ok _ isTop,
    Traced.outcome_bind_of_ok _ ((Traced.outcome_ofExcept _).trans listed)]
  exact Traced.outcome_bind_of_error _ importing

/-- How one step of loading fails. -/
theorem loadFails_of_loadWith
    (failed : (loadWith site load path environment).outcome = .error error) :
    LoadFails site load path environment error := by
  rcases leads : site.files.leads path
  · rw [outcome_loadWith_of_nowhere _ leads] at failed
    cases failed
    exact .nowhere leads
  · rw [outcome_loadWith_of_leads _ leads] at failed
    rcases Traced.outcome_bind_eq_error_iff.mp failed with filing | ⟨data, isData, overlaying⟩
    · exact .file leads (fileFails_of_fileMapping filing)
    · unfold withOverlay at overlaying
      split at overlaying
      · cases overlaying
      · next name isChosen =>
        split at overlaying
        · next inBytes =>
          cases overlaying
          exact .unjoined leads isChosen isData inBytes
        · dsimp only at overlaying
          split at overlaying
          · next leadsBeside =>
            rcases Traced.outcome_bind_eq_error_iff.mp overlaying with telling | ⟨_, -, loading⟩
            · cases telling
            rcases Traced.outcome_bind_eq_error_iff.mp loading with failing | ⟨beside, -, last⟩
            · exact .beside leads isChosen isData leadsBeside failing
            · cases last
          · cases overlaying

end Steps

end Config

end SqlPipeline
