import SqlPipeline.Config.Settings
import SqlPipeline.Proofs.Config.Acyclic
import SqlPipeline.Proofs.Config.Layers
import SqlPipeline.Proofs.Validation.Settings

/-!
# How loading settings fails

Most failures of loading settings are errors about the settings file. Files that are not there are
the exception: the settings file itself, and an import that the settings file or the file of the
environment beside it names directly (`Missing`). An import of an import that is not there is an
error about the settings file like any other, because it makes its import fail
(`outcome_loadSettings_cases`).
-/

namespace SqlPipeline

namespace Config

/-- The reader of documents fails on malformed documents and on values that it cannot make. -/
def Site.ReadsOrRefuses (site : Site) : Prop :=
  ∀ text fault, site.parse text = .error fault →
    LoadError.faultKind fault = .badDocument ∨ LoadError.faultKind fault = .badValue

/-- What a path leads to, if anything, is a file, and its imports are named by texts. -/
def Site.NamesImports (site : Site) (path : Route) : Prop :=
  site.files.leads path = true →
    (∃ content, site.files.look? path.plain = some (.file content)) ∧
      ∀ top, (topMapping site path.plain).outcome = .ok top →
        ∃ names : List String,
          importList ((top.field? "imports").getD .null) = .ok (names.map .str)

/-- Of the imports of a file the first that cannot be loaded is not there. -/
def MissesImport (site : Site) (file : Route) (environment : Option String) : Prop :=
  ∃ top before item after imports found, (topMapping site file).outcome = .ok top ∧
    importList ((top.field? "imports").getD .null) = .ok (before ++ item :: after) ∧
    List.Forall₂ (ImportLoads site (load site) file environment) before imports ∧
    importNamed file.directory item = .ok found ∧ found.target? site.files = none

/-- Loading comes to a file that is not there before anything else is wrong. -/
inductive Missing (site : Site) (path : String) (environment : Option String) : Prop where
  /-- The path leads nowhere. -/
  | path (nowhere : site.files.leads path = false)
  /-- The file names an import that is not there. -/
  | imported (misses : MissesImport site (Route.plain path) environment)
  /-- The file of the environment beside it names an import that is not there. -/
  | besideImported {name : String} {data : Mapping} (isChosen : chosen? environment = some name)
      (isData : (fileMapping site (load site) (Route.plain path) environment).outcome = .ok data)
      (leads : site.files.leads (environmentFile (Route.plain path).directory name) = true)
      (misses : MissesImport site
        (environmentFile (Route.plain path).directory name).plain none)

section Kinds

variable {site : Site} {file path : Route} {environment : Option String} {error : LoadError}

theorem concernsSettings_of_missingFile (kind : error.kind = .missingFile) :
    error.concernsSettings = false := by
  rw [LoadError.concernsSettings, kind]
  rfl

theorem TopFails.concernsSettings (refuses : site.ReadsOrRefuses) {content : Content}
    (isFile : site.files.look? file = some (.file content)) (fails : TopFails site file error) :
    error.concernsSettings = true := by
  cases fails with
  | noFile noFile => exact absurd isFile (noFile content)
  | unreadable unread =>
      rcases refuses _ _ unread with kind | kind <;>
        simp [LoadError.concernsSettings, LoadError.kind, kind]
  | _ => rfl

/-- A file whose imports are named by texts misses an import, or its failure is an error about the
settings. -/
theorem FileFails.missesImport_or_concernsSettings (refuses : site.ReadsOrRefuses)
    (isText : path.inBytes = false) (names : site.NamesImports path) (leads : site.files.leads path = true)
    (fails : FileFails site (load site) path.plain environment error) :
    (MissesImport site path.plain environment ∧ error.kind = .missingFile) ∨
      error.concernsSettings = true := by
  rcases names leads with ⟨⟨content, isFile⟩, named⟩
  cases fails with
  | top fails => exact Or.inr (fails.concernsSettings refuses isFile)
  | unlisted isTop unlisted =>
      rcases named _ isTop with ⟨texts, listed⟩
      rw [listed] at unlisted
      cases unlisted
  | @imports top before after item imports _ isTop listed earlier fails =>
      cases fails with
      | unnamed unnamed =>
          rcases named _ isTop with ⟨texts, isTexts⟩
          rw [listed, Except.ok.injEq] at isTexts
          have inTexts : item ∈ texts.map Value.str := by
            rw [← isTexts]
            simp
          rcases List.mem_map.mp inTexts with ⟨text, -, rfl⟩
          have inText : path.plain.directory.inBytes = false := isText
          rw [importNamed, inText] at unnamed
          cases unnamed
      | missing isNamed nowhere =>
          exact Or.inl ⟨⟨top, before, item, after, imports, _, isTop, listed, earlier, isNamed,
            nowhere⟩, rfl⟩
      | failed => exact Or.inr rfl
  | blocks => exact Or.inr rfl
  | block => exact Or.inr rfl

theorem exists_of_missesImport (misses : MissesImport site file environment) :
    ∃ error, (fileMapping site (load site) file environment).outcome = .error error ∧
      error.kind = .missingFile := by
  rcases misses with
    ⟨top, before, item, after, imports, found, isTop, listed, earlier, named, nowhere⟩
  exact ⟨_, outcome_fileMapping_of_importFails isTop listed earlier (.missing named nowhere), rfl⟩

/-- A load of a file that misses an import fails for it. -/
theorem exists_of_leads_of_missesImport (acyclic : site.Acyclic)
    (leads : site.files.leads path = true)
    (misses : MissesImport site path.plain environment) :
    ∃ error, (load site path environment).outcome = .error error ∧ error.kind = .missingFile := by
  rcases exists_of_missesImport misses with ⟨error, failed, kind⟩
  refine ⟨error, ?_, kind⟩
  rw [outcome_load_of_settled site (settled_load acyclic path environment),
    outcome_loadWith_of_leads _ leads]
  exact Traced.outcome_bind_of_error _ failed

/-- Loading fails for a file that is not there if it comes to one. -/
theorem exists_of_missing {path : String} (acyclic : site.Acyclic) (missing : Missing site path environment) :
    ∃ error, (load site path environment).outcome = .error error ∧ error.kind = .missingFile := by
  rcases leads : site.files.leads path
  · refine ⟨.noFile path, ?_, rfl⟩
    rw [outcome_load_of_settled site (settled_load acyclic path environment),
      outcome_loadWith_of_nowhere _ leads]
  cases missing with
  | path nowhere =>
      rw [leads] at nowhere
      cases nowhere
  | imported misses => exact exists_of_leads_of_missesImport acyclic leads misses
  | @besideImported name data isChosen isData leadsBeside misses =>
      rcases exists_of_leads_of_missesImport acyclic leadsBeside misses with ⟨error, failed, kind⟩
      refine ⟨error, ?_, kind⟩
      rw [outcome_load_of_settled site (settled_load acyclic path environment),
        outcome_loadWith_of_leads _ leads, Traced.outcome_bind_of_ok _ isData]
      have isText : (Route.plain path).inBytes = false := rfl
      simp only [withOverlay, isChosen, isText, Bool.false_eq_true, if_false, if_pos leadsBeside]
      rw [Traced.outcome_bind_of_ok _ (Traced.outcome_tell _ _ _)]
      exact Traced.outcome_bind_of_error _ failed

/-- A failure of loading is for a file that is not there, or it is an error about the settings. -/
theorem missing_or_concernsSettings {path : String} (refuses : site.ReadsOrRefuses) (acyclic : site.Acyclic)
    (file : site.NamesImports path)
    (beside : ∀ name, chosen? environment = some name →
      site.NamesImports (environmentFile (Route.plain path).directory name))
    (failed : (load site path environment).outcome = .error error) :
    (Missing site path environment ∧ error.kind = .missingFile) ∨
      error.concernsSettings = true := by
  rw [outcome_load_of_settled site (settled_load acyclic path environment)] at failed
  cases loadFails_of_loadWith failed with
  | nowhere nowhere => exact Or.inl ⟨.path nowhere, rfl⟩
  | file leads fails =>
      rcases fails.missesImport_or_concernsSettings refuses rfl file leads with
        ⟨misses, kind⟩ | concerns
      · exact Or.inl ⟨.imported misses, kind⟩
      · exact Or.inr concerns
  | unjoined _ _ _ inBytes => cases inBytes
  | @beside name data _ leads isChosen isData leadsBeside failedBeside =>
      rw [outcome_load_of_settled site (settled_load acyclic _ none)] at failedBeside
      cases loadFails_of_loadWith failedBeside with
      | nowhere nowhere =>
          rw [leadsBeside] at nowhere
          cases nowhere
      | file _ fails =>
          rcases fails.missesImport_or_concernsSettings refuses rfl (beside name isChosen)
            leadsBeside with ⟨misses, kind⟩ | concerns
          · exact Or.inl ⟨.besideImported isChosen isData leadsBeside misses, kind⟩
          · exact Or.inr concerns
      | unjoined _ impossible => cases impossible
      | beside _ impossible => cases impossible

end Kinds

theorem outcome_settingsDocument (site : Site) (path : String) (environment : Option String) :
    (settingsDocument site path environment).outcome =
      match (load site path environment).outcome with
      | .ok data => .ok data
      | .error error =>
        .error (if error.concernsSettings then .unreadable path error else .loading error) := by
  unfold settingsDocument
  rcases outcome : (load site path environment).outcome with error | data
  · rcases concerns : error.concernsSettings
    · simp [outcome, concerns]
    · simp only [outcome, concerns, if_true]
      rfl
  · simp [outcome]

/-- A failure of loading settings is the failure of their configuration, or the settings are not
valid. -/
theorem outcome_loadSettings_eq_error {site : Site} {path : String} {environment : Option String}
    {failure : SettingsFailure}
    (failed : (loadSettings site path environment).outcome = .error failure) :
    (∃ error, (load site path environment).outcome = .error error ∧
        failure = if error.concernsSettings then .unreadable path error else .loading error) ∨
      ∃ faults, failure = .invalid path faults := by
  rcases Traced.outcome_bind_eq_error_iff.mp failed with loading | ⟨data, -, reading⟩
  · rw [outcome_settingsDocument] at loading
    split at loading
    · cases loading
    · next error isError =>
      cases loading
      exact Or.inl ⟨error, isError, rfl⟩
  · split at reading
    · cases reading
    · cases reading
      exact Or.inr ⟨_, rfl⟩

theorem outcome_loadSettings_of_error {site : Site} {path : String} {environment : Option String}
    {error : LoadError} (failed : (load site path environment).outcome = .error error) :
    (loadSettings site path environment).outcome =
      .error (if error.concernsSettings then .unreadable path error else .loading error) := by
  apply Traced.outcome_bind_of_error
  rw [outcome_settingsDocument, failed]

theorem wellFormed_of_loadSettings {site : Site} {path : String} {environment : Option String}
    {settings : Settings} (loaded : (loadSettings site path environment).outcome = .ok settings) :
    Text.isIdentifier settings.sourceAlias.toList = true ∧
      ∀ kind ∈ StagePositions.recovered,
        (settings.stagePositions.position? kind).isSome = true := by
  rcases Traced.outcome_bind_eq_ok_iff.mp loaded with ⟨data, -, reading⟩
  split at reading
  · next valid =>
    cases reading
    exact Settings.wellFormed_of_read valid
  · cases reading

/-- Loading settings fails for a file that is not there exactly where it comes to one. All other
failures are errors about the settings file, and settings that are loaded are well formed. -/
theorem outcome_loadSettings_cases {site : Site} {path : String} {environment : Option String}
    (refuses : site.ReadsOrRefuses) (acyclic : site.Acyclic) (file : site.NamesImports path)
    (beside : ∀ name, chosen? environment = some name →
      site.NamesImports (environmentFile (Route.plain path).directory name)) :
    ((∃ error, (loadSettings site path environment).outcome = .error (.loading error) ∧
        error.kind = .missingFile) ↔ Missing site path environment) ∧
      (∀ failure, (loadSettings site path environment).outcome = .error failure →
        ¬Missing site path environment →
          (∃ error, failure = .unreadable path error) ∨ ∃ faults, failure = .invalid path faults) ∧
      ∀ settings, (loadSettings site path environment).outcome = .ok settings →
        Text.isIdentifier settings.sourceAlias.toList = true ∧
          ∀ kind ∈ StagePositions.recovered,
            (settings.stagePositions.position? kind).isSome = true := by
  refine ⟨⟨?_, ?_⟩, ?_, fun settings => wellFormed_of_loadSettings⟩
  · rintro ⟨error, failed, kind⟩
    rcases outcome_loadSettings_eq_error failed with
      ⟨cause, loading, isFailure⟩ | ⟨faults, isInvalid⟩
    · rcases missing_or_concernsSettings refuses acyclic file beside loading with
        ⟨missing, -⟩ | concerns
      · exact missing
      · rw [if_pos concerns] at isFailure
        cases isFailure
    · cases isInvalid
  · intro missing
    rcases exists_of_missing acyclic missing with ⟨error, failed, kind⟩
    refine ⟨error, ?_, kind⟩
    rw [outcome_loadSettings_of_error failed, concernsSettings_of_missingFile kind]
    rfl
  · intro failure failed there
    rcases outcome_loadSettings_eq_error failed with ⟨cause, loading, rfl⟩ | invalid
    · rcases missing_or_concernsSettings refuses acyclic file beside loading with
        ⟨missing, -⟩ | concerns
      · exact absurd missing there
      · exact Or.inl ⟨cause, if_pos concerns⟩
    · exact Or.inr invalid

/-- A site with one file, which reads as a mapping. -/
def singleFile (entries : Mapping) : Site where
  files := { root := [], files := [(["s.yaml"], .text "")] }
  valueOf := fun _ => none
  parse := fun _ => .ok (.map entries)

section SingleFile

variable {entries : Mapping}

theorem refuses_singleFile (entries : Mapping) : (singleFile entries).ReadsOrRefuses :=
  fun _ _ impossible => nomatch impossible

theorem plain_singleFile : Route.plain "/s.yaml" = "/s.yaml" := by decide +kernel

theorem directory_singleFile : Route.directory "/s.yaml" = "/" := by decide +kernel

theorem outcome_topMapping_singleFile (entries : Mapping) :
    (topMapping (singleFile entries) "/s.yaml").outcome = .ok entries := by
  have read : (substituted (singleFile entries) "/s.yaml").outcome = .ok "" := by cbv
  exact Traced.outcome_bind_of_ok _ read

/-- A file whose imports lead nowhere imports no file. -/
theorem acyclic_singleFile
    (nowhere : ∀ items, importList ((entries.field? "imports").getD .null) = .ok items →
      ∀ item ∈ items, ∀ inBytes found, importNamed ⟨"/", inBytes⟩ item = .ok found →
        found.target? (singleFile entries).files = none) :
    (singleFile entries).Acyclic := by
  intro file circle
  rcases Relation.TransGen.head'_iff.mp circle with ⟨target, first, -⟩
  rcases first with ⟨top, items, item, found, path, isTop, listed, member, named, leads, -⟩
  have names : Path.plainNames file.path = ["s.yaml"] := by
    simpa [singleFile] using mem_files_of_topMapping isTop
  have top : Path.ofNames ["s.yaml"].dropLast = "/" := by decide +kernel
  have directory : file.directory = ⟨"/", file.inBytes⟩ := by
    rw [Route.directory, Path.directory, names, top]
  rcases exists_of_topMapping isTop with ⟨text, value, read, rfl⟩
  cases read
  rw [directory] at named
  rw [nowhere items listed item member _ found named] at leads
  cases leads

/-- A file that imports one that is not there. -/
def importsGone : Mapping := [(.str "imports", .list [.str "gone.yaml"])]

theorem acyclic_importsGone : (singleFile importsGone).Acyclic := by
  apply acyclic_singleFile
  intro items listed item member inBytes found named
  cases listed
  rw [List.mem_singleton] at member
  subst member
  cases inBytes <;> cases named
  rfl

theorem namesImports_importsGone : (singleFile importsGone).NamesImports "/s.yaml" := by
  intro _
  rw [plain_singleFile]
  refine ⟨⟨.text "", rfl⟩, ?_⟩
  intro top isTop
  rw [outcome_topMapping_singleFile] at isTop
  cases isTop
  exact ⟨["gone.yaml"], rfl⟩

theorem outcome_loadSettings_cases_importsGone :
    (singleFile importsGone).ReadsOrRefuses ∧ (singleFile importsGone).Acyclic ∧
      (singleFile importsGone).NamesImports "/s.yaml" ∧
      ((∃ error, (loadSettings (singleFile importsGone) "/s.yaml" (some "prod")).outcome =
          .error (.loading error) ∧ error.kind = .missingFile) ↔
        Missing (singleFile importsGone) "/s.yaml" (some "prod")) ∧
      (∀ failure, (loadSettings (singleFile importsGone) "/s.yaml" (some "prod")).outcome =
          .error failure → ¬Missing (singleFile importsGone) "/s.yaml" (some "prod") →
        (∃ error, failure = .unreadable "/s.yaml" error) ∨
          ∃ faults, failure = .invalid "/s.yaml" faults) ∧
      ∀ settings, (loadSettings (singleFile importsGone) "/s.yaml" (some "prod")).outcome =
          .ok settings →
        Text.isIdentifier settings.sourceAlias.toList = true ∧
          ∀ kind ∈ StagePositions.recovered,
            (settings.stagePositions.position? kind).isSome = true := by
  have besideNowhere (name : String) (isChosen : chosen? (some "prod") = some name) :
      (singleFile importsGone).NamesImports
        (environmentFile (Route.plain "/s.yaml").directory name) := by
    intro leads
    cases isChosen
    cases leads
  exact ⟨refuses_singleFile _, acyclic_importsGone, namesImports_importsGone,
    outcome_loadSettings_cases (refuses_singleFile _) acyclic_importsGone namesImports_importsGone
      besideNowhere⟩

/-- Only a settings file that is not there is reported as missing, and every other failure is an
error about the settings file. -/
def ReportsAsSettings (site : Site) (path : String) (environment : Option String) : Prop :=
  ((∃ error, (loadSettings site path environment).outcome = .error (.loading error) ∧
      error.kind = .missingFile) ↔ site.files.leads path = false) ∧
    ∀ failure, (loadSettings site path environment).outcome = .error failure →
      site.files.leads path = true →
        (∃ error, failure = .unreadable path error) ∨ ∃ faults, failure = .invalid path faults

/-- A file whose imports are a number. -/
def importsNumber : Mapping := [(.str "imports", .int 5)]

theorem acyclic_importsNumber : (singleFile importsNumber).Acyclic := by
  apply acyclic_singleFile
  intro items impossible
  cases impossible

theorem acyclic_empty : (singleFile []).Acyclic := by
  apply acyclic_singleFile
  intro items listed item member
  cases listed
  cases member

theorem not_reportsAsSettings_of_loading {site : Site} {path : String}
    {environment : Option String} {error : LoadError} (leads : site.files.leads path = true)
    (failed : (load site path environment).outcome = .error error)
    (foreign : error.concernsSettings = false) : ¬ReportsAsSettings site path environment := by
  intro reports
  have isFailure := outcome_loadSettings_of_error failed
  rw [foreign] at isFailure
  rcases reports.2 _ isFailure leads with ⟨_, impossible⟩ | ⟨_, impossible⟩ <;> cases impossible

/-- An import that is not there, imports that are no list, and a directory in the place of the
settings file are not reported as settings. -/
theorem not_reportsAsSettings :
    ((singleFile importsGone).Acyclic ∧
        ¬ReportsAsSettings (singleFile importsGone) "/s.yaml" none) ∧
      ((singleFile importsNumber).Acyclic ∧
        ¬ReportsAsSettings (singleFile importsNumber) "/s.yaml" none) ∧
      (singleFile []).Acyclic ∧ ¬ReportsAsSettings (singleFile []) "/" none := by
  refine ⟨⟨acyclic_importsGone, ?_⟩, ⟨acyclic_importsNumber, ?_⟩, acyclic_empty, ?_⟩
  · have misses : MissesImport (singleFile importsGone) (Route.plain "/s.yaml") none := by
      rw [plain_singleFile]
      refine ⟨importsGone, [], .str "gone.yaml", [], [],
        ⟨.str "gone.yaml", "/gone.yaml", some { path := "/gone.yaml" }⟩,
        outcome_topMapping_singleFile _, rfl, .nil, ?_, rfl⟩
      rw [directory_singleFile]
      rfl
    rcases exists_of_missing acyclic_importsGone (.imported misses) with ⟨error, failed, kind⟩
    exact not_reportsAsSettings_of_loading rfl failed (concernsSettings_of_missingFile kind)
  · have failed : (load (singleFile importsNumber) "/s.yaml" none).outcome =
        .error (.importsNotList "int") := by
      rw [outcome_load_of_settled _ (settled_load acyclic_importsNumber _ _),
        outcome_loadWith_of_leads _ (by rfl), plain_singleFile]
      apply Traced.outcome_bind_of_error
      rw [fileMapping, Traced.outcome_bind_of_ok _ (outcome_topMapping_singleFile _)]
      rfl
    exact not_reportsAsSettings_of_loading rfl failed rfl
  · have failed : (load (singleFile []) "/" none).outcome = .error (.directory "/") := by
      rw [outcome_load_of_settled _ (settled_load acyclic_empty _ _),
        outcome_loadWith_of_leads _ (by rfl)]
      have isPlain : Route.plain "/" = "/" := by decide +kernel
      rw [isPlain]
      rfl
    exact not_reportsAsSettings_of_loading rfl failed rfl

end SingleFile

end Config

end SqlPipeline
