import SqlPipeline.Config.Load
import SqlPipeline.Proofs.Value.Layering

/-!
# Imports one by one

An import of a file loads or fails (`importLoads_or_importFails`), and it fails for one of three
reasons: it is not named as a path, nothing is there, or what is there cannot be loaded. All imports
of a file together load if each does, and they fail as the first of them that fails.
-/

namespace SqlPipeline

namespace Config

open Mapping (overlay atop)

/-- An import in a file leads to entries. -/
def ImportLoads (site : Site) (load : Route → Option String → Traced LoadError Mapping)
    (file : Route) (environment : Option String) (item : Value) (entries : Mapping) : Prop :=
  ∃ found target, importNamed file.directory item = .ok found ∧
    found.target? site.files = some target ∧ (load target environment).outcome = .ok entries

/-- An import in a file fails. -/
inductive ImportFails (site : Site) (load : Route → Option String → Traced LoadError Mapping)
    (file : Route) (environment : Option String) (item : Value) : LoadError → Prop where
  | unnamed {error : LoadError} (unnamed : importNamed file.directory item = .error error) :
      ImportFails site load file environment item error
  | missing {found : Import} (named : importNamed file.directory item = .ok found)
      (nowhere : found.target? site.files = none) :
      ImportFails site load file environment item (.noImport found.resolved)
  | failed {found : Import} {target : Route} {cause : LoadError}
      (named : importNamed file.directory item = .ok found)
      (leads : found.target? site.files = some target)
      (failed : (load target environment).outcome = .error cause) :
      ImportFails site load file environment item
        (.failedImport found.name.display found.resolved cause)

/-- In lists that are related item by item each of the second has its item in the first. -/
theorem exists_mem_of_forall₂ {α β : Type} {related : α → β → Prop} {items : List α}
    {others : List β} (each : List.Forall₂ related items others) {other : β}
    (member : other ∈ others) : ∃ item ∈ items, related item other := by
  induction each with
  | nil => cases member
  | cons first _ ih =>
      rcases List.mem_cons.mp member with rfl | later
      · exact ⟨_, List.mem_cons_self, first⟩
      · rcases ih later with ⟨item, isItem, isRelated⟩
        exact ⟨item, List.mem_cons_of_mem _ isItem, isRelated⟩

variable {site : Site} {load : Route → Option String → Traced LoadError Mapping}
variable {file : Route} {environment : Option String} {item : Value}

theorem importLoads_or_importFails (site : Site)
    (load : Route → Option String → Traced LoadError Mapping) (file : Route)
    (environment : Option String) (item : Value) :
    (∃ entries, ImportLoads site load file environment item entries) ∨
      ∃ error, ImportFails site load file environment item error := by
  rcases named : importNamed file.directory item with error | found
  · exact Or.inr ⟨error, .unnamed named⟩
  · rcases leads : found.target? site.files with _ | target
    · exact Or.inr ⟨_, .missing named leads⟩
    · rcases loaded : (load target environment).outcome with cause | entries
      · exact Or.inr ⟨_, .failed named leads loaded⟩
      · exact Or.inl ⟨entries, found, target, named, leads, loaded⟩

theorem outcome_withImports_of_importLoads {entries : Mapping}
    (loads : ImportLoads site load file environment item entries) (rest : List Value)
    (merged : Mapping) :
    (withImports site file (fun path => load path environment) (item :: rest) merged).outcome =
      (withImports site file (fun path => load path environment) rest
        (overlay entries merged)).outcome := by
  rcases loads with ⟨found, target, named, leads, loaded⟩
  have imported : ((load target environment).mapError
      (LoadError.failedImport found.name.display found.resolved)).outcome = .ok entries := by
    rw [Traced.outcome_mapError, loaded]
    rfl
  rw [withImports, Traced.outcome_bind_of_ok _ ((Traced.outcome_ofExcept _).trans named)]
  simp only [leads]
  rw [Traced.outcome_bind_of_ok _ imported]
  rfl

theorem outcome_withImports_of_importFails {error : LoadError}
    (fails : ImportFails site load file environment item error) (rest : List Value)
    (merged : Mapping) :
    (withImports site file (fun path => load path environment) (item :: rest) merged).outcome =
      .error error := by
  rw [withImports]
  cases fails with
  | unnamed unnamed =>
      exact Traced.outcome_bind_of_error _ ((Traced.outcome_ofExcept _).trans unnamed)
  | missing named nowhere =>
      rw [Traced.outcome_bind_of_ok _ ((Traced.outcome_ofExcept _).trans named)]
      simp only [nowhere]
      rfl
  | @failed found target cause named leads failed =>
      have imported : ((load target environment).mapError
          (LoadError.failedImport found.name.display found.resolved)).outcome =
            .error (.failedImport found.name.display found.resolved cause) := by
        rw [Traced.outcome_mapError, failed]
        rfl
      rw [Traced.outcome_bind_of_ok _ ((Traced.outcome_ofExcept _).trans named)]
      simp only [leads]
      exact Traced.outcome_bind_of_error _ imported

/-- All imports load if each of them does, and they are merged in order. -/
theorem outcome_withImports_eq_ok_iff {items : List Value} {merged result : Mapping} :
    (withImports site file (fun path => load path environment) items merged).outcome =
        .ok result ↔
      ∃ imports, List.Forall₂ (ImportLoads site load file environment) items imports ∧
        result = atop imports merged := by
  induction items generalizing merged with
  | nil =>
      constructor
      · intro loaded
        cases loaded
        exact ⟨[], .nil, rfl⟩
      · rintro ⟨imports, loads, rfl⟩
        cases loads
        rfl
  | cons item rest ih =>
      constructor
      · intro loaded
        rcases importLoads_or_importFails site load file environment item with
          ⟨entries, loads⟩ | ⟨error, fails⟩
        · rw [outcome_withImports_of_importLoads loads] at loaded
          rcases ih.mp loaded with ⟨imports, later, rfl⟩
          exact ⟨entries :: imports, .cons loads later, rfl⟩
        · rw [outcome_withImports_of_importFails fails] at loaded
          cases loaded
      · rintro ⟨imports, loads, rfl⟩
        cases loads with
        | cons first later =>
            rw [outcome_withImports_of_importLoads first]
            exact ih.mpr ⟨_, later, rfl⟩

/-- Imports fail as the first of them that fails. -/
theorem outcome_withImports_eq_error_iff {items : List Value} {merged : Mapping}
    {error : LoadError} :
    (withImports site file (fun path => load path environment) items merged).outcome =
        .error error ↔
      ∃ before item after imports, items = before ++ item :: after ∧
        List.Forall₂ (ImportLoads site load file environment) before imports ∧
          ImportFails site load file environment item error := by
  induction items generalizing merged with
  | nil =>
      constructor
      · intro failed
        cases failed
      · rintro ⟨before, item, after, imports, split, -⟩
        simp at split
  | cons first rest ih =>
      constructor
      · intro failed
        rcases importLoads_or_importFails site load file environment first with
          ⟨entries, loads⟩ | ⟨cause, fails⟩
        · rw [outcome_withImports_of_importLoads loads] at failed
          rcases ih.mp failed with ⟨before, item, after, imports, rfl, earlier, fails⟩
          exact ⟨first :: before, item, after, entries :: imports, rfl, .cons loads earlier, fails⟩
        · rw [outcome_withImports_of_importFails fails] at failed
          cases failed
          exact ⟨[], first, rest, [], rfl, .nil, fails⟩
      · rintro ⟨before, item, after, imports, split, earlier, fails⟩
        cases earlier with
        | nil =>
            obtain ⟨rfl, rfl⟩ := List.cons.inj split
            exact outcome_withImports_of_importFails fails _ _
        | cons loads earlier =>
            obtain ⟨rfl, rfl⟩ := List.cons.inj split
            rw [outcome_withImports_of_importLoads loads]
            exact ih.mpr ⟨_, item, after, _, rfl, earlier, fails⟩

end Config

end SqlPipeline
