import Mathlib.Order.Nat
import SqlPipeline.Config.Load

/-!
# The depth of loading

Loading follows imports to a given depth. An outcome that is not for want of depth is settled.
With more depth, settled outcomes stay what they are (`deepens_loadTo`). A settled outcome of `load`
is therefore what one step of loading gives when everything it refers to is loaded in full
(`outcome_load_of_settled`), and this equation no longer mentions any depth.
-/

namespace SqlPipeline

namespace Config

theorem outcome_loadWith_of_nowhere {site : Site}
    {load : Route → Option String → Traced LoadError Mapping} {path : Route}
    (environment : Option String) (nowhere : site.files.leads path = false) :
    (loadWith site load path environment).outcome = .error (.noFile path) := by
  simp only [loadWith, nowhere, Traced.outcome_bind, Traced.outcome_tell]
  rfl

/-- Where a path leads somewhere the outcome is made of the file there and the file beside it. -/
theorem outcome_loadWith_of_leads {site : Site}
    {load : Route → Option String → Traced LoadError Mapping} {path : Route}
    (environment : Option String) (leads : site.files.leads path = true) :
    (loadWith site load path environment).outcome =
      (fileMapping site load path.plain environment >>=
        withOverlay site path.plain (fun overlay => load overlay none)
          environment).outcome := by
  simp only [loadWith, leads, if_true, Traced.outcome_bind, Traced.outcome_tell,
    Traced.outcome_pure]
  exact congrArg ((fileMapping site load path.plain environment).outcome >>= ·)
    (funext fun data => bind_pure _)

/-- Whether an outcome is not for want of depth. -/
def Settled {α : Type} (outcome : Except LoadError α) : Prop :=
  ∀ error, outcome = .error error → error.root ≠ .circularImports

theorem settled_ok {α : Type} (value : α) : Settled (.ok value) := nofun

/-- The second computation has the outcome of the first, if that is settled. -/
def Deepens {α : Type} (first second : Traced LoadError α) : Prop :=
  Settled first.outcome → second.outcome = first.outcome

namespace Deepens

variable {α β : Type} {first second : Traced LoadError α}

theorem refl (traced : Traced LoadError α) : Deepens traced traced := fun _ => rfl

theorem trans {third : Traced LoadError α} (deepens : Deepens first second)
    (further : Deepens second third) : Deepens first third := by
  intro settled
  have same := deepens settled
  rw [further (by rwa [same]), same]

theorem bind {next onward : α → Traced LoadError β} (deepens : Deepens first second)
    (further : ∀ value, Deepens (next value) (onward value)) :
    Deepens (first >>= next) (second >>= onward) := by
  intro settled
  rcases known : first.outcome with error | value
  · have ends : (first >>= next).outcome = .error error :=
      Traced.outcome_bind_of_error next known
    have isSettled : Settled first.outcome := by
      intro other isOther
      rw [known] at isOther
      cases isOther
      exact settled error ends
    rw [ends, Traced.outcome_bind_of_error onward ((deepens isSettled).trans known)]
  · have goesOn : (first >>= next).outcome = (next value).outcome :=
      Traced.outcome_bind_of_ok next known
    have same : second.outcome = .ok value := by
      rw [deepens (by rw [known]; exact settled_ok value), known]
    rw [goesOn] at settled ⊢
    rw [Traced.outcome_bind_of_ok onward same, further value settled]

theorem failedImport (deepens : Deepens first second) (name resolved : String) :
    Deepens (first.mapError (.failedImport name resolved))
      (second.mapError (.failedImport name resolved)) := by
  intro settled
  have isSettled : Settled first.outcome := by
    intro error known
    refine settled (.failedImport name resolved error) ?_
    rw [Traced.outcome_mapError, known]
    rfl
  rw [Traced.outcome_mapError, Traced.outcome_mapError, deepens isSettled]

end Deepens

variable (site : Site)

theorem deepens_withImports {shallow deeper : Route → Traced LoadError Mapping}
    (deepens : ∀ path, Deepens (shallow path) (deeper path)) (path : Route) (items : List Value)
    (merged : Mapping) :
    Deepens (withImports site path shallow items merged)
      (withImports site path deeper items merged) := by
  induction items generalizing merged with
  | nil => exact Deepens.refl _
  | cons item rest ih =>
      refine Deepens.bind (Deepens.refl _) fun found => ?_
      split
      · refine Deepens.bind ((deepens _).failedImport _ _) fun imported => ?_
        exact Deepens.bind (Deepens.refl _) ih
      · exact Deepens.refl _

theorem deepens_withOverlay {shallow deeper : Route → Traced LoadError Mapping}
    (deepens : ∀ path, Deepens (shallow path) (deeper path)) (path : Route)
    (environment : Option String) (data : Mapping) :
    Deepens (withOverlay site path shallow environment data)
      (withOverlay site path deeper environment data) := by
  unfold withOverlay
  split
  · exact Deepens.refl _
  · split
    · exact Deepens.refl _
    · dsimp only
      split
      · refine Deepens.bind (Deepens.refl _) fun _ => ?_
        exact Deepens.bind (deepens _) fun _ => Deepens.refl _
      · exact Deepens.refl _

variable {shallow deeper : Route → Option String → Traced LoadError Mapping}

theorem deepens_fileMapping
    (deepens : ∀ path environment, Deepens (shallow path environment) (deeper path environment))
    (path : Route) (environment : Option String) :
    Deepens (fileMapping site shallow path environment)
      (fileMapping site deeper path environment) := by
  refine Deepens.bind (Deepens.refl _) fun top => ?_
  refine Deepens.bind (Deepens.refl _) fun items => ?_
  refine Deepens.bind (deepens_withImports site (fun path => deepens path environment) _ _ _) ?_
  exact fun data => Deepens.refl _

theorem deepens_loadWith
    (deepens : ∀ path environment, Deepens (shallow path environment) (deeper path environment))
    (path : Route) (environment : Option String) :
    Deepens (loadWith site shallow path environment) (loadWith site deeper path environment) := by
  refine Deepens.bind (Deepens.refl _) fun _ => ?_
  split
  · refine Deepens.bind (deepens_fileMapping site deepens _ _) fun data => ?_
    refine Deepens.bind (deepens_withOverlay site (fun path => deepens path none) _ _ _) ?_
    exact fun result => Deepens.refl _
  · exact Deepens.refl _

/-- With more depth a settled outcome stays what it is. -/
theorem deepens_loadTo {depth more : Nat} (deeper : depth ≤ more) (path : Route)
    (environment : Option String) :
    Deepens (loadTo site depth path environment) (loadTo site more path environment) := by
  have oneMore (depth : Nat) : ∀ path environment,
      Deepens (loadTo site depth path environment) (loadTo site (depth + 1) path environment) := by
    induction depth with
    | zero => exact fun _ _ settled => absurd rfl (settled .circularImports rfl)
    | succ depth ih => exact deepens_loadWith site ih
  induction more, deeper using Nat.le_induction with
  | base => exact Deepens.refl _
  | succ more _ ih => exact ih.trans (oneMore more path environment)

/-- A settled load is one step over files that are loaded in full. -/
theorem outcome_load_of_settled {path : Route} {environment : Option String}
    (settled : Settled (load site path environment).outcome) :
    (load site path environment).outcome =
      (loadWith site (load site) path environment).outcome := by
  have step : Deepens (load site path environment)
      (loadWith site (load site) path environment) :=
    deepens_loadWith site
      (fun path environment => deepens_loadTo site (Nat.le_succ _) path environment)
      path environment
  exact (step settled).symm

end Config

end SqlPipeline
