import SqlPipeline.Proofs.Value.Mapping
import SqlPipeline.Value.Overlay

/-!
# What an overlay holds at a path

A path goes from mapping to mapping by keys. At each path an overlay holds what the stronger side
says there, or, where the stronger side has no say, what the weaker side says. The stronger side has
its say at a path if it holds something there, or if it ends on the way in something that is no
mapping.

A document of which no mapping has a key twice is called unambiguous. The stronger side of an
overlay has to be unambiguous, because its entries are written one after the other.
-/

namespace SqlPipeline

namespace Value

/-- Whether a value is a mapping. -/
def isMapping : Value → Bool
  | .map _ => true
  | _ => false

theorem isMapping_eq_true_iff {value : Value} :
    value.isMapping = true ↔ ∃ entries, value = .map entries := by
  cases value <;> simp [isMapping]

/-- The value at a path of keys. -/
def at? : List Key → Value → Option Value
  | [], value => some value
  | key :: path, .map entries => (Mapping.find? key entries).bind (at? path)
  | _ :: _, _ => none

@[simp] theorem at?_nil (value : Value) : at? [] value = some value := by
  cases value <;> rfl

@[simp] theorem at?_cons_map (key : Key) (path : List Key) (entries : Mapping) :
    at? (key :: path) (.map entries) = (Mapping.find? key entries).bind (at? path) := rfl

theorem at?_cons_of_not_isMapping {value : Value} (key : Key) (path : List Key)
    (scalar : value.isMapping = false) : at? (key :: path) value = none := by
  cases value with
  | map entries => cases scalar
  | _ => rfl

@[simp] theorem at?_singleton_map (key : Key) (entries : Mapping) :
    at? [key] (.map entries) = Mapping.find? key entries := by
  rw [at?_cons_map]
  cases Mapping.find? key entries <;> simp

/-- A path is followed key by key. -/
theorem at?_cons (key : Key) (path : List Key) (value : Value) :
    at? (key :: path) value = (at? [key] value).bind (at? path) := by
  cases value with
  | map entries => rw [at?_cons_map, at?_singleton_map]
  | _ => rfl

theorem bind_at?_cons (key : Key) (path : List Key) (old : Option Value) :
    old.bind (at? (key :: path)) = (old.bind (at? [key])).bind (at? path) := by
  rw [Option.bind_assoc]
  exact congrArg old.bind (funext (at?_cons key path))

/-- A value has its say at a path if it holds something there or ends on the way to it. -/
def Overrides (value : Value) (path : List Key) : Prop :=
  at? path value ≠ none ∨
    ∃ front end_, front <+: path ∧ front ≠ path ∧ at? front value = some end_ ∧
      end_.isMapping = false

/-- What has its say below a key has its say below the mapping that holds it. -/
theorem Overrides.cons {key : Key} {path : List Key} {entries : Mapping} {value : Value}
    (found : Mapping.find? key entries = some value) (overrides : value.Overrides path) :
    (Value.map entries).Overrides (key :: path) := by
  rcases overrides with present | ⟨front, last, onTheWay, proper, reached, scalar⟩
  · left
    simpa [found] using present
  · right
    refine ⟨key :: front, last, List.prefix_cons_inj key |>.mpr onTheWay, ?_, ?_, scalar⟩
    · simpa using proper
    · simpa [found] using reached

theorem overrides_of_not_isMapping {value : Value} (scalar : value.isMapping = false)
    (path : List Key) : value.Overrides path := by
  cases path with
  | nil => exact Or.inl (by simp)
  | cons key rest => exact Or.inr ⟨[], value, by simp, by simp, at?_nil value, scalar⟩

/-- No mapping on a path has a key twice. -/
def Unambiguous (value : Value) : Prop :=
  ∀ path entries, at? path value = some (.map entries) → Mapping.Distinct entries

theorem Unambiguous.distinct {entries : Mapping} (unambiguous : (Value.map entries).Unambiguous) :
    Mapping.Distinct entries :=
  unambiguous [] entries (at?_nil _)

theorem Unambiguous.of_find? {entries : Mapping} {key : Key} {value : Value}
    (unambiguous : (Value.map entries).Unambiguous)
    (found : Mapping.find? key entries = some value) : value.Unambiguous := by
  intro path below reached
  exact unambiguous (key :: path) below (by simpa [found] using reached)

theorem Unambiguous.of_distinct {entries : Mapping} (distinct : Mapping.Distinct entries)
    (below : ∀ key value, Mapping.find? key entries = some value → value.Unambiguous) :
    (Value.map entries).Unambiguous := by
  intro path reached isReached
  cases path with
  | nil =>
      rw [at?_nil] at isReached
      cases isReached
      exact distinct
  | cons key rest =>
      rw [at?_cons_map] at isReached
      rcases Option.bind_eq_some_iff.mp isReached with ⟨value, found, onward⟩
      exact below key value found rest reached onward

theorem Unambiguous.of_forall {entries : Mapping} (distinct : Mapping.Distinct entries)
    (below : ∀ entry ∈ entries, entry.2.Unambiguous) : (Value.map entries).Unambiguous := by
  apply Unambiguous.of_distinct distinct
  intro key value found
  rcases Mapping.mem_of_find? found with ⟨other, -, member⟩
  exact below _ member

theorem Unambiguous.erase {entries : Mapping} (unambiguous : (Value.map entries).Unambiguous)
    (name : String) : (Value.map (Mapping.erase name entries)).Unambiguous := by
  apply Unambiguous.of_distinct (unambiguous.distinct.erase name)
  intro key value found
  rw [Mapping.find?_erase] at found
  split at found
  · cases found
  · exact unambiguous.of_find? found

theorem unambiguous_of_not_isMapping {value : Value} (scalar : value.isMapping = false) :
    value.Unambiguous := by
  intro path entries reached
  cases path with
  | nil =>
      rw [at?_nil] at reached
      cases reached
      cases scalar
  | cons key rest =>
      rw [at?_cons_of_not_isMapping key rest scalar] at reached
      cases reached

end Value

namespace Mapping

@[simp] theorem overlayValue_none (value : Value) : overlayValue none value = value := by
  cases value <;> simp [overlayValue]

theorem overlayValue_of_not_isMapping {value : Value} (old : Option Value)
    (scalar : value.isMapping = false) : overlayValue old value = value := by
  cases value with
  | map entries => cases scalar
  | _ => simp [overlayValue]

@[simp] theorem overlayValue_map_map (below entries : Mapping) :
    overlayValue (some (.map below)) (.map entries) = .map (overlay below entries) := by
  simp [overlayValue]

theorem overlayValue_of_old_not_isMapping {old : Value} (value : Value)
    (scalar : old.isMapping = false) : overlayValue (some old) value = value := by
  cases old with
  | map below => cases scalar
  | _ => cases value <;> simp [overlayValue]

theorem isMapping_overlayValue_map (old : Option Value) (entries : Mapping) :
    (overlayValue old (.map entries)).isMapping = true := by
  rcases old with _ | (_ | _) <;> simp [overlayValue, Value.isMapping]

theorem find?_put_eq_none_iff {key other : Key} {value : Value} {entries : Mapping} :
    find? other (put key value entries) = none ↔
      key.same other = false ∧ find? other entries = none := by
  rw [find?_put]
  split <;> simp_all

/-- Nothing is found in an overlay that is not found on one of the sides. -/
theorem find?_overlay_eq_none_iff {key : Key} {weaker stronger : Mapping} :
    find? key (overlay weaker stronger) = none ↔
      find? key weaker = none ∧ find? key stronger = none := by
  induction stronger generalizing weaker with
  | nil => simp
  | cons entry rest ih =>
      rcases entry with ⟨first, value⟩
      rw [overlay_cons, ih, find?_put_eq_none_iff, find?_cons]
      split <;> simp_all

/-- What is found in an overlay: the stronger value over what the weaker side has at the key. -/
theorem find?_overlay {stronger : Mapping} (distinct : Distinct stronger) (weaker : Mapping)
    (key : Key) :
    find? key (overlay weaker stronger) =
      match find? key stronger with
      | some value => some (overlayValue (find? key weaker) value)
      | none => find? key weaker := by
  induction stronger generalizing weaker with
  | nil => simp
  | cons entry rest ih =>
      rcases entry with ⟨first, value⟩
      rw [overlay_cons, ih (List.nodup_cons.mp distinct).2, find?_put, find?_cons]
      by_cases alike : first.same key = true
      · rw [distinct.find?_eq_none alike, if_pos alike, if_pos alike, find?_congr alike]
      · rw [if_neg alike, if_neg alike]

/-- Erasing a name from an overlay erases it from both sides. -/
theorem erase_overlay (name : String) (weaker stronger : Mapping) :
    erase name (overlay weaker stronger) = overlay (erase name weaker) (erase name stronger) := by
  induction stronger generalizing weaker with
  | nil => simp [erase]
  | cons entry rest ih =>
      rcases entry with ⟨key, value⟩
      rw [overlay_cons, ih, erase_put, erase_cons]
      split
      · rfl
      · next other =>
        rw [Key.same_comm] at other
        rw [overlay_cons, find?_erase, if_neg other]

theorem Distinct.overlay {weaker : Mapping} (distinct : Distinct weaker) (stronger : Mapping) :
    Distinct (overlay weaker stronger) := by
  induction stronger generalizing weaker with
  | nil => simpa using distinct
  | cons entry rest ih =>
      rw [overlay_cons]
      exact ih (distinct.put _ _)

end Mapping

namespace Value

open Mapping (find? overlayValue overlay)

variable {old : Option Value} {value result : Value} {path : List Key}

/-- One step down into an overlay. -/
theorem at?_cons_overlayValue {entries : Mapping} (distinct : Mapping.Distinct entries)
    (old : Option Value) (key : Key) (path : List Key) :
    at? (key :: path) (overlayValue old (.map entries)) =
      match find? key entries with
      | some value => at? path (overlayValue (old.bind (at? [key])) value)
      | none => old.bind (at? (key :: path)) := by
  have alone : at? (key :: path) (Value.map entries) =
      match find? key entries with
      | some value => at? path (overlayValue none value)
      | none => none := by
    rw [at?_cons_map]
    cases find? key entries <;> simp
  rcases old with _ | old
  · simpa using alone
  · rw [Option.bind_some, Option.bind_some]
    rcases isMapping : old.isMapping
    · rw [Mapping.overlayValue_of_old_not_isMapping _ isMapping, alone,
        at?_cons_of_not_isMapping key [] isMapping, at?_cons_of_not_isMapping key path isMapping]
    · rcases isMapping_eq_true_iff.mp isMapping with ⟨below, rfl⟩
      rw [Mapping.overlayValue_map_map, at?_cons_map, Mapping.find?_overlay distinct,
        at?_singleton_map]
      cases find? key entries <;> rfl

/-- What the stronger side holds stands, unless it is a mapping. -/
theorem at?_overlayValue_of_stronger (unambiguous : value.Unambiguous)
    (held : at? path value = some result) (scalar : result.isMapping = false) :
    at? path (overlayValue old value) = some result := by
  induction path generalizing old value with
  | nil =>
      rw [at?_nil, Option.some.injEq] at held
      subst held
      rw [Mapping.overlayValue_of_not_isMapping _ scalar, at?_nil]
  | cons key rest ih =>
      cases value with
      | map entries =>
          rw [at?_cons_map] at held
          rcases Option.bind_eq_some_iff.mp held with ⟨below, found, onward⟩
          rw [at?_cons_overlayValue unambiguous.distinct, found]
          exact ih (unambiguous.of_find? found) onward
      | _ => cases held

/-- What the weaker side holds stands where the stronger side has no say. -/
theorem at?_overlayValue_of_weaker (unambiguous : value.Unambiguous)
    (held : old.bind (at? path) = some result) (silent : ¬value.Overrides path) :
    at? path (overlayValue old value) = some result := by
  induction path generalizing old value with
  | nil => exact absurd (Or.inl (by simp)) silent
  | cons key rest ih =>
      cases value with
      | map entries =>
          rw [at?_cons_overlayValue unambiguous.distinct]
          rcases found : find? key entries with _ | below
          · exact held
          · rw [bind_at?_cons] at held
            exact ih (unambiguous.of_find? found) held fun overrides =>
              silent (overrides.cons found)
      | _ => exact absurd (overrides_of_not_isMapping rfl _) silent

/-- What an overlay holds comes from one of the sides, or is a mapping over something that the
stronger side holds. -/
theorem of_at?_overlayValue (unambiguous : value.Unambiguous)
    (held : at? path (overlayValue old value) = some result) :
    at? path value = some result ∨ old.bind (at? path) = some result ∨
      (result.isMapping = true ∧ at? path value ≠ none) := by
  induction path generalizing old value with
  | nil =>
      rw [at?_nil, Option.some.injEq] at held
      subst held
      cases value with
      | map entries =>
          exact Or.inr (Or.inr ⟨Mapping.isMapping_overlayValue_map old entries, by simp⟩)
      | _ =>
          rw [Mapping.overlayValue_of_not_isMapping _ rfl]
          exact Or.inl rfl
  | cons key rest ih =>
      cases value with
      | map entries =>
          rw [at?_cons_overlayValue unambiguous.distinct] at held
          rcases found : find? key entries with _ | below
          · rw [found] at held
            exact Or.inr (Or.inl held)
          · rw [found] at held
            rw [bind_at?_cons, at?_cons_map, found]
            exact ih (unambiguous.of_find? found) held
      | _ =>
          rw [Mapping.overlayValue_of_not_isMapping _ rfl] at held
          exact Or.inl held

theorem Unambiguous.overlayValue (unambiguous : value.Unambiguous)
    (weaker : ∀ below, old = some below → below.Unambiguous) :
    (overlayValue old value).Unambiguous := by
  intro path entries reached
  induction path generalizing old value with
  | nil =>
      rw [at?_nil, Option.some.injEq] at reached
      cases value with
      | map stronger =>
          rcases old with _ | below
          · rw [Mapping.overlayValue_none] at reached
            exact unambiguous [] entries (congrArg some reached)
          · rcases isMapping : below.isMapping
            · rw [Mapping.overlayValue_of_old_not_isMapping _ isMapping] at reached
              exact unambiguous [] entries (congrArg some reached)
            · rcases isMapping_eq_true_iff.mp isMapping with ⟨mapping, rfl⟩
              rw [Mapping.overlayValue_map_map] at reached
              cases reached
              exact (weaker _ rfl).distinct.overlay stronger
      | _ =>
          rw [Mapping.overlayValue_of_not_isMapping _ rfl] at reached
          cases reached
  | cons key rest ih =>
      cases value with
      | map stronger =>
          rw [at?_cons_overlayValue unambiguous.distinct] at reached
          rcases found : find? key stronger with _ | below
          · rw [found] at reached
            rcases Option.bind_eq_some_iff.mp reached with ⟨mapping, isOld, onward⟩
            exact weaker mapping isOld _ _ onward
          · rw [found] at reached
            refine ih (unambiguous.of_find? found) ?_ reached
            intro inner foundInner path entries further
            rcases Option.bind_eq_some_iff.mp foundInner with ⟨mapping, isOld, onward⟩
            refine weaker mapping isOld (key :: path) entries ?_
            rw [at?_cons, onward]
            exact further
      | _ =>
          rw [Mapping.overlayValue_of_not_isMapping _ rfl] at reached
          cases reached

end Value

end SqlPipeline
