import SqlPipeline.Value.Basic

/-!
# Events and traced results

Compiling, recovering and loading report what they do as *events*. An event is data: its level, its
message and its named details. A `Traced` computation yields its events besides its outcome, and
keeps those that came before a failure. Nothing in an outcome depends on the events: `outcome_bind`
says that outcomes compose on their own.
-/

namespace SqlPipeline

/-- How serious an event is. -/
inductive Level where
  | debug
  | info
  | warning
  | error
  deriving DecidableEq, Repr

/-- Something worth telling, with named details. -/
structure Event where
  level : Level
  message : String
  details : List (String × Value)

/-- The names that no detail can have, because they belong to the event itself. -/
def reservedNames : List String := ["self", "level", "message"]

/-- An event with details, none of which may have a reserved name. -/
def Event.withDetails? (level : Level) (message : String) (details : List (String × Value)) :
    Option Event :=
  if details.any fun (name, _) => reservedNames.contains name then none
  else some ⟨level, message, details⟩

/-- What is known when two steps that can fail have a result. -/
theorem bind_eq_ok_iff {ε α β : Type} {first : Except ε α} {next : α → Except ε β} {result : β} :
    first >>= next = .ok result ↔ ∃ value, first = .ok value ∧ next value = .ok result := by
  constructor
  · intro known
    cases first with
    | error => cases known
    | ok value => exact ⟨value, rfl, known⟩
  · rintro ⟨value, rfl, known⟩
    exact known

theorem mapError_eq_ok_iff {ε δ α : Type} {change : ε → δ} {outcome : Except ε α} {value : α} :
    outcome.mapError change = .ok value ↔ outcome = .ok value := by
  constructor
  · intro known
    cases outcome <;> cases known
    rfl
  · rintro rfl
    rfl

/-- A result together with the events on the way to it. -/
structure Traced (ε α : Type) where
  events : List Event
  outcome : Except ε α

namespace Traced

variable {ε α β : Type}

/-- A result without events. -/
def ofExcept (outcome : Except ε α) : Traced ε α := ⟨[], outcome⟩

/-- A failure. -/
def fail (error : ε) : Traced ε α := ⟨[], .error error⟩

/-- One event. -/
def tell (level : Level) (message : String) (details : List (String × Value)) : Traced ε Unit :=
  ⟨[⟨level, message, details⟩], .ok ()⟩

/-- Several events. -/
def tellAll (events : List Event) : Traced ε Unit := ⟨events, .ok ()⟩

/-- Goes on with a result, after its events. -/
def andThen (first : Traced ε α) (next : α → Traced ε β) : Traced ε β :=
  match first.outcome with
  | .ok value => ⟨first.events ++ (next value).events, (next value).outcome⟩
  | .error error => ⟨first.events, .error error⟩

instance : Monad (Traced ε) where
  pure value := ⟨[], .ok value⟩
  bind := andThen

/-- The same computation with its failure changed. -/
def mapError {δ : Type} (change : ε → δ) (traced : Traced ε α) : Traced δ α :=
  ⟨traced.events, traced.outcome.mapError change⟩

@[simp] theorem outcome_pure (value : α) : (pure value : Traced ε α).outcome = .ok value := rfl

@[simp] theorem events_pure (value : α) : (pure value : Traced ε α).events = [] := rfl

@[simp] theorem outcome_ofExcept (outcome : Except ε α) :
    (ofExcept outcome).outcome = outcome := rfl

@[simp] theorem outcome_fail (error : ε) : (fail error : Traced ε α).outcome = .error error := rfl

@[simp] theorem outcome_tell (level : Level) (message : String) (details : List (String × Value)) :
    (tell level message details : Traced ε Unit).outcome = .ok () := rfl

@[simp] theorem outcome_tellAll (events : List Event) :
    (tellAll events : Traced ε Unit).outcome = .ok () := rfl

@[simp] theorem events_ofExcept (outcome : Except ε α) :
    (ofExcept outcome).events = [] := rfl

@[simp] theorem events_tell (level : Level) (message : String) (details : List (String × Value)) :
    (tell level message details : Traced ε Unit).events = [⟨level, message, details⟩] := rfl

@[simp] theorem events_tellAll (events : List Event) :
    (tellAll events : Traced ε Unit).events = events := rfl

/-- Outcomes compose without regard to events. -/
@[simp] theorem outcome_bind (first : Traced ε α) (next : α → Traced ε β) :
    (first >>= next).outcome = first.outcome >>= fun value => (next value).outcome := by
  change (first.andThen next).outcome = _
  unfold andThen
  cases first.outcome <;> rfl

theorem outcome_bind_of_ok {first : Traced ε α} {value : α} (next : α → Traced ε β)
    (known : first.outcome = .ok value) : (first >>= next).outcome = (next value).outcome := by
  rw [outcome_bind, known]
  rfl

theorem outcome_bind_of_error {first : Traced ε α} {error : ε} (next : α → Traced ε β)
    (known : first.outcome = .error error) : (first >>= next).outcome = .error error := by
  rw [outcome_bind, known]
  rfl

/-- What is known when a computation in two steps has a result. -/
theorem outcome_bind_eq_ok_iff {first : Traced ε α} {next : α → Traced ε β} {result : β} :
    (first >>= next).outcome = .ok result ↔
      ∃ value, first.outcome = .ok value ∧ (next value).outcome = .ok result := by
  rw [outcome_bind]
  exact bind_eq_ok_iff

/-- How a computation in two steps can fail. -/
theorem outcome_bind_eq_error_iff {first : Traced ε α} {next : α → Traced ε β} {error : ε} :
    (first >>= next).outcome = .error error ↔
      first.outcome = .error error ∨
        ∃ value, first.outcome = .ok value ∧ (next value).outcome = .error error := by
  rcases known : first.outcome with failure | value
  · rw [outcome_bind_of_error next known]
    simp
  · rw [outcome_bind_of_ok next known]
    simp

theorem events_bind_of_ok {first : Traced ε α} {value : α} (next : α → Traced ε β)
    (known : first.outcome = .ok value) :
    (first >>= next).events = first.events ++ (next value).events := by
  change (first.andThen next).events = _
  unfold andThen
  rw [known]

theorem events_bind_of_error {first : Traced ε α} {error : ε} (next : α → Traced ε β)
    (known : first.outcome = .error error) : (first >>= next).events = first.events := by
  change (first.andThen next).events = _
  unfold andThen
  rw [known]

@[simp] theorem outcome_mapError {δ : Type} (change : ε → δ) (traced : Traced ε α) :
    (traced.mapError change).outcome = traced.outcome.mapError change := rfl

end Traced

end SqlPipeline
