import SqlPipeline.Proofs.Log.Lines

/-!
# Secrets in the log

The secrets of the logger are those registered by the calls so far (`mem_secrets_after`). None of
them is left in the message of an event nor in details that are texts. Details of other kinds are
written without redaction, and a secret inside them is written with them: a record conceals the
secrets exactly when these details do, and when the escapes of JSON do not happen to spell one
(`conceals_emitted_iff`). A secret in a list is not struck out (`not_conceals_hosts`).
-/

namespace SqlPipeline

theorem mem_registerSecret {logger : Logger} {value : Value} {secret : String} :
    secret ∈ (logger.registerSecret value).secrets ↔
      secret ∈ logger.secrets ∨ (LoggerCall.registerSecret value).secret? = some secret := by
  cases value with
  | str text =>
      rw [Logger.registerSecret, LoggerCall.secret?]
      by_cases blank : (Text.trim text.toList).isEmpty = true
      · simp [blank]
      · by_cases known : text ∈ logger.secrets
        · have already : text = secret → secret ∈ logger.secrets := fun same => same ▸ known
          simpa [blank, known] using already
        · simp [blank, known, eq_comm]
  | _ => simp [Logger.registerSecret, LoggerCall.secret?]

namespace SharedLogger

/-- A call keeps the secrets and adds the one that it registers. -/
theorem mem_secrets_next {shared : SharedLogger} {call : LoggerCall} {secret : String} :
    secret ∈ (shared.next call).logger.secrets ↔
      secret ∈ shared.logger.secrets ∨ call.secret? = some secret := by
  cases call with
  | configure structured level =>
      rw [next, Logger.configure]
      rcases thresholdNamed level with fault | rank <;> simp [Except.map, LoggerCall.secret?]
  | registerSecret value => exact mem_registerSecret
  | tell level message details => simp [next, LoggerCall.secret?]

theorem mem_secrets_foldl {shared : SharedLogger} {calls : List LoggerCall} {secret : String} :
    secret ∈ (calls.foldl next shared).logger.secrets ↔
      secret ∈ shared.logger.secrets ∨ secret ∈ registered calls := by
  induction calls generalizing shared with
  | nil => simp [registered]
  | cons call calls ih =>
      rw [List.foldl_cons, ih, mem_secrets_next, or_assoc, registered, registered,
        List.mem_filterMap, List.mem_filterMap, List.exists_mem_cons_iff]

/-- The secrets of the logger are the registered ones. -/
theorem mem_secrets_after {calls : List LoggerCall} {secret : String} :
    secret ∈ (after calls).logger.secrets ↔ secret ∈ registered calls := by
  rw [after, mem_secrets_foldl]
  simp

end SharedLogger

/-- Whether a text is the message of an event or one of its details. -/
def Event.Holds (event : Event) (text : String) : Prop :=
  text = event.message ∨ ∃ name, (name, .str text) ∈ event.details

/-- Whether no secret stands in what is written. -/
structure Written.Conceals (written : Written) (secrets : List String) : Prop where
  message : SqlPipeline.Conceals secrets written.message
  details : ∀ detail ∈ written.details, SqlPipeline.Conceals secrets detail.2

/-- Whether what redaction does not reach gives no secret away: the details that are not texts, and
the form of a redacted text in JSON where it is not the text itself. -/
structure Event.Discreet (event : Event) (logger : Logger) (secrets : List String) : Prop where
  values : ∀ name value, (name, value) ∈ event.details → (∀ text, value ≠ .str text) →
    ∀ text, logger.writeValue? value = some text → Conceals secrets text
  escapes : logger.structured = true → ∀ text, event.Holds text →
    ¬(Json.AsIs (redact logger.secrets text) ∧ ∀ secret ∈ secrets, '"' ∉ secret.toList) →
      Conceals secrets (Json.quote (redact logger.secrets text))

namespace Logger

variable {logger : Logger} {secrets : List String} {event : Event}

theorem writeValue?_text (logger : Logger) (text : String) :
    logger.writeValue? (.str text) = some (logger.writeText text) := by
  rw [writeValue?, writeText]
  split <;> rfl

theorem redactDetail_of_not_text {value : Value} (notText : ∀ text, value ≠ .str text) :
    logger.redactDetail value = value := by
  cases value with
  | str text => exact absurd rfl (notText text)
  | _ => rfl

theorem mem_redactDetails {details : List (String × Value)} {name : String} {value : Value} :
    (name, value) ∈ logger.redactDetails details ↔
      ∃ old, (name, old) ∈ details ∧ logger.redactDetail old = value := by
  simp only [redactDetails, List.mem_map, Prod.exists, Prod.mk.injEq]
  constructor
  · rintro ⟨_, old, member, rfl, redacted⟩
    exact ⟨old, member, redacted⟩
  · rintro ⟨old, member, redacted⟩
    exact ⟨name, old, member, rfl, redacted⟩

section Redacted

variable (same : ∀ secret, secret ∈ logger.secrets ↔ secret ∈ secrets)
  (redactable : ∀ secret ∈ secrets, Redactable secret)

include same redactable

theorem conceals_redact_of_same (text : String) :
    Conceals secrets (redact logger.secrets text) := by
  have known := conceals_redact (fun secret member => redactable secret ((same secret).mp member))
    text
  exact fun secret member => known secret ((same secret).mpr member)

/-- A redacted text gives nothing away but by its escapes. -/
theorem conceals_writeText (discreet : event.Discreet logger secrets) {text : String}
    (holds : event.Holds text) :
    Conceals secrets (logger.writeText (redact logger.secrets text)) := by
  have redacted := conceals_redact_of_same same redactable text
  rw [writeText]
  split
  · next structured =>
    by_cases asIs : Json.AsIs (redact logger.secrets text) ∧
        ∀ secret ∈ secrets, '"' ∉ secret.toList
    · refine Json.conceals_quote_of_asIs asIs.2 ?_ asIs.1 redacted
      rintro _ member rfl
      exact (redactable "" member).ne_nil rfl
    · exact discreet.escapes structured text holds asIs
  · exact redacted

/-- What is written of an event conceals the secrets exactly when what redaction does not reach
does. -/
theorem conceals_written_iff {written : Written} (emitted : logger.written? event = some written) :
    written.Conceals secrets ↔ event.Discreet logger secrets := by
  rw [written?] at emitted
  split at emitted
  · simp only [Option.bind_eq_bind, Option.bind_eq_some_iff] at emitted
    rcases emitted with ⟨texts, isDetails, isWritten⟩
    cases isWritten
    constructor
    · rintro ⟨message, details⟩
      have ofDetail {name text : String} {value : Value} (member : (name, value) ∈ event.details)
          (isText : logger.writeValue? (logger.redactDetail value) = some text) :
          Conceals secrets text :=
        details (name, text) ((mem_of_writeDetails? isDetails).mpr
          ⟨_, mem_redactDetails.mpr ⟨value, member, rfl⟩, isText⟩)
      constructor
      · intro name value member notText text isText
        rw [← redactDetail_of_not_text notText] at isText
        exact ofDetail member isText
      · rintro structured text holds -
        have shown : logger.writeText (redact logger.secrets text) =
            Json.quote (redact logger.secrets text) := by
          rw [writeText, if_pos structured]
        rw [← shown]
        rcases holds with rfl | ⟨name, member⟩
        · exact message
        · exact ofDetail member (writeValue?_text logger _)
    · intro discreet
      refine ⟨conceals_writeText same redactable discreet (Or.inl rfl), ?_⟩
      rintro ⟨name, text⟩ member
      rcases (mem_of_writeDetails? isDetails).mp member with ⟨_, redacted, isText⟩
      rcases mem_redactDetails.mp redacted with ⟨value, inDetails, rfl⟩
      by_cases isHeld : ∃ held, value = .str held
      · rcases isHeld with ⟨held, rfl⟩
        have conceals := conceals_writeText same redactable discreet
          (Or.inr ⟨name, inDetails⟩ : event.Holds held)
        have shown : some (logger.writeText (redact logger.secrets held)) = some text :=
          (writeValue?_text logger _).symm.trans isText
        rwa [Option.some.inj shown] at conceals
      · have notText : ∀ held, value ≠ .str held := fun held is => isHeld ⟨held, is⟩
        rw [redactDetail_of_not_text notText] at isText
        exact discreet.values name value inDetails notText text isText
  · cases emitted

end Redacted

end Logger

namespace SharedLogger

/-- In every run, whatever the order in which registered secrets are replaced: no secret is left in
the message and the texts of an event, and what is written of the event conceals the secrets exactly
when what redaction does not reach does. -/
theorem conceals_emitted_iff {calls : List LoggerCall} {order : List String} {level : Level}
    {message : Value} {details : List (String × Value)} {written : Written}
    (sameSecrets : ∀ secret, secret ∈ order ↔ secret ∈ (after calls).logger.secrets)
    (redactable : ∀ secret ∈ registered calls, Redactable secret)
    (emitted : ((after calls).withSecrets order).emits? (.tell level message details) =
      some written) :
    (∀ text, (⟨level, message.display, details⟩ : Event).Holds text →
        Conceals (registered calls) (redact order text)) ∧
      (written.Conceals (registered calls) ↔
        (⟨level, message.display, details⟩ : Event).Discreet
          ((after calls).withSecrets order).logger (registered calls)) := by
  have isWritten : ((after calls).withSecrets order).logger.written?
      ⟨level, message.display, details⟩ = some written := by
    rw [emits?] at emitted
    split at emitted
    · rw [Event.withDetails?] at emitted
      split at emitted
      · cases emitted
      · exact emitted
    · cases emitted
  have same : ∀ secret, secret ∈ ((after calls).withSecrets order).logger.secrets ↔
      secret ∈ registered calls := fun secret => (sameSecrets secret).trans mem_secrets_after
  exact ⟨fun text _ => Logger.conceals_redact_of_same same redactable text,
    Logger.conceals_written_iff same redactable isWritten⟩

end SharedLogger

/-- Structured records, and a password to be struck out. -/
def passwordRegistered : List LoggerCall :=
  [.configure true "INFO", .registerSecret (.str "hunter2")]

theorem registered_passwordRegistered : registered passwordRegistered = ["hunter2"] := by
  decide +kernel

theorem mem_secrets_password (secret : String) :
    secret ∈ ["hunter2"] ↔
      secret ∈ (SharedLogger.after passwordRegistered).logger.secrets := by
  rw [SharedLogger.mem_secrets_after, registered_passwordRegistered]

theorem redactable_password : ∀ secret ∈ registered passwordRegistered, Redactable secret := by
  rw [registered_passwordRegistered]
  decide +kernel

/-- An address that the password stands in. -/
def addressDetails : List (String × Value) := [("dsn", .str "postgres://u:hunter2@db")]

/-- What is written of the address. -/
def redactedAddress : Written :=
  ⟨"\"connecting\"", [("dsn", "\"postgres://u:[REDACTED]@db\"")]⟩

theorem emits?_address :
    ((SharedLogger.after passwordRegistered).withSecrets ["hunter2"]).emits?
      (.tell .info (.str "connecting") addressDetails) = some redactedAddress := by
  decide +kernel

theorem discreet_address (logger : Logger) (isSecret : logger.secrets = ["hunter2"]) :
    (⟨.info, "connecting", addressDetails⟩ : Event).Discreet logger
      (registered passwordRegistered) := by
  rw [registered_passwordRegistered]
  constructor
  · intro name value member notText
    obtain ⟨rfl, rfl⟩ := Prod.mk.inj (List.mem_singleton.mp member)
    exact absurd rfl (notText _)
  · intro structured text holds altered
    have unaltered : ∀ shown ∈ ["connecting", "postgres://u:hunter2@db"],
        Json.AsIs (redact ["hunter2"] shown) := by
      decide +kernel
    have noMark : ∀ secret ∈ ["hunter2"], '"' ∉ secret.toList := by
      decide +kernel
    have known : text ∈ ["connecting", "postgres://u:hunter2@db"] := by
      rcases holds with rfl | ⟨name, member⟩
      · exact List.mem_cons_self
      · have same := (Prod.mk.inj (List.mem_singleton.mp member)).2
        rw [Value.str.inj same]
        exact List.mem_cons_of_mem _ List.mem_cons_self
    rw [isSecret] at altered
    exact absurd ⟨unaltered text known, noMark⟩ altered

theorem conceals_emitted_address :
    (∀ secret, secret ∈ ["hunter2"] ↔
        secret ∈ (SharedLogger.after passwordRegistered).logger.secrets) ∧
      (∀ secret ∈ registered passwordRegistered, Redactable secret) ∧
      ((SharedLogger.after passwordRegistered).withSecrets ["hunter2"]).emits?
        (.tell .info (.str "connecting") addressDetails) = some redactedAddress ∧
      redactedAddress.Conceals (registered passwordRegistered) := by
  have known := SharedLogger.conceals_emitted_iff mem_secrets_password redactable_password
    emits?_address
  exact ⟨mem_secrets_password, redactable_password, emits?_address,
    known.2.mpr (discreet_address _ rfl)⟩

/-- A list that the password stands in. -/
def hostDetails : List (String × Value) := [("hosts", .list [.str "hunter2"])]

/-- A secret in a list reaches the log. -/
theorem not_conceals_hosts :
    ¬∀ (calls : List LoggerCall) (order : List String) (level : Level) (message : Value)
      (details : List (String × Value)) (written : Written),
        (∀ secret, secret ∈ order ↔ secret ∈ (SharedLogger.after calls).logger.secrets) →
          (∀ secret ∈ registered calls, Redactable secret) →
            ((SharedLogger.after calls).withSecrets order).emits? (.tell level message details) =
              some written → written.Conceals (registered calls) := by
  intro always
  have emitted : ((SharedLogger.after passwordRegistered).withSecrets ["hunter2"]).emits?
      (.tell .info (.str "connecting") hostDetails) =
        some ⟨"\"connecting\"", [("hosts", "[\"hunter2\"]")]⟩ := by
    decide +kernel
  have conceals := always _ _ _ _ _ _ mem_secrets_password redactable_password emitted
  rw [registered_passwordRegistered] at conceals
  have notThere := conceals.details _ List.mem_cons_self "hunter2" List.mem_cons_self
  exact notThere ⟨"[\"".toList, "\"]".toList, by decide⟩

end SqlPipeline
