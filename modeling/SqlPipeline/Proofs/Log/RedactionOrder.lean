import SqlPipeline.Proofs.Log.Redaction
import SqlPipeline.Proofs.Text.ReplacementOrder

/-!
# Redaction in any order

Secrets are a set, so the order in which they are replaced is not known. Whatever it is, no secret
is left and a second redaction finds nothing to replace (`redact_of_conceals`). Which characters are
struck out may depend on the order where secrets overlap; for secrets that keep apart it does not
(`redact_perm`). Both are put together in `redact_anyOrder`.
-/

namespace SqlPipeline

open Text

/-- Whether different secrets keep clear of each other: none stands in another, and none begins as
another ends. -/
def KeepApart (secrets : List String) : Prop :=
  ∀ secret ∈ secrets, ∀ other ∈ secrets, secret ≠ other → KeepsClear secret.toList other.toList

theorem redact_cons (secret : String) (secrets : List String) (text : String) :
    redact (secret :: secrets) text =
      redact secrets (String.ofList (replaceAll secret.toList redactionMark text.toList)) := by
  rw [redact, redact, String.toList_ofList]
  rfl

/-- A text without secrets stays as it is. -/
theorem redact_of_conceals {secrets : List String} {text : String}
    (conceals : Conceals secrets text) : redact secrets text = text := by
  induction secrets with
  | nil => exact String.ofList_toList
  | cons secret rest ih =>
      rw [redact_cons, replaceAll_of_not_infix (conceals secret List.mem_cons_self),
        String.ofList_toList]
      exact ih fun other member => conceals other (List.mem_cons_of_mem _ member)

theorem Redactable.keepsClear_redactionMark {secret : String} (redactable : Redactable secret) :
    KeepsClear secret.toList redactionMark := by
  rw [redactionMark_eq]
  exact keepsClear_mark redactable.noOpening redactable.noClosing redactable.notInside

/-- Two secrets that keep apart can be replaced in either order. -/
theorem replaceAll_redactionMark_comm {secret other : String} (redactable : Redactable secret)
    (redactableOther : Redactable other)
    (apart : secret ≠ other → KeepsClear secret.toList other.toList ∧
      KeepsClear other.toList secret.toList) (text : List Char) :
    replaceAll other.toList redactionMark (replaceAll secret.toList redactionMark text) =
      replaceAll secret.toList redactionMark (replaceAll other.toList redactionMark text) := by
  by_cases same : secret = other
  · rw [same]
  · rcases apart same with ⟨clear, clearOther⟩
    exact replaceAll_comm redactable.noOpening redactableOther.noOpening clear clearOther
      redactable.keepsClear_redactionMark redactableOther.keepsClear_redactionMark text

/-- The order in which secrets are replaced does not matter for secrets that keep apart. -/
theorem redact_perm {order other : List String} (perm : order.Perm other)
    (redactable : ∀ secret ∈ order, Redactable secret) (apart : KeepApart order) (text : String) :
    redact order text = redact other text := by
  have comm : ∀ first ∈ order.map String.toList, ∀ second ∈ order.map String.toList, ∀ text,
      replaceAll second redactionMark (replaceAll first redactionMark text) =
        replaceAll first redactionMark (replaceAll second redactionMark text) := by
    intro first isFirst second isSecond text
    rcases List.mem_map.mp isFirst with ⟨secret, member, rfl⟩
    rcases List.mem_map.mp isSecond with ⟨other, memberOther, rfl⟩
    exact replaceAll_redactionMark_comm (redactable secret member) (redactable other memberOther)
      (fun differ => ⟨apart secret member other memberOther differ,
        apart other memberOther secret member differ.symm⟩) text
  exact congrArg String.ofList ((perm.map String.toList).foldl_eq' comm text.toList)

/-- Where secrets overlap the order decides which characters are struck out. -/
example : redact ["ab", "bc"] "abc" ≠ redact ["bc", "ab"] "abc" := by
  decide +kernel

/-- Redaction of one text, whatever the order in which the secrets are replaced: no secret is left,
redacting again in whatever order changes nothing, and secrets that keep apart are replaced to the
same text in every order. -/
theorem redact_anyOrder {secrets order other : List String} (isOrder : order.Perm secrets)
    (isOther : other.Perm secrets) (redactable : ∀ secret ∈ secrets, Redactable secret)
    (text : String) :
    Conceals secrets (redact order text) ∧
      redact other (redact order text) = redact order text ∧
      (KeepApart secrets → redact other text = redact order text) := by
  have redactableOrder : ∀ secret ∈ order, Redactable secret := fun secret member =>
    redactable secret (isOrder.subset member)
  have conceals : Conceals secrets (redact order text) := fun secret member =>
    conceals_redact redactableOrder text secret (isOrder.symm.subset member)
  refine ⟨conceals, ?_, fun apart => ?_⟩
  · exact redact_of_conceals fun secret member => conceals secret (isOther.subset member)
  · have apartOrder : KeepApart order := fun secret member other memberOther =>
      apart secret (isOrder.subset member) other (isOrder.subset memberOther)
    exact (redact_perm (isOrder.trans isOther.symm) redactableOrder apartOrder text).symm

/-- Secrets that keep apart, one of which overlaps itself. -/
def keptSecrets : List String := ["aba", "s3cret", "p q"]

theorem redactable_keptSecrets : ∀ secret ∈ keptSecrets, Redactable secret := by
  decide +kernel

theorem keepApart_keptSecrets : KeepApart keptSecrets := by
  unfold KeepApart
  decide +kernel

theorem redact_anyOrder_keptSecrets :
    keptSecrets.Perm keptSecrets ∧ keptSecrets.reverse.Perm keptSecrets ∧
      (∀ secret ∈ keptSecrets, Redactable secret) ∧ KeepApart keptSecrets ∧
      redact keptSecrets "ababa s3crets p q" = "[REDACTED]ba [REDACTED]s [REDACTED]" ∧
      Conceals keptSecrets "[REDACTED]ba [REDACTED]s [REDACTED]" ∧
      redact keptSecrets.reverse "[REDACTED]ba [REDACTED]s [REDACTED]" =
        "[REDACTED]ba [REDACTED]s [REDACTED]" ∧
      redact keptSecrets.reverse "ababa s3crets p q" = "[REDACTED]ba [REDACTED]s [REDACTED]" := by
  have reversed := List.reverse_perm keptSecrets
  have known := redact_anyOrder (.refl _) reversed redactable_keptSecrets "ababa s3crets p q"
  have redacted : redact keptSecrets "ababa s3crets p q" =
      "[REDACTED]ba [REDACTED]s [REDACTED]" := by
    decide +kernel
  rw [redacted] at known
  exact ⟨.refl _, reversed, redactable_keptSecrets, keepApart_keptSecrets, redacted, known.1,
    known.2.1, known.2.2 keepApart_keptSecrets⟩

end SqlPipeline
