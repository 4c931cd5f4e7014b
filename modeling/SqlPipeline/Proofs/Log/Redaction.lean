import Mathlib.Data.List.Induction
import Mathlib.Data.List.Infix
import SqlPipeline.Log.Redaction
import SqlPipeline.Proofs.Text.Replacement

/-!
# What redaction leaves of secrets

Secrets are replaced one after the other, so a later replacement might bring back an earlier secret.
It does not for secrets that hold no brackets and do not stand in the word of the mark: whatever the
order, no secret is left (`conceals_redact`).
-/

namespace SqlPipeline

open Text

/-- A text in which no secret stands. -/
def Conceals (secrets : List String) (text : String) : Prop :=
  ∀ secret ∈ secrets, ¬secret.toList <:+: text.toList

/-- A secret that shares nothing with the mark that takes its place: it holds no bracket and does
not stand in the word between them. -/
structure Redactable (secret : String) : Prop where
  noOpening : '[' ∉ secret.toList
  noClosing : ']' ∉ secret.toList
  notInside : ¬secret.toList <:+: "REDACTED".toList

instance (secret : String) : Decidable (Redactable secret) :=
  decidable_of_iff
    ('[' ∉ secret.toList ∧ ']' ∉ secret.toList ∧ ¬secret.toList <:+: "REDACTED".toList)
    ⟨fun ⟨noOpening, noClosing, notInside⟩ => ⟨noOpening, noClosing, notInside⟩,
    fun ⟨noOpening, noClosing, notInside⟩ => ⟨noOpening, noClosing, notInside⟩⟩

theorem redactionMark_eq : redactionMark = '[' :: ("REDACTED".toList ++ [']']) := rfl

namespace Redactable

variable {secret : String} (redactable : Redactable secret)

include redactable

theorem ne_nil : secret.toList ≠ [] := by
  intro empty
  apply redactable.notInside
  rw [empty]
  exact List.nil_infix

/-- No replacement brings a secret back. -/
theorem not_infix_replaceAll_of_absent {text : List Char} (absent : ¬secret.toList <:+: text)
    (old : List Char) : ¬secret.toList <:+: replaceAll old redactionMark text := by
  rw [redactionMark_eq]
  intro occurs
  rcases infix_of_infix_replaceAll redactable.noOpening redactable.noClosing redactable.ne_nil
    occurs with inMark | inText
  · exact redactable.notInside inMark
  · exact absent inText

end Redactable

/-- Whatever the order in which secrets are replaced, none is left. -/
theorem conceals_redact {secrets : List String}
    (redactable : ∀ secret ∈ secrets, Redactable secret) (text : String) :
    Conceals secrets (redact secrets text) := by
  intro secret member
  rw [redact, String.toList_ofList]
  induction secrets using List.reverseRecOn with
  | nil => cases member
  | append_singleton earlier last ih =>
      have step : redactChars ((earlier ++ [last]).map String.toList) text.toList =
          replaceAll last.toList redactionMark
            (redactChars (earlier.map String.toList) text.toList) := by
        rw [redactChars, List.map_append, List.foldl_append]
        rfl
      rw [step]
      rcases List.mem_append.mp member with inEarlier | isLast
      · have absent := ih (fun other known => redactable other (List.mem_append_left _ known))
          inEarlier
        exact (redactable secret member).not_infix_replaceAll_of_absent absent _
      · obtain rfl := List.mem_singleton.mp isLast
        have known := redactable secret member
        rw [redactionMark_eq]
        exact not_infix_replaceAll known.noOpening known.noClosing known.notInside

end SqlPipeline
