import SqlPipeline.Text.Search

/-!
# Redaction

Registered secrets are struck out of texts: each secret in turn is replaced wherever it occurs.
-/

namespace SqlPipeline

/-- What stands in the place of a secret. -/
def redactionMark : List Char := "[REDACTED]".toList

/-- A text without secrets, each secret replaced in turn. -/
def redactChars (secrets : List (List Char)) (text : List Char) : List Char :=
  secrets.foldl (fun redacted secret => Text.replaceAll secret redactionMark redacted) text

/-- A text with every registered secret struck out. -/
def redact (secrets : List String) (text : String) : String :=
  String.ofList (redactChars (secrets.map String.toList) text.toList)

end SqlPipeline
