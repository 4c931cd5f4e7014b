/-!
# Tokens of a document text

The text of a document is first taken apart into tokens. Block structure, which the text shows by
indentation alone, becomes explicit starts and ends; a key that is recognised only at its colon gets
its `key` token in front after the fact.
-/

namespace SqlPipeline

namespace Yaml

/-- A directive before a document. -/
inductive Directive where
  | version (major : Nat)
  | tagHandle (handle beginning : String)
  | other
  deriving DecidableEq, Repr

/-- The tokens. -/
inductive Token where
  | streamEnd
  | directive (directive : Directive)
  | documentStart
  | documentEnd
  | blockSequenceStart
  | blockMappingStart
  | blockEnd
  | flowSequenceStart
  | flowSequenceEnd
  | flowMappingStart
  | flowMappingEnd
  | blockEntry
  | flowEntry
  | key
  | value
  | reference (name : String)
  | anchor (name : String)
  | tag (handle : Option String) (ending : String)
  | scalar (text : String) (isPlain : Bool)
  deriving DecidableEq, Repr

end Yaml

end SqlPipeline
