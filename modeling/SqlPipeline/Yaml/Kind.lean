/-!
# Kinds of data

Every node of a document is of a kind. A tag names it outright; otherwise a collection is what it
looks like, and so is a plain scalar.
-/

namespace SqlPipeline

namespace Yaml

/-- The kinds of data. -/
inductive Kind where
  | null
  | bool
  | int
  | float
  | bytes
  | moment
  | str
  /-- The key that brings in the entries of other mappings. -/
  | merge
  /-- The key whose value stands for a whole mapping. -/
  | default
  | sequence
  | mapping
  | set
  /-- A sequence of mappings with one entry each. -/
  | pairs
  | unknown
  deriving DecidableEq, Repr

namespace Kind

/-- What the tags of known kinds begin with. -/
def tagBeginning : String := "tag:yaml.org,2002:"

/-- The kinds that have a tag. -/
def tagged : List (String × Kind) :=
  [("null", .null), ("bool", .bool), ("int", .int), ("float", .float), ("binary", .bytes),
    ("timestamp", .moment), ("str", .str), ("merge", .merge), ("value", .default),
    ("seq", .sequence), ("map", .mapping), ("set", .set), ("omap", .pairs), ("pairs", .pairs)]

/-- The kind that a tag names. -/
def ofTag (tag : String) : Kind :=
  match tagged.find? fun (name, _) => tagBeginning ++ name == tag with
  | some (_, kind) => kind
  | none => .unknown

end Kind

end Yaml

end SqlPipeline
