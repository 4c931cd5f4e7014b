/-!
# The fields of payloads

A field of a record has two spellings: one on the wire, and a plain one, which is also the name under
which the field is known to whatever reads the record.
-/

namespace SqlPipeline

/-- The two spellings of a field. -/
structure Field where
  wire : String
  plain : String
  deriving DecidableEq, Repr

/-- A field with one spelling. -/
def Field.named (name : String) : Field := ⟨name, name⟩

/-- A field, by its plain name, that records of a model do not have. -/
structure MissingField where
  model : String
  name : String
  deriving DecidableEq, Repr

/-- The wording for a missing field. -/
def MissingField.message (missing : MissingField) : String :=
  "'" ++ missing.model ++ "' object has no attribute '" ++ missing.name ++ "'"

namespace Fields

def column : Field := .named "column"
def op : Field := .named "op"
def value : Field := .named "value"
def function : Field := .named "function"
def columnAlias : Field := .named "alias"
def targetColumn : Field := .named "target_column"
def expression : Field := .named "expression"
def columns : Field := .named "columns"
def separator : Field := .named "separator"
def transformKind : Field := ⟨"transformationType", "transformation_type"⟩
def config : Field := .named "config"
def table : Field := .named "table"
def schema : Field := ⟨"schema", "schema_name"⟩
def query : Field := .named "query"
def connectionString : Field := ⟨"connectionString", "connection_string"⟩
def dbEngine : Field := ⟨"dbEngine", "db_engine"⟩
def joinKind : Field := ⟨"joinType", "join_type"⟩
def leftTable : Field := ⟨"leftTable", "left_table"⟩
def rightTable : Field := ⟨"rightTable", "right_table"⟩
def leftColumn : Field := ⟨"leftColumn", "left_column"⟩
def rightColumn : Field := ⟨"rightColumn", "right_column"⟩
def joinCondition : Field := ⟨"joinCondition", "join_condition"⟩
def conditions : Field := .named "conditions"
def groupBy : Field := ⟨"groupBy", "group_by"⟩
def aggregations : Field := .named "aggregations"
def transforms : Field := .named "transforms"
def lookupTable : Field := ⟨"lookupTable", "lookup_table"⟩
def lookupSchema : Field := ⟨"lookupSchema", "lookup_schema"⟩
def sourceColumns : Field := ⟨"sourceColumns", "source_columns"⟩
def lookupColumns : Field := ⟨"lookupColumns", "lookup_columns"⟩
def returnColumns : Field := ⟨"returnColumns", "return_columns"⟩
def loadStrategy : Field := ⟨"loadStrategy", "load_strategy"⟩

/-- The fields of a condition. -/
def ofCondition : List Field := [column, op, value]

/-- The fields of an aggregated column. -/
def ofAggregation : List Field := [column, function, columnAlias]

/-- The fields of a column transformation. -/
def ofTransform : List Field :=
  [targetColumn, expression, columns, separator, transformKind, config]

end Fields

end SqlPipeline
