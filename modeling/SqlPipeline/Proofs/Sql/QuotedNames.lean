import SqlPipeline.Proofs.Sql.PlainStages

/-!
# Names that run into each other

The name of a table and that of its schema stand between quotation marks, with a point between them,
and a mark inside a name is written like any other character. So a name can end its own quoting: two
sources have the same base relation exactly when their names are the same, or those of one overrun
those of the other in one of three ways (`baseRelation_eq_iff`). A table in a schema always shares
its base relation with a table in none, whose name holds the marks and the point. Names without
marks are told apart (`eq_of_baseRelation_eq`).
-/

namespace SqlPipeline

open Text

/-- The schema and the table that a source reads, if it has no query and names a table. -/
def Source.place? (payload : Source) : Option (Option String × String) :=
  match filled? payload.query with
  | some _ => none
  | none => (filled? payload.table).map fun table => (filled? payload.schema, table)

/-- Whether the names of one place end within the names of another. -/
inductive Overruns : Option String × String → Option String × String → Prop where
  /-- The name of a table holds another schema and table, with what stands between them. -/
  | whole (schema table : String) : Overruns (some schema, table) (none, schema ++ "\".\"" ++ table)
  /-- The schema ends at an earlier mark. -/
  | earlier (schema middle table : String) :
      Overruns (some schema, middle ++ "\".\"" ++ table) (some (schema ++ "\".\"" ++ middle), table)
  /-- The schema ends at an earlier mark, and the same mark opens the two tables. -/
  | adjoining (schema table : String) :
      Overruns (some schema, ".\"" ++ table) (some (schema ++ "\"."), table)

variable {schema otherSchema : Option String} {table otherTable : String}

theorem baseRelation_of_place (id : String) {payload : Source}
    (reads : payload.place? = some (schema, table)) :
    Draft.baseRelation id payload = .ok (tableReference schema table) := by
  rw [Source.place?] at reads
  split at reads
  · cases reads
  · next noQuery =>
    rcases Option.map_eq_some_iff.mp reads with ⟨name, isTable, same⟩
    cases same
    rw [Draft.baseRelation, noQuery, isTable]
    cases filled? payload.schema <;> rfl

/-- What stands between the first and the last mark of a reference. -/
def betweenMarks : Option String × String → List Char
  | (none, table) => table.toList
  | (some schema, table) => schema.toList ++ '"' :: '.' :: '"' :: table.toList

theorem toList_tableReference (schema : Option String) (table : String) :
    (tableReference schema table).toList = '"' :: (betweenMarks (schema, table) ++ ['"']) := by
  cases schema with
  | none => exact toList_tableReference_none table
  | some schema =>
      rw [toList_tableReference_some, betweenMarks]
      simp

theorem tableReference_eq_iff : tableReference schema table = tableReference otherSchema otherTable ↔
    betweenMarks (schema, table) = betweenMarks (otherSchema, otherTable) := by
  rw [← String.toList_inj, toList_tableReference, toList_tableReference]
  simp

theorem Overruns.betweenMarks_eq {place other : Option String × String}
    (overruns : Overruns place other) : betweenMarks place = betweenMarks other := by
  cases overruns <;> simp [betweenMarks]

/-- Where one schema is longer, it goes on with the marks and the point, or with a part of them. -/
theorem cases_of_longer {gap rest otherRest : List Char}
    (same : '"' :: '.' :: '"' :: rest = gap ++ '"' :: '.' :: '"' :: otherRest) :
    gap = [] ∨ (gap = ['"', '.'] ∧ rest = '.' :: '"' :: otherRest) ∨
      ∃ middle, gap = '"' :: '.' :: '"' :: middle ∧ rest = middle ++ '"' :: '.' :: '"' :: otherRest := by
  rcases gap with _ | ⟨first, _ | ⟨second, _ | ⟨third, middle⟩⟩⟩ <;> simp at same
  · exact Or.inl rfl
  · rcases same with ⟨rfl, rfl, rfl⟩
    exact Or.inr (Or.inl ⟨rfl, rfl⟩)
  · rcases same with ⟨rfl, rfl, rfl, rfl⟩
    exact Or.inr (Or.inr ⟨middle, rfl, rfl⟩)

/-- A longer schema in the same reference is that of a place that is overrun. -/
theorem overruns_of_longer {schema longer : String} {gap : List Char}
    (goesOn : longer.toList = schema.toList ++ gap)
    (same : '"' :: '.' :: '"' :: table.toList = gap ++ '"' :: '.' :: '"' :: otherTable.toList) :
    (schema = longer ∧ table = otherTable) ∨
      Overruns (some schema, table) (some longer, otherTable) := by
  rcases cases_of_longer same with rfl | ⟨rfl, rest⟩ | ⟨middle, rfl, rest⟩
  · left
    simp only [List.nil_append, List.cons.injEq, true_and] at same
    refine ⟨?_, String.toList_inj.mp same⟩
    apply String.toList_inj.mp
    rw [goesOn, List.append_nil]
  · right
    have isLonger : longer = schema ++ "\"." := by
      apply String.toList_inj.mp
      simp [goesOn]
    have isTable : table = ".\"" ++ otherTable := by
      apply String.toList_inj.mp
      simp [rest]
    rw [isLonger, isTable]
    exact .adjoining schema otherTable
  · right
    have isLonger : longer = schema ++ "\".\"" ++ String.ofList middle := by
      apply String.toList_inj.mp
      simp [goesOn]
    have isTable : table = String.ofList middle ++ "\".\"" ++ otherTable := by
      apply String.toList_inj.mp
      simp [rest]
    rw [isLonger, isTable]
    exact .earlier schema _ otherTable

/-- A table in no schema has the reference of a table in a schema only if its name holds it. -/
theorem overruns_of_whole {schema : String}
    (same : betweenMarks (some schema, table) = betweenMarks (none, otherTable)) :
    Overruns (some schema, table) (none, otherTable) := by
  have isTable : otherTable = schema ++ "\".\"" ++ table := by
    apply String.toList_inj.mp
    rw [betweenMarks, betweenMarks] at same
    simp [← same]
  rw [isTable]
  exact .whole schema table

theorem same_or_overruns (same : betweenMarks (schema, table) =
    betweenMarks (otherSchema, otherTable)) :
    (schema = otherSchema ∧ table = otherTable) ∨
      Overruns (schema, table) (otherSchema, otherTable) ∨
      Overruns (otherSchema, otherTable) (schema, table) := by
  rcases schema with _ | schema <;> rcases otherSchema with _ | otherSchema
  · exact Or.inl ⟨rfl, String.toList_inj.mp same⟩
  · exact Or.inr (Or.inr (overruns_of_whole same.symm))
  · exact Or.inr (Or.inl (overruns_of_whole same))
  · rw [betweenMarks, betweenMarks] at same
    rcases List.append_eq_append_iff.mp same with ⟨gap, goesOn, rest⟩ | ⟨gap, goesOn, rest⟩
    · rcases overruns_of_longer goesOn rest with ⟨rfl, rfl⟩ | overruns
      · exact Or.inl ⟨rfl, rfl⟩
      · exact Or.inr (Or.inl overruns)
    · rcases overruns_of_longer goesOn rest with ⟨rfl, rfl⟩ | overruns
      · exact Or.inl ⟨rfl, rfl⟩
      · exact Or.inr (Or.inr overruns)

/-- Two sources that read tables have the same base relation exactly when they read the same table in
the same schema, or the names of one overrun those of the other. -/
theorem baseRelation_eq_iff (id otherId : String) {payload other : Source}
    (reads : payload.place? = some (schema, table))
    (readsOther : other.place? = some (otherSchema, otherTable)) :
    Draft.baseRelation id payload = Draft.baseRelation otherId other ↔
      (schema = otherSchema ∧ table = otherTable) ∨
        Overruns (schema, table) (otherSchema, otherTable) ∨
        Overruns (otherSchema, otherTable) (schema, table) := by
  rw [baseRelation_of_place id reads, baseRelation_of_place otherId readsOther, Except.ok.injEq,
    tableReference_eq_iff]
  constructor
  · exact same_or_overruns
  · rintro (⟨rfl, rfl⟩ | overruns | overruns)
    · rfl
    · exact overruns.betweenMarks_eq
    · exact overruns.betweenMarks_eq.symm

/-- Names are only overrun by names with a mark in them. -/
theorem Overruns.mark_mem {place : Option String × String}
    (overruns : Overruns place (schema, table)) :
    '"' ∈ table.toList ∨ ∃ name, schema = some name ∧ '"' ∈ name.toList := by
  cases overruns with
  | whole => exact Or.inl (by simp)
  | earlier => exact Or.inr ⟨_, rfl, by simp⟩
  | adjoining => exact Or.inr ⟨_, rfl, by simp⟩

/-- Names without marks can be told from the base relation. -/
theorem eq_of_baseRelation_eq (id otherId : String) {payload other : Source}
    (reads : payload.place? = some (schema, table))
    (readsOther : other.place? = some (otherSchema, otherTable))
    (unmarked : ∀ name ∈ table :: otherTable :: (schema.toList ++ otherSchema.toList),
      '"' ∉ name.toList)
    (same : Draft.baseRelation id payload = Draft.baseRelation otherId other) :
    schema = otherSchema ∧ table = otherTable := by
  rw [baseRelation_of_place id reads, baseRelation_of_place otherId readsOther, Except.ok.injEq,
    tableReference_eq_iff] at same
  rcases same_or_overruns same with equal | overruns | overruns
  · exact equal
  · rcases overruns.mark_mem with inTable | ⟨name, rfl, inSchema⟩
    · exact absurd inTable (unmarked _ (by simp))
    · exact absurd inSchema (unmarked name (by simp))
  · rcases overruns.mark_mem with inTable | ⟨name, rfl, inSchema⟩
    · exact absurd inTable (unmarked _ (by simp))
    · exact absurd inSchema (unmarked name (by simp))

/-- The point of a reference between two marks that could both belong to it. -/
theorem baseRelation_eq_adjoining :
    Draft.baseRelation "first" { schema := some "a", table := some ".\"b" } =
      Draft.baseRelation "second" { schema := some "a\".", table := some "b" } :=
  (@baseRelation_eq_iff (some "a") (some "a\".") ".\"b" "b" "first" "second" _ _ rfl rfl).mpr
    (Or.inr (Or.inl (.adjoining "a" "b")))

/-- The name of a table that ends its own quoting reads like a table in a schema. -/
theorem baseRelation_ambiguous :
    Draft.baseRelation "first" { table := some "a\".\"b" } = .ok "\"a\".\"b\"" ∧
      Draft.baseRelation "second" { schema := some "a", table := some "b" } =
        .ok "\"a\".\"b\"" ∧
      ((none, "a\".\"b") : Option String × String) ≠ (some "a", "b") :=
  ⟨rfl, rfl, by simp⟩

end SqlPipeline
