import Mathlib.Data.List.Pairwise
import SqlPipeline.Proofs.Value.Mapping
import SqlPipeline.Validation.Dump
import SqlPipeline.Validation.Scalar

/-!
# Reading a record that was written

A record is written under one of two spellings and may leave out what is null; it is read under
either spelling, and what is missing gets its default. The two fit together when no spelling of a
field is a spelling of another field of the record (`Separate`): then every field is found as it was
written (`find?_entries`), and is read as before as long as null only stands for the default
(`orElse_entries`). What holds of single values is then put together field by field.
-/

namespace SqlPipeline

/-- Two fields without a spelling in common. -/
structure Field.Apart (field other : Field) : Prop where
  wires : field.wire ≠ other.wire
  wirePlain : field.wire ≠ other.plain
  plainWire : field.plain ≠ other.wire
  plains : field.plain ≠ other.plain

instance (field other : Field) : Decidable (field.Apart other) :=
  decidable_of_iff
    (field.wire ≠ other.wire ∧ field.wire ≠ other.plain ∧ field.plain ≠ other.wire ∧
      field.plain ≠ other.plain)
    ⟨fun ⟨a, b, c, d⟩ => ⟨a, b, c, d⟩, fun ⟨a, b, c, d⟩ => ⟨a, b, c, d⟩⟩

theorem Field.Apart.symm {field other : Field} (apart : field.Apart other) : other.Apart field :=
  ⟨apart.wires.symm, apart.plainWire.symm, apart.wirePlain.symm, apart.plains.symm⟩

/-- Fields of which no two have a spelling in common. -/
def Separate (fields : List Field) : Prop := fields.Pairwise Field.Apart

instance (fields : List Field) : Decidable (Separate fields) :=
  inferInstanceAs (Decidable (fields.Pairwise Field.Apart))

namespace DumpStyle

variable (style : DumpStyle)

/-- Whether a value is left out. -/
def skips (value : Value) : Bool := style.skipNull && value.isNull

/-- The entries of a record. -/
def entries (fields : List (Field × Value)) : Mapping :=
  (fields.filter fun field => !style.skips field.2).map fun field =>
    (.str (style.spelling field.1), field.2)

theorem record_eq (fields : List (Field × Value)) :
    style.record fields = .map (style.entries fields) := by
  simp [record, Value.record, entries, skips]

variable {style} {fields : List (Field × Value)} {field : Field} {value : Value} {name : String}

theorem mem_of_field?_entries (found : Mapping.field? name (style.entries fields) = some value) :
    ∃ field, (field, value) ∈ fields ∧ style.spelling field = name ∧ style.skips value = false := by
  rcases Mapping.mem_of_find? found with ⟨key, named, member⟩
  rcases List.mem_map.mp member with ⟨⟨field, written⟩, kept, same⟩
  obtain ⟨rfl, rfl⟩ := Prod.mk.inj same
  rcases List.mem_filter.mp kept with ⟨inFields, notSkipped⟩
  exact ⟨field, inFields, by simpa using named, by simpa using notSkipped⟩

theorem field?_entries_ne_none (member : (field, value) ∈ fields)
    (kept : style.skips value = false) :
    Mapping.field? (style.spelling field) (style.entries fields) ≠ none := by
  intro absent
  have written : (.str (style.spelling field), value) ∈ style.entries fields :=
    List.mem_map.mpr ⟨(field, value), List.mem_filter.mpr ⟨member, by simp [kept]⟩, rfl⟩
  have apart := Mapping.find?_eq_none_iff.mp absent _ written
  simp at apart

/-- In a record of separate fields a spelling of a field belongs to that field only. -/
theorem eq_of_spelling {other : Field} {written : Value} (separate : Separate (fields.map Prod.fst))
    (member : (field, value) ∈ fields) (otherMember : (other, written) ∈ fields)
    (spelled : style.spelling other = field.wire ∨ style.spelling other = field.plain) :
    (other, written) = (field, value) := by
  by_contra differs
  have pairs : fields.Pairwise fun one another => one.1.Apart another.1 :=
    List.pairwise_map.mp separate
  have : Std.Symm fun one another : Field × Value => one.1.Apart another.1 :=
    ⟨fun _ _ => Field.Apart.symm⟩
  have apart : field.Apart other := pairs.forall member otherMember (Ne.symm differs)
  rw [spelling] at spelled
  split at spelled
  · exact spelled.elim apart.wires.symm apart.plainWire.symm
  · exact spelled.elim apart.wirePlain.symm apart.plains.symm

theorem field?_entries_of_skipped (separate : Separate (fields.map Prod.fst))
    (member : (field, value) ∈ fields) (skipped : style.skips value = true)
    (named : name = field.wire ∨ name = field.plain) :
    Mapping.field? name (style.entries fields) = none := by
  rcases found : Mapping.field? name (style.entries fields) with _ | written
  · rfl
  · rcases mem_of_field?_entries found with ⟨other, inFields, rfl, kept⟩
    obtain ⟨rfl, rfl⟩ := Prod.mk.inj (eq_of_spelling separate member inFields named)
    rw [skipped] at kept
    cases kept

theorem field?_entries_of_kept (separate : Separate (fields.map Prod.fst))
    (member : (field, value) ∈ fields) (kept : style.skips value = false) :
    Mapping.field? (style.spelling field) (style.entries fields) = some value := by
  rcases found : Mapping.field? (style.spelling field) (style.entries fields) with _ | written
  · exact absurd found (field?_entries_ne_none member kept)
  · rcases mem_of_field?_entries found with ⟨other, inFields, spelled, -⟩
    have own : style.spelling other = field.wire ∨ style.spelling other = field.plain := by
      rw [spelled, spelling]
      split
      · exact Or.inl rfl
      · exact Or.inr rfl
    rw [(Prod.mk.inj (eq_of_spelling separate member inFields own)).2]

theorem field?_entries_named (separate : Separate (fields.map Prod.fst))
    (member : (.named name, value) ∈ fields) (notNull : value.isNull = false) :
    Mapping.field? name (style.entries fields) = some value := by
  have spelled : style.spelling (.named name) = name := by
    rw [spelling]
    split <;> rfl
  have kept : style.skips value = false := by simp [skips, notNull]
  have known := field?_entries_of_kept separate member kept
  rwa [spelled] at known

/-- A field of a written record is found under the spelling of the style, unless it was left out. -/
theorem find?_entries (separate : Separate (fields.map Prod.fst))
    (member : (field, value) ∈ fields) :
    field.find? (style.entries fields) =
      if style.skips value then none else some (style.spelling field, value) := by
  rw [Field.find?]
  by_cases skipped : style.skips value = true
  · rw [if_pos skipped, field?_entries_of_skipped separate member skipped (Or.inl rfl),
      field?_entries_of_skipped separate member skipped (Or.inr rfl)]
    rfl
  · rw [if_neg skipped]
    rw [Bool.not_eq_true] at skipped
    have known := field?_entries_of_kept separate member skipped
    rcases found : Mapping.field? field.wire (style.entries fields) with _ | written
    · rw [spelling] at known ⊢
      split at known
      · rw [known] at found
        cases found
      · next plain =>
        rw [known, if_neg plain]
        rfl
    · rcases mem_of_field?_entries found with ⟨other, inFields, spelled, -⟩
      obtain ⟨rfl, rfl⟩ := Prod.mk.inj (eq_of_spelling separate member inFields (Or.inl spelled))
      rw [spelled]

/-- A required field is read as it was written. -/
theorem required_entries {α : Type} {read : Value → Checked α} {result : α}
    (separate : Separate (fields.map Prod.fst)) (member : (field, value) ∈ fields)
    (notNull : value.isNull = false) (reads : read value = .valid result) :
    field.required read (style.entries fields) = .valid result := by
  have kept : style.skips value = false := by simp [skips, notNull]
  rw [Field.required, find?_entries separate member, kept]
  change (read value).under _ = _
  rw [reads]
  rfl

/-- A field with a default is read as it was written, if null stands for the default only. -/
theorem orElse_entries {α : Type} {default : α} {read : Value → Checked α} {result : α}
    (separate : Separate (fields.map Prod.fst)) (member : (field, value) ∈ fields)
    (reads : read value = .valid result) (ofNull : value.isNull = true → result = default) :
    field.orElse default read (style.entries fields) = .valid result := by
  rw [Field.orElse, find?_entries separate member]
  by_cases skipped : style.skips value = true
  · have isNull : value.isNull = true := by
      rw [skips, Bool.and_eq_true] at skipped
      exact skipped.2
    rw [if_pos skipped, ofNull isNull]
  · rw [if_neg skipped]
    change (read value).under _ = _
    rw [reads]
    rfl

/-- A record has no entry under a name that no field of it has. -/
theorem erase_entries
    (foreign : ∀ field ∈ fields.map Prod.fst, field.wire ≠ name ∧ field.plain ≠ name) :
    Mapping.erase name (style.entries fields) = style.entries fields := by
  apply Mapping.erase_of_find?_eq_none
  rcases found : Mapping.find? (.str name) (style.entries fields) with _ | written
  · rfl
  · rcases mem_of_field?_entries found with ⟨field, member, spelled, -⟩
    have apart := foreign field (List.mem_map_of_mem member)
    rw [spelling] at spelled
    split at spelled
    · exact absurd spelled apart.1
    · exact absurd spelled apart.2

end DumpStyle

namespace Checked

variable {α β : Type}

@[simp] theorem map_valid (function : α → β) (value : α) :
    function <$> (valid value) = valid (function value) := rfl

@[simp] theorem map_invalid (function : α → β) (first : Fault) (later : List Fault) :
    function <$> (invalid first later) = invalid first later := rfl

@[simp] theorem valid_seq_valid (function : α → β) (value : α) :
    valid function <*> valid value = valid (function value) := rfl

theorem map_eq_valid_iff {function : α → β} {part : Checked α} {result : β} :
    function <$> part = valid result ↔ ∃ value, part = valid value ∧ function value = result := by
  cases part <;> simp

@[simp] theorem under_eq_valid_iff {step : Step} {part : Checked α} {result : α} :
    part.under step = valid result ↔ part = valid result := by
  cases part <;> simp [under]

theorem andThen_eq_valid_iff {first : Checked α} {next : α → Checked β} {result : β} :
    first.andThen next = valid result ↔
      ∃ value, first = valid value ∧ next value = valid result := by
  cases first <;> simp [andThen]

/-- Each item of a list that was read comes from a document. -/
theorem exists_of_mem_items {read : Value → Checked α} {index : Nat} {documents : List Value}
    {list : List α} (found : items read index documents = valid list) {item : α}
    (member : item ∈ list) : ∃ document ∈ documents, read document = valid item := by
  induction documents generalizing index list with
  | nil =>
      cases found
      cases member
  | cons document rest ih =>
      rw [items] at found
      rcases seq_eq_valid_iff.mp found with ⟨_, others, first, later, rfl⟩
      rcases map_eq_valid_iff.mp first with ⟨value, isFirst, rfl⟩
      rcases List.mem_cons.mp member with rfl | behind
      · exact ⟨document, List.mem_cons_self, under_eq_valid_iff.mp isFirst⟩
      · rcases ih later behind with ⟨other, inRest, isItem⟩
        exact ⟨other, List.mem_cons_of_mem _ inRest, isItem⟩

/-- A list that was written item by item is read item by item. -/
theorem items_map {read : Value → Checked β} {write : α → Value} {back : α → β} {list : List α}
    (reads : ∀ item ∈ list, read (write item) = .valid (back item)) (index : Nat) :
    items read index (list.map write) = .valid (list.map back) := by
  induction list generalizing index with
  | nil => rfl
  | cons first rest ih =>
      rw [List.map_cons, items, reads first List.mem_cons_self,
        ih (fun item member => reads item (List.mem_cons_of_mem _ member))]
      rfl

end Checked

/-- Each item of what was read as a list comes from a document. -/
theorem Value.exists_of_mem_readList {α : Type} {read : Value → Checked α} {value : Value}
    {list : List α} (found : Value.readList read value = .valid list) {item : α}
    (member : item ∈ list) : ∃ document, read document = .valid item := by
  rw [readList] at found
  split at found
  · rcases Checked.exists_of_mem_items found member with ⟨document, -, isItem⟩
    exact ⟨document, isItem⟩
  · cases found

/-- A field with a default holds its default or what was read from a document. -/
theorem Field.eq_default_or_read {α : Type} {field : Field} {default : α}
    {read : Value → Checked α} {entries : Mapping} {result : α}
    (found : field.orElse default read entries = .valid result) :
    result = default ∨ ∃ document, read document = .valid result := by
  rw [orElse] at found
  split at found
  · exact Or.inr ⟨_, Checked.under_eq_valid_iff.mp found⟩
  · cases found
    exact Or.inl rfl

/-- A choice whose members can be told by their written forms. -/
class LawfulChoice (α : Type) [Choice α] : Prop where
  ofLabel?_label : ∀ member : α, Choice.ofLabel? (Choice.label member) = some member

instance : LawfulChoice Operator where
  ofLabel?_label member := by cases member <;> cbv

instance : LawfulChoice AggregateFunction where
  ofLabel?_label member := by cases member <;> cbv

instance : LawfulChoice JoinKind where
  ofLabel?_label member := by cases member <;> cbv

instance : LawfulChoice LoadStrategy where
  ofLabel?_label member := by cases member <;> cbv

instance : LawfulChoice TransformKind where
  ofLabel?_label member := by cases member <;> cbv

instance : LawfulChoice StageKind where
  ofLabel?_label member := by cases member <;> cbv

namespace Value

variable {α β : Type}

theorem readText_str (text : String) : readText (.str text) = .valid text := rfl

theorem readChoice_choice [Choice α] [LawfulChoice α] (member : α) :
    readChoice α (.choice member) = .valid member := by
  have known : ((Value.choice member).heldText?.join.bind Choice.ofLabel? : Option α) =
      some member :=
    LawfulChoice.ofLabel?_label member
  rw [readChoice, known]

theorem readList_map {read : Value → Checked β} {write : α → Value} {back : α → β} {list : List α}
    (reads : ∀ item ∈ list, read (write item) = .valid (back item)) :
    readList read (.list (list.map write)) = .valid (list.map back) :=
  Checked.items_map reads 0

theorem readList_texts (items : List String) : readList readText (.texts items) = .valid items := by
  have known : readList readText (.list (items.map .str)) = .valid (items.map id) :=
    readList_map fun item _ => readText_str item
  rwa [List.map_id] at known

theorem readOptional_optional (text : Option String) :
    readOptional readText (.optional text) = .valid text := by
  rcases text with _ | text <;> rfl

theorem readOptional_of_notNull {read : Value → Checked α} {value : Value} {result : α}
    (notNull : value.isNull = false) (reads : read value = .valid result) :
    readOptional read value = .valid (some result) := by
  cases value with
  | null => cases notNull
  | _ =>
      change some <$> read _ = _
      rw [reads]
      rfl

theorem readOptional_orNull {read : Value → Checked α} {write : α → Value}
    (notNull : ∀ value, (write value).isNull = false)
    (reads : ∀ value, read (write value) = .valid value) (value : Option α) :
    readOptional read (.orNull write value) = .valid value := by
  rcases value with _ | value
  · rfl
  · exact readOptional_of_notNull (notNull value) (reads value)

theorem isNull_orNull {write : α → Value} (notNull : ∀ value, (write value).isNull = false)
    {value : Option α} (isNull : (orNull write value).isNull = true) : value = none := by
  rcases value with _ | value
  · rfl
  · rw [orNull, notNull] at isNull
    cases isNull

/-- The literal of a condition is read as it was written: no kind of scalar turns into another. -/
theorem readLiteral_list {items : List Value} {texts : List String}
    (read : readList readText (.list items) = .valid texts) :
    readLiteral (.list items) = .valid (.list texts) := by
  simp only [readLiteral, read]

theorem readLiteral_toValue (literal : Literal) : readLiteral literal.toValue = .valid literal := by
  cases literal with
  | list items => exact readLiteral_list (readList_texts items)
  | _ => rfl

end Value

end SqlPipeline
