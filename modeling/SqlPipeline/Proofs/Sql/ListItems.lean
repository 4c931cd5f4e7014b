import SqlPipeline.Proofs.Sql.LiteralText

/-!
# Which lists are read back

The items of a list are read without regard to the literals in which they were written: parentheses
and marks are taken away wherever they stand, and every comma divides. So what is read, from
whatever text, are plain items, and at least one of them (`plainItem_of_mem_listItems`,
`listItems_ne_nil`). Written lists of plain items are read back, hence these are exactly the lists
that are (`readsBack_list_iff`), and a list that was read once does not change any more
(`listItems_toSql_listItems`).
-/

namespace SqlPipeline

open Text

theorem Text.mem_of_mem_trim {c : Char} {text : List Char} (member : c ∈ trim text) : c ∈ text := by
  have fromEnd : c ∈ (trimLeft text).reverse :=
    (List.dropWhile_suffix isBlank).mem (List.mem_reverse.mp member)
  exact (List.dropWhile_suffix isBlank).mem (List.mem_reverse.mp fromEnd)

theorem Text.mem_without_iff {unwanted c : Char} {text : List Char} :
    c ∈ without unwanted text ↔ c ∈ text ∧ c ≠ unwanted := by
  rw [without, List.mem_filter, bne_iff_ne]

/-- Whatever the text is, the items that are read are plain. -/
theorem plainItem_of_mem_listItems {text : List Char} {item : String}
    (member : item ∈ listItems text) : PlainItem item.toList := by
  rcases List.mem_map.mp member with ⟨piece, isPiece, rfl⟩
  have inPiece : ∀ c ∈ (String.ofList (without '"' (without '\'' (trim piece)))).toList,
      c ∈ piece ∧ c ≠ '\'' ∧ c ≠ '"' := by
    intro c inItem
    rw [String.toList_ofList, mem_without_iff, mem_without_iff] at inItem
    exact ⟨mem_of_mem_trim inItem.1.1, inItem.1.2, inItem.2⟩
  have noParenthesis : ∀ c ∈ piece, c ≠ '(' ∧ c ≠ ')' := by
    intro c inside
    have inInner := mem_of_mem_splitOn isPiece inside
    rw [mem_without_iff, mem_without_iff] at inInner
    exact ⟨inInner.1.2, inInner.2⟩
  intro sign isSign inItem
  rcases inPiece sign inItem with ⟨inside, noApostrophe, noQuote⟩
  simp only [List.mem_cons, List.not_mem_nil, or_false] at isSign
  rcases isSign with rfl | rfl | rfl | rfl | rfl
  · exact not_mem_of_mem_splitOn isPiece inside
  · exact (noParenthesis _ inside).1 rfl
  · exact (noParenthesis _ inside).2 rfl
  · exact noApostrophe rfl
  · exact noQuote rfl

/-- There is at least one item, even in an empty text. -/
theorem listItems_ne_nil (text : List Char) : listItems text ≠ [] := by
  rw [listItems, ne_eq, List.map_eq_nil_iff]
  exact splitOn_ne_nil _ _

/-- What has been read from a list is read back. -/
theorem listItems_toSql_listItems (text : List Char) :
    listItems (Literal.toSql (.list (listItems text))).toList = listItems text := by
  rcases known : listItems text with _ | ⟨first, rest⟩
  · exact absurd known (listItems_ne_nil text)
  · exact listItems_toSql fun item member => plainItem_of_mem_listItems (known ▸ member)

variable {items : List String} {op : Operator}

/-- A list is read back exactly when it has items and all of them are plain. -/
theorem readsBack_list_iff (takes : op.takesList = true) :
    Literal.ofText (some op) (Literal.toSql (.list items)).toList = .ok (.list items) ↔
      items ≠ [] ∧ ∀ item ∈ items, PlainItem item.toList := by
  rw [ofText_toSql_list_eq takes]
  constructor
  · intro same
    have read : listItems (Literal.toSql (.list items)).toList = items :=
      Literal.list.inj (Except.ok.inj same)
    rw [← read]
    exact ⟨listItems_ne_nil _, fun item member => plainItem_of_mem_listItems member⟩
  · rintro ⟨nonempty, plain⟩
    rcases items with _ | ⟨first, rest⟩
    · exact absurd rfl nonempty
    · rw [listItems_toSql plain]

/-- A list with items, none of which holds an apostrophe, is read back exactly when no item holds a
comma, a parenthesis or a quotation mark either. -/
theorem ofText_toSql_list_iff (nonempty : items ≠ [])
    (noApostrophe : ∀ item ∈ items, '\'' ∉ item.toList) (takes : op.takesList = true) :
    Literal.ofText (some op) (Literal.toSql (.list items)).toList = .ok (.list items) ↔
      ∀ item ∈ items, ∀ sign ∈ [',', '(', ')', '"'], sign ∉ item.toList := by
  rw [readsBack_list_iff takes]
  constructor
  · rintro ⟨-, plain⟩ item member sign isSign
    exact plain item member sign (by grind)
  · intro unmarked
    refine ⟨nonempty, fun item member sign isSign => ?_⟩
    by_cases mark : sign = '\''
    · rw [mark]
      exact noApostrophe item member
    · exact unmarked item member sign (by grind)

/-- Items with blanks at their ends, an item that looks like a truth value, and an empty one. -/
theorem ofText_toSql_list_blanks :
    Literal.toSql (.list [" to be ", "TRUE", ""]) = "(' to be ', 'TRUE', '')" ∧
      Literal.ofText (some .notIn) "(' to be ', 'TRUE', '')".toList =
        .ok (.list [" to be ", "TRUE", ""]) := by
  have written : Literal.toSql (.list [" to be ", "TRUE", ""]) = "(' to be ', 'TRUE', '')" := by
    decide
  have read := (@ofText_toSql_list_iff [" to be ", "TRUE", ""] .notIn (by simp) (by decide)
    rfl).mpr (by decide)
  rw [written] at read
  exact ⟨written, read⟩

/-- One item passes for two when a comma stands in it, and quotation marks are lost. -/
theorem ofText_toSql_list_province :
    Literal.toSql (.list ["Paris, \"Texas\""]) = "('Paris, \"Texas\"')" ∧
      Literal.ofText (some .isIn) "('Paris, \"Texas\"')".toList = .ok (.list ["Paris", "Texas"]) ∧
      Literal.ofText (some .isIn) "('Paris, \"Texas\"')".toList ≠
        .ok (.list ["Paris, \"Texas\""]) := by
  have read : Literal.ofText (some .isIn) "('Paris, \"Texas\"')".toList =
      .ok (.list ["Paris", "Texas"]) := rfl
  refine ⟨by decide, read, ?_⟩
  rw [read]
  intro same
  exact absurd (Literal.list.inj (Except.ok.inj same)) (by decide)

end SqlPipeline
