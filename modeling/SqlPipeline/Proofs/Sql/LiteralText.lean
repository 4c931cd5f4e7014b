import SqlPipeline.Proofs.Sql.BareNames

/-!
# What literals are written as

A scalar is a truth value, a text, or a whole number that is not too long. What is written for a
scalar is read back beside every operator (`ofText_toSql`): a text because it stands between
apostrophes, whatever it looks like, a number and a truth value because nothing else looks like
them. A list is read back by the operators that take one when its items hold neither commas nor the
signs that are taken away around them (`ofText_toSql_list`).

A text literal ends at the first apostrophe that is not doubled. Where no apostrophe follows, the
literal and what stands behind it can be told apart (`literal_append_inj`), in particular the items
of a list with the commas between them (`items_inj`). So no two literals have the same written form
(`toSql_unambiguous`).
-/

namespace SqlPipeline

open Text

/-- A truth value, a whole number that is not too long, or a text. -/
inductive Literal.IsScalar : Literal → Prop where
  | bool (flag : Bool) : IsScalar (.bool flag)
  | int {number : Int} (few : (Nat.toDigits 10 number.natAbs).length ≤ maxWholeDigits) :
      IsScalar (.int number)
  | str (text : String) : IsScalar (.str text)

/-- A scalar is read back as it was written, beside any operator. -/
theorem ofText_toSql {value : Literal} (scalar : value.IsScalar) (op : Operator) :
    Literal.ofText (some op) value.toSql.toList = .ok value := by
  cases scalar with
  | bool flag => exact ofText_toSql_bool (some op) flag
  | int few => exact ofText_toSql_int (some op) few
  | str text => exact ofText_toSql_str (some op) text

/-- A text that looks like other values, a negative number and a truth value. -/
theorem ofText_toSql_lookalikes :
    (Literal.ofText (some .isNull) (Literal.toSql (.str "it's NULL or TRUE")).toList =
        .ok (.str "it's NULL or TRUE") ∧
      Literal.ofText (some .notIn) (Literal.toSql (.int (-42))).toList = .ok (.int (-42))) ∧
      Literal.ofText (some .like) (Literal.toSql (.bool false)).toList = .ok (.bool false) :=
  ⟨⟨ofText_toSql (.str _) .isNull, ofText_toSql (.int (by decide)) .notIn⟩,
    ofText_toSql (.bool false) .like⟩

theorem doubleApostrophes_apostrophe (text : List Char) :
    doubleApostrophes ('\'' :: text) = '\'' :: '\'' :: doubleApostrophes text := rfl

theorem doubleApostrophes_of_ne {c : Char} (other : c ≠ '\'') (text : List Char) :
    doubleApostrophes (c :: text) = c :: doubleApostrophes text := by
  simp [doubleApostrophes, other]

/-- An apostrophe that no other follows closes a literal. -/
theorem eq_nil_of_closes {text after behind : List Char} (ends : after.head? ≠ some '\'')
    (same : '\'' :: after = doubleApostrophes text ++ '\'' :: behind) :
    text = [] ∧ after = behind := by
  rcases text with _ | ⟨c, text⟩
  · exact ⟨rfl, (List.cons.inj same).2⟩
  · by_cases mark : c = '\''
    · rw [mark, doubleApostrophes_apostrophe] at same
      rw [(List.cons.inj same).2] at ends
      exact absurd rfl ends
    · rw [doubleApostrophes_of_ne mark] at same
      exact absurd (List.cons.inj same).1.symm mark

/-- A text literal and what follows it can be told apart, unless an apostrophe follows. -/
theorem literal_append_inj {first second after behind : List Char}
    (ends : after.head? ≠ some '\'') (endsOther : behind.head? ≠ some '\'')
    (same : doubleApostrophes first ++ '\'' :: after =
      doubleApostrophes second ++ '\'' :: behind) : first = second ∧ after = behind := by
  induction first generalizing second with
  | nil =>
      rcases eq_nil_of_closes ends same with ⟨rfl, rfl⟩
      exact ⟨rfl, rfl⟩
  | cons c first ih =>
      rcases second with _ | ⟨d, second⟩
      · cases (eq_nil_of_closes endsOther same.symm).1
      · by_cases mark : c = '\'' <;> by_cases markOther : d = '\''
        · rw [mark, markOther, doubleApostrophes_apostrophe, doubleApostrophes_apostrophe] at same
          rcases ih (List.cons.inj (List.cons.inj same).2).2 with ⟨rfl, rfl⟩
          exact ⟨by rw [mark, markOther], rfl⟩
        · rw [mark, doubleApostrophes_apostrophe, doubleApostrophes_of_ne markOther] at same
          exact absurd (List.cons.inj same).1.symm markOther
        · rw [markOther, doubleApostrophes_apostrophe, doubleApostrophes_of_ne mark] at same
          exact absurd (List.cons.inj same).1 mark
        · rw [doubleApostrophes_of_ne mark, doubleApostrophes_of_ne markOther] at same
          rcases List.cons.inj same with ⟨rfl, later⟩
          rcases ih later with ⟨rfl, rfl⟩
          exact ⟨rfl, rfl⟩

theorem quoteLiteral_append_inj {first second : String} {after behind : List Char}
    (ends : after.head? ≠ some '\'') (endsOther : behind.head? ≠ some '\'')
    (same : (quoteLiteral first).toList ++ after = (quoteLiteral second).toList ++ behind) :
    first = second ∧ after = behind := by
  rw [toList_quoteLiteral, toList_quoteLiteral] at same
  have inside : doubleApostrophes first.toList ++ '\'' :: after =
      doubleApostrophes second.toList ++ '\'' :: behind := by
    simpa using same
  rcases literal_append_inj ends endsOther inside with ⟨texts, rests⟩
  exact ⟨String.toList_inj.mp texts, rests⟩

/-- The items of a list as they are written, with commas between them. -/
def itemTexts (items : List String) : List Char :=
  listed (items.map fun item => (quoteLiteral item).toList)

theorem sqlItems_map_str (items : List String) :
    sqlItems (items.map .str) = items.map quoteLiteral := by
  induction items with
  | nil => rfl
  | cons item rest ih => rw [List.map_cons, sqlItems, ih, Value.toSql, List.map_cons]

theorem toList_toSql_list (items : List String) :
    (Literal.toSql (.list items)).toList = '(' :: (itemTexts items ++ [')']) := by
  rw [Literal.toSql, Literal.toValue, Value.texts, Value.toSql, sqlItems_map_str, parenthesize,
    enclose, String.toList_append, String.toList_append, String.toList_intercalate, itemTexts,
    listed, List.map_map]
  simp [Function.comp_def]

/-- A text without the signs that divide the items of a list or are taken away from them. -/
def PlainItem (text : List Char) : Prop :=
  ∀ sign ∈ [',', '(', ')', '\'', '"'], sign ∉ text

theorem doubleApostrophes_of_not_mem {text : List Char} (absent : '\'' ∉ text) :
    doubleApostrophes text = text := by
  induction text with
  | nil => rfl
  | cons c text ih =>
      rw [List.mem_cons, not_or] at absent
      rw [doubleApostrophes_of_ne (Ne.symm absent.1), ih absent.2]

theorem toList_quoteLiteral_of_plainItem {item : String} (plain : PlainItem item.toList) :
    (quoteLiteral item).toList = '\'' :: (item.toList ++ ['\'']) := by
  rw [toList_quoteLiteral, doubleApostrophes_of_not_mem (plain '\'' (by decide))]

/-- The item of a list between apostrophes is read, with or without a blank in front. -/
theorem item_of_quoted {item : String} (plain : PlainItem item.toList) {text : List Char}
    (quoted : text = (quoteLiteral item).toList ∨ text = ' ' :: (quoteLiteral item).toList) :
    String.ofList (without '"' (without '\'' (trim text))) = item := by
  have written := toList_quoteLiteral_of_plainItem plain
  have ending : (quoteLiteral item).toList = ('\'' :: item.toList) ++ ['\''] := written
  have trimmed := trim_of_solid written (by decide) ending (by decide)
  have inside : trim text = '\'' :: (item.toList ++ ['\'']) := by
    rw [← written]
    rcases quoted with rfl | rfl
    · exact trimmed
    · exact trim_space trimmed
  have bare : without '\'' ('\'' :: (item.toList ++ ['\''])) = item.toList := by
    have kept := without_of_not_mem (plain '\'' (by decide))
    rw [without] at kept ⊢
    simpa using kept
  rw [inside, bare, without_of_not_mem (plain '"' (by decide)), String.ofList_toList]

theorem eq_or_mem_of_mem_quoteLiteral {text : String} {c : Char}
    (member : c ∈ (quoteLiteral text).toList) : c = '\'' ∨ c ∈ text.toList := by
  rw [toList_quoteLiteral] at member
  by_cases mark : c = '\''
  · exact Or.inl mark
  · have inside : c ∈ doubleApostrophes text.toList := by simpa [mark] using member
    exact Or.inr (mem_of_mem_doubleApostrophes inside)

/-- A character of a list is that of an item, or one of the signs around the items. -/
theorem exists_of_mem_itemTexts {items : List String} {c : Char} (member : c ∈ itemTexts items) :
    c ∈ ", '".toList ∨ ∃ item ∈ items, c ∈ item.toList := by
  rcases exists_of_mem_listed member with between | ⟨text, known, inText⟩
  · exact Or.inl (List.mem_append_left ['\''] between)
  · rcases List.mem_map.mp known with ⟨item, inItems, rfl⟩
    rcases eq_or_mem_of_mem_quoteLiteral inText with rfl | inItem
    · exact Or.inl (by decide)
    · exact Or.inr ⟨item, inItems, inItem⟩

/-- The items of a list are read back from its written form. -/
theorem listItems_toSql {first : String} {rest : List String}
    (plain : ∀ item ∈ first :: rest, PlainItem item.toList) :
    listItems (Literal.toSql (.list (first :: rest))).toList = first :: rest := by
  have absent : ∀ sign ∈ ['(', ')'], sign ∉ itemTexts (first :: rest) := by
    intro sign isSign member
    have listed : ∀ sign ∈ ['(', ')'], sign ∉ ", '".toList ∧ sign ∈ [',', '(', ')', '\'', '"'] := by
      decide
    rcases exists_of_mem_itemTexts member with around | ⟨item, known, inItem⟩
    · exact (listed sign isSign).1 around
    · exact plain item known sign (listed sign isSign).2 inItem
  have noComma : ∀ text ∈ (first :: rest).map fun item => (quoteLiteral item).toList,
      ',' ∉ text := by
    intro text member
    rcases List.mem_map.mp member with ⟨item, known, rfl⟩
    rw [toList_quoteLiteral_of_plainItem (plain item known)]
    simp [plain item known ',' (by decide)]
  have inner : without ')' (without '(' ('(' :: (itemTexts (first :: rest) ++ [')']))) =
      itemTexts (first :: rest) := by
    have noOpening := without_of_not_mem (absent '(' (by decide))
    have noClosing := without_of_not_mem (absent ')' (by decide))
    rw [without] at noOpening noClosing ⊢
    simp [without, noOpening, noClosing]
  have later : ∀ item ∈ rest, String.ofList (without '"' (without '\''
      (trim (' ' :: (quoteLiteral item).toList)))) = item := fun item member =>
    item_of_quoted (plain item (List.mem_cons_of_mem _ member)) (Or.inr rfl)
  rw [toList_toSql_list]
  simp only [listItems, inner]
  rw [itemTexts, List.map_cons, splitOn_listed noComma, List.map_cons, List.map_map, List.map_map,
    item_of_quoted (plain first List.mem_cons_self) (Or.inl rfl)]
  exact congrArg (first :: ·) ((List.map_congr_left later).trans (List.map_id rest))

/-- Beside an operator that takes a list, what is written for a list is read as its items. -/
theorem ofText_toSql_list_eq {op : Operator} (takes : op.takesList = true) (items : List String) :
    Literal.ofText (some op) (Literal.toSql (.list items)).toList =
      .ok (.list (listItems (Literal.toSql (.list items)).toList)) := by
  have noNumber : Literal.ofNumber ('(' :: (itemTexts items ++ [')'])) = .ok none := rfl
  have capitals : upper ('(' :: (itemTexts items ++ [')'])) =
      '(' :: upper (itemTexts items ++ [')']) := rfl
  rw [toList_toSql_list, Literal.ofText, betweenApostrophes?_of_ne (by decide), noNumber]
  simp only [capitals]
  rw [if_neg (by simp), if_neg (by simp), readByOperator]
  simp only [takes, if_true]

/-- A list of plain items is read back beside the operators that take one. -/
theorem ofText_toSql_list {op : Operator} (takes : op.takesList = true) {first : String}
    {rest : List String} (plain : ∀ item ∈ first :: rest, PlainItem item.toList) :
    Literal.ofText (some op) (Literal.toSql (.list (first :: rest))).toList =
      .ok (.list (first :: rest)) := by
  rw [ofText_toSql_list_eq takes, listItems_toSql plain]

/-- What follows the first item of a list. -/
def itemsBehind : List String → List Char
  | [] => []
  | second :: rest => ", ".toList ++ itemTexts (second :: rest)

theorem itemTexts_cons (first : String) (rest : List String) :
    itemTexts (first :: rest) = (quoteLiteral first).toList ++ itemsBehind rest := by
  cases rest with
  | nil => exact (listed_singleton _).trans (List.append_nil _).symm
  | cons second rest => exact listed_cons_cons _ _ _

theorem head?_itemsBehind (rest : List String) :
    (itemsBehind rest ++ [')']).head? ≠ some '\'' := by
  cases rest with
  | nil => decide
  | cons second rest => simp [itemsBehind]

/-- The items of a list can be told from its written form. -/
theorem items_inj {items others : List String}
    (same : itemTexts items ++ [')'] = itemTexts others ++ [')']) : items = others := by
  induction items generalizing others with
  | nil =>
      rcases others with _ | ⟨first, rest⟩
      · rfl
      · rw [itemTexts_cons, toList_quoteLiteral] at same
        simp [itemTexts, listed] at same
  | cons first items ih =>
      rcases others with _ | ⟨second, others⟩
      · rw [itemTexts_cons, toList_quoteLiteral] at same
        simp [itemTexts, listed] at same
      · rw [itemTexts_cons, itemTexts_cons, List.append_assoc, List.append_assoc] at same
        rcases quoteLiteral_append_inj (head?_itemsBehind items) (head?_itemsBehind others) same
          with ⟨rfl, behind⟩
        rcases items with _ | ⟨third, items⟩ <;> rcases others with _ | ⟨fourth, others⟩
        · rfl
        · simp [itemsBehind] at behind
        · simp [itemsBehind] at behind
        · rw [itemsBehind, itemsBehind, List.append_assoc, List.append_assoc] at behind
          rw [ih (List.append_cancel_left behind)]

/-- The literals whose written form is exact: all but binary fractions and overlong numbers. -/
inductive Literal.IsExact : Literal → Prop where
  | null : IsExact .null
  | scalar {value : Literal} (scalar : value.IsScalar) : IsExact value
  | list (items : List String) : IsExact (.list items)

theorem head?_toSql_int (number : Int) :
    (Literal.toSql (.int number)).toList.head? ≠ some '(' := by
  rw [toList_toSql_int]
  intro first
  have numeral := isNumeral_of_mem_toString (List.mem_of_head? first)
  exact absurd rfl (isNumeral_facts numeral).2.2.1

/-- Beside a test for null an exact literal is read back unless it is a list. -/
theorem Literal.IsExact.readsBack_or_isList {value : Literal} (exact : value.IsExact) :
    (Literal.ofText (some .isNull) value.toSql.toList = .ok value ∧
      value.toSql.toList.head? ≠ some '(') ∨ ∃ items, value = .list items := by
  cases exact with
  | null => exact Or.inl ⟨rfl, by decide⟩
  | scalar scalar =>
      left
      cases scalar with
      | bool flag => exact ⟨ofText_toSql_bool _ flag, by cases flag <;> decide⟩
      | @int number few => exact ⟨ofText_toSql_int _ few, head?_toSql_int number⟩
      | str text => exact ⟨ofText_toSql_str _ text, by rw [toList_toSql_str]; simp⟩
  | list items => exact Or.inr ⟨items, rfl⟩

theorem head?_toSql_list (items : List String) :
    (Literal.toSql (.list items)).toList.head? = some '(' := by
  rw [toList_toSql_list, List.head?_cons]

/-- No two exact literals have the same written form. -/
theorem Literal.IsExact.toSql_inj {value other : Literal} (exact : value.IsExact)
    (exactOther : other.IsExact) (same : value.toSql = other.toSql) : value = other := by
  rcases exact.readsBack_or_isList with ⟨reads, noList⟩ | ⟨items, rfl⟩ <;>
    rcases exactOther.readsBack_or_isList with ⟨readsOther, noListOther⟩ | ⟨others, rfl⟩
  · rw [same, readsOther] at reads
    exact (Except.ok.inj reads).symm
  · rw [same] at noList
    exact absurd (head?_toSql_list others) noList
  · rw [← same] at noListOther
    exact absurd (head?_toSql_list items) noListOther
  · have texts := congrArg String.toList same
    rw [toList_toSql_list, toList_toSql_list] at texts
    rw [items_inj (List.cons.inj texts).2]

/-- What is written for a literal is unambiguous: a text literal can be told from what follows it,
and different literals are written differently. -/
theorem toSql_unambiguous :
    (∀ first second after behind : String, after.toList.head? ≠ some '\'' →
      behind.toList.head? ≠ some '\'' →
      quoteLiteral first ++ after = quoteLiteral second ++ behind →
        first = second ∧ after = behind) ∧
    ∀ value other : Literal, value.IsExact → other.IsExact → value.toSql = other.toSql →
      value = other := by
  constructor
  · intro first second after behind ends endsOther same
    have texts := congrArg String.toList same
    rw [String.toList_append, String.toList_append] at texts
    rcases quoteLiteral_append_inj ends endsOther texts with ⟨rfl, rests⟩
    exact ⟨rfl, String.toList_inj.mp rests⟩
  · intro value other exact exactOther same
    exact exact.toSql_inj exactOther same

/-- What is read from a written text or list is what was written, and one item does not pass for
two. -/
theorem toSql_unambiguous_items :
    "it's" = String.ofList (pairApostrophes "it''s".toList) ∧
      Literal.list ["a", "b"] = .list (listItems "('a', 'b')".toList) ∧
      (Literal.list ["a', 'b"]).toSql ≠ (Literal.list ["a", "b"]).toSql := by
  have read : ["a", "b"] = listItems "('a', 'b')".toList := by decide
  have texts := toSql_unambiguous.1 "it's" (String.ofList (pairApostrophes "it''s".toList))
    " AND" " AND" (by decide) (by decide) (by decide)
  have lists := toSql_unambiguous.2 (.list ["a", "b"]) (.list (listItems "('a', 'b')".toList))
    (.list _) (.list _) (congrArg (fun items => (Literal.list items).toSql) read)
  refine ⟨texts.1, lists, ?_⟩
  intro same
  have equal := toSql_unambiguous.2 _ _ (.list _) (.list _) same
  simp at equal

end SqlPipeline
