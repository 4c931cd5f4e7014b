import SqlPipeline.Proofs.Sql.BareNames
import SqlPipeline.Proofs.Sql.RecoveryFailure

/-!
# Select lists that are read back

A text is `Quiet` in front of what follows it when no clause is taken to start in it and it does not
end a select list. An `Item` is quiet behind a blank, and certain calls are found in it. The star is
an item, bare names are, and so are calls of aggregate functions; and items with commas between them
are an item again (`item_listed`). So a whole select list is an item, and the calls that are found in
it are those of its parts, in order.
-/

namespace SqlPipeline

open Text Clause Aggregates

/-- A text in which no clause is taken to start and a select list goes on. -/
structure Quiet (text after : List Char) : Prop where
  noFrom : Unread "FROM".toList text after
  noWhere : Unread "WHERE".toList text after
  noGrouping : Absent startsGrouping text after
  goesOn : Absent endsSelectList text after

theorem Quiet.append {front back after : List Char} (quiet : Quiet front (back ++ after))
    (quietBack : Quiet back after) : Quiet (front ++ back) after where
  noFrom := unread_append quiet.noFrom quietBack.noFrom
  noWhere := unread_append quiet.noWhere quietBack.noWhere
  noGrouping := absent_append_iff.mpr ⟨quiet.noGrouping, quietBack.noGrouping⟩
  goesOn := absent_append_iff.mpr ⟨quiet.goesOn, quietBack.goesOn⟩

/-- A text without the first letters of the clauses. -/
theorem quiet_of_forall {text after : List Char}
    (missing : ∀ c ∈ text, ∀ capital ∈ "FWG".toList, isLetter capital c = false)
    (goesOn : Absent endsSelectList text after) : Quiet text after where
  noFrom := unread_of_forall fun c member => missing c member 'F' (by decide)
  noWhere := unread_of_forall fun c member => missing c member 'W' (by decide)
  noGrouping := absent_startsGrouping_of_forall fun c member => missing c member 'G' (by decide)
  goesOn := goesOn

theorem absent_endsSelectList_of_solid {text after : List Char} (solid : Solid text) :
    Absent endsSelectList text after := by
  refine absent_of_forall fun c member rest => ?_
  rw [endsSelectList, skipBlanks?_of_solid (solid c member)]
  rfl

namespace BareName

variable {name after : List Char}

theorem quiet (bare : BareName name) (joint : Joint after) : Quiet name after where
  noFrom := bare.plain.unread (by decide) bare.notFrom joint.ends
  noWhere := bare.plain.unread (by decide) bare.notWhere joint.ends
  noGrouping := absent_startsGrouping_word bare.plain.solid joint.ends joint.notBy
  goesOn := absent_endsSelectList_of_solid bare.plain.solid

theorem quiet_space (bare : BareName name) (joint : Joint after) : Quiet (' ' :: name) after := by
  have atBlank : Quiet [' '] (name ++ after) := quiet_of_forall (by decide)
    (absent_cons_iff.mpr ⟨bare.plain.endsSelectList_space bare.notFrom joint.ends, absent_nil⟩)
  exact atBlank.append (bare.quiet joint)

end BareName

/-- What may follow an item as far as calls go: nothing, or a comma. -/
def EndsItem (after : List Char) : Prop :=
  after = [] ∨ ∃ rest, after = ',' :: rest

theorem EndsItem.joint {after : List Char} (ends : EndsItem after) : Joint after := by
  rcases ends with rfl | ⟨rest, rfl⟩
  · exact joint_nil
  · exact joint_comma rest

/-- A text of a select list in which certain calls are found. -/
structure Item (text : List Char) (found : List Call) : Prop where
  head : ∃ c rest, text = c :: rest ∧ isBlank c = false
  quiet : ∀ after, Joint after → Quiet (' ' :: text) after
  reads : ∀ after, EndsItem after → calls (text ++ after) = found ++ calls after

theorem capital_capitals (function : AggregateFunction) : Capital function.capitals.toList := by
  cases function <;> decide

theorem mem_functions (function : AggregateFunction) : function ∈ functions := by
  cases function <;> decide

theorem call?_eq_none {text : List Char}
    (none : ∀ function : AggregateFunction, callOf? function text = none) : call? text = .none :=
  List.findSome?_eq_none_iff.mpr fun function _ => none function

theorem callOf?_of_keyword?_none {function : AggregateFunction} {text : List Char}
    (none : keyword? function.capitals.toList text = none) : callOf? function text = .none := by
  rw [callOf?, none]
  rfl

/-- A sign that is no letter begins no call. -/
theorem calls_cons {c : Char} (ascii : c.toNat < 128) (noLetter : c.toUpper.isUpper = false)
    (rest : List Char) : calls (c :: rest) = calls rest := by
  refine calls_of_call?_none (call?_eq_none fun function => callOf?_of_keyword?_none ?_)
  rcases found : keyword? function.capitals.toList (c :: rest) with _ | afterName
  · rfl
  · rcases keyword?_eq_some_iff.mp found with ⟨word, spells, split⟩
    rcases word with _ | ⟨d, word⟩
    · cases function <;> cases spells
    · obtain rfl : c = d := (List.cons.inj split).1
      exact absurd List.mem_cons_self
        (not_mem_of_spells ascii noLetter (capital_capitals function) spells)

/-- A function is not called where a name ends without a parenthesis. -/
theorem callOf?_of_word {function : AggregateFunction} {word after : List Char}
    (plain : ∀ c ∈ word, isBlank c = false ∧ c ≠ '(') (ends : EndsItem after) :
    callOf? function (word ++ after) = none := by
  rcases found : keyword? function.capitals.toList (word ++ after) with _ | afterName
  · exact callOf?_of_keyword?_none found
  · rcases keyword?_append_word (capital_capitals function) ends.joint.ends found with
      ⟨front, back, -, rfl, rfl⟩
    have noParenthesis : ∀ inside, trimLeft (back ++ after) ≠ '(' :: inside := by
      intro inside opened
      rcases back with _ | ⟨c, back⟩
      · rcases ends with rfl | ⟨rest, rfl⟩
        · cases opened
        · rw [List.nil_append, trimLeft_of_solid (by decide)] at opened
          cases opened
      · have facts := plain c (by simp)
        rw [List.cons_append, trimLeft_of_solid facts.1] at opened
        exact facts.2 (List.cons.inj opened).1
    simp only [callOf?, found, Option.bind_eq_bind, Option.bind_some]

/-- No call is found in a word that ends an item. -/
theorem calls_append_word {word after : List Char}
    (plain : ∀ c ∈ word, isBlank c = false ∧ c ≠ '(') (ends : EndsItem after) :
    calls (word ++ after) = calls after := by
  induction word with
  | nil => rfl
  | cons c word ih =>
      have none : call? (c :: (word ++ after)) = .none := call?_eq_none fun function =>
        callOf?_of_word plain ends
      rw [List.cons_append, calls_of_call?_none none,
        ih fun other member => plain other (List.mem_cons_of_mem _ member)]

theorem item_star : Item ['*'] [] where
  head := ⟨'*', [], rfl, by decide⟩
  quiet := by
    intro after _
    have behindBlank : endsSelectList (' ' :: '*' :: after) = false := by
      rw [endsSelectList, skipBlanks?_space (by decide)]
      rfl
    exact quiet_of_forall (by decide)
      (absent_cons_iff.mpr ⟨behindBlank, absent_endsSelectList_of_solid (by decide)⟩)
  reads := fun after ends => calls_append_word (by decide) ends

theorem BareName.item {name : List Char} (bare : BareName name) : Item name [] where
  head := by
    rcases bare.plain.exists_cons with ⟨c, rest, split, solid, -⟩
    exact ⟨c, rest, split, solid⟩
  quiet := fun after joint => bare.quiet_space joint
  reads := by
    intro after ends
    refine calls_append_word (fun c member => ⟨bare.plain.solid c member, ?_⟩) ends
    rintro rfl
    exact bare.plain.not_mem (by decide) member

theorem bareName_capitals (function : AggregateFunction) : BareName function.capitals.toList where
  plain := by
    refine ⟨?_, ?_⟩
    · cases function <;> decide
    · cases function <;> decide
  notFrom := by cases function <;> decide
  notWhere := by cases function <;> decide
  notHaving := by cases function <;> decide

/-- A call with its alias, as it is written. -/
def callText (function : AggregateFunction) (column columnAlias : List Char) : List Char :=
  function.capitals.toList ++ (['('] ++ (column ++ (") AS".toList ++ ' ' :: columnAlias)))

section Call

variable {function : AggregateFunction} {column columnAlias after : List Char}

theorem callText_append (function : AggregateFunction) (column columnAlias after : List Char) :
    callText function column columnAlias ++ after = function.capitals.toList ++
      '(' :: (column ++ ')' :: (" AS ".toList ++ (columnAlias ++ after))) := by
  simp only [callText, List.append_assoc]
  rfl

theorem takeWhile_isWord (plain : PlainName columnAlias) (ends : EndsItem after) :
    (columnAlias ++ after).takeWhile isWord = columnAlias ∧
      (columnAlias ++ after).dropWhile isWord = after := by
  have words : ∀ c ∈ columnAlias, isWord c = true := fun c member => (plain.facts member).2.2
  rw [List.takeWhile_append_of_pos words, List.dropWhile_append_of_pos words]
  rcases ends with rfl | ⟨rest, rfl⟩
  · exact ⟨List.append_nil _, rfl⟩
  · rw [List.takeWhile_cons_of_neg (by decide), List.dropWhile_cons_of_neg (by decide)]
    exact ⟨List.append_nil _, rfl⟩

theorem columnAlias?_text (plain : PlainName columnAlias) (ends : EndsItem after) :
    columnAlias? (" AS ".toList ++ (columnAlias ++ after)) = some (columnAlias, after) := by
  have isAs : (skipBlanks? (" AS ".toList ++ (columnAlias ++ after))).bind (keyword? "AS".toList) =
      some (' ' :: (columnAlias ++ after)) := rfl
  have taken := takeWhile_isWord plain ends
  rcases plain.exists_cons with ⟨c, rest, rfl, solid, -⟩
  have skipped : skipBlanks? (' ' :: (c :: rest ++ after)) = some (c :: rest ++ after) :=
    skipBlanks?_space solid
  simp only [columnAlias?, Option.bind_eq_bind, ← Option.bind_assoc, isAs, Option.bind_some,
    skipped, taken]

theorem takeWhile_column (absent : ')' ∉ column) (after : List Char) :
    (column ++ ')' :: after).takeWhile (· != ')') = column ∧
      (column ++ ')' :: after).dropWhile (· != ')') = ')' :: after := by
  have inside : ∀ c ∈ column, (c != ')') = true := by
    intro c member
    rw [bne_iff_ne]
    rintro rfl
    exact absent member
  rw [List.takeWhile_append_of_pos inside, List.dropWhile_append_of_pos inside,
    List.takeWhile_cons_of_neg (by decide), List.dropWhile_cons_of_neg (by decide)]
  exact ⟨List.append_nil _, rfl⟩

theorem callOf?_callText (plainColumn : PlainName column) (plainAlias : PlainName columnAlias)
    (ends : EndsItem after) :
    callOf? function (callText function column columnAlias ++ after) =
      some (⟨function.capitals.toList, column, some columnAlias⟩, after) := by
  have isName := keyword?_append (spells_self (capital_capitals function))
    ('(' :: (column ++ ')' :: (" AS ".toList ++ (columnAlias ++ after))))
  have opened : ∀ inside, trimLeft ('(' :: inside) = '(' :: inside := fun inside =>
    trimLeft_of_solid (by decide)
  have parts := takeWhile_column (plainColumn.not_mem (by decide))
    (" AS ".toList ++ (columnAlias ++ after))
  have named := columnAlias?_text plainAlias ends
  have clean : without '"' (trim column) = column := by
    rw [trim_of_solid_word plainColumn.solid, without_of_not_mem (plainColumn.not_mem (by decide))]
  have name : (function.capitals.toList ++
      '(' :: (column ++ ')' :: (" AS ".toList ++ (columnAlias ++ after)))).take
        function.capitals.length = function.capitals.toList := by
    rw [← String.length_toList, List.take_left]
  rcases plainColumn.exists_cons with ⟨c, rest, rfl, -, -⟩
  simp only [callText_append, callOf?, isName, Option.bind_eq_bind, Option.bind_some, opened, parts,
    clean, named, name]

theorem callOf?_other {other : AggregateFunction} (differ : other ≠ function) :
    callOf? other (callText function column columnAlias ++ after) = none := by
  apply callOf?_of_keyword?_none
  cases other <;> cases function <;> first | exact absurd rfl differ | rfl

/-- A call is found where it is written. -/
theorem calls_callText (plainColumn : PlainName column) (plainAlias : PlainName columnAlias)
    (ends : EndsItem after) :
    calls (callText function column columnAlias ++ after) =
      ⟨function.capitals.toList, column, some columnAlias⟩ :: calls after := by
  have found : call? (callText function column columnAlias ++ after) =
      some (⟨function.capitals.toList, column, some columnAlias⟩, after) := by
    rcases List.eq_append_cons_of_mem (mem_functions function) with ⟨before, behind, split, notBefore⟩
    rw [call?, split, List.findSome?_append, List.findSome?_eq_none_iff.mpr, Option.none_or,
      List.findSome?_cons, callOf?_callText plainColumn plainAlias ends]
    intro other member
    apply callOf?_other
    rintro rfl
    exact notBefore member
  rcases text : callText function column columnAlias ++ after with _ | ⟨c, rest⟩
  · rw [text] at found
    cases function <;> cases found
  · rw [text] at found
    exact calls_of_call? found

theorem item_callText (function : AggregateFunction) (bareColumn : BareName column)
    (bareAlias : BareName columnAlias) :
    Item (callText function column columnAlias)
      [⟨function.capitals.toList, column, some columnAlias⟩] where
  head := by
    rcases (bareName_capitals function).plain.exists_cons with ⟨c, rest, split, solid, -⟩
    rw [callText, split]
    exact ⟨c, _, rfl, solid⟩
  quiet := by
    intro after joint
    have name := bareName_capitals function
    have opens : ∀ inside behind, Joint (['('] ++ inside ++ behind) := fun inside behind =>
      joint_cons (by decide) (by decide) (by decide) (inside ++ behind)
    have closes : ∀ named behind, Joint (") AS".toList ++ named ++ behind) := fun named behind =>
      joint_cons (by decide) (by decide) (by decide) (" AS".toList ++ named ++ behind)
    have opening : ∀ behind, Quiet ['('] behind := fun behind =>
      quiet_of_forall (by decide) (absent_endsSelectList_of_solid (by decide))
    have closing : ∀ behind, Quiet ") AS".toList behind := fun behind =>
      quiet_of_forall (by decide) (absent_cons_iff.mpr ⟨rfl, absent_cons_iff.mpr
        ⟨rfl, absent_endsSelectList_of_solid (by decide)⟩⟩)
    have closed : Quiet (") AS".toList ++ ' ' :: columnAlias) after :=
      (closing _).append (bareAlias.quiet_space joint)
    have inside : Quiet (column ++ (") AS".toList ++ ' ' :: columnAlias)) after :=
      (bareColumn.quiet (closes _ _)).append closed
    exact (name.quiet_space (opens _ _)).append ((opening _).append inside)
  reads := fun after ends => calls_callText bareColumn.plain bareAlias.plain ends

end Call

/-- Two items with a comma between them. -/
theorem Item.comma {first second : List Char} {found others : List Call} (item : Item first found)
    (next : Item second others) :
    Item (first ++ (", ".toList ++ second)) (found ++ others) where
  head := by
    rcases item.head with ⟨c, rest, rfl, solid⟩
    exact ⟨c, _, rfl, solid⟩
  quiet := by
    intro after joint
    have comma : ∀ behind, Quiet [','] behind := fun behind =>
      quiet_of_forall (by decide) (absent_endsSelectList_of_solid (by decide))
    exact (item.quiet _ (joint_comma _)).append ((comma _).append (next.quiet after joint))
  reads := by
    intro after ends
    have behindComma : calls (", ".toList ++ (second ++ after)) = others ++ calls after := by
      rw [← next.reads after ends]
      exact (calls_cons (by decide) (by decide) _).trans (calls_cons (by decide) (by decide) _)
    rw [List.append_assoc, List.append_assoc, item.reads (", ".toList ++ (second ++ after))
      (Or.inr ⟨_, rfl⟩), behindComma, List.append_assoc]

/-- Items with commas between them are an item. -/
theorem item_listed {items : List (List Char × List Call)} (nonempty : items ≠ [])
    (all : ∀ item ∈ items, Item item.1 item.2) :
    Item (listed (items.map Prod.fst)) (items.flatMap Prod.snd) := by
  induction items with
  | nil => exact absurd rfl nonempty
  | cons first rest ih =>
      have here := all first List.mem_cons_self
      cases rest with
      | nil => simpa [listed_singleton] using here
      | cons second rest =>
          have later := ih (by simp) fun item member => all item (List.mem_cons_of_mem _ member)
          rw [List.map_cons, List.map_cons, listed_cons_cons, List.flatMap_cons]
          exact here.comma later

/-- A call is noticed in a select list that begins with it. -/
theorem occurIn_callText (function : AggregateFunction) (column columnAlias after : List Char) :
    occurIn (callText function column columnAlias ++ after) = true := by
  have capitals : upper function.capitals.toList = function.capitals.toList := by
    cases function <;> rfl
  rw [occurIn, List.any_eq_true]
  refine ⟨function, mem_functions function, ?_⟩
  have parenthesis : ∀ rest, upper ('(' :: rest) = '(' :: upper rest := fun _ => rfl
  rw [contains, callText_append, upper_append, capitals, parenthesis,
    List.append_cons function.capitals.toList '(' (upper _)]
  exact cut?_isSome (function.capitals.toList ++ ['(']) [] _

end SqlPipeline
