import SqlPipeline.Proofs.Sql.ReadBack
import SqlPipeline.Proofs.Text.Pieces

/-!
# Names without quotation marks

Columns of a grouping, aggregated columns and aliases are written without quotation marks, so a name
that is a keyword would be taken for one. A `BareName` is none of those that matter, and then no
clause is taken to start in it, whatever item of a list or clause comes next (`Joint`). Bare names
with commas between them are read back as the columns of a grouping (`groupingColumns_listed`).
-/

namespace SqlPipeline

open Text Clause

/-- The name of a schema or a table: ASCII letters, digits and underscores. -/
structure PlainName (name : List Char) : Prop where
  nonempty : name ≠ []
  characters : ∀ c ∈ name, c.isAlphanum = true ∨ c = '_'

/-- A name that is not taken for a keyword. -/
structure BareName (name : List Char) : Prop where
  plain : PlainName name
  notFrom : name.map Char.toUpper ≠ "FROM".toList
  notWhere : name.map Char.toUpper ≠ "WHERE".toList
  notHaving : ¬"HAVING".toList <+: name.map Char.toUpper

/-- What may follow a name in a list: no letter, and no second word of a grouping. -/
structure Joint (after : List Char) : Prop where
  ends : EndsWord after
  notBy : (skipBlanks? after).bind (keyword? "BY".toList) = none

theorem joint_nil : Joint [] where
  ends := endsWord_nil
  notBy := rfl

theorem joint_cons {c : Char} (ascii : c.toNat < 128) (noLetter : c.toUpper.isUpper = false)
    (solid : isBlank c = false) (rest : List Char) : Joint (c :: rest) where
  ends := endsWord_cons ascii noLetter rest
  notBy := by rw [skipBlanks?_of_solid solid, Option.bind_none]

theorem joint_comma (rest : List Char) : Joint (',' :: rest) :=
  joint_cons (by decide) (by decide) (by decide) rest

theorem joint_from (rest : List Char) : Joint (" FROM ".toList ++ rest) where
  ends := endsWord_space _
  notBy := rfl

namespace PlainName

variable {name : List Char}

theorem not_mem (plain : PlainName name) {c : Char} (notWord : ¬(c.isAlphanum = true ∨ c = '_')) :
    c ∉ name :=
  fun member => notWord (plain.characters c member)

theorem ne_empty {name : String} (plain : PlainName name.toList) : name ≠ "" := by
  rintro rfl
  exact plain.nonempty rfl

theorem facts (plain : PlainName name) {c : Char} (member : c ∈ name) :
    c.toNat < 128 ∧ isBlank c = false ∧ isWord c = true := by
  have isName := plain.characters c member
  have known := nameCharacter_facts (isName.imp_right Or.inl)
  refine ⟨known.1, known.2.1, ?_⟩
  rw [isWord, if_pos known.1]
  simpa using isName

theorem solid (plain : PlainName name) : Solid name :=
  fun _ member => (plain.facts member).2.1

theorem ascii (plain : PlainName name) : ∀ c ∈ name, c.toNat < 128 :=
  fun _ member => (plain.facts member).1

theorem exists_cons (plain : PlainName name) :
    ∃ c rest, name = c :: rest ∧ isBlank c = false ∧ isWord c = true := by
  rcases name with _ | ⟨c, rest⟩
  · exact absurd rfl plain.nonempty
  · exact ⟨c, rest, rfl, (plain.facts List.mem_cons_self).2⟩

theorem exists_concat (plain : PlainName name) :
    ∃ front c, name = front ++ [c] ∧ isBlank c = false ∧ c ≠ ';' := by
  rcases List.eq_nil_or_concat name with rfl | ⟨front, c, rfl⟩
  · exact absurd rfl plain.nonempty
  · have member : c ∈ front.concat c := by simp
    refine ⟨front, c, List.concat_eq_append, (plain.facts member).2.1, ?_⟩
    rintro rfl
    exact plain.not_mem (by decide) member

/-- In ASCII, a name stands for a keyword only if it is that keyword. -/
theorem toUpper_of_spells {capitals : List Char} (plain : PlainName name)
    (spells : Spells capitals name) : name.map Char.toUpper = capitals :=
  map_toUpper_of_spells spells fun _ _ c member =>
    (isLetter_iff_of_ascii (plain.ascii c member)).mp

/-- Another keyword is not read in a name. -/
theorem unread {capitals after : List Char} (plain : PlainName name) (capital : Capital capitals)
    (other : name.map Char.toUpper ≠ capitals) (ends : EndsWord after) :
    Unread capitals name after := by
  refine unread_word capital plain.solid ends ?_
  intro before rest split nonempty outside spells
  rcases List.eq_nil_or_concat before with rfl | ⟨front, c, rfl⟩
  · rw [List.nil_append] at split
    subst split
    exact absurd (plain.toUpper_of_spells spells) other
  · have word : isWord c = true := (plain.facts (by simp [split])).2.2
    rw [List.concat_eq_append, insideAfter_append] at outside
    change isWord c = false at outside
    rw [word] at outside
    cases outside

/-- No list of a selection ends at another word than `FROM`. -/
theorem endsSelectList_space {after : List Char} (plain : PlainName name)
    (notFrom : name.map Char.toUpper ≠ "FROM".toList) (ends : EndsWord after) :
    endsSelectList (' ' :: (name ++ after)) = false := by
  rcases plain.exists_cons with ⟨c, rest, split, solid, -⟩
  have skipped : skipBlanks? (' ' :: (name ++ after)) = some (name ++ after) := by
    rw [split]
    exact skipBlanks?_space solid
  rw [endsSelectList, skipped, Option.bind_some]
  rcases found : keyword? "FROM".toList (name ++ after) with _ | tail
  · rfl
  · rcases keyword?_append_word (by decide) ends found with ⟨front, back, spells, whole, rfl⟩
    rcases back with _ | ⟨d, back⟩
    · rw [List.append_nil] at whole
      subst whole
      exact absurd (plain.toUpper_of_spells spells) notFrom
    · have word : isWord d = true := (plain.facts (by simp [whole])).2.2
      simp [atWordEnd, word]

end PlainName

/-- Items with commas between them. -/
def listed (items : List (List Char)) : List Char :=
  List.intercalate ", ".toList items

theorem listed_singleton (item : List Char) : listed [item] = item := by
  simp only [listed, List.intercalate_singleton]

theorem listed_cons_cons (first second : List Char) (rest : List (List Char)) :
    listed (first :: second :: rest) = first ++ (", ".toList ++ listed (second :: rest)) := by
  simp only [listed, List.intercalate_cons_cons, List.append_assoc]

/-- A character of a list stands in an item, or between two. -/
theorem exists_of_mem_listed {items : List (List Char)} {c : Char} (member : c ∈ listed items) :
    c ∈ ", ".toList ∨ ∃ item ∈ items, c ∈ item := by
  induction items with
  | nil => cases member
  | cons first rest ih =>
      cases rest with
      | nil =>
          rw [listed_singleton] at member
          exact Or.inr ⟨first, List.mem_cons_self, member⟩
      | cons second rest =>
          rw [listed_cons_cons, List.mem_append, List.mem_append] at member
          rcases member with here | between | later
          · exact Or.inr ⟨first, List.mem_cons_self, here⟩
          · exact Or.inl between
          · exact (ih later).imp_right fun ⟨item, known, inItem⟩ =>
              ⟨item, List.mem_cons_of_mem _ known, inItem⟩

theorem exists_listed_eq_append (first : List Char) (rest : List (List Char)) :
    ∃ tail, listed (first :: rest) = first ++ tail ∧ Joint tail := by
  rcases rest with _ | ⟨second, rest⟩
  · exact ⟨[], by rw [listed_singleton, List.append_nil], joint_nil⟩
  · exact ⟨_, listed_cons_cons first second rest, joint_comma _⟩

namespace BareName

variable {name after : List Char}

theorem dottedName (bare : BareName name) : DottedName name where
  characters := fun c member => (bare.plain.characters c member).imp_right Or.inl
  notHaving := bare.notHaving

/-- No grouping ends in front of a name. -/
theorem endsGrouping_space (bare : BareName name) (joint : Joint after) :
    endsGrouping (' ' :: (name ++ after)) = false := by
  rcases bare.plain.exists_cons with ⟨c, rest, split, solid, -⟩
  have skipped : skipBlanks? (' ' :: (name ++ after)) = some (name ++ after) := by
    rw [split]
    exact skipBlanks?_space solid
  have noOrder := keywords?_append_word (by decide : Capital "ORDER".toList) bare.plain.solid
    joint.ends joint.notBy
  have noHaving := bare.dottedName.keyword?_having joint.ends
  rw [endsGrouping, atOrderBy, startsWithPair, atHaving, skipped, Option.bind_some,
    Option.bind_some, noOrder, noHaving]
  rfl

end BareName

theorem endsGrouping_of_solid {c : Char} {rest : List Char} (solid : isBlank c = false) :
    endsGrouping (c :: rest) = false := by
  have notEnd : atEnd (c :: rest) = false := by
    rw [atEnd, Bool.or_eq_false_iff]
    refine ⟨rfl, ?_⟩
    by_contra lineBreak
    have same : c :: rest = ['\n'] := by simpa using lineBreak
    rw [(List.cons.inj same).1] at solid
    exact absurd solid (by decide)
  rw [endsGrouping, atOrderBy, startsWithPair, atHaving, skipBlanks?_of_solid solid, notEnd]
  rfl

theorem absent_endsGrouping_of_solid {text after : List Char} (solid : Solid text) :
    Absent endsGrouping text after :=
  absent_of_forall fun c member _ => endsGrouping_of_solid (solid c member)

/-- A grouping by bare names does not end inside. -/
theorem absent_endsGrouping_listed {first : List Char} {rest : List (List Char)}
    (bare : ∀ name ∈ first :: rest, BareName name) :
    Absent endsGrouping (listed (first :: rest)) [] := by
  have solid := (bare first List.mem_cons_self).plain.solid
  induction rest generalizing first with
  | nil =>
      rw [listed_singleton]
      exact absent_endsGrouping_of_solid solid
  | cons second rest ih =>
      have bareSecond := bare second (by simp)
      have later := ih (fun name member => bare name (List.mem_cons_of_mem _ member))
        bareSecond.plain.solid
      rcases exists_listed_eq_append second rest with ⟨tail, text, joint⟩
      have atBlank : endsGrouping (' ' :: (listed (second :: rest))) = false := by
        rw [text]
        exact bareSecond.endsGrouping_space joint
      have between : Absent endsGrouping [',', ' '] (listed (second :: rest)) :=
        absent_cons_iff.mpr ⟨endsGrouping_of_solid (by decide),
          absent_cons_iff.mpr ⟨atBlank, absent_nil⟩⟩
      rw [listed_cons_cons, absent_append_iff, absent_append_iff]
      simp only [List.append_nil]
      exact ⟨absent_endsGrouping_of_solid solid, between, later⟩

theorem exists_listed_eq_concat {first : List Char} {rest : List (List Char)}
    (plain : ∀ name ∈ first :: rest, PlainName name) :
    ∃ front c, listed (first :: rest) = front ++ [c] ∧ isBlank c = false ∧ c ≠ ';' := by
  induction rest generalizing first with
  | nil =>
      rw [listed_singleton]
      exact (plain first List.mem_cons_self).exists_concat
  | cons second rest ih =>
      rcases ih fun name member => plain name (List.mem_cons_of_mem _ member) with
        ⟨front, c, text, known⟩
      rw [listed_cons_cons, text]
      exact ⟨first ++ (", ".toList ++ front), c, by simp only [List.append_assoc], known⟩

theorem parenthesis_not_mem_listed {names : List (List Char)}
    (plain : ∀ name ∈ names, PlainName name) : '(' ∉ listed names := by
  intro member
  rcases exists_of_mem_listed member with between | ⟨name, known, inName⟩
  · exact absurd between (by decide)
  · exact (plain name known).not_mem (by decide) inName

theorem mem_listed {items : List (List Char)} {item : List Char} {c : Char} (known : item ∈ items)
    (member : c ∈ item) : c ∈ listed items := by
  induction items with
  | nil => cases known
  | cons first rest ih =>
      rcases exists_listed_eq_append first rest with ⟨tail, text, -⟩
      rcases List.mem_cons.mp known with rfl | later
      · rw [text]
        exact List.mem_append_left _ member
      · rcases rest with _ | ⟨second, rest⟩
        · cases later
        · rw [listed_cons_cons]
          exact List.mem_append_right _ (List.mem_append_right _ (ih later))

theorem splitOn_listed {first : List Char} {rest : List (List Char)}
    (noComma : ∀ name ∈ first :: rest, ',' ∉ name) :
    splitOn ',' (listed (first :: rest)) = first :: rest.map (' ' :: ·) := by
  induction rest generalizing first with
  | nil =>
      rw [listed_singleton]
      exact splitOn_of_not_mem (noComma first List.mem_cons_self)
  | cons second rest ih =>
      have later := ih fun name member => noComma name (List.mem_cons_of_mem _ member)
      have blank : splitOn ',' (' ' :: listed (second :: rest)) =
          (' ' :: second) :: rest.map (' ' :: ·) := by
        rw [splitOn, if_neg (by decide), later]
      rw [listed_cons_cons]
      change splitOn ',' (first ++ ',' :: ' ' :: listed (second :: rest)) = _
      rw [splitOn_append (noComma first List.mem_cons_self), blank]
      rfl

/-- Names with commas between them are read back. -/
theorem groupingColumns_listed {first : List Char} {rest : List (List Char)}
    (plain : ∀ name ∈ first :: rest, PlainName name) :
    Recovery.groupingColumns (listed (first :: rest)) = (first :: rest).map String.ofList := by
  rcases (plain first List.mem_cons_self).exists_cons with ⟨c, tail, head, solid, -⟩
  rcases exists_listed_eq_append first rest with ⟨behind, text, -⟩
  rcases exists_listed_eq_concat plain with ⟨front, last, ending, lastSolid, notSemicolon⟩
  have whole : listed (first :: rest) = c :: (tail ++ behind) := by
    rw [text, head, List.cons_append]
  have clean : ∀ name ∈ first :: rest, without '"' name = name := fun name member =>
    without_of_not_mem ((plain name member).not_mem (by decide))
  have trimmed : ∀ name ∈ first :: rest, trim name = name := fun name member =>
    trim_of_solid_word (plain name member).solid
  rw [Recovery.groupingColumns, trimBody_of_solid whole solid ending lastSolid notSemicolon,
    splitOn_listed fun name member => (plain name member).not_mem (by decide), List.map_cons,
    List.map_map, List.map_cons, trimmed first List.mem_cons_self, clean first List.mem_cons_self]
  congr 1
  apply List.map_congr_left
  intro name member
  have inAll := List.mem_cons_of_mem first member
  rw [Function.comp_apply, trim_space (trimmed name inAll), clean name inAll]

end SqlPipeline
