import Mathlib.Data.List.TakeWhile
import SqlPipeline.Proofs.Text.Pattern

/-!
# Texts that go on

What is found in a text is found in the same place when something follows the text, as long as no
word goes on beyond its end: a keyword and what stands behind it (`afterKeyword_append_of_endsWord`),
and what follows a run of blanks, unless there is nothing but blanks (`skipBlanks?_append_of_solid`).
-/

namespace SqlPipeline.Text

/-- Whether there is nothing but blanks in a text. -/
def AllBlank (text : List Char) : Prop :=
  ∀ c ∈ text, isBlank c = true

instance (text : List Char) : Decidable (AllBlank text) :=
  inferInstanceAs (Decidable (∀ c ∈ text, isBlank c = true))

variable {capitals text after rest : List Char}

theorem keyword?_append_of_endsWord (capital : Capital capitals) (ends : EndsWord after)
    (text : List Char) :
    keyword? capitals (text ++ after) = (keyword? capitals text).map (· ++ after) := by
  rcases found : keyword? capitals (text ++ after) with _ | rest
  · rcases inText : keyword? capitals text with _ | rest
    · rfl
    · rcases keyword?_eq_some_iff.mp inText with ⟨word, spells, rfl⟩
      rw [List.append_assoc, keyword?_append spells] at found
      cases found
  · rcases keyword?_append_word capital ends found with ⟨front, back, spells, rfl, rfl⟩
    simp [keyword?_append spells]

theorem isSome_keyword?_append_of_endsWord (capital : Capital capitals) (ends : EndsWord after)
    (text : List Char) : (keyword? capitals (text ++ after)).isSome =
      (keyword? capitals text).isSome := by
  rw [keyword?_append_of_endsWord capital ends, Option.isSome_map]

theorem trimLeft_of_allBlank (blank : AllBlank text) : trimLeft text = [] :=
  List.dropWhile_eq_nil_iff.mpr blank

theorem trimLeft_append_of_solid (solid : ¬AllBlank text) :
    trimLeft (text ++ after) = trimLeft text ++ after := by
  have something : (text.dropWhile isBlank).isEmpty = false := by
    simpa [AllBlank] using solid
  simp [trimLeft, List.dropWhile_append, something]

theorem skipBlanks?_append_of_solid (solid : ¬AllBlank text) :
    skipBlanks? (text ++ after) = (skipBlanks? text).map (· ++ after) := by
  rcases text with _ | ⟨c, rest⟩
  · simp [AllBlank] at solid
  · rw [List.cons_append, skipBlanks?, skipBlanks?]
    split
    · next blank =>
      have later : ¬AllBlank rest := by simpa [AllBlank, blank] using solid
      simp [trimLeft_append_of_solid later]
    · rfl

/-- Behind the blanks of a text there is nothing, or something that is not blank. -/
theorem eq_nil_or_exists_of_skipBlanks? (skipped : skipBlanks? text = some rest) :
    rest = [] ∨ ∃ c others, rest = c :: others ∧ isBlank c = false := by
  rcases rest with _ | ⟨c, others⟩
  · exact Or.inl rfl
  · right
    refine ⟨c, others, rfl, ?_⟩
    rcases text with _ | ⟨d, text⟩
    · cases skipped
    · rw [skipBlanks?] at skipped
      split at skipped
      · have first := List.head?_dropWhile_not isBlank text
        rw [show text.dropWhile isBlank = c :: others from Option.some.inj skipped] at first
        simpa using first
      · cases skipped

theorem eq_nil_of_skipBlanks?_of_allBlank (blank : AllBlank text)
    (skipped : skipBlanks? text = some rest) : rest = [] := by
  rcases eq_nil_or_exists_of_skipBlanks? skipped with nothing | ⟨c, others, rfl, solid⟩
  · exact nothing
  · rcases exists_of_skipBlanks? skipped with ⟨run, rfl, -⟩
    rw [blank c (by simp)] at solid
    cases solid

/-- Whether something is found behind the blanks of a text depends on the text alone, if whether it
is found in the rest does. -/
theorem isSome_bind_skipBlanks?_append {α : Type} {find? : List Char → Option α}
    (alike : ∀ rest, (find? (rest ++ after)).isSome = (find? rest).isSome) (solid : ¬AllBlank text) :
    ((skipBlanks? (text ++ after)).bind find?).isSome = ((skipBlanks? text).bind find?).isSome := by
  rw [skipBlanks?_append_of_solid solid]
  cases skipBlanks? text with
  | none => rfl
  | some rest => exact alike rest

/-- What follows the keywords of a text that goes on: the same as before with what follows the text,
and what follows the keywords behind the text. -/
theorem afterKeyword_append_of_endsWord (capital : Capital capitals) (ends : EndsWord after)
    (inside : Bool) (text : List Char) :
    afterKeyword capitals inside (text ++ after) =
      (afterKeyword capitals inside text).map (· ++ after) ++
        afterKeyword capitals (insideAfter inside text) after := by
  induction text generalizing inside with
  | nil => rfl
  | cons c text ih =>
      have here := keyword?_append_of_endsWord capital ends (c :: text)
      rw [List.cons_append] at here
      rw [List.cons_append, afterKeyword_cons, afterKeyword_cons, insideAfter_cons, ih, here]
      cases inside <;> cases keyword? capitals (c :: text) <;> simp

theorem length_of_mem_afterKeyword {inside : Bool}
    (member : after ∈ afterKeyword capitals inside text) :
    after.length + capitals.length ≤ text.length := by
  induction text generalizing inside with
  | nil => cases member
  | cons c text ih =>
      rw [afterKeyword_cons, List.mem_append] at member
      rcases member with here | later
      · cases inside with
        | true => cases here
        | false => exact (length_of_keyword? (Option.mem_toList.mp here)).le
      · exact (ih later).trans (Nat.le_succ _)

/-- What follows a later keyword is shorter. -/
theorem pairwise_length_afterKeyword (inside : Bool) (text : List Char) :
    (afterKeyword capitals inside text).Pairwise fun tail later => later.length < tail.length := by
  induction text generalizing inside with
  | nil => exact List.Pairwise.nil
  | cons c text ih =>
      rw [afterKeyword_cons, List.pairwise_append]
      refine ⟨?_, ih _, ?_⟩
      · cases inside <;> cases keyword? capitals (c :: text) <;> simp
      · intro tail here later member
        have shorter := length_of_mem_afterKeyword member
        cases inside with
        | true => cases here
        | false =>
            have whole := length_of_keyword? (Option.mem_toList.mp here)
            rw [List.length_cons] at whole
            omega

theorem dropWhileEnd_append_of_allBlank {gap : List Char} (blank : AllBlank gap)
    (text : List Char) : dropWhileEnd isBlank (text ++ gap) = dropWhileEnd isBlank text := by
  have reversed : ∀ c ∈ gap.reverse, isBlank c = true := fun c member =>
    blank c (List.mem_reverse.mp member)
  rw [dropWhileEnd, List.reverse_append, List.dropWhile_append_of_pos reversed, dropWhileEnd]

theorem trim_of_allBlank (blank : AllBlank text) : trim text = [] := by
  rw [trim, trimLeft_of_allBlank blank]
  rfl

/-- Blanks at the end make no difference to what is left of a text. -/
theorem trim_append_of_allBlank {gap : List Char} (blank : AllBlank gap) (text : List Char) :
    trim (text ++ gap) = trim text := by
  by_cases nothing : AllBlank text
  · have both : AllBlank (text ++ gap) := by
      intro c member
      exact (List.mem_append.mp member).elim (nothing c) (blank c)
    rw [trim_of_allBlank both, trim_of_allBlank nothing]
  · rw [trim, trimLeft_append_of_solid nothing, dropWhileEnd_append_of_allBlank blank, trim]

end SqlPipeline.Text
