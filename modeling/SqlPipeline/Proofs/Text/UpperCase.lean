import SqlPipeline.Proofs.Text.Classes

/-!
# Places in the upper-case form

No character vanishes in upper case, so the upper-case form of a text is at least as long as the
text. It has the same length exactly when no character of the text becomes several
(`length_upper_eq_iff`); then places in it are places in the text. A sign that stands in it stands in
the text, behind what becomes what precedes it (`exists_of_upper_eq_append`). Blanks are their own
upper case, and no letter of ASCII becomes a blank (`solid_upper`).
-/

namespace SqlPipeline.Text

theorem upperExpansions_ne_nil : ∀ entry ∈ upperExpansions, entry.2 ≠ [] := by
  decide +kernel

theorem upperChar_ne_nil (c : Char) : upperChar c ≠ [] := by
  rw [upperChar]
  split
  · simp
  · simp only [upperBeyondAscii]
    split
    · next entry letters found =>
      rw [ne_eq, List.map_eq_nil_iff]
      exact upperExpansions_ne_nil _ (List.mem_of_find?_eq_some found)
    · split
      · exact List.cons_ne_nil _ _
      · exact List.cons_ne_nil _ _

theorem length_upperChar_pos (c : Char) : 0 < (upperChar c).length :=
  List.length_pos_iff.mpr (upperChar_ne_nil c)

theorem upper_cons (c : Char) (text : List Char) : upper (c :: text) = upperChar c ++ upper text :=
  List.flatMap_cons

theorem length_le_length_upper (text : List Char) : text.length ≤ (upper text).length := by
  induction text with
  | nil => exact Nat.zero_le _
  | cons c text ih =>
      have here := length_upperChar_pos c
      rw [upper_cons, List.length_append, List.length_cons]
      omega

/-- The upper-case form is longer as soon as one character becomes several. -/
theorem length_upper_eq_iff {text : List Char} :
    (upper text).length = text.length ↔ ∀ c ∈ text, (upperChar c).length = 1 := by
  induction text with
  | nil => simp [upper]
  | cons c text ih =>
      have here := length_upperChar_pos c
      have later := length_le_length_upper text
      rw [upper_cons, List.length_append, List.length_cons, List.forall_mem_cons, ← ih]
      omega

/-- A sign in the upper case of a text stands in the text, behind what becomes what precedes it. -/
theorem exists_of_upper_eq_append {sign : Char} (isBefore : BeforeLetters sign)
    (own : upperChar sign = [sign]) {text front back : List Char}
    (same : upper text = front ++ sign :: back) :
    ∃ before after, text = before ++ sign :: after ∧ upper before = front := by
  induction text generalizing front with
  | nil => simp [upper] at same
  | cons c rest ih =>
      rw [upper_cons] at same
      rcases List.append_eq_append_iff.mp same with
        ⟨middle, rfl, later⟩ | ⟨middle, isUpper, later⟩
      · rcases ih later with ⟨before, after, rfl, known⟩
        exact ⟨c :: before, after, rfl, by rw [upper_cons, known]⟩
      · rcases middle with _ | ⟨d, middle⟩
        · rw [List.append_nil] at isUpper
          rcases @ih [] later.symm with ⟨before, after, rfl, known⟩
          exact ⟨c :: before, after, rfl, by rw [upper_cons, known, isUpper, List.append_nil]⟩
        · obtain rfl : sign = d := (List.cons.inj later).1
          obtain rfl : c = sign := eq_of_mem_upperChar isBefore (by simp [isUpper])
          rw [own] at isUpper
          rcases List.append_eq_singleton_iff.mp isUpper.symm with ⟨rfl, -⟩ | ⟨-, impossible⟩
          · exact ⟨[], rest, rfl, rfl⟩
          · cases impossible

theorem upper_of_ascii {text : List Char} (ascii : ∀ c ∈ text, c.toNat < 128) :
    upper text = text.map Char.toUpper := by
  induction text with
  | nil => rfl
  | cons c text ih =>
      rw [List.forall_mem_cons] at ascii
      rw [upper_cons, upperChar, if_pos ascii.1, ih ascii.2]
      rfl

/-- The code points of the blanks. -/
def blankCodes : List Nat :=
  List.range' 9 5 ++ List.range' 28 5 ++ [0x85, 0xA0, 0x1680] ++ List.range' 0x2000 11 ++
    [0x2028, 0x2029, 0x202F, 0x205F, 0x3000]

theorem mem_blankCodes {c : Char} (blank : isBlank c = true) : c.toNat ∈ blankCodes := by
  simp only [isBlank, Bool.or_eq_true, Bool.and_eq_true, decide_eq_true_eq, beq_iff_eq] at blank
  simp only [blankCodes, List.mem_append, List.mem_range'_1, List.mem_cons, List.not_mem_nil,
    or_false]
  omega

theorem upperChar_blankCodes :
    blankCodes.all (fun code => upperChar (Char.ofNat code) == [Char.ofNat code]) = true := by
  decide +kernel

theorem upperChar_of_isBlank {c : Char} (blank : isBlank c = true) : upperChar c = [c] := by
  have here := List.all_eq_true.mp upperChar_blankCodes c.toNat (mem_blankCodes blank)
  rwa [beq_iff_eq, Char.ofNat_toNat] at here

theorem isInfix_upper {part text : List Char} (occurs : part <:+: text) :
    upper part <:+: upper text := by
  rcases occurs with ⟨before, after, rfl⟩
  exact ⟨upper before, upper after, by simp [upper]⟩

/-- A word in ASCII has no blank in upper case. -/
theorem solid_upper {word : List Char} (solid : Solid word) (ascii : ∀ c ∈ word, c.toNat < 128) :
    Solid (upper word) := by
  intro capital member
  rcases List.mem_flatMap.mp member with ⟨c, inWord, inUpper⟩
  rw [upperChar, if_pos (ascii c inWord), List.mem_singleton] at inUpper
  rw [inUpper]
  exact of_ascii (fun c => isBlank c = false → isBlank c.toUpper = false) (by decide)
    (ascii c inWord) (solid c inWord)

end SqlPipeline.Text
