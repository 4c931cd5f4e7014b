import Mathlib.Data.List.Forall2
import SqlPipeline.Text.Keyword

/-!
# What stands for a keyword

A keyword is found where its letters stand in any letter case (`keyword?_eq_some_iff`). Among the
ASCII letters only the two forms of a letter stand for it (`isLetter_iff_of_ascii`), so the lower
case of what was found is that of the keyword unless a letter from beyond ASCII took part.

Blanks and signs stand for no letter, so a keyword that is found in front of a word does not go
beyond the word (`keyword?_append_word`).
-/

namespace SqlPipeline.Text

-- Where characters count as a finite type, a statement about the characters of a text would be
-- decided by going through all characters. The text is gone through instead.
instance (priority := 1100) decidableForallMem (p : Char → Prop) [DecidablePred p]
    (text : List Char) : Decidable (∀ c ∈ text, p c) :=
  List.decidableBAll p text

/-- Whether a text stands for a keyword, which is written in capitals. -/
def Spells (capitals word : List Char) : Prop :=
  List.Forall₂ (fun capital c => isLetter capital c = true) capitals word

theorem keyword?_append {capitals word : List Char} (spells : Spells capitals word)
    (rest : List Char) : keyword? capitals (word ++ rest) = some rest := by
  induction spells with
  | nil => cases rest <;> rfl
  | cons letter _ ih => rw [List.cons_append, keyword?, if_pos letter, ih]

/-- A keyword is found in front of a text exactly when a word that stands for it is there. -/
theorem keyword?_eq_some_iff {capitals text rest : List Char} :
    keyword? capitals text = some rest ↔ ∃ word, Spells capitals word ∧ text = word ++ rest := by
  constructor
  · intro found
    induction capitals generalizing text with
    | nil =>
        obtain rfl : text = rest := by simpa [keyword?] using found
        exact ⟨[], .nil, rfl⟩
    | cons capital capitals ih =>
        rcases text with _ | ⟨c, others⟩
        · simp [keyword?] at found
        · rw [keyword?] at found
          split at found
          · next letter =>
            rcases ih found with ⟨word, spells, rfl⟩
            exact ⟨c :: word, .cons letter spells, rfl⟩
          · cases found
  · rintro ⟨word, spells, rfl⟩
    exact keyword?_append spells rest

/-- An ASCII letter stands for a capital only as one of its two forms. -/
theorem isLetter_iff_of_ascii {capital c : Char} (ascii : c.toNat < 128) :
    isLetter capital c = true ↔ c.toUpper = capital := by
  have notLong : c ≠ 'ſ' := by
    rintro rfl
    exact absurd ascii (by decide)
  have notDotless : c ≠ 'ı' := by
    rintro rfl
    exact absurd ascii (by decide)
  have notDotted : c ≠ 'İ' := by
    rintro rfl
    exact absurd ascii (by decide)
  have notKelvin : c.toNat ≠ 0x212A := by omega
  simp [isLetter, notLong, notDotless, notDotted, notKelvin]

/-- What holds of the first 128 characters holds of every ASCII character. -/
theorem of_ascii (property : Char → Prop) (small : ∀ n < 128, property (Char.ofNat n)) {c : Char}
    (ascii : c.toNat < 128) : property c := by
  have here := small c.toNat ascii
  rwa [Char.ofNat_toNat] at here

theorem toLower_toUpper_of_ascii {c : Char} (ascii : c.toNat < 128) :
    c.toUpper.toLower = c.toLower :=
  of_ascii (fun c => c.toUpper.toLower = c.toLower) (by decide) ascii

/-- The lower case of an ASCII word that stands for a keyword is that of the keyword. -/
theorem map_toLower_of_spells {capitals word : List Char} (spells : Spells capitals word)
    (ascii : ∀ c ∈ word, c.toNat < 128) :
    word.map Char.toLower = capitals.map Char.toLower := by
  induction spells with
  | nil => rfl
  | @cons capital c capitals word letter _ ih =>
      have small := ascii c List.mem_cons_self
      have upper := (isLetter_iff_of_ascii small).mp letter
      rw [List.map_cons, List.map_cons, ih fun other member => ascii other (by simp [member]),
        ← upper, toLower_toUpper_of_ascii small]

/-- Lowering keeps a character from beyond ASCII. -/
theorem toLower_of_not_ascii {c : Char} (foreign : 127 < c.toNat) : c.toLower = c := by
  apply dif_neg
  rintro ⟨-, small⟩
  have small : c.toNat ≤ 90 := small
  omega

theorem toUpper_of_not_ascii {c : Char} (foreign : 127 < c.toNat) : c.toUpper = c := by
  apply dif_neg
  rintro ⟨-, small⟩
  have small : c.toNat ≤ 122 := small
  omega

/-- What becomes an ASCII character in upper case is one. -/
theorem ascii_of_toUpper {c : Char} (ascii : c.toUpper.toNat < 128) : c.toNat < 128 := by
  by_contra large
  rw [toUpper_of_not_ascii (by omega)] at ascii
  omega

theorem eq_space_of_toUpper {c : Char} (upper : c.toUpper = ' ') : c = ' ' := by
  have ascii : c.toNat < 128 := ascii_of_toUpper (by rw [upper]; decide)
  revert upper
  exact of_ascii (fun c => c.toUpper = ' ' → c = ' ') (by decide) ascii

theorem isBlank_of_toUpper {c : Char} (upper : c.toUpper.isUpper = true) : isBlank c = false := by
  have ascii : c.toNat < 128 := by
    apply ascii_of_toUpper
    have range : 65 ≤ c.toUpper.toNat ∧ c.toUpper.toNat ≤ 90 := of_decide_eq_true upper
    omega
  revert upper
  exact of_ascii (fun c => c.toUpper.isUpper = true → isBlank c = false) (by decide) ascii

/-- The upper case of a word is the keyword that it stands for, if none of the letters from beyond
ASCII takes part. -/
theorem map_toUpper_of_spells {capitals word : List Char} (spells : Spells capitals word)
    (plain : ∀ capital ∈ capitals, ∀ c ∈ word, isLetter capital c = true → c.toUpper = capital) :
    word.map Char.toUpper = capitals := by
  induction spells with
  | nil => rfl
  | @cons capital c capitals word letter _ ih =>
      have upper := plain capital List.mem_cons_self c List.mem_cons_self letter
      have later := ih fun other isCapital d member =>
        plain other (List.mem_cons_of_mem _ isCapital) d (List.mem_cons_of_mem _ member)
      rw [List.map_cons, upper, later]

/-- A word stands for its own upper case. -/
theorem spells_of_map_toUpper {capitals word : List Char}
    (upper : word.map Char.toUpper = capitals) : Spells capitals word := by
  subst upper
  exact List.forall₂_map_left_iff.mpr (List.forall₂_same.mpr fun c _ => by simp [isLetter])

/-- Whether a keyword is written in capitals. -/
def Capital (capitals : List Char) : Prop :=
  ∀ c ∈ capitals, c.isUpper = true

instance (capitals : List Char) : Decidable (Capital capitals) :=
  inferInstanceAs (Decidable (∀ c ∈ capitals, c.isUpper = true))

/-- A keyword in capitals stands for itself. -/
theorem spells_self {capitals : List Char} (capital : Capital capitals) :
    Spells capitals capitals := by
  refine List.forall₂_same.mpr fun c member => ?_
  have isUpper : 65 ≤ c.toNat ∧ c.toNat ≤ 90 := of_decide_eq_true (capital c member)
  rw [isLetter_iff_of_ascii (by omega)]
  apply dif_neg
  rintro ⟨large, -⟩
  have large : 97 ≤ c.toNat := large
  omega

/-- A text without blanks. -/
def Solid (text : List Char) : Prop :=
  ∀ c ∈ text, isBlank c = false

instance (text : List Char) : Decidable (Solid text) :=
  inferInstanceAs (Decidable (∀ c ∈ text, isBlank c = false))

/-- A text in front of which a word ends: it is empty or begins with what stands for no letter. -/
def EndsWord (text : List Char) : Prop :=
  ∀ c ∈ text.head?, ∀ capital : Char, capital.isUpper = true → isLetter capital c = false

theorem endsWord_nil : EndsWord [] := by
  intro c member
  cases member

/-- An ASCII sign that is no letter ends a word. -/
theorem endsWord_cons {c : Char} (ascii : c.toNat < 128) (noLetter : c.toUpper.isUpper = false)
    (rest : List Char) : EndsWord (c :: rest) := by
  intro other member capital isUpper
  obtain rfl : c = other := by simpa using member
  by_contra letter
  rw [Bool.not_eq_false, isLetter_iff_of_ascii ascii] at letter
  rw [letter, isUpper] at noLetter
  cases noLetter

theorem endsWord_space (rest : List Char) : EndsWord (' ' :: rest) :=
  endsWord_cons (by decide) (by decide) rest

theorem exists_capital_of_spells {capitals word : List Char} (spells : Spells capitals word)
    {c : Char} (member : c ∈ word) : ∃ capital ∈ capitals, isLetter capital c = true := by
  induction spells with
  | nil => cases member
  | @cons first d capitals word letter _ ih =>
      rcases List.mem_cons.mp member with rfl | later
      · exact ⟨first, List.mem_cons_self, letter⟩
      · rcases ih later with ⟨capital, inKeyword, letter⟩
        exact ⟨capital, List.mem_cons_of_mem _ inKeyword, letter⟩

/-- A keyword in front of a word does not go beyond the word. -/
theorem keyword?_append_word {capitals word after rest : List Char} (capital : Capital capitals)
    (ends : EndsWord after) (found : keyword? capitals (word ++ after) = some rest) :
    ∃ front back, Spells capitals front ∧ word = front ++ back ∧ rest = back ++ after := by
  rcases keyword?_eq_some_iff.mp found with ⟨spelled, spells, same⟩
  rcases List.append_eq_append_iff.mp same with ⟨beyond, rfl, rfl⟩ | ⟨back, rfl, rfl⟩
  · rcases beyond with _ | ⟨c, beyond⟩
    · refine ⟨word, [], ?_, ?_, ?_⟩
      · simpa using spells
      · simp
      · simp
    · rcases exists_capital_of_spells spells (c := c) (by simp) with ⟨first, inKeyword, letter⟩
      rw [ends c (by simp) first (capital first inKeyword)] at letter
      cases letter
  · exact ⟨spelled, back, spells, rfl, rfl⟩

end SqlPipeline.Text
