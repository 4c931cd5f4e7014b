import SqlPipeline.Proofs.Text.Keyword
import SqlPipeline.Text.UpperCase

/-!
# Classes of characters and the signs of a statement

Identifiers hold neither blanks nor parentheses, in any script. The upper case of a text holds a
comparison sign only if the text does, although a letter may become several; so a comparison sign is
found in the upper case of a text exactly when it stands in the text.
-/

namespace SqlPipeline.Text

/-- The blanks beyond ASCII. -/
def foreignBlanks : List (Nat × Nat) :=
  [(0x85, 0x85), (0xA0, 0xA0), (0x1680, 0x1680), (0x2000, 0x200A), (0x2028, 0x2029),
    (0x202F, 0x202F), (0x205F, 0x205F), (0x3000, 0x3000)]

/-- Whether no range of one table meets a range of another. -/
def rangesApart (ranges others : List (Nat × Nat)) : Bool :=
  ranges.all fun (first, last) =>
    others.all fun (low, high) => high.blt first || last.blt low

theorem inRanges_of_rangesApart {ranges others : List (Nat × Nat)} {code : Nat}
    (separate : rangesApart ranges others = true) (inside : inRanges others code = true) :
    inRanges ranges code = false := by
  rcases List.any_eq_true.mp inside with ⟨⟨low, high⟩, isOther, between⟩
  rw [inRanges, List.any_eq_false]
  rintro ⟨first, last⟩ isRange
  have disjoint := List.all_eq_true.mp (List.all_eq_true.mp separate _ isRange) _ isOther
  simp only [Bool.or_eq_true, Nat.blt_eq] at disjoint
  simp only [Bool.and_eq_true, decide_eq_true_eq] at between ⊢
  omega

theorem inRanges_foreignBlanks {c : Char} (blank : isBlank c = true) (foreign : 128 ≤ c.toNat) :
    inRanges foreignBlanks c.toNat = true := by
  simp only [isBlank, Bool.or_eq_true, Bool.and_eq_true, decide_eq_true_eq, beq_iff_eq] at blank
  simp only [inRanges, foreignBlanks, List.any_cons, List.any_nil, Bool.or_eq_true,
    Bool.and_eq_true, decide_eq_true_eq]
  omega

theorem startRanges_apart_foreignBlanks :
    rangesApart identifierStartRanges foreignBlanks = true := by
  decide +kernel

theorem continueRanges_apart_foreignBlanks :
    rangesApart identifierContinueRanges foreignBlanks = true := by
  decide +kernel

theorem not_wordSign_of_isBlank {c : Char} (blank : isBlank c = true) (ascii : c.toNat < 128) :
    c.isAlpha = false ∧ (c.isAlphanum || c == '_') = false := by
  have all : ∀ n < 128, isBlank (Char.ofNat n) = true → (Char.ofNat n).isAlpha = false ∧
      ((Char.ofNat n).isAlphanum || Char.ofNat n == '_') = false := by
    decide
  exact of_ascii (fun c => isBlank c = true → c.isAlpha = false ∧
    (c.isAlphanum || c == '_') = false) all ascii blank

theorem isBlank_of_continuesIdentifier {c : Char} (continues : continuesIdentifier c = true) :
    isBlank c = false := by
  by_contra blank
  rw [Bool.not_eq_false] at blank
  by_cases ascii : c.toNat < 128
  · rw [continuesIdentifier, if_pos ascii, (not_wordSign_of_isBlank blank ascii).2] at continues
    cases continues
  · have outside := inRanges_of_rangesApart continueRanges_apart_foreignBlanks
      (inRanges_foreignBlanks blank (by omega))
    rw [continuesIdentifier, if_neg ascii, outside] at continues
    cases continues

theorem digitZeros_apart_foreignBlanks :
    rangesApart (digitZeros.map fun nought => (nought, nought + 9)) foreignBlanks = true := by
  decide +kernel

theorem isBlank_of_isDigit {c : Char} (digit : isDigit c = true) : isBlank c = false := by
  by_contra blank
  rw [Bool.not_eq_false] at blank
  rw [isDigit, digitValue?] at digit
  split at digit
  · next ascii =>
    have other := (not_wordSign_of_isBlank blank ascii).2
    split at digit
    · next isDigit => simp [Char.isAlphanum, isDigit] at other
    · cases digit
  · next foreign =>
    rw [Option.isSome_map, Option.isSome_iff_exists] at digit
    rcases digit with ⟨nought, found⟩
    have between := List.find?_some found
    simp only [Bool.and_eq_true, decide_eq_true_eq] at between
    have outside := inRanges_of_rangesApart digitZeros_apart_foreignBlanks
      (inRanges_foreignBlanks blank (by omega))
    rw [inRanges, List.any_map, List.any_eq_false] at outside
    have notHere := outside nought (List.mem_of_find?_eq_some found)
    simp at notHere
    omega

theorem isBlank_of_startsIdentifier {c : Char} (starts : startsIdentifier c = true) :
    isBlank c = false := by
  by_contra blank
  rw [Bool.not_eq_false] at blank
  by_cases ascii : c.toNat < 128
  · have known := not_wordSign_of_isBlank blank ascii
    have notUnderscore : c ≠ '_' := by
      rintro rfl
      exact absurd blank (by decide)
    simp [startsIdentifier, ascii, known.1, notUnderscore] at starts
  · have outside := inRanges_of_rangesApart startRanges_apart_foreignBlanks
      (inRanges_foreignBlanks blank (by omega))
    rw [startsIdentifier, if_neg ascii, outside] at starts
    cases starts

theorem solid_of_isIdentifier {name : List Char} (isIdentifier : isIdentifier name = true) :
    Solid name := by
  rcases name with _ | ⟨c, rest⟩
  · cases isIdentifier
  · rw [Text.isIdentifier, Bool.and_eq_true] at isIdentifier
    intro other member
    rcases List.mem_cons.mp member with rfl | later
    · exact isBlank_of_startsIdentifier isIdentifier.1
    · exact isBlank_of_continuesIdentifier (List.all_eq_true.mp isIdentifier.2 other later)

/-- A sign that neither begins nor continues an identifier. -/
theorem not_mem_of_isIdentifier {name : List Char} {c : Char}
    (isIdentifier : isIdentifier name = true) (notStart : startsIdentifier c = false)
    (notContinue : continuesIdentifier c = false) : c ∉ name := by
  rcases name with _ | ⟨first, rest⟩
  · cases isIdentifier
  · rw [Text.isIdentifier, Bool.and_eq_true] at isIdentifier
    intro member
    rcases List.mem_cons.mp member with rfl | later
    · rw [notStart] at isIdentifier
      cases isIdentifier.1
    · rw [List.all_eq_true.mp isIdentifier.2 c later] at notContinue
      cases notContinue

/-- The signs of comparisons. -/
def comparisonSigns : List Char := ['=', '<', '>']

/-- Whether a sign comes before the capital letters in the order of the characters. -/
structure BeforeLetters (sign : Char) : Prop where
  some : 0 < sign.toNat
  small : sign.toNat ≤ 62

theorem beforeLetters_of_mem_comparisonSigns {sign : Char} (isSign : sign ∈ comparisonSigns) :
    BeforeLetters sign := by
  have all : ∀ sign ∈ comparisonSigns, 0 < sign.toNat ∧ sign.toNat ≤ 62 := by decide
  exact ⟨(all sign isSign).1, (all sign isSign).2⟩

theorem eq_of_mem_upperChar_of_ascii {sign c : Char} (before : BeforeLetters sign)
    (ascii : c.toNat < 128) (member : sign ∈ upperChar c) : c = sign := by
  have all : ∀ n < 128, (Char.ofNat n).toUpper.toNat ≤ 62 →
      (Char.ofNat n).toUpper = Char.ofNat n := by
    decide
  rw [upperChar, if_pos ascii, List.mem_singleton] at member
  have same : c.toUpper = c := by
    refine of_ascii (fun c => c.toUpper.toNat ≤ 62 → c.toUpper = c) all ascii ?_
    rw [← member]
    exact before.small
  rw [member, same]

theorem large_of_upperRuns : ∀ run ∈ upperRuns, 62 < run.2.2.2 := by
  decide +kernel

theorem large_of_upperExpansions : ∀ entry ∈ upperExpansions, ∀ letter ∈ entry.2, 62 < letter := by
  decide +kernel

theorem ofNat_ne_sign {sign : Char} (before : BeforeLetters sign) {code : Nat}
    (large : 62 < code) : Char.ofNat code ≠ sign := by
  rintro rfl
  have some := before.some
  have small := before.small
  by_cases valid : code.isValidChar
  · have same : (Char.ofNat code).toNat = code := by
      rw [Char.ofNat, dif_pos valid]
      rfl
    omega
  · have same : (Char.ofNat code).toNat = 0 := by
      rw [Char.ofNat, dif_neg valid]
      rfl
    omega

theorem sign_not_mem_upperBeyondAscii {sign c : Char} (before : BeforeLetters sign)
    (foreign : 128 ≤ c.toNat) : sign ∉ upperBeyondAscii c := by
  simp only [upperBeyondAscii]
  split
  · next entry letters found =>
    intro member
    rcases List.mem_map.mp member with ⟨letter, isLetter, same⟩
    have large := large_of_upperExpansions _ (List.mem_of_find?_eq_some found) letter isLetter
    exact ofNat_ne_sign before large same
  · split
    · next first last step image found =>
      intro member
      have large := large_of_upperRuns _ (List.mem_of_find?_eq_some found)
      refine ofNat_ne_sign before (Nat.lt_of_lt_of_le large ?_) (List.mem_singleton.mp member).symm
      exact Nat.le_add_right _ _
    · intro member
      have small := before.small
      rw [List.mem_singleton.mp member] at small
      omega

/-- Only the sign itself becomes a sign in upper case. -/
theorem eq_of_mem_upperChar {sign c : Char} (before : BeforeLetters sign)
    (member : sign ∈ upperChar c) : c = sign := by
  by_cases ascii : c.toNat < 128
  · exact eq_of_mem_upperChar_of_ascii before ascii member
  · rw [upperChar, if_neg ascii] at member
    exact absurd member (sign_not_mem_upperBeyondAscii before (by omega))

/-- The upper case of a text brings no comparison sign into it. -/
theorem sign_not_mem_upper {sign : Char} (isSign : sign ∈ comparisonSigns) {text : List Char}
    (absent : sign ∉ text) : sign ∉ upper text := by
  intro member
  rcases List.mem_flatMap.mp member with ⟨c, inText, inUpper⟩
  rw [eq_of_mem_upperChar (beforeLetters_of_mem_comparisonSigns isSign) inUpper] at inText
  exact absent inText

end SqlPipeline.Text
