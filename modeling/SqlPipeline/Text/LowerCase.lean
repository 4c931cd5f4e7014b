import SqlPipeline.Text.LowerCaseTable
import SqlPipeline.Text.Word

/-!
# Lower case

The full lower-case form of a text. A character may become several, and one letter depends on its
neighbours: a capital sigma that ends a word becomes the final form of the small one. To tell the
end of a word, marks and apostrophes are passed over on both sides. An ASCII text is lowered letter
by letter (`lower_of_ascii`).
-/

namespace SqlPipeline.Text

/-- The lower-case form of a character beyond ASCII by itself. -/
def lowerBeyondAscii (c : Char) : List Char :=
  let code := c.toNat
  match lowerExpansions.find? (·.1 == code) with
  | some (_, letters) => letters.map Char.ofNat
  | none =>
    match lowerRuns.find? fun (first, last, step, _) =>
        first ≤ code && code ≤ last && (code - first) % step == 0 with
    | some (first, _, _, image) => [Char.ofNat (image + (code - first))]
    | none => [c]

/-- Whether a character has case and is not passed over. -/
def isCased (c : Char) : Bool :=
  inRanges casedRanges c.toNat

/-- Whether a character is passed over when the end of a word is looked for. -/
def isCaseIgnorable (c : Char) : Bool :=
  inRanges caseIgnorableRanges c.toNat

/-- Whether the first character that is not passed over has case. -/
def reachesCased (text : List Char) : Bool :=
  (text.dropWhile isCaseIgnorable).head?.any isCased

/-- The lower-case form of a character between what precedes it, backwards, and what follows it. -/
def lowerBetween (before : List Char) (c : Char) (after : List Char) : List Char :=
  if c == 'Σ' then [if reachesCased before && !reachesCased after then 'ς' else 'σ']
  else if c.toNat < 128 then [c.toLower]
  else lowerBeyondAscii c

/-- The lower-case form of a text after what precedes it, backwards. -/
def lowerAfter (before : List Char) : List Char → List Char
  | [] => []
  | c :: rest => lowerBetween before c rest ++ lowerAfter (c :: before) rest

/-- The lower-case form of a text. -/
def lower (text : List Char) : List Char :=
  lowerAfter [] text

theorem lowerAfter_of_ascii {before text : List Char} (ascii : ∀ c ∈ text, c.toNat < 128) :
    lowerAfter before text = text.map Char.toLower := by
  induction text generalizing before with
  | nil => rfl
  | cons c rest ih =>
    have head : c.toNat < 128 := ascii c (by simp)
    have notSigma : (c == 'Σ') = false := by
      simp only [beq_eq_false_iff_ne, ne_eq]
      rintro rfl
      revert head
      decide
    have tail : ∀ c ∈ rest, c.toNat < 128 := fun c member => ascii c (by simp [member])
    simp [lowerAfter, lowerBetween, notSigma, head, ih tail]

/-- An ASCII text is lowered letter by letter. -/
theorem lower_of_ascii {text : List Char} (ascii : ∀ c ∈ text, c.toNat < 128) :
    lower text = text.map Char.toLower :=
  lowerAfter_of_ascii ascii

end SqlPipeline.Text
