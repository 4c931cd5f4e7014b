import SqlPipeline.Text.UpperCaseTable

/-!
# Upper case

The full upper-case form of a text: a character may become several, so the result can be longer than
the text, and positions in it need not be positions in the text.
-/

namespace SqlPipeline.Text

/-- The upper-case form of a character beyond ASCII. -/
def upperBeyondAscii (c : Char) : List Char :=
  let code := c.toNat
  match upperExpansions.find? (·.1 == code) with
  | some (_, letters) => letters.map Char.ofNat
  | none =>
    match upperRuns.find? fun (first, last, step, _) =>
        first ≤ code && code ≤ last && (code - first) % step == 0 with
    | some (first, _, _, image) => [Char.ofNat (image + (code - first))]
    | none => [c]

/-- The upper-case form of one character. -/
def upperChar (c : Char) : List Char :=
  if c.toNat < 128 then [c.toUpper] else upperBeyondAscii c

/-- The upper-case form of a text. -/
def upper (text : List Char) : List Char :=
  text.flatMap upperChar

/-- An ASCII text keeps its length, so that positions in its upper-case form are positions in it. -/
theorem length_upper_of_ascii {text : List Char} (ascii : ∀ c ∈ text, c.toNat < 128) :
    (upper text).length = text.length := by
  induction text with
  | nil => rfl
  | cons c rest ih =>
    have head : c.toNat < 128 := ascii c (by simp)
    have tail := ih fun other member => ascii other (by simp [member])
    simp only [upper, List.flatMap_cons, List.length_append, List.length_cons] at tail ⊢
    simp [upperChar, head, tail, Nat.add_comm]

end SqlPipeline.Text
