import Mathlib.Tactic.Common
import SqlPipeline.Text.Search

/-!
# Pieces of a text

Cutting a text at every occurrence of a character. No piece holds the character, and pieces without
it that are joined by it are the pieces of the joined text.
-/

namespace SqlPipeline.Text

theorem splitOn_of_not_mem {separator : Char} {text : List Char} (absent : separator ∉ text) :
    splitOn separator text = [text] := by
  induction text with
  | nil => rfl
  | cons c text ih =>
      rw [List.mem_cons, not_or] at absent
      rw [splitOn, if_neg (by simpa using Ne.symm absent.1), ih absent.2]

theorem splitOn_append {separator : Char} {front : List Char} (absent : separator ∉ front)
    (back : List Char) :
    splitOn separator (front ++ separator :: back) = front :: splitOn separator back := by
  induction front with
  | nil => rw [List.nil_append, splitOn, if_pos (by simp)]
  | cons c front ih =>
      rw [List.mem_cons, not_or] at absent
      rw [List.cons_append, splitOn, if_neg (by simpa using Ne.symm absent.1), ih absent.2]

theorem splitOn_ne_nil (separator : Char) (text : List Char) : splitOn separator text ≠ [] := by
  rcases text with _ | ⟨c, rest⟩
  · simp [splitOn]
  · rw [splitOn]
    split
    · simp
    · split <;> simp

theorem splitOn_eq_singleton_nil {separator : Char} {text : List Char}
    (single : splitOn separator text = [[]]) : text = [] := by
  rcases text with _ | ⟨c, rest⟩
  · rfl
  · rw [splitOn] at single
    split at single
    · simp [splitOn_ne_nil] at single
    · split at single <;> simp at single

/-- The last piece is empty when nothing follows the last separator. -/
theorem getLast?_splitOn_eq_nil_iff {separator : Char} {text : List Char} :
    (splitOn separator text).getLast? = some [] ↔
      text = [] ∨ text.getLast? = some separator := by
  induction text with
  | nil => simp [splitOn]
  | cons c rest ih =>
      rw [splitOn]
      by_cases same : c = separator
      · rw [if_pos (by simpa using same)]
        rcases rest with _ | ⟨d, rest⟩
        · simp [splitOn, same]
        · rw [List.getLast?_cons_of_ne_nil (splitOn_ne_nil _ _), ih, List.getLast?_cons_cons]
          simp
      · rw [if_neg (by simpa using same)]
        rcases pieces : splitOn separator rest with _ | ⟨piece, _ | ⟨second, others⟩⟩
        · exact absurd pieces (splitOn_ne_nil _ _)
        · rw [pieces] at ih
          rcases rest with _ | ⟨d, rest⟩
          · simpa using same
          · have notLast : ¬(d :: rest).getLast? = some separator := by
              intro last
              have empty : piece = [] := by simpa using ih.mpr (Or.inr last)
              rw [empty] at pieces
              cases splitOn_eq_singleton_nil pieces
            simpa using notLast
        · rw [pieces] at ih
          rcases rest with _ | ⟨d, rest⟩
          · simp [splitOn] at pieces
          · simpa using ih

theorem not_mem_of_mem_splitOn {separator : Char} {text piece : List Char}
    (member : piece ∈ splitOn separator text) : separator ∉ piece := by
  induction text generalizing piece with
  | nil =>
      rw [splitOn, List.mem_singleton] at member
      simp [member]
  | cons c rest ih =>
      rw [splitOn] at member
      split at member
      · rcases List.mem_cons.mp member with rfl | later
        · simp
        · exact ih later
      · next other =>
        have apart : separator ≠ c := fun same => other (by simp [same])
        split at member
        · rw [List.mem_singleton] at member
          simp [member, apart]
        · next first pieces known =>
          rcases List.mem_cons.mp member with rfl | later
          · simpa [apart] using ih (known ▸ List.mem_cons_self)
          · exact ih (known ▸ List.mem_cons_of_mem _ later)

/-- No piece holds what the text does not hold. -/
theorem mem_of_mem_splitOn {separator c : Char} {text piece : List Char}
    (isPiece : piece ∈ splitOn separator text) (member : c ∈ piece) : c ∈ text := by
  induction text generalizing piece with
  | nil =>
      rw [splitOn, List.mem_singleton] at isPiece
      rwa [isPiece] at member
  | cons d rest ih =>
      rw [splitOn] at isPiece
      split at isPiece
      · rcases List.mem_cons.mp isPiece with rfl | later
        · cases member
        · exact List.mem_cons_of_mem _ (ih later member)
      · split at isPiece
        · next empty => exact absurd empty (splitOn_ne_nil _ _)
        · next first pieces known =>
          rcases List.mem_cons.mp isPiece with rfl | later
          · rcases List.mem_cons.mp member with rfl | inFirst
            · exact List.mem_cons_self
            · exact List.mem_cons_of_mem _ (ih (known ▸ List.mem_cons_self) inFirst)
          · exact List.mem_cons_of_mem _ (ih (known ▸ List.mem_cons_of_mem _ later) member)

/-- Pieces that are joined and cut again are the same pieces. -/
theorem splitOn_intercalate {separator : Char} {pieces : List (List Char)} (nonempty : pieces ≠ [])
    (absent : ∀ piece ∈ pieces, separator ∉ piece) :
    splitOn separator (List.intercalate [separator] pieces) = pieces := by
  induction pieces with
  | nil => exact absurd rfl nonempty
  | cons first rest ih =>
      have isFirst := absent first List.mem_cons_self
      rcases rest with _ | ⟨second, rest⟩
      · rw [List.intercalate_singleton, splitOn_of_not_mem isFirst]
      · rw [List.intercalate_cons_cons, List.append_assoc, List.singleton_append,
          splitOn_append isFirst, ih (List.cons_ne_nil _ _)
            fun piece member => absent piece (List.mem_cons_of_mem _ member)]

end SqlPipeline.Text
