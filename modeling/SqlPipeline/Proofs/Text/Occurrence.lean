import Mathlib.Tactic.Common
import SqlPipeline.Text.Search

/-!
# First occurrences

`Text.cut?` finds the first occurrence of a text in another. What it finds takes the text apart
(`eq_of_cut?`), and it finds nothing exactly in texts that cannot be taken apart in this way
(`cut?_eq_none_iff`); no earlier occurrence is missed (`length_le_of_cut?`). A beginning in which
the sought text starts nowhere is stepped over (`cut?_append_of_elsewhere`).
-/

namespace SqlPipeline.Text

theorem isPrefixOf?_append (sought rest : List Char) :
    sought.isPrefixOf? (sought ++ rest) = some rest := by
  induction sought with
  | nil => cases rest <;> rfl
  | cons c others ih =>
      change (if c == c then others.isPrefixOf? (others ++ rest) else none) = some rest
      rw [if_pos (beq_self_eq_true c)]
      exact ih

theorem cut?_append_self {sought : List Char} (nonempty : sought ≠ []) (rest : List Char) :
    cut? sought (sought ++ rest) = some ([], rest) := by
  rcases sought with _ | ⟨c, others⟩
  · exact absurd rfl nonempty
  · have found := isPrefixOf?_append (c :: others) rest
    rw [List.cons_append] at found ⊢
    rw [cut?, found]

theorem eq_of_cut? {sought text before after : List Char}
    (found : cut? sought text = some (before, after)) : text = before ++ sought ++ after := by
  induction text generalizing before with
  | nil =>
      by_cases empty : sought.isEmpty = true
      · rw [cut?, if_pos empty] at found
        cases found
        simpa using empty
      · rw [cut?, if_neg empty] at found
        cases found
  | cons c rest ih =>
      rw [cut?] at found
      split at found
      · next here =>
        cases found
        exact (append_of_isPrefixOf? here).symm
      · rcases Option.map_eq_some_iff.mp found with ⟨⟨earlier, behind⟩, later, same⟩
        cases same
        rw [ih later, List.cons_append, List.cons_append]

theorem cut?_isSome (sought before after : List Char) :
    (cut? sought (before ++ sought ++ after)).isSome = true := by
  induction before with
  | nil =>
      rcases sought with _ | ⟨c, others⟩
      · cases after with
        | nil => rfl
        | cons c rest =>
            have here : ([] : List Char).isPrefixOf? (c :: rest) = some (c :: rest) := rfl
            rw [List.nil_append, List.nil_append, cut?, here]
            rfl
      · rw [List.nil_append, cut?_append_self (by simp)]
        rfl
  | cons c before ih =>
      rw [List.cons_append, List.cons_append, cut?]
      split
      · rfl
      · rw [Option.isSome_map]
        exact ih

theorem cut?_eq_none_iff {sought text : List Char} :
    cut? sought text = none ↔ ∀ before after, text ≠ before ++ sought ++ after := by
  constructor
  · rintro notFound before after rfl
    have found := cut?_isSome sought before after
    rw [notFound] at found
    cases found
  · intro nowhere
    rcases found : cut? sought text with _ | ⟨before, after⟩
    · rfl
    · exact absurd (eq_of_cut? found) (nowhere before after)

theorem cut?_eq_none_iff_not_isInfix {sought text : List Char} :
    cut? sought text = none ↔ ¬sought <:+: text := by
  rw [cut?_eq_none_iff]
  constructor
  · rintro nowhere ⟨before, after, same⟩
    exact nowhere before after same.symm
  · rintro absent before after rfl
    exact absent ⟨before, after, rfl⟩

theorem contains_iff_isInfix {sought text : List Char} :
    contains sought text = true ↔ sought <:+: text := by
  rw [contains, ← not_iff_not, ← cut?_eq_none_iff_not_isInfix, Bool.not_eq_true,
    Option.isSome_eq_false_iff, Option.isNone_iff_eq_none]

/-- No earlier occurrence is missed. -/
theorem length_le_of_cut? {sought front back before after : List Char} (nonempty : sought ≠ [])
    (found : cut? sought (front ++ sought ++ back) = some (before, after)) :
    before.length ≤ front.length := by
  induction front generalizing before with
  | nil =>
      rw [List.nil_append, cut?_append_self nonempty] at found
      cases found
      exact Nat.le_refl _
  | cons c front ih =>
      rw [List.cons_append, List.cons_append, cut?] at found
      split at found
      · cases found
        exact Nat.zero_le _
      · rcases Option.map_eq_some_iff.mp found with ⟨⟨earlier, behind⟩, later, same⟩
        cases same
        exact Nat.succ_le_succ (ih later)

/-- A beginning is stepped over when the sought text starts nowhere in it. -/
theorem cut?_append_of_elsewhere {sought front text : List Char}
    (elsewhere : ∀ before rest, front = before ++ rest → rest ≠ [] → ¬sought <+: rest ++ text) :
    cut? sought (front ++ text) =
      (cut? sought text).map fun (before, after) => (front ++ before, after) := by
  induction front with
  | nil => simp
  | cons c front ih =>
      have notHere : sought.isPrefixOf? (c :: (front ++ text)) = none := by
        by_contra found
        rcases Option.ne_none_iff_exists'.mp found with ⟨after, here⟩
        exact elsewhere [] (c :: front) rfl (by simp) ⟨after, append_of_isPrefixOf? here⟩
      have later := ih fun before rest split => elsewhere (c :: before) rest (by rw [split]; rfl)
      rw [List.cons_append, cut?, notHere]
      simp only [later, Option.map_map]
      rfl

/-- A beginning without the first character of the sought text is stepped over. -/
theorem cut?_append_of_not_mem {first : Char} {others front : List Char} (absent : first ∉ front)
    (text : List Char) :
    cut? (first :: others) (front ++ text) =
      (cut? (first :: others) text).map fun (before, after) => (front ++ before, after) := by
  apply cut?_append_of_elsewhere
  rintro before rest rfl nonempty ⟨after, same⟩
  rcases rest with _ | ⟨c, rest⟩
  · exact nonempty rfl
  · obtain rfl : first = c := (List.cons.inj same).1
    exact absent (by simp)

/-- A word and the mark behind it are stepped over when the sought text neither stands in the word
nor goes on behind the mark. -/
theorem cut?_append_cons_of_not_isInfix {sought word text : List Char} {mark : Char}
    (notInWord : ¬sought <:+: word) (notAcross : ∀ tail, mark :: tail <:+ sought → ¬tail <+: text) :
    cut? sought (word ++ mark :: text) =
      (cut? sought text).map fun (before, after) => (word ++ mark :: before, after) := by
  have elsewhere : ∀ before rest, word ++ [mark] = before ++ rest → rest ≠ [] →
      ¬sought <+: rest ++ text := by
    rintro before rest split nonempty ⟨after, same⟩
    rcases List.eq_nil_or_concat rest with rfl | ⟨front, last, rfl⟩
    · exact nonempty rfl
    · rw [List.concat_eq_append] at split same
      rw [← List.append_assoc] at split
      rcases List.append_inj' split rfl with ⟨rfl, marks⟩
      rw [← marks, List.append_assoc, List.singleton_append] at same
      rcases List.append_eq_append_iff.mp same with ⟨middle, rfl, -⟩ | ⟨middle, rfl, behind⟩
      · exact notInWord (List.infix_append' before sought middle)
      · rcases middle with _ | ⟨c, tail⟩
        · rw [List.append_nil] at notInWord
          exact notInWord (List.suffix_append before front).isInfix
        · rcases List.cons.inj behind with ⟨rfl, rfl⟩
          exact notAcross tail (List.suffix_append front _) (List.prefix_append tail after)
  have stepped := cut?_append_of_elsewhere elsewhere
  rw [List.append_assoc, List.singleton_append] at stepped
  rw [stepped]
  simp

end SqlPipeline.Text
