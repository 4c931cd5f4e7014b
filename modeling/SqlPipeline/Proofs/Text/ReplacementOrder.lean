import Mathlib.Data.List.Infix
import SqlPipeline.Proofs.Text.Replacement

/-!
# Replacements in either order

Two texts are replaced by the same mark, one after the other. A text keeps clear of another if it
neither stands in it nor begins as the other ends; then it starts nowhere in the other, whatever
follows, and its replacement steps over it (`KeepsClear.replaceEach_append`). Where both texts keep
clear of each other and of the mark, an occurrence of one is an occurrence whether or not the other
was replaced before, and so the two replacements can be made in either order (`replaceAll_comm`). A
text may well overlap itself: its occurrences are still taken from left to right.
-/

namespace SqlPipeline.Text

/-- Whether a text keeps clear of another, whatever follows this: it does not stand in it, and it
does not begin as the other ends. -/
structure KeepsClear (text other : List Char) : Prop where
  notInside : ¬text <:+: other
  notAcross : ∀ part, part <:+ other → part <+: text → part = []

instance (text other : List Char) : Decidable (KeepsClear text other) :=
  decidable_of_iff (¬text <:+: other ∧ ∀ part ∈ other.tails, part <+: text → part = [])
    ⟨fun ⟨notInside, notAcross⟩ =>
      ⟨notInside, fun part isEnd => notAcross part ((List.mem_tails part other).mpr isEnd)⟩,
    fun ⟨notInside, notAcross⟩ =>
      ⟨notInside, fun part isTail => notAcross part ((List.mem_tails part other).mp isTail)⟩⟩

section Steps

variable {first : Char} {others new front text : List Char}

/-- A beginning in which the replaced text starts nowhere is stepped over. -/
theorem replaceEach_append_of_elsewhere
    (elsewhere : ∀ rest, rest <:+ front → rest ≠ [] → ¬first :: others <+: rest ++ text) :
    replaceEach first others new (front ++ text) =
      front ++ replaceEach first others new text := by
  induction front with
  | nil => rfl
  | cons c front ih =>
      have notHere := elsewhere (c :: front) List.suffix_rfl (List.cons_ne_nil c front)
      have later := ih fun rest isEnd => elsewhere rest (isEnd.trans (List.suffix_cons c front))
      rw [List.cons_append] at notHere ⊢
      rw [replaceEach_of_elsewhere notHere, later, List.cons_append]

theorem KeepsClear.not_prefix_append {sought other rest : List Char}
    (clear : KeepsClear sought other) (isEnd : rest <:+ other) (nonempty : rest ≠ [])
    (text : List Char) : ¬sought <+: rest ++ text := by
  intro begins
  rcases List.prefix_or_prefix_of_prefix begins (List.prefix_append rest text) with inRest | across
  · exact clear.notInside (inRest.isInfix.trans isEnd.isInfix)
  · exact nonempty (clear.notAcross rest isEnd across)

/-- What the replaced text keeps clear of is stepped over. -/
theorem KeepsClear.replaceEach_append (clear : KeepsClear (first :: others) front)
    (new text : List Char) :
    replaceEach first others new (front ++ text) = front ++ replaceEach first others new text :=
  replaceEach_append_of_elsewhere fun _ isEnd nonempty =>
    clear.not_prefix_append isEnd nonempty text

/-- A text that does not occur is not replaced. -/
theorem replaceAll_of_not_infix {old : List Char} (absent : ¬old <:+: text) (new : List Char) :
    replaceAll old new text = text := by
  rcases old with _ | ⟨first, others⟩
  · rfl
  · have elsewhere : ∀ rest, rest <:+ text → rest ≠ [] → ¬first :: others <+: rest ++ [] := by
      intro rest isEnd _ begins
      rw [List.append_nil] at begins
      exact absent (begins.isInfix.trans isEnd.isInfix)
    have stepped := @replaceEach_append_of_elsewhere _ _ new _ _ elsewhere
    rwa [List.append_nil, replaceEach_nil, List.append_nil] at stepped

end Steps

/-- A text without the brackets of a mark keeps clear of it, if it does not stand between them. -/
theorem keepsClear_mark {opening closing : Char} {inner sought : List Char}
    (noOpening : opening ∉ sought) (noClosing : closing ∉ sought) (notInside : ¬sought <:+: inner) :
    KeepsClear sought (opening :: (inner ++ [closing])) where
  notInside := by
    intro inMark
    have nonempty : sought ≠ [] := by
      rintro rfl
      exact notInside List.nil_infix
    rw [← List.append_nil (opening :: (inner ++ [closing]))] at inMark
    rcases infix_of_infix_mark noOpening noClosing nonempty inMark with within | behind
    · exact notInside within
    · exact nonempty (List.infix_nil.mp behind)
  notAcross := by
    intro part isEnd begins
    rw [← List.cons_append, List.suffix_concat_iff] at isEnd
    rcases isEnd with empty | ⟨before, rfl, -⟩
    · exact empty
    · exact absurd (begins.subset (by simp)) noClosing

section Orders

variable {first second : Char} {others further after : List Char}

/-- In front of an occurrence of one text both orders do the same, if they do behind it. -/
theorem replaceEach_comm_of_begins {new : List Char}
    (clear : KeepsClear (second :: further) (first :: others))
    (clearOfNew : KeepsClear (second :: further) new)
    (later : replaceEach second further new (replaceEach first others new after) =
      replaceEach first others new (replaceEach second further new after)) :
    replaceEach second further new (replaceEach first others new (first :: others ++ after)) =
      replaceEach first others new (replaceEach second further new (first :: others ++ after)) := by
  rw [clear.replaceEach_append, replaceEach_of_prefix, replaceEach_of_prefix,
    clearOfNew.replaceEach_append, later]

variable {opening c : Char} {inner rest : List Char}

/-- A character at which neither text starts stays in its place. -/
theorem replaceEach_replaceEach_of_elsewhere (noOpening : opening ∉ second :: further)
    (notFirst : ¬first :: others <+: c :: rest) (notSecond : ¬second :: further <+: c :: rest) :
    replaceEach second further (opening :: inner)
        (replaceEach first others (opening :: inner) (c :: rest)) =
      c :: replaceEach second further (opening :: inner)
        (replaceEach first others (opening :: inner) rest) := by
  have step := @replaceEach_of_elsewhere _ _ (opening :: inner) _ _ notFirst
  have notHere : ¬second :: further <+: c :: replaceEach first others (opening :: inner) rest := by
    rw [← step]
    exact fun begins => notSecond (prefix_of_prefix_replaceEach noOpening begins)
  rw [step, replaceEach_of_elsewhere notHere]

theorem replaceEach_comm (noOpening : opening ∉ first :: others)
    (noOpeningSecond : opening ∉ second :: further)
    (clear : KeepsClear (first :: others) (second :: further))
    (clearSecond : KeepsClear (second :: further) (first :: others))
    (clearOfMark : KeepsClear (first :: others) (opening :: inner))
    (clearOfMarkSecond : KeepsClear (second :: further) (opening :: inner)) (text : List Char) :
    replaceEach second further (opening :: inner)
        (replaceEach first others (opening :: inner) text) =
      replaceEach first others (opening :: inner)
        (replaceEach second further (opening :: inner) text) := by
  -- The scan goes on behind an occurrence of either text, hence the induction on the length.
  have shorter (c : Char) (word after : List Char) :
      after.length < (c :: word ++ after).length := by
    simp only [List.length_append, List.length_cons]
    omega
  induction length : text.length using Nat.strong_induction_on generalizing text with
  | _ n ih =>
      subst length
      by_cases onFirst : first :: others <+: text
      · rcases onFirst with ⟨after, rfl⟩
        have later := ih after.length (shorter first others after) after rfl
        exact replaceEach_comm_of_begins clearSecond clearOfMarkSecond later
      by_cases onSecond : second :: further <+: text
      · rcases onSecond with ⟨after, rfl⟩
        have later := ih after.length (shorter second further after) after rfl
        exact (replaceEach_comm_of_begins clear clearOfMark later.symm).symm
      rcases text with _ | ⟨c, rest⟩
      · simp only [replaceEach_nil]
      · rw [replaceEach_replaceEach_of_elsewhere noOpeningSecond onFirst onSecond,
          replaceEach_replaceEach_of_elsewhere noOpening onSecond onFirst,
          ih rest.length (Nat.lt_succ_self _) rest rfl]

/-- Two texts that keep clear of each other and of the mark can be replaced in either order. -/
theorem replaceAll_comm {old other : List Char} (noOpening : opening ∉ old)
    (noOpeningOther : opening ∉ other) (clear : KeepsClear old other)
    (clearOther : KeepsClear other old) (clearOfMark : KeepsClear old (opening :: inner))
    (clearOfMarkOther : KeepsClear other (opening :: inner)) (text : List Char) :
    replaceAll other (opening :: inner) (replaceAll old (opening :: inner) text) =
      replaceAll old (opening :: inner) (replaceAll other (opening :: inner) text) := by
  rcases old with _ | ⟨first, others⟩
  · rfl
  rcases other with _ | ⟨second, further⟩
  · rfl
  exact replaceEach_comm noOpening noOpeningOther clear clearOther clearOfMark clearOfMarkOther text

end Orders

end SqlPipeline.Text
