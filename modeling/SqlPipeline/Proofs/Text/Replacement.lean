import SqlPipeline.Proofs.Text.Occurrence

/-!
# What a replacement leaves

All occurrences of a text are replaced by a mark between brackets. A text without these brackets
stands in the result only if it stands inside the mark or stood in the original
(`infix_of_infix_replaceAll`): where it meets a mark it cannot go beyond the bracket. In particular
the replaced text is gone, unless it stands inside the mark (`not_infix_replaceAll`).
-/

namespace SqlPipeline.Text

section Brackets

variable {bracket : Char} {sought front back : List Char}

/-- A beginning without the bracket does not go beyond it. -/
theorem prefix_of_prefix_append_cons (absent : bracket ∉ sought)
    (begins : sought <+: front ++ bracket :: back) : sought <+: front := by
  rcases begins with ⟨rest, same⟩
  rcases List.append_eq_append_iff.mp same with ⟨middle, rfl, -⟩ | ⟨middle, rfl, behind⟩
  · exact List.prefix_append _ _
  · rcases middle with _ | ⟨c, middle⟩
    · exact (List.append_nil front).symm ▸ List.prefix_rfl
    · obtain rfl : bracket = c := (List.cons.inj behind).1
      exact absurd (List.mem_append_right _ List.mem_cons_self) absent

/-- A text without the bracket stands on one side of it. -/
theorem infix_of_infix_append_cons (absent : bracket ∉ sought)
    (occurs : sought <:+: front ++ bracket :: back) : sought <:+: front ∨ sought <:+: back := by
  induction front with
  | nil =>
      rcases List.infix_cons_iff.mp occurs with begins | later
      · have inFront : sought <+: [] := prefix_of_prefix_append_cons absent begins
        exact Or.inl inFront.isInfix
      · exact Or.inr later
  | cons c front ih =>
      rcases List.infix_cons_iff.mp occurs with begins | later
      · have inFront : sought <+: c :: front := prefix_of_prefix_append_cons absent begins
        exact Or.inl inFront.isInfix
      · exact (ih later).imp_left fun inRest => inRest.trans (List.suffix_cons c front).isInfix

theorem infix_of_infix_cons (absent : bracket ∉ sought) (nonempty : sought ≠ [])
    (occurs : sought <:+: bracket :: back) : sought <:+: back := by
  have atStart : sought <:+: [] ++ bracket :: back := occurs
  rcases infix_of_infix_append_cons absent atStart with empty | behind
  · exact absurd (List.infix_nil.mp empty) nonempty
  · exact behind

end Brackets

theorem isPrefixOf?_eq_some_iff {sought text after : List Char} :
    sought.isPrefixOf? text = some after ↔ text = sought ++ after := by
  constructor
  · exact fun found => (append_of_isPrefixOf? found).symm
  · rintro rfl
    exact isPrefixOf?_append sought after

variable {first : Char} {others new : List Char}

theorem replaceEach_nil : replaceEach first others new [] = [] := by
  rw [replaceEach]

theorem replaceEach_of_prefix (after : List Char) :
    replaceEach first others new (first :: others ++ after) =
      new ++ replaceEach first others new after := by
  have found := isPrefixOf?_append (first :: others) after
  rw [List.cons_append] at found ⊢
  rw [replaceEach]
  split
  · next other same =>
    rw [found] at same
    cases same
    rfl
  · next none =>
    rw [found] at none
    cases none

theorem replaceEach_of_elsewhere {c : Char} {rest : List Char}
    (notHere : ¬first :: others <+: c :: rest) :
    replaceEach first others new (c :: rest) = c :: replaceEach first others new rest := by
  rw [replaceEach]
  split
  · next after same => exact absurd ⟨after, append_of_isPrefixOf? same⟩ notHere
  · rfl

theorem not_prefix_of_isPrefixOf? {c : Char} {rest : List Char}
    (none : (first :: others).isPrefixOf? (c :: rest) = none) : ¬first :: others <+: c :: rest := by
  rintro ⟨after, same⟩
  rw [isPrefixOf?_eq_some_iff.mpr same.symm] at none
  cases none

section Marks

variable {opening closing : Char} {inner sought text : List Char}

/-- What a text begins with after a replacement, up to a mark, it began with before. -/
theorem prefix_of_prefix_replaceEach (noOpening : opening ∉ sought)
    (begins : sought <+: replaceEach first others (opening :: inner) text) : sought <+: text := by
  induction text using replaceEach.induct first others generalizing sought with
  | case1 =>
      rw [replaceEach_nil] at begins
      exact begins
  | case2 c rest after found ih =>
      rw [isPrefixOf?_eq_some_iff.mp found, replaceEach_of_prefix] at begins
      have empty : sought <+: [] := prefix_of_prefix_append_cons noOpening begins
      rw [List.prefix_nil.mp empty]
      exact List.nil_prefix
  | case3 c rest none ih =>
      rw [replaceEach_of_elsewhere (not_prefix_of_isPrefixOf? none)] at begins
      rcases sought with _ | ⟨d, sought⟩
      · exact List.nil_prefix
      · rw [List.cons_prefix_cons] at begins ⊢
        exact ⟨begins.1, ih (fun member => noOpening (List.mem_cons_of_mem _ member)) begins.2⟩

/-- A text that stands in a mark and what follows it stands between the brackets or behind them. -/
theorem infix_of_infix_mark (noOpening : opening ∉ sought) (noClosing : closing ∉ sought)
    (nonempty : sought ≠ []) (occurs : sought <:+: opening :: (inner ++ [closing]) ++ text) :
    sought <:+: inner ∨ sought <:+: text := by
  have split : opening :: (inner ++ [closing]) ++ text =
      opening :: (inner ++ closing :: text) := by simp
  rw [split] at occurs
  exact infix_of_infix_append_cons noClosing (infix_of_infix_cons noOpening nonempty occurs)

/-- What stands in a text after a replacement stands in the mark, or stood in the text before. -/
theorem infix_of_infix_replaceEach (noOpening : opening ∉ sought) (noClosing : closing ∉ sought)
    (nonempty : sought ≠ [])
    (occurs : sought <:+: replaceEach first others (opening :: (inner ++ [closing])) text) :
    sought <:+: inner ∨ sought <:+: text := by
  induction text using replaceEach.induct first others with
  | case1 =>
      rw [replaceEach_nil] at occurs
      exact Or.inr occurs
  | case2 c rest after found ih =>
      have split := isPrefixOf?_eq_some_iff.mp found
      rw [split, replaceEach_of_prefix] at occurs
      rcases infix_of_infix_mark noOpening noClosing nonempty occurs with inMark | later
      · exact Or.inl inMark
      · rw [split]
        exact (ih later).imp_right fun inAfter => inAfter.trans (List.suffix_append _ _).isInfix
  | case3 c rest none ih =>
      have notHere := not_prefix_of_isPrefixOf? none
      have step := @replaceEach_of_elsewhere _ _ (opening :: (inner ++ [closing])) _ _ notHere
      rw [step] at occurs
      rcases List.infix_cons_iff.mp occurs with begins | later
      · rw [← step] at begins
        exact Or.inr (prefix_of_prefix_replaceEach noOpening begins).isInfix
      · exact (ih later).imp_right fun inRest => inRest.trans (List.suffix_cons c rest).isInfix

/-- The replaced text is gone: it neither stands in the marks nor was it left between them. -/
theorem not_infix_replaceEach (noOpening : opening ∉ first :: others)
    (noClosing : closing ∉ first :: others) (notInside : ¬first :: others <:+: inner) :
    ¬first :: others <:+: replaceEach first others (opening :: (inner ++ [closing])) text := by
  induction text using replaceEach.induct first others with
  | case1 =>
      rw [replaceEach_nil]
      exact fun occurs => List.cons_ne_nil _ _ (List.infix_nil.mp occurs)
  | case2 c rest after found ih =>
      rw [isPrefixOf?_eq_some_iff.mp found, replaceEach_of_prefix]
      intro occurs
      rcases infix_of_infix_mark noOpening noClosing (by simp) occurs with inMark | later
      · exact notInside inMark
      · exact ih later
  | case3 c rest none ih =>
      have notHere := not_prefix_of_isPrefixOf? none
      have step := @replaceEach_of_elsewhere _ _ (opening :: (inner ++ [closing])) _ _ notHere
      intro occurs
      rw [step] at occurs
      rcases List.infix_cons_iff.mp occurs with begins | later
      · rw [← step] at begins
        exact notHere (prefix_of_prefix_replaceEach noOpening begins)
      · exact ih later

variable {old : List Char}

theorem infix_of_infix_replaceAll (noOpening : opening ∉ sought) (noClosing : closing ∉ sought)
    (nonempty : sought ≠ [])
    (occurs : sought <:+: replaceAll old (opening :: (inner ++ [closing])) text) :
    sought <:+: inner ∨ sought <:+: text := by
  rcases old with _ | ⟨first, others⟩
  · exact Or.inr occurs
  · exact infix_of_infix_replaceEach noOpening noClosing nonempty occurs

theorem not_infix_replaceAll (noOpening : opening ∉ old) (noClosing : closing ∉ old)
    (notInside : ¬old <:+: inner) :
    ¬old <:+: replaceAll old (opening :: (inner ++ [closing])) text := by
  rcases old with _ | ⟨first, others⟩
  · exact absurd List.nil_infix notInside
  · exact not_infix_replaceEach noOpening noClosing notInside

end Marks

end SqlPipeline.Text
