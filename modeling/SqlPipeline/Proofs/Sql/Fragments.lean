import SqlPipeline.Proofs.Sql.Clauses
import SqlPipeline.Proofs.Sql.RecoveryFailure
import SqlPipeline.Proofs.Text.Classes
import SqlPipeline.Proofs.Text.Extension

/-!
# Where the fragments of a filter stand

The pieces of a filter clause with the connectives between them are the clause (`pieces_split`). So
a fragment stands in the statement as it is, and what follows it is the end, a semicolon, or blanks
in front of a keyword: in any case not a comparison (`exists_of_mem_fragments`). A fragment can only
compare with an overlong number where the digits stand in front of such a place
(`not_overlongFragment`).
-/

namespace SqlPipeline

open Text Clause

/-- Whether a text may follow a fragment of a filter: it is empty or begins with a blank or a
semicolon, and behind its blanks no comparison goes on. -/
def closes (after : List Char) : Bool :=
  (after.head?.all fun c => isBlank c || c == ';') &&
    ((trimLeft after).head?.all fun c => !('!' :: comparisonSigns).contains c)

theorem closes_of_skipBlanks? {after behind : List Char} (skipped : skipBlanks? after = some behind)
    (noSign : ∀ c ∈ behind.head?, c ∉ '!' :: comparisonSigns) : closes after = true := by
  rcases after with _ | ⟨c, rest⟩
  · rfl
  · rw [skipBlanks?] at skipped
    split at skipped
    · next blank =>
      cases skipped
      have same : trimLeft (c :: rest) = trimLeft rest := List.dropWhile_cons_of_pos blank
      rw [closes, same, Bool.and_eq_true]
      refine ⟨by simp [blank], Option.all_eq_true_iff_get _ _ |>.mpr fun some => ?_⟩
      simpa using noSign _ (Option.get_mem some)
    · cases skipped

/-- No keyword begins with a sign of comparison. -/
theorem not_sign_of_keyword? {capital : Char} {capitals text rest : List Char}
    (isCapital : Capital (capital :: capitals))
    (found : keyword? (capital :: capitals) text = some rest) :
    ∀ c ∈ text.head?, c ∉ '!' :: comparisonSigns := by
  rcases keyword?_eq_some_iff.mp found with ⟨word, spells, rfl⟩
  intro c first isSign
  have noLetter : ∀ sign ∈ '!' :: comparisonSigns,
      sign.toNat < 128 ∧ sign.toUpper.isUpper = false := by
    decide
  have inWord : c ∈ word := by
    rcases word with _ | ⟨d, word⟩
    · cases spells
    · obtain rfl : d = c := by simpa using first
      exact List.mem_cons_self
  exact not_mem_of_spells (noLetter c isSign).1 (noLetter c isSign).2 isCapital spells inWord

theorem not_sign_of_keywords? {capital : Char} {capitals second text rest : List Char}
    (isCapital : Capital (capital :: capitals))
    (found : keywords? (capital :: capitals) second text = some rest) :
    ∀ c ∈ text.head?, c ∉ '!' :: comparisonSigns := by
  rcases first : keyword? (capital :: capitals) text with _ | behind
  · rw [keywords?_of_none first] at found
    cases found
  · exact not_sign_of_keyword? isCapital first

theorem closes_of_endsFilter {after : List Char} (ended : endsFilter after = true) :
    closes after = true := by
  simp only [endsFilter, atGroupBy, atOrderBy, startsWithPair, atHaving, atEnd, Bool.or_eq_true,
    Option.isSome_iff_exists, Option.bind_eq_some_iff] at ended
  rcases ended with
    ((⟨_, _, blanks, grouping⟩ | ⟨_, _, blanks, ordering⟩) | ⟨_, _, blanks, having⟩) |
      empty | lineBreak
  · exact closes_of_skipBlanks? blanks (not_sign_of_keywords? (by decide) grouping)
  · exact closes_of_skipBlanks? blanks (not_sign_of_keywords? (by decide) ordering)
  · exact closes_of_skipBlanks? blanks (not_sign_of_keyword? (by decide) having)
  · rw [List.isEmpty_iff.mp empty]
    rfl
  · rw [eq_of_beq lineBreak]
    decide

/-- A connective stands between blanks, and a word follows the first of these. -/
theorem exists_of_skipConnective? {text after : List Char}
    (found : skipConnective? text = some after) :
    closes text = true ∧ ∃ front, text = front ++ after := by
  simp only [skipConnective?, Option.bind_eq_bind, Option.bind_eq_some_iff] at found
  rcases found with ⟨afterBlanks, blanks, afterWord, isWord, blanksBehind⟩
  rcases exists_of_skipBlanks? blanks with ⟨run, split, -⟩
  rcases exists_of_skipBlanks? blanksBehind with ⟨runBehind, splitBehind, -⟩
  have word : (∀ c ∈ afterBlanks.head?, c ∉ '!' :: comparisonSigns) ∧
      ∃ word, afterBlanks = word ++ afterWord := by
    rcases Option.or_eq_some_iff.mp isWord with isAnd | ⟨-, isOr⟩
    · rcases keyword?_eq_some_iff.mp isAnd with ⟨word, -, split⟩
      exact ⟨not_sign_of_keyword? (by decide) isAnd, word, split⟩
    · rcases keyword?_eq_some_iff.mp isOr with ⟨word, -, split⟩
      exact ⟨not_sign_of_keyword? (by decide) isOr, word, split⟩
  rcases word with ⟨noSign, word, splitWord⟩
  refine ⟨closes_of_skipBlanks? blanks noSign, run ++ (word ++ runBehind), ?_⟩
  rw [split, splitWord, splitBehind]
  simp only [List.append_assoc]

/-- Pieces that make up a text with connectives between them. -/
inductive Pieces : List Char → List (List Char) → Prop where
  | last (piece : List Char) : Pieces piece [piece]
  | more {piece after later : List Char} {pieces : List (List Char)}
      (connective : skipConnective? after = some later) (rest : Pieces later pieces) :
      Pieces (piece ++ after) (piece :: pieces)

theorem Pieces.cons {text : List Char} {pieces : List (List Char)} (c : Char)
    (known : Pieces text pieces) : ∃ piece others, pieces = piece :: others ∧
      Pieces (c :: text) ((c :: piece) :: others) := by
  cases known with
  | last piece => exact ⟨text, [], rfl, .last _⟩
  | @more piece after later pieces connective rest =>
      exact ⟨piece, pieces, rfl, @Pieces.more (c :: piece) _ _ _ connective rest⟩

/-- The pieces of a clause with the connectives between them are the clause. -/
theorem pieces_split (text : List Char) : Pieces text (splitConditions text) := by
  induction text using splitConditions.induct with
  | case1 =>
      rw [splitConditions.eq_def]
      exact .last []
  | case2 c rest after found ih =>
      rw [splitConditions_cons, found]
      exact @Pieces.more [] _ _ _ found ih
  | case3 c rest none empty ih =>
      rcases ih.cons c with ⟨piece, others, same, -⟩
      rw [empty] at same
      cases same
  | case4 c rest none piece others same ih =>
      rcases ih.cons c with ⟨_, _, again, known⟩
      rw [same] at again
      cases again
      rw [splitConditions_cons, none, same]
      exact known

/-- A text that stands in another, and may be a fragment there. -/
def Enclosed (inner text : List Char) : Prop :=
  ∃ before after, text = before ++ (inner ++ after) ∧ closes after = true

theorem closes_append {front back : List Char} (closesFront : closes front = true)
    (closesBack : closes back = true) : closes (front ++ back) = true := by
  rcases front with _ | ⟨c, front⟩
  · exact closesBack
  · rw [closes, Bool.and_eq_true] at closesFront closesBack ⊢
    refine ⟨closesFront.1, ?_⟩
    rw [trimLeft, List.dropWhile_append]
    rcases behind : (c :: front).dropWhile isBlank with _ | ⟨d, behind⟩
    · exact closesBack.2
    · have noSign := closesFront.2
      rw [trimLeft, behind] at noSign
      exact noSign

theorem Enclosed.trans {inner middle text : List Char} (first : Enclosed inner middle)
    (second : Enclosed middle text) : Enclosed inner text := by
  rcases second with ⟨before, after, rfl, closed⟩
  rcases first with ⟨front, back, rfl, closedBack⟩
  exact ⟨before ++ front, back ++ after, by simp only [List.append_assoc],
    closes_append closedBack closed⟩

theorem Pieces.enclosed {text piece : List Char} {pieces : List (List Char)}
    (known : Pieces text pieces) (member : piece ∈ pieces) : Enclosed piece text := by
  induction known with
  | last other =>
      obtain rfl := List.mem_singleton.mp member
      exact ⟨[], [], by simp, rfl⟩
  | @more first after later pieces connective rest ih =>
      rcases exists_of_skipConnective? connective with ⟨closed, front, rfl⟩
      rcases List.mem_cons.mp member with rfl | inRest
      · exact ⟨[], _, rfl, closed⟩
      · rcases ih inRest with ⟨before, behind, rfl, closedBehind⟩
        exact ⟨first ++ (front ++ before), behind, by simp only [List.append_assoc], closedBehind⟩

/-- What trimming takes away behind a clause may follow a fragment. -/
theorem closes_of_gap {gap : List Char} (isGap : ∀ c ∈ gap, isBlank c = true ∨ c = ';') :
    closes gap = true := by
  rw [closes, Bool.and_eq_true]
  constructor
  · rcases gap with _ | ⟨c, gap⟩
    · rfl
    · simpa using isGap c List.mem_cons_self
  · rcases behind : trimLeft gap with _ | ⟨c, rest⟩
    · rfl
    · have solid : isBlank c = false := by
        have first := List.head?_dropWhile_not isBlank gap
        rw [show gap.dropWhile isBlank = c :: rest from behind] at first
        simpa using first
      have inGap : c ∈ gap := by
        refine (List.dropWhile_suffix isBlank).mem ?_
        rw [show gap.dropWhile isBlank = c :: rest from behind]
        exact List.mem_cons_self
      obtain rfl : c = ';' := (isGap c inGap).resolve_left (by simp [solid])
      rfl

theorem exists_of_dropWhileEnd (test : Char → Bool) (text : List Char) :
    ∃ back, text = dropWhileEnd test text ++ back ∧ ∀ c ∈ back, test c = true := by
  refine ⟨(text.reverse.takeWhile test).reverse, ?_, ?_⟩
  · rw [dropWhileEnd, ← List.reverse_append, List.takeWhile_append_dropWhile, List.reverse_reverse]
  · intro c member
    exact List.all_eq_true.mp List.all_takeWhile c (List.mem_reverse.mp member)

theorem exists_of_trim (text : List Char) :
    ∃ front back, text = front ++ (trim text ++ back) ∧ AllBlank front ∧ AllBlank back := by
  rcases exists_of_dropWhileEnd isBlank (trimLeft text) with ⟨back, split, blank⟩
  refine ⟨text.takeWhile isBlank, back, ?_, List.all_eq_true.mp List.all_takeWhile, blank⟩
  rw [trim, ← split, trimLeft, List.takeWhile_append_dropWhile]

theorem enclosed_trim (text : List Char) : Enclosed (trim text) text := by
  rcases exists_of_trim text with ⟨front, back, split, -, blank⟩
  exact ⟨front, back, split, closes_of_gap fun c member => Or.inl (blank c member)⟩

theorem enclosed_trimBody (body : List Char) : Enclosed (trimBody body) body := by
  have noSemicolons : Enclosed (dropWhileEnd (· == ';') (trim body)) (trim body) := by
    rcases exists_of_dropWhileEnd (· == ';') (trim body) with ⟨back, split, semicolon⟩
    have isGap : ∀ c ∈ back, isBlank c = true ∨ c = ';' := fun c member =>
      Or.inr (by simpa using semicolon c member)
    exact ⟨[], back, split, closes_of_gap isGap⟩
  exact (enclosed_trim _).trans (noSemicolons.trans (enclosed_trim _))

/-- The fragments of a filter stand in its body. -/
theorem enclosed_of_mem_fragments {body fragment : List Char}
    (member : fragment ∈ fragments (trimBody body)) : Enclosed fragment body := by
  rcases List.mem_map.mp (List.mem_filter.mp member).1 with ⟨piece, inPieces, rfl⟩
  exact (enclosed_trim piece).trans
    (((pieces_split _).enclosed inPieces).trans (enclosed_trimBody body))

theorem exists_of_shortestBody? {terminates : List Char → Bool} {text body : List Char}
    (found : shortestBody? terminates text = some body) :
    ∃ after, text = body ++ after ∧ terminates after = true := by
  induction text generalizing body with
  | nil => cases found
  | cons c rest ih =>
      rw [shortestBody?] at found
      split at found
      · next ended =>
        cases found
        exact ⟨rest, rfl, ended⟩
      · rcases Option.map_eq_some_iff.mp found with ⟨later, foundLater, rfl⟩
        rcases ih foundLater with ⟨after, rfl, ended⟩
        exact ⟨after, rfl, ended⟩

theorem exists_of_mem_afterBlanks {text after : List Char} (member : after ∈ afterBlanks text) :
    ∃ front, text = front ++ after := by
  induction text with
  | nil => cases member
  | cons c rest ih =>
      rw [afterBlanks] at member
      split at member
      · rcases List.mem_append.mp member with later | here
        · rcases ih later with ⟨front, rfl⟩
          exact ⟨c :: front, rfl⟩
        · obtain rfl := List.mem_singleton.mp here
          exact ⟨[c], rfl⟩
      · cases member

/-- The body of a filter stands behind its keyword. -/
theorem enclosed_of_bodyAfterBlanks? {text body : List Char}
    (found : bodyAfterBlanks? endsFilter text = some body) : Enclosed body text := by
  rcases List.exists_of_findSome?_eq_some found with ⟨behind, member, isBody⟩
  rcases exists_of_mem_afterBlanks member with ⟨front, rfl⟩
  rcases exists_of_shortestBody? isBody with ⟨after, rfl, ended⟩
  exact ⟨front, after, rfl, closes_of_endsFilter ended⟩

theorem enclosed_of_filter? {sql body : List Char} (found : filter? sql = some body) :
    Enclosed body sql := by
  rcases List.exists_of_findSome?_eq_some found with ⟨behind, member, isBody⟩
  rcases (mem_afterKeyword_iff (by decide)).mp member with ⟨before, word, rfl, -, -⟩
  rcases enclosed_of_bodyAfterBlanks? isBody with ⟨front, after, rfl, closed⟩
  exact ⟨before ++ word ++ front, after, by simp only [List.append_assoc], closed⟩

/-- Whether too many digits stand here, and a fragment may end behind them. -/
def overlongHere (text : List Char) : Bool :=
  decide (maxWholeDigits < (text.takeWhile isDigit).length) && closes (text.dropWhile isDigit)

/-- No digit goes on where a fragment may end. -/
theorem not_isDigit_of_closes {after : List Char} (closed : closes after = true) :
    ∀ c ∈ after.head?, Text.isDigit c = false := by
  intro c first
  by_contra digit
  rw [Bool.not_eq_false] at digit
  have noSemicolon : Text.isDigit ';' = false := by decide
  rw [closes, first, Bool.and_eq_true] at closed
  have either : isBlank c = true ∨ c = ';' := by simpa using closed.1
  rcases either with blank | rfl
  · rw [isBlank_of_isDigit digit] at blank
    cases blank
  · rw [noSemicolon] at digit
    cases digit

/-- Where no such digits stand, no fragment compares with an overlong number. -/
theorem not_overlongFragment {text fragment : List Char} (absent : Absent overlongHere text [])
    (enclosed : Enclosed fragment text) : ¬OverlongFragment fragment := by
  rintro ⟨op, place, -, sign, digits, right, -, tooMany, all⟩
  have nonempty : digits ≠ [] := by
    rintro rfl
    cases tooMany
  have inRight : Enclosed digits (fragment.drop (place + op.symbol.length)) :=
    Enclosed.trans ⟨sign, [], by rw [right, List.append_nil], rfl⟩ (enclosed_trim _)
  have inFragment : Enclosed digits fragment := by
    rcases inRight with ⟨before, after, split, closed⟩
    refine ⟨fragment.take (place + op.symbol.length) ++ before, after, ?_, closed⟩
    rw [List.append_assoc, ← split, List.take_append_drop]
  rcases inFragment.trans enclosed with ⟨before, after, rfl, closed⟩
  have ends : after.takeWhile isDigit = [] ∧ after.dropWhile isDigit = after := by
    have stops := not_isDigit_of_closes closed
    rcases after with _ | ⟨c, after⟩
    · exact ⟨rfl, rfl⟩
    · have other := stops c rfl
      exact ⟨List.takeWhile_cons_of_neg (by simp [other]),
        List.dropWhile_cons_of_neg (by simp [other])⟩
  have here := absent before (digits ++ after) rfl (by simp [nonempty])
  rw [List.append_nil, overlongHere, List.takeWhile_append_of_pos all,
    List.dropWhile_append_of_pos all, ends.1, ends.2, List.append_nil, closed] at here
  simp [tooMany] at here

end SqlPipeline
