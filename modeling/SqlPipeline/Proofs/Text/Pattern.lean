import Mathlib.Tactic.Common
import SqlPipeline.Proofs.Text.Keyword
import SqlPipeline.Sql.Literal

/-!
# Patterns of keywords and blanks

A pattern is a row of keywords in any letter case and runs of blanks. What a pattern stands for
cannot contain an apostrophe, so doubling the apostrophes of a text makes no new occurrence of a
pattern (`begins_of_begins_literal`). A test that only holds where a pattern begins is therefore
`Absent` from a text literal when the pattern does not occur in the text (`absent_literal`).

`Absent test text after` says that a test fails at every place of a text with something behind it.
It is what the readers of clauses step over: `findSome?_afterKeyword_append` says so for keywords.
A keyword is not read either where no blanks follow it; `Unread` says that this is so in a whole
text.
-/

namespace SqlPipeline.Text

/-- A piece of a pattern: a run of blanks, or a keyword, which is written in capitals. -/
inductive Piece where
  | blanks
  | keyword (capitals : List Char)

/-- Whether a piece stands for a text. -/
def Piece.Matches : Piece → List Char → Prop
  | .blanks, text => text ≠ [] ∧ ∀ c ∈ text, isBlank c = true
  | .keyword capitals, text => Spells capitals text

/-- Whether a row of pieces stands for a text. -/
def Matches : List Piece → List Char → Prop
  | [], text => text = []
  | piece :: pieces, text =>
    ∃ front back, text = front ++ back ∧ piece.Matches front ∧ Matches pieces back

/-- Whether a text begins with what a pattern stands for. -/
def Begins (pattern : List Piece) (text : List Char) : Prop :=
  ∃ found after, text = found ++ after ∧ Matches pattern found

/-- Whether what a pattern stands for occurs in a text. -/
def Occurs (pattern : List Piece) (text : List Char) : Prop :=
  ∃ before found after, text = before ++ found ++ after ∧ Matches pattern found

variable {pattern : List Piece} {text rest : List Char}

theorem Begins.occurs (begins : Begins pattern text) : Occurs pattern text := by
  rcases begins with ⟨found, after, rfl, isMatch⟩
  exact ⟨[], found, after, by simp, isMatch⟩

theorem Occurs.cons (c : Char) (occurs : Occurs pattern text) : Occurs pattern (c :: text) := by
  rcases occurs with ⟨before, found, after, rfl, isMatch⟩
  exact ⟨c :: before, found, after, by simp, isMatch⟩

theorem begins_nil (text : List Char) : Begins [] text :=
  ⟨[], text, rfl, rfl⟩

theorem Begins.keyword {capitals : List Char} (found : keyword? capitals text = some rest)
    (begins : Begins pattern rest) : Begins (.keyword capitals :: pattern) text := by
  rcases keyword?_eq_some_iff.mp found with ⟨word, spells, rfl⟩
  rcases begins with ⟨others, after, rfl, isMatch⟩
  exact ⟨word ++ others, after, by simp, word, others, rfl, spells, isMatch⟩

/-- What is skipped is a run of blanks, and no blank follows it. -/
theorem exists_of_skipBlanks? (found : skipBlanks? text = some rest) :
    ∃ blanks, text = blanks ++ rest ∧ Piece.blanks.Matches blanks := by
  rcases text with _ | ⟨c, others⟩
  · cases found
  · rw [skipBlanks?] at found
    split at found
    · next blank =>
      cases found
      refine ⟨c :: others.takeWhile isBlank, ?_, by simp, ?_⟩
      · simp [trimLeft, List.takeWhile_append_dropWhile]
      · intro other member
        rcases List.mem_cons.mp member with rfl | later
        · exact blank
        · exact List.all_eq_true.mp List.all_takeWhile other later
    · cases found

/-- A run of blanks is skipped as a whole. -/
theorem skipBlanks?_append {blanks : List Char} {c : Char} (isRun : Piece.blanks.Matches blanks)
    (solid : isBlank c = false) : skipBlanks? (blanks ++ c :: rest) = some (c :: rest) := by
  rcases isRun with ⟨nonempty, all⟩
  rcases blanks with _ | ⟨d, blanks⟩
  · exact absurd rfl nonempty
  · rw [List.cons_append, skipBlanks?, if_pos (all d List.mem_cons_self), trimLeft,
      List.dropWhile_append_of_pos fun other member => all other (List.mem_cons_of_mem _ member),
      List.dropWhile_cons_of_neg (by simp [solid])]

theorem Begins.blanks (found : skipBlanks? text = some rest) (begins : Begins pattern rest) :
    Begins (.blanks :: pattern) text := by
  rcases exists_of_skipBlanks? found with ⟨blanks, rfl, isRun⟩
  rcases begins with ⟨others, after, rfl, isMatch⟩
  exact ⟨blanks ++ others, after, by simp, blanks, others, rfl, isRun, isMatch⟩

/-- A pattern whose keywords are written in capitals and of which something is left. -/
structure WellFormed (pattern : List Piece) : Prop where
  capital : ∀ capitals, Piece.keyword capitals ∈ pattern → Capital capitals
  nonempty : ¬Matches pattern []

/-- A sign that is no letter stands in no word for a keyword. -/
theorem not_mem_of_spells {c : Char} (ascii : c.toNat < 128) (notLetter : c.toUpper.isUpper = false)
    {capitals word : List Char} (capital : Capital capitals) (spells : Spells capitals word) :
    c ∉ word := by
  induction spells with
  | nil => simp
  | @cons first d capitals word letter _ ih =>
      intro member
      rcases List.mem_cons.mp member with rfl | later
      · have isUpper := capital first List.mem_cons_self
        rw [← (isLetter_iff_of_ascii ascii).mp letter, notLetter] at isUpper
        cases isUpper
      · exact ih (fun other member => capital other (List.mem_cons_of_mem _ member)) later

theorem apostrophe_not_mem_of_matches {found : List Char}
    (capital : ∀ capitals, Piece.keyword capitals ∈ pattern → Capital capitals)
    (isMatch : Matches pattern found) : '\'' ∉ found := by
  induction pattern generalizing found with
  | nil =>
      obtain rfl : found = [] := isMatch
      exact List.not_mem_nil
  | cons piece pieces ih =>
      rcases isMatch with ⟨front, back, rfl, first, others⟩
      have behind := ih (fun capitals member => capital capitals (List.mem_cons_of_mem _ member))
        others
      rw [List.mem_append, not_or]
      refine ⟨?_, behind⟩
      cases piece with
      | blanks =>
          intro member
          exact absurd (first.2 _ member) (by decide)
      | keyword capitals =>
          exact not_mem_of_spells (by decide) (by decide) (capital capitals List.mem_cons_self) first

theorem exists_letter_of_spells {capitals word : List Char} {capital : Char}
    (inKeyword : capital ∈ capitals) (spells : Spells capitals word) :
    ∃ c ∈ word, isLetter capital c = true := by
  induction spells with
  | nil => cases inKeyword
  | @cons first d capitals word letter _ ih =>
      rcases List.mem_cons.mp inKeyword with rfl | later
      · exact ⟨d, List.mem_cons_self, letter⟩
      · rcases ih later with ⟨c, member, isLetter⟩
        exact ⟨c, List.mem_cons_of_mem _ member, isLetter⟩

theorem exists_letter_of_matches {found capitals : List Char} {capital : Char}
    (inPattern : .keyword capitals ∈ pattern) (inKeyword : capital ∈ capitals)
    (isMatch : Matches pattern found) : ∃ c ∈ found, isLetter capital c = true := by
  induction pattern generalizing found with
  | nil => cases inPattern
  | cons piece pieces ih =>
      rcases isMatch with ⟨front, back, rfl, first, others⟩
      rcases List.mem_cons.mp inPattern with rfl | later
      · rcases exists_letter_of_spells inKeyword first with ⟨c, member, letter⟩
        exact ⟨c, List.mem_append_left _ member, letter⟩
      · rcases ih later others with ⟨c, member, letter⟩
        exact ⟨c, List.mem_append_right _ member, letter⟩

/-- Where a letter of a keyword is missing, no pattern with the keyword occurs. -/
theorem not_occurs_of_missing {capitals : List Char} (capital : Char)
    (inPattern : .keyword capitals ∈ pattern) (inKeyword : capital ∈ capitals)
    (missing : ∀ c ∈ text, isLetter capital c = false) : ¬Occurs pattern text := by
  rintro ⟨before, found, after, rfl, isMatch⟩
  rcases exists_letter_of_matches inPattern inKeyword isMatch with ⟨c, member, letter⟩
  rw [missing c (by simp [member])] at letter
  cases letter

/-- What a text literal begins with, up to an apostrophe, the text begins with. -/
theorem exists_append_of_literal {found rest after : List Char} (noApostrophe : '\'' ∉ found)
    (same : doubleApostrophes text ++ '\'' :: after = found ++ rest) :
    ∃ others, text = found ++ others := by
  induction found generalizing text with
  | nil => exact ⟨text, rfl⟩
  | cons c found ih =>
      rw [List.mem_cons, not_or] at noApostrophe
      rcases text with _ | ⟨d, text⟩
      · rw [List.cons_append] at same
        exact absurd (List.cons.inj same).1 noApostrophe.1
      · by_cases apostrophe : d = '\''
        · subst d
          exact absurd (List.cons.inj same).1 noApostrophe.1
        · have step : doubleApostrophes (d :: text) = d :: doubleApostrophes text := by
            simp [doubleApostrophes, apostrophe]
          rw [step, List.cons_append, List.cons_append] at same
          rcases List.cons.inj same with ⟨rfl, tails⟩
          rcases ih noApostrophe.2 tails with ⟨others, rfl⟩
          exact ⟨others, rfl⟩

theorem begins_of_begins_literal {after : List Char}
    (capital : ∀ capitals, Piece.keyword capitals ∈ pattern → Capital capitals)
    (begins : Begins pattern (doubleApostrophes text ++ '\'' :: after)) : Begins pattern text := by
  rcases begins with ⟨found, rest, same, isMatch⟩
  have noApostrophe := apostrophe_not_mem_of_matches capital isMatch
  rcases exists_append_of_literal noApostrophe same with ⟨others, rfl⟩
  exact ⟨found, others, rfl, isMatch⟩

/-- Whether a test fails at every place of a text that something follows. -/
def Absent (test : List Char → Bool) (text after : List Char) : Prop :=
  ∀ before rest, text = before ++ rest → rest ≠ [] → test (rest ++ after) = false

variable {test : List Char → Bool} {after : List Char}

theorem absent_nil : Absent test [] after := by
  intro before rest split nonempty
  exact absurd (List.append_eq_nil_iff.mp split.symm).2 nonempty

theorem absent_cons_iff {c : Char} :
    Absent test (c :: text) after ↔ test (c :: text ++ after) = false ∧ Absent test text after := by
  constructor
  · intro absent
    refine ⟨absent [] (c :: text) rfl (by simp), ?_⟩
    rintro before rest rfl nonempty
    exact absent (c :: before) rest rfl nonempty
  · rintro ⟨here, later⟩ before rest split nonempty
    rcases before with _ | ⟨d, before⟩
    · rw [List.nil_append] at split
      rw [← split]
      exact here
    · rw [List.cons_append] at split
      exact later before rest (List.cons.inj split).2 nonempty

instance decidableAbsent (test : List Char → Bool) (after : List Char) :
    (text : List Char) → Decidable (Absent test text after)
  | [] => isTrue absent_nil
  | c :: text =>
    have := decidableAbsent test after text
    decidable_of_iff (test (c :: text ++ after) = false ∧ Absent test text after)
      absent_cons_iff.symm

theorem absent_append_iff {front back : List Char} :
    Absent test (front ++ back) after ↔
      Absent test front (back ++ after) ∧ Absent test back after := by
  induction front with
  | nil => simp [absent_nil]
  | cons c front ih =>
      rw [List.cons_append, absent_cons_iff, absent_cons_iff, ih]
      simp [and_assoc]

/-- A test that fails in front of each character of a text. -/
theorem absent_of_forall (fails : ∀ c ∈ text, ∀ rest, test (c :: rest) = false) :
    Absent test text after := by
  rintro before rest rfl nonempty
  rcases rest with _ | ⟨c, rest⟩
  · exact absurd rfl nonempty
  · exact fails c (by simp) (rest ++ after)

/-- A test that only holds where one of some patterns begins. -/
def Detects (test : List Char → Bool) (patterns : List (List Piece)) : Prop :=
  ∀ text, test text = true → ∃ pattern ∈ patterns, Begins pattern text

/-- What does not occur in a text is absent from its literal. -/
theorem absent_literal {patterns : List (List Piece)} (detects : Detects test patterns)
    (wellFormed : ∀ pattern ∈ patterns, WellFormed pattern)
    (notThere : ∀ pattern ∈ patterns, ¬Occurs pattern text) (after : List Char) :
    Absent test ('\'' :: (doubleApostrophes text ++ ['\''])) after := by
  have atApostrophe : ∀ rest, test ('\'' :: rest) = false := by
    intro rest
    by_contra holds
    rw [Bool.not_eq_false] at holds
    rcases detects _ holds with ⟨pattern, known, found, others, same, isMatch⟩
    rcases found with _ | ⟨c, found⟩
    · exact (wellFormed pattern known).nonempty isMatch
    · obtain rfl : '\'' = c := (List.cons.inj same).1
      exact apostrophe_not_mem_of_matches (wellFormed pattern known).capital isMatch
        List.mem_cons_self
  rw [absent_cons_iff, absent_append_iff]
  refine ⟨atApostrophe _, ?_, absent_of_forall ?_⟩
  · rw [List.singleton_append]
    induction text with
    | nil => exact absent_nil
    | cons c text ih =>
        have later := ih fun pattern known occurs => notThere pattern known (occurs.cons c)
        by_cases apostrophe : c = '\''
        · subst c
          rw [show doubleApostrophes ('\'' :: text) = '\'' :: '\'' :: doubleApostrophes text from rfl,
            absent_cons_iff, absent_cons_iff]
          exact ⟨atApostrophe _, atApostrophe _, later⟩
        · have step : doubleApostrophes (c :: text) = c :: doubleApostrophes text := by
            simp [doubleApostrophes, apostrophe]
          rw [step, absent_cons_iff]
          refine ⟨?_, later⟩
          by_contra holds
          rw [Bool.not_eq_false, ← step] at holds
          rcases detects _ holds with ⟨pattern, known, begins⟩
          have inText := begins_of_begins_literal (wellFormed pattern known).capital begins
          exact notThere pattern known inText.occurs
  · intro c member
    obtain rfl := List.mem_singleton.mp member
    exact atApostrophe

variable {α : Type} {capitals : List Char} {read : List Char → Option α}

/-- Whether the character before what follows a text belongs to a word. -/
def insideAfter (inside : Bool) (text : List Char) : Bool :=
  (text.getLast?.map isWord).getD inside

theorem insideAfter_cons (inside : Bool) (c : Char) (text : List Char) :
    insideAfter inside (c :: text) = insideAfter (isWord c) text := by
  rcases last : text.getLast? with _ | d
  · simp [insideAfter, List.getLast?_cons, last]
  · simp [insideAfter, List.getLast?_cons, last]

theorem insideAfter_append (inside : Bool) (front back : List Char) :
    insideAfter inside (front ++ back) = insideAfter (insideAfter inside front) back := by
  induction front generalizing inside with
  | nil => rfl
  | cons c front ih => rw [List.cons_append, insideAfter_cons, insideAfter_cons, ih]

theorem afterKeyword_cons (inside : Bool) (c : Char) (rest : List Char) :
    afterKeyword capitals inside (c :: rest) =
      (if inside then [] else (keyword? capitals (c :: rest)).toList) ++
        afterKeyword capitals (isWord c) rest := by
  rcases found : keyword? capitals (c :: rest) with _ | after
  · cases inside <;> simp [afterKeyword, found]
  · cases inside <;> simp [afterKeyword, found]

/-- What follows a keyword stands behind a word for it that begins where no word goes on. -/
theorem mem_afterKeyword_iff {inside : Bool} (nonempty : capitals ≠ []) :
    after ∈ afterKeyword capitals inside text ↔ ∃ before word,
      text = before ++ word ++ after ∧ insideAfter inside before = false ∧ Spells capitals word := by
  induction text generalizing inside with
  | nil =>
      constructor
      · intro member
        cases member
      · rintro ⟨before, word, split, -, spells⟩
        have parts := List.append_eq_nil_iff.mp split.symm
        obtain rfl : word = [] := (List.append_eq_nil_iff.mp parts.1).2
        cases spells
        exact absurd rfl nonempty
  | cons c text ih =>
      rw [afterKeyword_cons, List.mem_append, ih]
      constructor
      · rintro (here | ⟨before, word, rfl, outside, spells⟩)
        · cases inside with
          | true => cases here
          | false =>
              rcases keyword?_eq_some_iff.mp (Option.mem_toList.mp here) with ⟨word, spells, split⟩
              exact ⟨[], word, split, rfl, spells⟩
        · exact ⟨c :: before, word, rfl, by rwa [insideAfter_cons], spells⟩
      · rintro ⟨before, word, split, outside, spells⟩
        rcases before with _ | ⟨d, before⟩
        · obtain rfl : inside = false := outside
          exact Or.inl (Option.mem_toList.mpr (keyword?_eq_some_iff.mpr ⟨word, spells, split⟩))
        · rw [List.cons_append, List.cons_append, List.cons.injEq] at split
          obtain ⟨rfl, split⟩ := split
          exact Or.inr ⟨before, word, split, by rwa [insideAfter_cons] at outside, spells⟩

/-- Occurrences of a keyword behind which nothing can be read are stepped over. -/
theorem findSome?_afterKeyword_append {inside : Bool}
    (nothing : ∀ before rest, text = before ++ rest → rest ≠ [] →
      insideAfter inside before = false → (keyword? capitals (rest ++ after)).bind read = none) :
    (afterKeyword capitals inside (text ++ after)).findSome? read =
      (afterKeyword capitals (insideAfter inside text) after).findSome? read := by
  induction text generalizing inside with
  | nil => rfl
  | cons c text ih =>
      have later := @ih (isWord c) fun before rest split nonempty outside =>
        nothing (c :: before) rest (by rw [split, List.cons_append]) nonempty
          (by rw [insideAfter_cons, outside])
      rw [insideAfter_cons, ← later, List.cons_append, afterKeyword_cons]
      cases inside with
      | true => rfl
      | false =>
          have here := nothing [] (c :: text) rfl (by simp) rfl
          rw [List.cons_append] at here
          rcases found : keyword? capitals (c :: (text ++ after)) with _ | rest
          · rfl
          · rw [found, Option.bind_some] at here
            simp [here]

theorem findSome?_afterKeyword_of_absent (inside : Bool)
    (absent : Absent (fun text => ((keyword? capitals text).bind read).isSome) text after) :
    (afterKeyword capitals inside (text ++ after)).findSome? read =
      (afterKeyword capitals (insideAfter inside text) after).findSome? read := by
  refine findSome?_afterKeyword_append fun before rest split nonempty _ => ?_
  simpa using absent before rest split nonempty

/-- Where no letter stands in front, it does not matter whether a word goes on. -/
theorem afterKeyword_of_endsWord {capital : Char} {capitals : List Char}
    (isUpper : capital.isUpper = true) (ends : EndsWord text) (inside : Bool) :
    afterKeyword (capital :: capitals) inside text = afterKeyword (capital :: capitals) false text := by
  rcases text with _ | ⟨c, rest⟩
  · rfl
  · have notHere : keyword? (capital :: capitals) (c :: rest) = none := by
      rw [keyword?, if_neg (by simp [ends c rfl capital isUpper])]
    rw [afterKeyword_cons, afterKeyword_cons, notHere]
    cases inside <;> rfl

/-- Whether no keyword at the beginning of a word of a text has blanks behind it, when something
follows the text. -/
def Unread (capitals text after : List Char) : Prop :=
  ∀ before rest tail, text = before ++ rest → rest ≠ [] → insideAfter false before = false →
    keyword? capitals (rest ++ after) = some tail → skipBlanks? tail = none

theorem unread_nil : Unread capitals [] after := by
  intro before rest tail split nonempty
  exact absurd (List.append_eq_nil_iff.mp split.symm).2 nonempty

theorem insideAfter_false {inside : Bool} (outside : insideAfter inside text = false) :
    insideAfter false text = false := by
  rcases last : text.getLast? with _ | c
  · simp [insideAfter, last]
  · simpa [insideAfter, last] using outside

theorem unread_append {front back : List Char} (unread : Unread capitals front (back ++ after))
    (unreadBack : Unread capitals back after) : Unread capitals (front ++ back) after := by
  intro before rest tail split nonempty outside found
  rcases List.append_eq_append_iff.mp split with ⟨middle, rfl, rfl⟩ | ⟨middle, rfl, rfl⟩
  · rw [insideAfter_append] at outside
    exact unreadBack middle rest tail rfl nonempty (insideAfter_false outside) found
  · rcases middle with _ | ⟨c, middle⟩
    · exact unreadBack [] back tail rfl nonempty rfl found
    · rw [List.append_assoc] at found
      exact unread before (c :: middle) tail rfl (by simp) outside found

/-- A keyword does not begin where its first letter is missing. -/
theorem unread_of_forall {capital : Char} {capitals : List Char}
    (missing : ∀ c ∈ text, isLetter capital c = false) : Unread (capital :: capitals) text after := by
  rintro before rest tail rfl nonempty - found
  rcases rest with _ | ⟨c, rest⟩
  · exact absurd rfl nonempty
  · rw [List.cons_append, keyword?, if_neg (by simp [missing c (by simp)])] at found
    cases found

/-- A word without blanks that does not end in the keyword. -/
theorem unread_word (capital : Capital capitals) (solid : Solid text) (ends : EndsWord after)
    (notKeyword : ∀ before rest, text = before ++ rest → rest ≠ [] →
      insideAfter false before = false → Spells capitals rest → skipBlanks? after = none) :
    Unread capitals text after := by
  intro before rest tail split nonempty outside found
  rcases keyword?_append_word capital ends found with ⟨front, back, spells, rfl, rfl⟩
  rcases back with _ | ⟨c, back⟩
  · rw [List.append_nil] at split nonempty
    exact notKeyword before front split nonempty outside spells
  · rw [List.cons_append, skipBlanks?, if_neg (by simp [solid c (by simp [split])])]

theorem findSome?_afterKeyword_of_unread (inside : Bool)
    (needsBlank : ∀ tail, skipBlanks? tail = none → read tail = none)
    (unread : Unread capitals text after) :
    (afterKeyword capitals inside (text ++ after)).findSome? read =
      (afterKeyword capitals (insideAfter inside text) after).findSome? read := by
  refine findSome?_afterKeyword_append fun before rest split nonempty outside => ?_
  rcases found : keyword? capitals (rest ++ after) with _ | tail
  · rfl
  · exact needsBlank tail
      (unread before rest tail split nonempty (insideAfter_false outside) found)

end SqlPipeline.Text
