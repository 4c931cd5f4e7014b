import SqlPipeline.Text.Blank
import SqlPipeline.Text.Word

/-!
# Keywords in any letter case

Clauses are found by their keywords, whatever the letter case. Case is folded one character at a
time, so three letters beyond ASCII stand for an ASCII one: the long s, the dotless and the dotted
i. (A fourth, the Kelvin sign, stands for k.)
-/

namespace SqlPipeline.Text

/-- Whether a character is the given capital ASCII letter up to letter case. -/
def isLetter (capital : Char) (c : Char) : Bool :=
  c.toUpper == capital || (c == 'ſ' && capital == 'S') ||
    ((c == 'ı' || c == 'İ') && capital == 'I') || (c.toNat == 0x212A && capital == 'K')

/-- What follows a keyword, written in capitals, at the beginning of a text. -/
def keyword? : List Char → List Char → Option (List Char)
  | [], text => some text
  | _ :: _, [] => none
  | capital :: capitals, c :: rest =>
    if isLetter capital c then keyword? capitals rest else none

theorem length_of_keyword? {capitals text rest : List Char}
    (found : keyword? capitals text = some rest) : rest.length + capitals.length = text.length := by
  induction capitals generalizing text with
  | nil =>
    obtain rfl : text = rest := by simpa [keyword?] using found
    rfl
  | cons capital capitals ih =>
    cases text with
    | nil => simp [keyword?] at found
    | cons c others =>
      simp only [keyword?] at found
      split at found
      · have := ih found
        simp only [List.length_cons]
        omega
      · cases found

/-- What follows each occurrence of a keyword that starts a word, from left to right. The first
argument says whether the character before the text belongs to a word. -/
def afterKeyword (capitals : List Char) : Bool → List Char → List (List Char)
  | _, [] => []
  | insideWord, c :: rest =>
    let later := afterKeyword capitals (isWord c) rest
    match insideWord, keyword? capitals (c :: rest) with
    | false, some after => after :: later
    | _, _ => later

/-- Whether a word ends here: no word character follows. -/
def atWordEnd : List Char → Bool
  | [] => true
  | c :: _ => !isWord c

end SqlPipeline.Text
