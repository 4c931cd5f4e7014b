import Mathlib.Data.List.Induction
import Mathlib.Tactic.Common
import SqlPipeline.Sql.Reading

/-!
# Reading numbers

A text of digits with an optional sign is a whole number, whatever script the digits are from.
Reading a number fails only for such a text, and only when it has too many digits
(`ofNumber_eq_error_iff`); every other text is a number of some kind or none at all. A whole number
that is written in decimal is read back (`ofNumber_toString`), and whatever is read is short enough
to be written (`length_of_ofNumber`).
-/

namespace SqlPipeline

namespace Decimal

variable {digit? : Char → Option Nat}

theorem digitRun_cons_of_digit {c : Char} {digit : Nat} (isDigit : digit? c = some digit)
    (rest : List Char) :
    digitRun digit? (c :: rest) = (digit :: (digitRun digit? rest).1, (digitRun digit? rest).2) := by
  rw [digitRun, isDigit]

theorem digitRun_cons_of_none {c : Char} (other : digit? c = none) (rest : List Char) :
    digitRun digit? (c :: rest) = ([], c :: rest) := by
  rw [digitRun, other]

theorem length_digitRun (digit? : Char → Option Nat) (text : List Char) :
    (digitRun digit? text).1.length + (digitRun digit? text).2.length = text.length := by
  induction text with
  | nil => rfl
  | cons c rest ih =>
      rcases read : digit? c with _ | digit
      · simp [digitRun_cons_of_none read]
      · rw [digitRun_cons_of_digit read]
        simp only [List.length_cons]
        omega

theorem digitRun_snd_eq_nil_iff {text : List Char} :
    (digitRun digit? text).2 = [] ↔ ∀ c ∈ text, (digit? c).isSome = true := by
  induction text with
  | nil => simp [digitRun]
  | cons c rest ih =>
      rcases read : digit? c with _ | digit
      · simp [digitRun_cons_of_none read, read]
      · simp [digitRun_cons_of_digit read, read, ih]

theorem length_digitRun_of_all {text : List Char} (all : ∀ c ∈ text, (digit? c).isSome = true) :
    (digitRun digit? text).1.length = text.length := by
  have lengths := length_digitRun digit? text
  rw [digitRun_snd_eq_nil_iff.mpr all] at lengths
  simpa using lengths

theorem digitRun_fst_ne_nil {text : List Char} (nonempty : text ≠ [])
    (all : ∀ c ∈ text, (digit? c).isSome = true) : (digitRun digit? text).1 ≠ [] := by
  intro empty
  have lengths := length_digitRun_of_all all
  rw [empty] at lengths
  exact nonempty (List.length_eq_zero_iff.mp lengths.symm)

theorem exists_of_mem_digitRun {text : List Char} {digit : Nat}
    (member : digit ∈ (digitRun digit? text).1) : ∃ c, digit? c = some digit := by
  induction text with
  | nil => cases member
  | cons c rest ih =>
      rcases read : digit? c with _ | first
      · rw [digitRun_cons_of_none read] at member
        cases member
      · rw [digitRun_cons_of_digit read] at member
        rcases List.mem_cons.mp member with rfl | later
        · exact ⟨c, read⟩
        · exact ih later

/-- A row of digits spells a number below the power of the base for its length. -/
theorem ofDigits_lt {base : Nat} {digits : List Nat} (below : ∀ digit ∈ digits, digit < base) :
    ofDigits base digits < Nat.pow base digits.length := by
  induction digits using List.reverseRecOn with
  | nil => exact Nat.one_pos
  | append_singleton digits last ih =>
      have isLast : last < base := below last (by simp)
      have front := ih fun digit member => below digit (List.mem_append_left _ member)
      have shifted : (ofDigits base digits + 1) * base ≤ Nat.pow base digits.length * base :=
        Nat.mul_le_mul_right base front
      rw [Nat.add_mul, Nat.one_mul] at shifted
      rw [List.length_append, List.length_singleton, ofDigits, List.foldl_append]
      change ofDigits base digits * base + last < Nat.pow base digits.length * base
      omega

theorem natAbs_withSign (negative : Bool) (magnitude : Nat) :
    (withSign negative magnitude).natAbs = magnitude := by
  cases negative <;> simp [withSign]

theorem exponent?_eq_some_none_iff {text : List Char} :
    exponent? digit? text = some none ↔ text = [] := by
  rcases text with _ | ⟨letter, rest⟩
  · simp [exponent?]
  · rw [exponent?]
    split
    · split <;> simp
    · simp

namespace Spelled

/-- Digits alone spell a whole number. -/
theorem readUnsigned?_of_all {text : List Char} (negative : Bool) (nonempty : text ≠ [])
    (all : ∀ c ∈ text, (digit? c).isSome = true) :
    readUnsigned? digit? negative text = some ⟨negative, (digitRun digit? text).1, none, none⟩ := by
  have rest := digitRun_snd_eq_nil_iff.mpr all
  have digits : ((digitRun digit? text).1).isEmpty = false := by
    simpa using digitRun_fst_ne_nil nonempty all
  rw [readUnsigned?, show digitRun digit? text = ((digitRun digit? text).1, []) by rw [← rest]]
  simp [digits, exponent?]

/-- What spells a whole number is digits alone. -/
theorem all_of_readUnsigned? {text : List Char} {negative : Bool} {spelled : Spelled}
    (found : readUnsigned? digit? negative text = some spelled) (whole : spelled.isWhole = true) :
    (∀ c ∈ text, (digit? c).isSome = true) ∧ spelled.before = (digitRun digit? text).1 := by
  rw [← digitRun_snd_eq_nil_iff]
  rcases run : digitRun digit? text with ⟨before, rest⟩
  simp only [readUnsigned?, run] at found
  split at found
  · split at found
    · cases found
    · rcases Option.map_eq_some_iff.mp found with ⟨exponent, -, rfl⟩
      simp [isWhole] at whole
  · split at found
    · cases found
    · rcases Option.map_eq_some_iff.mp found with ⟨exponent, ending, rfl⟩
      have noExponent : exponent = none := by simpa [isWhole] using whole
      rw [noExponent, exponent?_eq_some_none_iff] at ending
      exact ⟨ending, rfl⟩

end Spelled

end Decimal

open Decimal

/-- A sign, or none. -/
def IsSign (sign : List Char) : Prop :=
  sign = [] ∨ sign = ['+'] ∨ sign = ['-']

/-- A whole number with more digits than are read. -/
def Overlong (text : List Char) : Prop :=
  ∃ sign digits, text = sign ++ digits ∧ IsSign sign ∧ maxWholeDigits < digits.length ∧
    ∀ c ∈ digits, Text.isDigit c = true

theorem signed_of_digits {sign digits : List Char} (isSign : IsSign sign)
    (all : ∀ c ∈ digits, Text.isDigit c = true) :
    signed (sign ++ digits) = (decide (sign = ['-']), digits) := by
  rcases isSign with rfl | rfl | rfl
  · rcases digits with _ | ⟨c, rest⟩
    · rfl
    · have digit := all c (by simp)
      rw [List.nil_append]
      unfold signed
      split
      · next same =>
        cases same
        exact absurd digit (by decide)
      · next same =>
        cases same
        exact absurd digit (by decide)
      · rfl
  · rfl
  · rfl

theorem exists_sign (text : List Char) :
    ∃ sign, IsSign sign ∧ text = sign ++ (signed text).2 := by
  unfold signed
  split
  · exact ⟨['+'], by simp [IsSign], rfl⟩
  · exact ⟨['-'], by simp [IsSign], rfl⟩
  · exact ⟨[], by simp [IsSign], rfl⟩

/-- Reading a number fails exactly for a whole number with too many digits. -/
theorem ofNumber_eq_error_iff {text : List Char} {error : RecoveryError} :
    Literal.ofNumber text = .error error ↔ error = .tooManyDigits ∧ Overlong text := by
  constructor
  · intro failed
    rcases found : Spelled.read? Text.digitValue? text with _ | spelled
    · simp [Literal.ofNumber, found] at failed
    · simp only [Literal.ofNumber, found] at failed
      split at failed
      · next whole =>
        split at failed
        · next tooMany =>
          cases failed
          rcases exists_sign text with ⟨sign, isSign, split⟩
          rcases Spelled.all_of_readUnsigned? found whole with ⟨all, before⟩
          rw [before, length_digitRun_of_all all] at tooMany
          exact ⟨rfl, sign, _, split, isSign, tooMany, all⟩
        · cases failed
      · split at failed <;> cases failed
  · rintro ⟨rfl, sign, digits, rfl, isSign, tooMany, all⟩
    have nonempty : digits ≠ [] := by
      rintro rfl
      simp at tooMany
    have found : Spelled.read? Text.digitValue? (sign ++ digits) =
        some ⟨decide (sign = ['-']), (digitRun Text.digitValue? digits).1, none, none⟩ := by
      rw [Spelled.read?, signed_of_digits isSign all]
      exact Spelled.readUnsigned?_of_all _ nonempty all
    rw [← length_digitRun_of_all all] at tooMany
    simp [Literal.ofNumber, found, Spelled.isWhole, tooMany]

theorem digitValue?_of_isDigit {c : Char} (digit : c.isDigit = true) :
    Text.digitValue? c = some (c.toNat - 48) := by
  have small : c.toNat < 128 := by
    simp only [Char.isDigit, Bool.and_eq_true, decide_eq_true_eq] at digit
    have upper : c.toNat ≤ 57 := digit.2
    omega
  rw [Text.digitValue?, if_pos small, if_pos digit]

theorem isDigit_of_ascii {c : Char} (digit : c.isDigit = true) : Text.isDigit c = true := by
  rw [Text.isDigit, digitValue?_of_isDigit digit]
  rfl

/-- The values of ASCII digits make up the number that they write. -/
theorem ofDigits_digitRun {digits : List Char} (all : ∀ c ∈ digits, c.isDigit = true) :
    ofDigits 10 (digitRun Text.digitValue? digits).1 = Nat.ofDigitChars 10 digits 0 := by
  rw [ofDigits, Nat.ofDigitChars_eq_foldl]
  generalize 0 = number
  induction digits generalizing number with
  | nil => rfl
  | cons c rest ih =>
      have head := digitValue?_of_isDigit (all c (by simp))
      rw [digitRun_cons_of_digit head, List.foldl_cons, List.foldl_cons,
        ih fun other member => all other (List.mem_cons_of_mem _ member)]
      rw [Nat.mul_comm]
      rfl

/-- The written form of a whole number. -/
theorem toList_toString (n : Int) :
    (toString n).toList = (if n < 0 then ['-'] else []) ++ Nat.toDigits 10 n.natAbs := by
  rw [Int.toString_eq_repr, Int.repr_eq_if]
  by_cases negative : n < 0
  · rw [if_neg (by omega), if_pos negative, String.toList_append, Nat.toList_repr,
      show (-n).toNat = n.natAbs by omega]
    rfl
  · rw [if_pos (by omega), if_neg negative, Nat.toList_repr, show n.toNat = n.natAbs by omega,
      List.nil_append]

/-- A whole number that is not too long is read back as it was written. -/
theorem ofNumber_toString {n : Int} (few : (Nat.toDigits 10 n.natAbs).length ≤ maxWholeDigits) :
    Literal.ofNumber (toString n).toList = .ok (some (.int n)) := by
  have ascii : ∀ c ∈ Nat.toDigits 10 n.natAbs, c.isDigit = true := fun c member =>
    Nat.isDigit_of_mem_toDigits (by decide) (by decide) member
  have all : ∀ c ∈ Nat.toDigits 10 n.natAbs, Text.isDigit c = true := fun c member =>
    isDigit_of_ascii (ascii c member)
  have isSign : IsSign (if n < 0 then ['-'] else []) := by
    split <;> simp [IsSign]
  have found : Spelled.read? Text.digitValue? (toString n).toList = some ⟨decide (n < 0),
      (digitRun Text.digitValue? (Nat.toDigits 10 n.natAbs)).1, none, none⟩ := by
    rw [toList_toString, Spelled.read?, signed_of_digits isSign all]
    have negative : decide ((if n < 0 then ['-'] else []) = ['-']) = decide (n < 0) := by
      split <;> simp_all
    rw [negative]
    exact Spelled.readUnsigned?_of_all _ Nat.toDigits_ne_nil all
  have length := length_digitRun_of_all all
  have value : withSign (decide (n < 0)) n.natAbs = n := by
    rw [withSign]
    by_cases negative : n < 0
    · rw [if_pos (by simpa using negative)]
      omega
    · rw [if_neg (by simpa using negative)]
      omega
  have fits : ¬maxWholeDigits < (digitRun Text.digitValue? (Nat.toDigits 10 n.natAbs)).1.length := by
    rw [show (digitRun Text.digitValue? (Nat.toDigits 10 n.natAbs)).1.length = _ from length]
    omega
  simp only [Literal.ofNumber, found]
  rw [if_pos (by rfl), if_neg fits, Spelled.wholePart, ofDigits_digitRun ascii,
    Nat.ofDigitChars_ten_toDigits, value]

theorem digitValue?_lt {c : Char} {digit : Nat} (found : Text.digitValue? c = some digit) :
    digit < 10 := by
  unfold Text.digitValue? at found
  split at found
  · split at found
    · next isDigit =>
      cases found
      have upper : c.toNat ≤ 57 := by
        simp only [Char.isDigit, Bool.and_eq_true, decide_eq_true_eq] at isDigit
        exact isDigit.2
      omega
    · cases found
  · rcases Option.map_eq_some_iff.mp found with ⟨nought, isNought, rfl⟩
    have inRange := List.find?_some isNought
    simp only [Bool.and_eq_true, decide_eq_true_eq] at inRange
    omega

/-- A whole number that is read is short enough to be written. -/
theorem length_of_ofNumber {text : List Char} {n : Int}
    (read : Literal.ofNumber text = .ok (some (.int n))) :
    (Nat.toDigits 10 n.natAbs).length ≤ maxWholeDigits := by
  unfold Literal.ofNumber at read
  split at read
  · cases read
  · next spelled found =>
    split at read
    · next whole =>
      split at read
      · cases read
      · next few =>
        cases read
        have before := (Spelled.all_of_readUnsigned? found whole).2
        have below : ∀ digit ∈ spelled.before, digit < 10 := by
          intro digit member
          rw [before] at member
          rcases exists_of_mem_digitRun member with ⟨c, isDigit⟩
          exact digitValue?_lt isDigit
        rw [Nat.length_toDigits_le_iff (by decide) (by decide), Spelled.wholePart, natAbs_withSign]
        exact Nat.lt_of_lt_of_le (ofDigits_lt below)
          (Nat.pow_le_pow_right (by decide) (Nat.not_lt.mp few))
    · split at read <;> cases read

end SqlPipeline
