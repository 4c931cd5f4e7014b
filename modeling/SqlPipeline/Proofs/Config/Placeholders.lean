import Mathlib.Data.Nat.Find
import SqlPipeline.Config.Placeholder
import SqlPipeline.Proofs.Text.Replacement

/-!
# Replacing placeholders

A placeholder begins with a dollar sign and holds no other, so none reaches beyond the next dollar
sign, and what stands in front of one can be replaced on its own (`substitute_append_dollar`).
Replacement is therefore one pass from left to right: each placeholder gives way to the value of its
variable, whatever stands around it and whatever the value looks like, and of the variables that are
not set the leftmost one is reported (`substitute_leftToRight`).
-/

namespace SqlPipeline

namespace Placeholder

open Text

/-- A name of a variable: one or more characters of names. -/
def IsName (name : List Char) : Prop :=
  name ≠ [] ∧ ∀ c ∈ name, isNameChar c = true

instance (name : List Char) : Decidable (IsName name) :=
  @instDecidableAnd _ _ _ (List.decidableBAll _ name)

/-- What stands before the name in a placeholder: the mark of the environment, or nothing. -/
def mark (marked : Bool) : List Char :=
  if marked then "env:".toList else []

/-- The placeholder for a variable. -/
def spelled (marked : Bool) (name : List Char) : List Char :=
  '$' :: '\x7b' :: (mark marked ++ name ++ ['\x7d'])

/-- Whether a placeholder for a variable stands in a text, behind a certain beginning. -/
def StandsBehind (front name text : List Char) : Prop :=
  IsName name ∧ ∃ marked back, text = front ++ spelled marked name ++ back

variable {valueOf : String → Option String} {text front name after back : List Char}

theorem IsName.not_mem (isName : IsName name) {c : Char} (other : isNameChar c = false) :
    c ∉ name := by
  intro member
  rw [isName.2 c member] at other
  cases other

/-- A placeholder holds no dollar sign but its first character. -/
theorem IsName.dollar_not_mem (isName : IsName name) (marked : Bool) :
    '$' ∉ '\x7b' :: (mark marked ++ name ++ ['\x7d']) := by
  have notInName : '$' ∉ name := isName.not_mem (by decide)
  cases marked <;> simp [mark, notInName]

theorem name?_eq_some_iff :
    name? text = some (name, after) ↔ IsName name ∧ text = name ++ '\x7d' :: after := by
  constructor
  · intro found
    simp only [name?] at found
    split at found
    · next first others rest taken left =>
      cases found
      have whole := List.takeWhile_append_dropWhile (p := isNameChar) (l := text)
      rw [taken, left] at whole
      refine ⟨⟨List.cons_ne_nil _ _, fun c member => ?_⟩, whole.symm⟩
      rw [← taken] at member
      exact List.all_eq_true.mp List.all_takeWhile c member
    · cases found
  · rintro ⟨⟨nonempty, all⟩, rfl⟩
    have taken : (name ++ '\x7d' :: after).takeWhile isNameChar = name := by
      rw [List.takeWhile_append_of_pos all, List.takeWhile_cons_of_neg (by decide),
        List.append_nil]
    have left : (name ++ '\x7d' :: after).dropWhile isNameChar = '\x7d' :: after := by
      rw [List.dropWhile_append_of_pos all, List.dropWhile_cons_of_neg (by decide)]
    obtain ⟨first, others, rfl⟩ := List.exists_cons_of_ne_nil nonempty
    simp only [name?, taken, left]

/-- The mark of the environment is no part of a name, so a name does not begin with it. -/
theorem IsName.not_marked (isName : IsName name) (rest : List Char) :
    name ++ '\x7d' :: after ≠ "env:".toList ++ rest := by
  intro same
  have colon : ':' ∉ name := isName.not_mem (by decide)
  rcases List.append_eq_append_iff.mp same with ⟨beyond, isMark, closes⟩ | ⟨beyond, rfl, -⟩
  · rcases beyond with _ | ⟨c, beyond⟩
    · rw [List.append_nil] at isMark
      rw [← isMark] at colon
      exact colon (by decide)
    · obtain rfl : '\x7d' = c := (List.cons.inj closes).1
      have inMark : '\x7d' ∈ "env:".toList := by
        rw [isMark]
        exact List.mem_append_right _ List.mem_cons_self
      exact absurd inMark (by decide)
  · exact colon (List.mem_append_left _ (by decide))

/-- A placeholder is found at the beginning of a text exactly when it is spelled there. -/
theorem here?_eq_some_iff :
    here? text = some (name, after) ↔
      IsName name ∧ ∃ marked, text = spelled marked name ++ after := by
  constructor
  · intro found
    unfold here? at found
    split at found
    · next inside =>
      split at found
      · next afterMark isMarked =>
        rcases name?_eq_some_iff.mp found with ⟨isName, rfl⟩
        refine ⟨isName, true, ?_⟩
        rw [isPrefixOf?_eq_some_iff.mp isMarked]
        simp [spelled, mark]
      · rcases name?_eq_some_iff.mp found with ⟨isName, rfl⟩
        exact ⟨isName, false, by simp [spelled, mark]⟩
    · cases found
  · rintro ⟨isName, marked, rfl⟩
    cases marked with
    | true =>
        have isMarked := isPrefixOf?_append "env:".toList (name ++ '\x7d' :: after)
        have isSpelled : spelled true name ++ after =
            '$' :: '\x7b' :: ("env:".toList ++ (name ++ '\x7d' :: after)) := by
          simp [spelled, mark]
        rw [isSpelled]
        simp only [here?, isMarked]
        exact name?_eq_some_iff.mpr ⟨isName, rfl⟩
    | false =>
        have isSpelled : spelled false name ++ after =
            '$' :: '\x7b' :: (name ++ '\x7d' :: after) := by
          simp [spelled, mark]
        have notMarked : "env:".toList.isPrefixOf? (name ++ '\x7d' :: after) = none := by
          by_contra found
          rcases Option.ne_none_iff_exists'.mp found with ⟨rest, isMarked⟩
          exact isName.not_marked rest (isPrefixOf?_eq_some_iff.mp isMarked)
        rw [isSpelled]
        simp only [here?, notMarked]
        exact name?_eq_some_iff.mpr ⟨isName, rfl⟩

theorem here?_spelled (isName : IsName name) (marked : Bool) (after : List Char) :
    here? (spelled marked name ++ after) = some (name, after) :=
  here?_eq_some_iff.mpr ⟨isName, marked, rfl⟩

/-- Behind the first character of a text, a dollar sign is beyond the placeholder there. -/
theorem here?_append_dollar (c : Char) (front back : List Char) :
    here? (c :: front ++ '$' :: back) =
      (here? (c :: front)).map fun (name, after) => (name, after ++ '$' :: back) := by
  rcases inFront : here? (c :: front) with _ | ⟨name, after⟩
  · rw [Option.map_none]
    by_contra found
    rcases Option.ne_none_iff_exists'.mp found with ⟨⟨name, after⟩, isHere⟩
    rcases here?_eq_some_iff.mp isHere with ⟨isName, marked, whole⟩
    rcases List.append_eq_append_iff.mp whole with ⟨beyond, isSpelled, reaches⟩ | ⟨rest, within, -⟩
    · rcases beyond with _ | ⟨d, beyond⟩
      · rw [List.append_nil] at isSpelled
        rw [← isSpelled, ← List.append_nil (spelled marked name), here?_spelled isName] at inFront
        cases inFront
      · obtain rfl : '$' = d := (List.cons.inj reaches).1
        have tail := (List.cons.inj isSpelled).2
        refine isName.dollar_not_mem marked ?_
        rw [tail]
        exact List.mem_append_right _ List.mem_cons_self
    · rw [within, here?_spelled isName] at inFront
      cases inFront
  · rcases here?_eq_some_iff.mp inFront with ⟨isName, marked, whole⟩
    rw [whole, List.append_assoc, here?_spelled isName]
    rfl

theorem substitute_nil : substitute valueOf [] = .ok [] := by
  rw [substitute]

theorem substitute_of_here?_none {c : Char} {rest : List Char} (nothing : here? (c :: rest) = none) :
    substitute valueOf (c :: rest) = (substitute valueOf rest).map (c :: ·) := by
  rw [substitute]
  split
  · rfl
  · next found =>
    rw [nothing] at found
    cases found

/-- The value of a variable, or a report that it is not set. -/
def value (valueOf : String → Option String) (name : List Char) : Except Unset (List Char) :=
  match valueOf (String.ofList name) with
  | some value => .ok value.toList
  | none => .error ⟨String.ofList name⟩

theorem substitute_of_here? {c : Char} {rest : List Char}
    (found : here? (c :: rest) = some (name, after)) :
    substitute valueOf (c :: rest) = do
      let inserted ← value valueOf name
      let behind ← substitute valueOf after
      return inserted ++ behind := by
  rw [substitute]
  split
  · next nothing =>
    rw [nothing] at found
    cases found
  · next same =>
    rw [found] at same
    cases same
    rw [value]
    cases valueOf (String.ofList name) with
    | none => rfl
    | some inserted => cases substitute valueOf after <;> rfl

theorem substitute_spelled (isName : IsName name) (marked : Bool) (back : List Char) :
    substitute valueOf (spelled marked name ++ back) = do
      let inserted ← value valueOf name
      let behind ← substitute valueOf back
      return inserted ++ behind :=
  substitute_of_here? (here?_spelled isName marked back)

/-- What stands in front of a dollar sign is replaced on its own. -/
theorem substitute_append_dollar (front back : List Char) :
    substitute valueOf (front ++ '$' :: back) = do
      let before ← substitute valueOf front
      let behind ← substitute valueOf ('$' :: back)
      return before ++ behind := by
  induction front using substitute.induct valueOf with
  | case1 =>
      rw [List.nil_append, substitute_nil]
      cases substitute valueOf ('$' :: back) <;> rfl
  | case2 c rest nothing ih =>
      have stillNothing : here? (c :: (rest ++ '$' :: back)) = none := by
        rw [← List.cons_append, here?_append_dollar, nothing, Option.map_none]
      rw [List.cons_append, substitute_of_here?_none stillNothing, substitute_of_here?_none nothing,
        ih]
      cases substitute valueOf rest with
      | error unset => rfl
      | ok before => cases substitute valueOf ('$' :: back) <;> rfl
  | case3 c rest name after found unset =>
      have stillFound : here? (c :: (rest ++ '$' :: back)) = some (name, after ++ '$' :: back) := by
        rw [← List.cons_append, here?_append_dollar, found, Option.map_some]
      rw [List.cons_append, substitute_of_here? stillFound, substitute_of_here? found, value, unset]
      rfl
  | case4 c rest name after found inserted isSet ih =>
      have stillFound : here? (c :: (rest ++ '$' :: back)) = some (name, after ++ '$' :: back) := by
        rw [← List.cons_append, here?_append_dollar, found, Option.map_some]
      rw [List.cons_append, substitute_of_here? stillFound, substitute_of_here? found, value, isSet,
        ih]
      cases substitute valueOf after with
      | error unset => rfl
      | ok before =>
          cases substitute valueOf ('$' :: back) with
          | error unset => rfl
          | ok behind => exact congrArg Except.ok (List.append_assoc _ _ _).symm

/-- A placeholder gives way to the value of its variable, whatever stands around it. -/
theorem substitute_append_spelled (isName : IsName name) (marked : Bool) (front back : List Char) :
    substitute valueOf (front ++ spelled marked name ++ back) = do
      let before ← substitute valueOf front
      let inserted ← value valueOf name
      let behind ← substitute valueOf back
      return before ++ inserted ++ behind := by
  have atDollar := @substitute_append_dollar valueOf front
    ('\x7b' :: (mark marked ++ name ++ ['\x7d']) ++ back)
  have isSpelled : '$' :: ('\x7b' :: (mark marked ++ name ++ ['\x7d']) ++ back) =
      spelled marked name ++ back := rfl
  rw [isSpelled, substitute_spelled isName] at atDollar
  rw [List.append_assoc, atDollar]
  cases substitute valueOf front with
  | error unset => rfl
  | ok before =>
      cases value valueOf name with
      | error unset => rfl
      | ok inserted =>
          cases substitute valueOf back with
          | error unset => rfl
          | ok behind => exact congrArg Except.ok (List.append_assoc _ _ _).symm

theorem StandsBehind.cons (stands : StandsBehind front name text) (c : Char) :
    StandsBehind (c :: front) name (c :: text) := by
  rcases stands with ⟨isName, marked, back, rfl⟩
  exact ⟨isName, marked, back, rfl⟩

theorem StandsBehind.behind (stands : StandsBehind front name text) (before : List Char) :
    StandsBehind (before ++ front) name (before ++ text) := by
  rcases stands with ⟨isName, marked, back, rfl⟩
  exact ⟨isName, marked, back, by simp only [List.append_assoc]⟩

theorem StandsBehind.append (stands : StandsBehind front name text) (after : List Char) :
    StandsBehind front name (text ++ after) := by
  rcases stands with ⟨isName, marked, back, rfl⟩
  exact ⟨isName, marked, back ++ after, by simp only [List.append_assoc]⟩

theorem standsBehind_of_here? (found : here? text = some (name, after)) :
    StandsBehind [] name text := by
  rcases here?_eq_some_iff.mp found with ⟨isName, marked, rfl⟩
  exact ⟨isName, marked, after, rfl⟩

/-- Without placeholders a text stays as it is. -/
theorem substitute_of_forall_not (none : ∀ front name, ¬StandsBehind front name text) :
    substitute valueOf text = .ok text := by
  induction text using substitute.induct valueOf with
  | case1 => exact substitute_nil
  | case2 c rest nothing ih =>
      have later : ∀ front name, ¬StandsBehind front name rest := fun front name stands =>
        none _ _ (stands.cons c)
      rw [substitute_of_here?_none nothing, ih later]
      rfl
  | case3 c rest name after found => exact absurd (standsBehind_of_here? found) (none _ _)
  | case4 c rest name after found => exact absurd (standsBehind_of_here? found) (none _ _)

/-- A failure comes from a placeholder for a variable that is not set. -/
theorem exists_unset_of_substitute {unset : Unset}
    (fails : substitute valueOf text = .error unset) :
    ∃ front name, StandsBehind front name text ∧ valueOf (String.ofList name) = none := by
  induction text using substitute.induct valueOf with
  | case1 =>
      rw [substitute_nil] at fails
      cases fails
  | case2 c rest nothing ih =>
      rw [substitute_of_here?_none nothing] at fails
      rcases later : substitute valueOf rest with other | replaced
      · rw [later] at fails
        cases fails
        rcases ih later with ⟨front, name, stands, notSet⟩
        exact ⟨c :: front, name, stands.cons c, notSet⟩
      · rw [later] at fails
        cases fails
  | case3 c rest name after found notSet =>
      exact ⟨[], name, standsBehind_of_here? found, notSet⟩
  | case4 c rest name after found inserted isSet ih =>
      rw [substitute_of_here? found, value, isSet] at fails
      rcases later : substitute valueOf after with other | replaced
      · rw [later] at fails
        cases fails
        rcases ih later with ⟨front, name, stands, notSet⟩
        rcases here?_eq_some_iff.mp found with ⟨-, marked, whole⟩
        rw [whole]
        exact ⟨_, name, stands.behind _, notSet⟩
      · rw [later] at fails
        cases fails

/-- Whether a variable is the one that the leftmost placeholder without a value names. -/
def IsFirstUnset (valueOf : String → Option String) (text : List Char) (unset : Unset) : Prop :=
  ∃ front name, StandsBehind front name text ∧ valueOf (String.ofList name) = none ∧
    unset = ⟨String.ofList name⟩ ∧
      ∀ earlier other, StandsBehind earlier other text → earlier.length < front.length →
        valueOf (String.ofList other) ≠ none

theorem exists_isFirstUnset (stands : StandsBehind front name text)
    (notSet : valueOf (String.ofList name) = none) : ∃ unset, IsFirstUnset valueOf text unset := by
  classical
  -- the shortest beginning behind which such a placeholder stands
  have some : ∃ length front name, front.length = length ∧ StandsBehind front name text ∧
      valueOf (String.ofList name) = none := ⟨_, front, name, rfl, stands, notSet⟩
  rcases Nat.find_spec some with ⟨first, other, isLeast, firstStands, firstNotSet⟩
  refine ⟨_, first, other, firstStands, firstNotSet, rfl, ?_⟩
  intro earlier third earlierStands shorter thirdNotSet
  rw [isLeast] at shorter
  exact Nat.find_min some shorter ⟨earlier, third, rfl, earlierStands, thirdNotSet⟩

/-- The leftmost placeholder without a value is the one that is reported. -/
theorem substitute_of_isFirstUnset {unset : Unset} (first : IsFirstUnset valueOf text unset) :
    substitute valueOf text = .error unset := by
  rcases first with ⟨front, name, ⟨isName, marked, back, rfl⟩, notSet, rfl, leftmost⟩
  have replaced : ∃ before, substitute valueOf front = .ok before := by
    rcases inFront : substitute valueOf front with other | before
    · rcases exists_unset_of_substitute inFront with ⟨earlier, other, stands, otherNotSet⟩
      have shorter : earlier.length < front.length := by
        rcases stands with ⟨-, marked, back, rfl⟩
        simp [spelled]
      have standsInText := stands.append (spelled marked name ++ back)
      rw [← List.append_assoc] at standsInText
      exact absurd otherNotSet (leftmost earlier other standsInText shorter)
    · exact ⟨before, rfl⟩
  rcases replaced with ⟨before, isBefore⟩
  rw [substitute_append_spelled isName, isBefore, value, notSet]
  rfl

/-- Replacement is one pass from left to right: a placeholder gives way to the value of its variable
whatever stands around it, it fails exactly when a placeholder names a variable that is not set, the
leftmost of these is reported, and a text without placeholders stays as it is. -/
theorem substitute_leftToRight (valueOf : String → Option String) :
    (∀ (front back name : List Char) (marked : Bool), IsName name →
      substitute valueOf (front ++ spelled marked name ++ back) = do
        let before ← substitute valueOf front
        let inserted ← value valueOf name
        let behind ← substitute valueOf back
        return before ++ inserted ++ behind) ∧
    (∀ text, (∃ unset, substitute valueOf text = .error unset) ↔
      ∃ front name, StandsBehind front name text ∧ valueOf (String.ofList name) = none) ∧
    (∀ text unset, substitute valueOf text = .error unset ↔ IsFirstUnset valueOf text unset) ∧
    (∀ text, (∀ front name, ¬StandsBehind front name text) →
      substitute valueOf text = .ok text) := by
  refine ⟨fun front back name marked isName => substitute_append_spelled isName marked front back,
    fun text => ⟨?_, ?_⟩, fun text unset => ⟨?_, substitute_of_isFirstUnset⟩,
    fun text => substitute_of_forall_not⟩
  · rintro ⟨unset, fails⟩
    exact exists_unset_of_substitute fails
  · rintro ⟨front, name, stands, notSet⟩
    rcases exists_isFirstUnset stands notSet with ⟨unset, first⟩
    exact ⟨unset, substitute_of_isFirstUnset first⟩
  · intro fails
    rcases exists_unset_of_substitute fails with ⟨front, name, stands, notSet⟩
    rcases exists_isFirstUnset stands notSet with ⟨other, first⟩
    have same := substitute_of_isFirstUnset first
    rw [fails] at same
    cases same
    exact first

/-- The value of one variable looks like the placeholder for the other. -/
def addresses (name : String) : Option String :=
  if name = "HOST" then some "$\x7bPORT\x7d" else if name = "PORT" then some "80" else none

theorem substitute_leftToRight_address :
    IsName "HOST".toList ∧ IsName "PORT".toList ∧
      (∀ front name, ¬StandsBehind front name "$\x7b".toList) ∧
      substitute addresses "$\x7b$\x7bHOST\x7d:$\x7benv:PORT\x7d".toList =
        .ok "$\x7b$\x7bPORT\x7d:80".toList ∧
      IsFirstUnset addresses "$\x7bA\x7d$\x7bB\x7d".toList ⟨"A"⟩ ∧
      substitute addresses "$\x7bA\x7d$\x7bB\x7d".toList = .error ⟨"A"⟩ := by
  have isHost : IsName "HOST".toList := by decide
  have isPort : IsName "PORT".toList := by decide
  have unclosed : ∀ text : List Char, '\x7d' ∉ text →
      ∀ front name, ¬StandsBehind front name text := by
    rintro text noBrace front name ⟨-, marked, back, rfl⟩
    exact noBrace (by simp [spelled])
  have isFirst : IsFirstUnset addresses "$\x7bA\x7d$\x7bB\x7d".toList ⟨"A"⟩ :=
    ⟨[], ['A'], ⟨by decide, false, "$\x7bB\x7d".toList, by decide⟩, by decide, by decide, by simp⟩
  rcases substitute_leftToRight addresses with ⟨replaces, -, reports, keeps⟩
  have port := replaces ":".toList [] "PORT".toList true isPort
  rw [keeps ":".toList (unclosed _ (by decide)), keeps [] (unclosed _ (by decide))] at port
  have host := replaces "$\x7b".toList (":".toList ++ spelled true "PORT".toList ++ [])
    "HOST".toList false isHost
  rw [keeps "$\x7b".toList (unclosed _ (by decide)), port] at host
  exact ⟨isHost, isPort, unclosed _ (by decide), host, isFirst, (reports _ _).mpr isFirst⟩

end Placeholder

end SqlPipeline
