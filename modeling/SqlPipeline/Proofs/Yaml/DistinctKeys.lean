import SqlPipeline.Proofs.Value.Overlay
import SqlPipeline.Yaml.Document

/-!
# Documents have no key twice

The entries of a mapping are written one after the other when it is filled, so a key that comes
again is written in its place (`distinctParts_of_parts?`). Putting parts together keeps the keys of
every mapping. So whatever a text spells is unambiguous (`unambiguous_of_read`), even where a part
holds itself and stands in itself as it was in the round before.
-/

namespace SqlPipeline

namespace Yaml

/-- No mapping among parts has a key twice. -/
def DistinctParts (parts : Array (Option Part)) : Prop :=
  ∀ place entries, parts.getD place none = some (.map entries) → Mapping.Distinct entries

/-- What holds at the start and is kept by every step holds in the end. -/
theorem invariant_of_foldlM {ε α β : Type} {step : β → α → Except ε β} (Kept : β → Prop)
    (keeps : ∀ before item after, step before item = .ok after → Kept before → Kept after)
    {items : List α} {first last : β} (folded : items.foldlM step first = .ok last)
    (start : Kept first) : Kept last := by
  induction items generalizing first with
  | nil =>
      cases folded
      exact start
  | cons item rest ih =>
      rw [List.foldlM_cons] at folded
      rcases bind_eq_ok_iff.mp folded with ⟨next, stepped, onward⟩
      exact ih onward (keeps first item next stepped start)

theorem getD_setIfInBounds {α : Type} (array : Array α) (place other : Nat) (value default : α) :
    (array.setIfInBounds place value).getD other default = array.getD other default ∨
      (array.setIfInBounds place value).getD other default = value := by
  rw [Array.getD_eq_getD_getElem?, Array.getD_eq_getD_getElem?, Array.getElem?_setIfInBounds]
  split
  · split
    · exact Or.inr rfl
    · next outside =>
      left
      rw [Array.getElem?_eq_none (by omega)]
  · exact Or.inl rfl

namespace Assembly

variable {assembly next : Assembly} {place : Nat}

theorem distinctParts_put (distinct : DistinctParts assembly.parts) (place : Nat) {part : Part}
    (isDistinct : ∀ entries, part = .map entries → Mapping.Distinct entries) :
    DistinctParts (assembly.put place part).parts := by
  intro other entries found
  rcases getD_setIfInBounds assembly.parts place other (some part) none with old | new
  · exact distinct other entries (old.symm.trans found)
  · exact isDistinct entries (Option.some.inj (new.symm.trans found))

/-- Meeting a node changes no part, or it puts one of which a mapping is still empty. -/
theorem meet_cases (met : assembly.meet place = .ok next) :
    next = assembly ∨ ∃ part, (∀ entries, part = .map entries → entries = []) ∧
      next.parts = (assembly.put place part).parts := by
  unfold meet at met
  split at met
  · cases met
    exact Or.inl rfl
  · right
    cases isKind : (assembly.nodes.node place).kind <;> simp only [isKind] at met
    case sequence | mapping | set | pairs =>
      cases met
      exact ⟨_, by simp, rfl⟩
    case merge | default | unknown => cases met
    all_goals
      rcases isKey : assembly.nodes.scalarKey place with fault | key
      · rw [isKey] at met
        cases met
      · rw [isKey] at met
        cases met
        exact ⟨_, by simp, rfl⟩

theorem distinctParts_of_meet (met : assembly.meet place = .ok next)
    (distinct : DistinctParts assembly.parts) : DistinctParts next.parts := by
  rcases meet_cases met with rfl | ⟨part, isEmpty, isPut⟩
  · exact distinct
  · rw [isPut]
    apply distinctParts_put distinct
    intro entries isMap
    rw [isEmpty entries isMap]
    exact Mapping.distinct_nil

/-- A key that comes again is written in its place. -/
theorem distinct_of_meetEntries {listed : List (Nat × Nat)} {entries : List (Key × Nat)}
    (met : assembly.meetEntries listed = .ok (entries, next))
    (distinct : DistinctParts assembly.parts) :
    Mapping.Distinct entries ∧ DistinctParts next.parts := by
  refine invariant_of_foldlM
    (fun state : List (Key × Nat) × Assembly =>
      Mapping.Distinct state.1 ∧ DistinctParts state.2.parts) ?_ met ⟨Mapping.distinct_nil, distinct⟩
  rintro ⟨found, before⟩ ⟨keyPlace, valuePlace⟩ after stepped ⟨distinctFound, distinctBefore⟩
  rcases bind_eq_ok_iff.mp stepped with ⟨withKey, metKey, onward⟩
  rcases bind_eq_ok_iff.mp onward with ⟨key, -, onward⟩
  rcases bind_eq_ok_iff.mp onward with ⟨withValue, metValue, last⟩
  cases last
  exact ⟨distinctFound.put key valuePlace,
    distinctParts_of_meet metValue (distinctParts_of_meet metKey distinctBefore)⟩

theorem distinct_of_meetMapping {entries : List (Key × Nat)}
    (met : assembly.meetMapping place = .ok (entries, next))
    (distinct : DistinctParts assembly.parts) :
    Mapping.Distinct entries ∧ DistinctParts next.parts := by
  rcases bind_eq_ok_iff.mp met with ⟨nodes, -, met⟩
  exact distinct_of_meetEntries met distinct

theorem distinctParts_of_meetPairs {items : List Nat} {pairs : List (Nat × Nat)}
    (met : assembly.meetPairs items = .ok (pairs, next))
    (distinct : DistinctParts assembly.parts) : DistinctParts next.parts := by
  refine invariant_of_foldlM
    (fun state : List (Nat × Nat) × Assembly => DistinctParts state.2.parts) ?_ met distinct
  rintro ⟨found, before⟩ item after stepped distinctBefore
  dsimp only at stepped
  split at stepped
  · rcases bind_eq_ok_iff.mp stepped with ⟨withFirst, metFirst, onward⟩
    rcases bind_eq_ok_iff.mp onward with ⟨withSecond, metSecond, last⟩
    cases last
    exact distinctParts_of_meet metSecond (distinctParts_of_meet metFirst distinctBefore)
  · cases stepped

theorem distinctParts_of_fill (filled : assembly.fill place = .ok next)
    (distinct : DistinctParts assembly.parts) : DistinctParts next.parts := by
  unfold fill at filled
  dsimp only at filled
  split at filled
  · rcases bind_eq_ok_iff.mp filled with ⟨met, folded, last⟩
    cases last
    refine distinctParts_put ?_ place nofun
    exact invariant_of_foldlM (fun assembly => DistinctParts assembly.parts)
      (fun _ _ _ => distinctParts_of_meet) folded distinct
  · rcases bind_eq_ok_iff.mp filled with ⟨⟨entries, met⟩, metAll, last⟩
    cases last
    rcases distinct_of_meetMapping metAll distinct with ⟨distinctEntries, distinctMet⟩
    refine distinctParts_put distinctMet place ?_
    rintro _ ⟨rfl⟩
    exact distinctEntries
  · rcases bind_eq_ok_iff.mp filled with ⟨⟨entries, met⟩, metAll, last⟩
    cases last
    exact distinctParts_put (distinct_of_meetMapping metAll distinct).2 place nofun
  · rcases bind_eq_ok_iff.mp filled with ⟨⟨pairs, met⟩, metAll, last⟩
    cases last
    exact distinctParts_put (distinctParts_of_meetPairs metAll distinct) place nofun
  · cases filled

theorem distinctParts_of_fillAll {count : Nat} (filled : fillAll count assembly = .ok next)
    (distinct : DistinctParts assembly.parts) : DistinctParts next.parts := by
  induction count generalizing assembly with
  | zero =>
      cases filled
      exact distinct
  | succ count ih =>
      unfold fillAll at filled
      split at filled
      · cases filled
        exact distinct
      · rcases bind_eq_ok_iff.mp filled with ⟨after, first, onward⟩
        exact ih onward (distinctParts_of_fill first distinct)

theorem distinctParts_of_parts? {nodes : NodeTable} {top : Nat} {parts : Array (Option Part)}
    (made : parts? nodes top = .ok parts) : DistinctParts parts := by
  rcases bind_eq_ok_iff.mp made with ⟨met, metTop, onward⟩
  rcases bind_eq_ok_iff.mp onward with ⟨last, filled, isLast⟩
  cases isLast
  refine distinctParts_of_fillAll filled (distinctParts_of_meet metTop ?_)
  intro place entries found
  rw [Array.getD_eq_getD_getElem?, Array.getElem?_replicate] at found
  split at found <;> cases found

end Assembly

/-- The values that are put together so far are unambiguous. -/
def Clean (made : Array (Option Value)) : Prop :=
  ∀ place value, made.getD place none = some value → value.Unambiguous

theorem clean_unmade (size : Nat) : Clean (Array.replicate size none) := by
  intro place value found
  rw [Array.getD_eq_getD_getElem?, Array.getElem?_replicate] at found
  split at found <;> cases found

/-- What was not put together in a round counts as null in the next one. -/
theorem Clean.filled {made : Array (Option Value)} (clean : Clean made) (place : Nat) :
    ((made.map fun value => value.getD .null).getD place Value.null).Unambiguous := by
  have there := clean place
  rw [Array.getD_eq_getD_getElem?] at there ⊢
  rw [Array.getElem?_map]
  rcases found : made[place]? with _ | _ | value
  · exact Value.unambiguous_of_not_isMapping rfl
  · exact Value.unambiguous_of_not_isMapping rfl
  · exact there value (by rw [found]; rfl)

/-- A part of a round gives something good and keeps the values unambiguous. -/
def Cleanly {α : Type} (round : Round α) (Good : α → Prop) : Prop :=
  ∀ made, Clean made → Good (round.run made).1 ∧ Clean (round.run made).2

namespace Cleanly

variable {α β : Type} {Good : α → Prop} {Better : β → Prop}

theorem pure {value : α} (good : Good value) : Cleanly (pure value) Good :=
  fun _ clean => ⟨good, clean⟩

theorem bind {round : Round α} {later : α → Round β} (first : Cleanly round Good)
    (second : ∀ value, Good value → Cleanly (later value) Better) :
    Cleanly (round >>= later) Better := by
  intro made clean
  rcases first made clean with ⟨good, cleanAfter⟩
  exact second _ good _ cleanAfter

theorem map {round : Round α} {function : α → β} (first : Cleanly round Good)
    (better : ∀ value, Good value → Better (function value)) :
    Cleanly (function <$> round) Better := by
  intro made clean
  rcases first made clean with ⟨good, cleanAfter⟩
  exact ⟨better _ good, cleanAfter⟩

theorem get : Cleanly (get : Round (Array (Option Value))) Clean :=
  fun _ clean => ⟨clean, clean⟩

/-- An unambiguous value can be put among the others. -/
theorem keep (place : Nat) {value : Value} (unambiguous : value.Unambiguous) :
    Cleanly (modify fun made => made.setIfInBounds place (some value)) fun _ => True := by
  intro made clean
  refine ⟨trivial, fun other kept found => ?_⟩
  rcases getD_setIfInBounds made place other (some value) none with old | new
  · exact clean other kept (old.symm.trans found)
  · cases new.symm.trans found
    exact unambiguous

/-- Item by item, what is given goes with what it is given for. -/
theorem mapM {Related : α → β → Prop} {round : α → Round β} (items : List α)
    (each : ∀ item, Cleanly (round item) (Related item)) :
    Cleanly (items.mapM round) (List.Forall₂ Related items) := by
  induction items with
  | nil => exact pure .nil
  | cons item rest ih =>
      rw [List.mapM_cons]
      refine (each item).bind fun first related => ih.bind fun others relatedOthers => ?_
      exact pure (.cons related relatedOthers)

end Cleanly

section Rounds

variable {parts : Array (Option Part)} {before : Array Value}

theorem identities_of_forall₂ {entries : List (Key × Nat)} {made : Mapping}
    (sameKeys : List.Forall₂ (fun entry made => made.1 = entry.1 ∧ made.2.Unambiguous)
      entries made) : Mapping.identities made = Mapping.identities entries := by
  induction sameKeys with
  | nil => rfl
  | cons first _ ih =>
      simp only [Mapping.identities, List.map_cons, first.1] at ih ⊢
      rw [ih]

/-- A mapping that is put together has the keys of its part. -/
theorem unambiguous_of_forall₂ {entries : List (Key × Nat)} {made : Mapping}
    (distinct : Mapping.Distinct entries)
    (sameKeys : List.Forall₂ (fun entry made => made.1 = entry.1 ∧ made.2.Unambiguous)
      entries made) : (Value.map made).Unambiguous := by
  apply Value.Unambiguous.of_forall
  · rw [Mapping.Distinct, identities_of_forall₂ sameKeys]
    exact distinct
  · intro entry member
    rcases List.forall₂_iff_get.mp sameKeys with ⟨length, related⟩
    rcases List.mem_iff_get.mp member with ⟨place, rfl⟩
    exact (related place (by rw [length]; exact place.isLt) place.isLt).2

theorem cleanly_assemble (distinct : DistinctParts parts)
    (clean : ∀ place, (before.getD place .null).Unambiguous) (depth : Nat) (around : List Nat)
    (place : Nat) : Cleanly (assemble parts before depth around place) Value.Unambiguous := by
  induction depth generalizing around place with
  | zero => exact Cleanly.pure (clean place)
  | succ depth ih =>
      unfold assemble
      split
      · exact Cleanly.pure (clean place)
      · refine Cleanly.get.bind fun made cleanMade => ?_
        split
        · next value found => exact Cleanly.pure (cleanMade place value found)
        · have finish (value : Value) (unambiguous : value.Unambiguous) := Cleanly.bind
            (Cleanly.keep place unambiguous) fun _ _ => Cleanly.pure unambiguous
          dsimp only
          split <;> refine Cleanly.bind ?_ finish
          · exact Cleanly.pure (Value.unambiguous_of_not_isMapping rfl)
          · next key _ =>
            exact Cleanly.pure (Value.unambiguous_of_not_isMapping (by cases key <;> rfl))
          · next items _ =>
            refine (Cleanly.mapM items fun item => ih (place :: around) item).map fun _ _ => ?_
            exact Value.unambiguous_of_not_isMapping rfl
          · next entries found =>
            refine (Cleanly.mapM entries fun entry => ?_).map fun made sameKeys =>
              unambiguous_of_forall₂ (distinct place entries found) sameKeys
            exact (ih _ entry.2).bind fun value unambiguous => Cleanly.pure ⟨rfl, unambiguous⟩
          · exact Cleanly.pure (Value.unambiguous_of_not_isMapping rfl)
          · next pairs _ =>
            refine (@Cleanly.mapM _ _ (fun _ => Value.Unambiguous) _ pairs fun pair => ?_).map
              fun _ _ => Value.unambiguous_of_not_isMapping rfl
            exact (ih _ pair.1).bind fun _ _ => (ih _ pair.2).bind fun _ _ =>
              Cleanly.pure (Value.unambiguous_of_not_isMapping rfl)

theorem exists_round (distinct : DistinctParts parts)
    (clean : ∀ place, (before.getD place .null).Unambiguous) (top : Nat) :
    ∃ value made, (assemble parts before (parts.size + 1) [] top).run
        (Array.replicate parts.size none) = (value, made) ∧ value.Unambiguous ∧ Clean made := by
  have round := cleanly_assemble distinct clean (parts.size + 1) [] top _ (clean_unmade parts.size)
  rcases ran : (assemble parts before (parts.size + 1) [] top).run _ with ⟨value, made⟩
  rw [ran] at round
  exact ⟨value, made, rfl, round⟩

/-- What is put together in rounds is unambiguous if what the rounds start from is. -/
theorem unambiguous_valueAfter (distinct : DistinctParts parts) (top rounds : Nat)
    (clean : ∀ place, (before.getD place .null).Unambiguous) :
    (valueAfter parts top rounds before).Unambiguous := by
  induction rounds generalizing before with
  | zero =>
      rcases exists_round distinct clean top with ⟨value, made, ran, unambiguous, -⟩
      rw [valueAfter, ran]
      exact unambiguous
  | succ rounds ih =>
      rcases exists_round distinct clean top with ⟨value, made, ran, -, cleanMade⟩
      rw [valueAfter, ran]
      exact ih cleanMade.filled

end Rounds

/-- Nothing that a text spells has a key twice. -/
theorem unambiguous_of_read {text : String} {value : Value} (spelled : read text = .ok value) :
    value.Unambiguous := by
  rcases bind_eq_ok_iff.mp spelled with ⟨parsed, -, onward⟩
  split at onward
  · cases onward
    exact Value.unambiguous_of_not_isMapping rfl
  · rcases bind_eq_ok_iff.mp onward with ⟨parts, made, last⟩
    cases last
    apply unambiguous_valueAfter (Assembly.distinctParts_of_parts? made)
    intro place
    exact Value.unambiguous_of_not_isMapping rfl

end Yaml

end SqlPipeline
