import SqlPipeline.Proofs.Value.Overlay

/-!
# Laws of overlays

What an overlay holds at a path is known from its two sides (`at?_overlayValue_eq_some_iff`), and so
are its keys: those of the weaker side in order, followed by what is new in the stronger one
(`keys_overlay`). Mappings with the same keys in the same order and the same values at them are equal
(`eq_of_keys`), so an equation between overlays is proved key by key, by the same equation one level
below. In this way an overlay absorbs a side that is laid over it again (`overlayValue_absorbs`), and
overlaying is associative where only mappings stand between mappings (`overlayValue_assoc`).
-/

namespace SqlPipeline

namespace Mapping

variable {entries weaker stronger : Mapping} {key : Key} {value : Value}

theorem sizeOf_lt_of_find? (found : find? key entries = some value) :
    sizeOf value < sizeOf (Value.map entries) := by
  rcases mem_of_find? found with ⟨other, -, member⟩
  have inside := List.sizeOf_lt_of_mem member
  simp only [Prod.mk.sizeOf_spec, Value.map.sizeOf_spec] at inside ⊢
  omega

theorem keys_put (key : Key) (value : Value) (entries : Mapping) :
    keys (put key value entries) =
      if (find? key entries).isSome then keys entries else keys entries ++ [key] := by
  induction entries with
  | nil => rfl
  | cons entry rest ih =>
      rcases entry with ⟨first, old⟩
      rw [put, find?_cons]
      by_cases alike : first.same key = true
      · rw [if_pos alike, if_pos alike]
        rfl
      · rw [if_neg alike, if_neg alike]
        change first :: keys (put key value rest) = _
        rw [ih]
        split <;> rfl

theorem Distinct.apart_of_mem_keys {first : Key} {rest : Mapping}
    (distinct : Distinct ((first, value) :: rest)) (member : key ∈ keys rest) :
    first.same key = false := by
  rcases List.mem_map.mp member with ⟨entry, isEntry, rfl⟩
  by_contra alike
  rw [Bool.not_eq_false, Key.same_iff] at alike
  exact (List.nodup_cons.mp distinct).1 (List.mem_map.mpr ⟨entry, isEntry, alike.symm⟩)

/-- The keys of an overlay are those of the weaker side, and then what is new in the stronger one. -/
theorem keys_overlay (distinct : Distinct stronger) (weaker : Mapping) :
    keys (overlay weaker stronger) =
      keys weaker ++ (keys stronger).filter fun key => (find? key weaker).isNone := by
  induction stronger generalizing weaker with
  | nil => simp [keys]
  | cons entry rest ih =>
      rcases entry with ⟨first, value⟩
      have later : ∀ other ∈ keys rest, (find? other
          (put first (overlayValue (find? first weaker) value) weaker)).isNone =
            (find? other weaker).isNone := by
        intro other member
        rw [find?_put, distinct.apart_of_mem_keys member]
        rfl
      change _ = keys weaker ++ (first :: keys rest).filter _
      rw [overlay_cons, ih (List.nodup_cons.mp distinct).2, List.filter_congr later, keys_put,
        List.filter_cons]
      cases find? first weaker <;> simp

theorem find?_ne_none_of_mem_keys (member : key ∈ keys entries) : find? key entries ≠ none := by
  rcases List.mem_map.mp member with ⟨entry, isEntry, rfl⟩
  intro absent
  have apart := find?_eq_none_iff.mp absent entry isEntry
  rw [Key.same_self] at apart
  cases apart

/-- An overlay has no new keys if what the weaker side lacks the stronger one lacks, too. -/
theorem keys_overlay_of_present (distinct : Distinct stronger)
    (present : ∀ key, find? key weaker = none → find? key stronger = none) :
    keys (overlay weaker stronger) = keys weaker := by
  rw [keys_overlay distinct, List.filter_eq_nil_iff.mpr, List.append_nil]
  intro key member absent
  exact find?_ne_none_of_mem_keys member (present key (Option.isNone_iff_eq_none.mp absent))

theorem isNone_find?_overlay (key : Key) (weaker stronger : Mapping) :
    (find? key (overlay weaker stronger)).isNone =
      ((find? key weaker).isNone && (find? key stronger).isNone) := by
  rw [Bool.eq_iff_iff, Bool.and_eq_true, Option.isNone_iff_eq_none, Option.isNone_iff_eq_none,
    Option.isNone_iff_eq_none, find?_overlay_eq_none_iff]

/-- The keys come in the same order whichever two of three mappings are overlaid first. -/
theorem keys_overlay_overlay {lower middle upper : Mapping} (distinct : Distinct middle)
    (distinctUpper : Distinct upper) :
    keys (overlay (overlay lower middle) upper) = keys (overlay lower (overlay middle upper)) := by
  rw [keys_overlay distinctUpper, keys_overlay distinct, keys_overlay (distinct.overlay upper),
    keys_overlay distinctUpper, List.filter_append, List.filter_filter, List.append_assoc]
  simp only [isNone_find?_overlay]

theorem identities_eq_map_keys (entries : Mapping) :
    identities entries = (keys entries).map Key.identity := by
  rw [identities, keys, List.map_map]
  rfl

/-- Mappings with the same keys in order and the same values at them are equal. -/
theorem eq_of_keys {first second : Mapping} (distinct : Distinct first)
    (sameKeys : keys first = keys second) (sameValues : ∀ key, find? key first = find? key second) :
    first = second := by
  induction first generalizing second with
  | nil => exact (List.map_eq_nil_iff.mp sameKeys.symm).symm
  | cons entry rest ih =>
      rcases entry with ⟨key, value⟩
      rcases second with _ | ⟨⟨other, otherValue⟩, otherRest⟩
      · cases sameKeys
      · obtain ⟨rfl, sameRest⟩ : key = other ∧ keys rest = keys otherRest := List.cons.inj sameKeys
        have otherDistinct : Distinct ((key, otherValue) :: otherRest) := by
          rw [Distinct, identities_eq_map_keys, ← sameKeys, ← identities_eq_map_keys]
          exact distinct
        have here := sameValues key
        rw [find?_cons, find?_cons, if_pos (Key.same_self key), if_pos (Key.same_self key)] at here
        cases here
        congr 1
        refine ih (List.nodup_cons.mp distinct).2 sameRest fun third => ?_
        by_cases alike : key.same third = true
        · rw [distinct.find?_eq_none alike, otherDistinct.find?_eq_none alike]
        · have there := sameValues third
          rwa [find?_cons, find?_cons, if_neg alike, if_neg alike] at there

theorem overlay_empty (distinct : Distinct stronger) : overlay [] stronger = stronger := by
  refine eq_of_keys (distinct_nil.overlay stronger) ?_ fun key => ?_
  · rw [keys_overlay distinct]
    simp [keys]
  · rw [find?_overlay distinct]
    cases find? key stronger <;> simp

end Mapping

namespace Value

open Mapping (find? keys overlay overlayValue)

variable {old : Option Value} {value result : Value} {key : Key} {path : List Key}
  {entries : Mapping}

/-- What holds of all values but mappings, and of a mapping as soon as it holds of all that is found
in the mapping, holds of every value. -/
theorem induction_mapping {motive : Value → Prop}
    (scalar : ∀ value, value.isMapping = false → motive value)
    (mapping : ∀ entries : Mapping,
      (∀ key value, find? key entries = some value → motive value) → motive (.map entries)) :
    ∀ value, motive value
  | .map entries => mapping entries fun _ value _found => induction_mapping scalar mapping value
  | .null => scalar _ rfl
  | .bool _ => scalar _ rfl
  | .int _ => scalar _ rfl
  | .float _ => scalar _ rfl
  | .str _ => scalar _ rfl
  | .bytes _ => scalar _ rfl
  | .date _ => scalar _ rfl
  | .moment _ => scalar _ rfl
  | .list _ => scalar _ rfl
  | .set _ => scalar _ rfl
  | .pair _ _ => scalar _ rfl
termination_by value => sizeOf value
decreasing_by exact Mapping.sizeOf_lt_of_find? _found

/-- A mapping has its say below a key if it holds something there that has its say. -/
theorem overrides_cons_iff :
    (Value.map entries).Overrides (key :: path) ↔
      ∃ value, find? key entries = some value ∧ value.Overrides path := by
  constructor
  · rintro (present | ⟨front, last, onTheWay, proper, reached, scalar⟩)
    · rw [at?_cons_map] at present
      rcases Option.ne_none_iff_exists'.mp present with ⟨held, reached⟩
      rcases Option.bind_eq_some_iff.mp reached with ⟨value, found, onward⟩
      exact ⟨value, found, Or.inl (by simp [onward])⟩
    · rcases front with _ | ⟨first, front⟩
      · rw [at?_nil] at reached
        cases reached
        cases scalar
      · obtain ⟨rfl, behind⟩ := List.cons_prefix_cons.mp onTheWay
        rw [at?_cons_map] at reached
        rcases Option.bind_eq_some_iff.mp reached with ⟨value, found, onward⟩
        have shorter : front ≠ path := fun same => proper (congrArg (first :: ·) same)
        exact ⟨value, found, Or.inr ⟨front, last, behind, shorter, onward, scalar⟩⟩
  · rintro ⟨value, found, overrides⟩
    exact overrides.cons found

/-- Apart from mappings, an overlay holds what the stronger side holds, and what the weaker side
holds where the stronger side has no say. -/
theorem at?_overlayValue_eq_some_iff (unambiguous : value.Unambiguous)
    (scalar : result.isMapping = false) :
    at? path (overlayValue old value) = some result ↔
      at? path value = some result ∨ (old.bind (at? path) = some result ∧ ¬value.Overrides path) := by
  constructor
  · intro held
    induction path generalizing old value with
    | nil =>
        cases value with
        | map entries =>
            rw [at?_nil, Option.some.injEq] at held
            rw [← held, Mapping.isMapping_overlayValue_map] at scalar
            cases scalar
        | _ =>
            rw [Mapping.overlayValue_of_not_isMapping _ rfl] at held
            exact Or.inl held
    | cons key rest ih =>
        cases value with
        | map entries =>
            rw [at?_cons_overlayValue unambiguous.distinct] at held
            rw [at?_cons_map, overrides_cons_iff]
            rcases found : find? key entries with _ | below
            · rw [found] at held
              exact Or.inr ⟨held, by simp⟩
            · rw [found] at held
              rw [bind_at?_cons]
              rcases ih (unambiguous.of_find? found) held with upper | ⟨lower, silent⟩
              · exact Or.inl upper
              · exact Or.inr ⟨lower, by simpa using silent⟩
        | _ =>
            rw [Mapping.overlayValue_of_not_isMapping _ rfl] at held
            exact Or.inl held
  · rintro (upper | ⟨lower, silent⟩)
    · exact at?_overlayValue_of_stronger unambiguous upper scalar
    · exact at?_overlayValue_of_weaker unambiguous lower silent

/-- Where both sides hold mappings, an overlay holds the overlay of these. -/
theorem at?_overlayValue_of_mappings {below above : Mapping} {weaker : Value}
    (unambiguous : value.Unambiguous) (lower : at? path weaker = some (.map below))
    (upper : at? path value = some (.map above)) :
    at? path (overlayValue (some weaker) value) = some (.map (overlay below above)) := by
  induction path generalizing weaker value with
  | nil =>
      rw [at?_nil, Option.some.injEq] at lower upper
      rw [lower, upper, Mapping.overlayValue_map_map, at?_nil]
  | cons key rest ih =>
      cases value with
      | map entries =>
          rw [at?_cons_map] at upper
          rcases Option.bind_eq_some_iff.mp upper with ⟨middle, found, onward⟩
          rw [at?_cons] at lower
          rcases Option.bind_eq_some_iff.mp lower with ⟨old, foundOld, onwardOld⟩
          rw [at?_cons_overlayValue unambiguous.distinct, found]
          simp only [Option.bind_some, foundOld]
          exact ih (unambiguous.of_find? found) onwardOld onward
      | _ => cases upper

/-- Whatever a mapping is laid over, the result is an overlay on a mapping. -/
theorem exists_overlay_eq (distinct : Mapping.Distinct entries)
    (weaker : ∀ below, old = some below → below.Unambiguous) :
    ∃ below : Mapping, (Value.map below).Unambiguous ∧
      overlayValue old (.map entries) = .map (overlay below entries) := by
  have onNothing : ∃ below : Mapping, (Value.map below).Unambiguous ∧
      Value.map entries = .map (overlay below entries) := by
    refine ⟨[], .of_forall Mapping.distinct_nil nofun, ?_⟩
    rw [Mapping.overlay_empty distinct]
  rcases old with _ | below
  · rwa [Mapping.overlayValue_none]
  · rcases isMapping : below.isMapping
    · rwa [Mapping.overlayValue_of_old_not_isMapping _ isMapping]
    · rcases isMapping_eq_true_iff.mp isMapping with ⟨under, rfl⟩
      exact ⟨under, weaker _ rfl, Mapping.overlayValue_map_map under entries⟩

/-- Laying a value a second time over what it lies on changes nothing. -/
theorem overlayValue_absorbs (unambiguous : value.Unambiguous)
    (weaker : ∀ below, old = some below → below.Unambiguous) :
    overlayValue (some (overlayValue old value)) value = overlayValue old value := by
  induction value using induction_mapping generalizing old with
  | scalar value scalar =>
      rw [Mapping.overlayValue_of_not_isMapping _ scalar,
        Mapping.overlayValue_of_not_isMapping _ scalar]
  | mapping entries ih =>
      have distinct := unambiguous.distinct
      rcases exists_overlay_eq distinct weaker with ⟨below, under, isOverlay⟩
      rw [isOverlay, Mapping.overlayValue_map_map, Value.map.injEq]
      refine Mapping.eq_of_keys ((under.distinct.overlay _).overlay _) ?_ fun key => ?_
      · exact Mapping.keys_overlay_of_present distinct fun key absent =>
          (Mapping.find?_overlay_eq_none_iff.mp absent).2
      · rw [Mapping.find?_overlay distinct, Mapping.find?_overlay distinct]
        rcases found : find? key entries with _ | value
        · rfl
        · exact congrArg some (ih key value found (unambiguous.of_find? found)
            fun below isBelow => under.of_find? isBelow)

/-- Whether what stands in the second of three values between mappings in the first and the third
is a mapping, too. -/
def Between (lower middle upper : Value) : Prop :=
  ∀ path below held above, at? path lower = some (.map below) → at? path middle = some held →
    at? path upper = some (.map above) → held.isMapping = true

theorem Between.of_find? {below entries above : Mapping} {lower middle upper : Value}
    (between : Between (.map below) (.map entries) (.map above))
    (isLower : find? key below = some lower) (isMiddle : find? key entries = some middle)
    (isUpper : find? key above = some upper) : Between lower middle upper := by
  intro path under held top atLower atMiddle atUpper
  exact between (key :: path) under held top (by simpa [isLower] using atLower)
    (by simpa [isMiddle] using atMiddle) (by simpa [isUpper] using atUpper)

/-- Of three values it does not matter which two are overlaid first, as long as only mappings stand
between mappings. -/
theorem overlayValue_assoc {lower middle upper : Value} (unambiguousLower : lower.Unambiguous)
    (unambiguousMiddle : middle.Unambiguous) (unambiguousUpper : upper.Unambiguous)
    (between : Between lower middle upper) :
    overlayValue (some (overlayValue (some lower) middle)) upper =
      overlayValue (some lower) (overlayValue (some middle) upper) := by
  induction upper using induction_mapping generalizing lower middle with
  | scalar upper scalar =>
      rw [Mapping.overlayValue_of_not_isMapping _ scalar,
        Mapping.overlayValue_of_not_isMapping _ scalar,
        Mapping.overlayValue_of_not_isMapping _ scalar]
  | mapping above ih =>
      rcases isLower : lower.isMapping
      · rw [Mapping.overlayValue_of_old_not_isMapping _ isLower,
          Mapping.overlayValue_of_old_not_isMapping _ isLower]
      · rcases isMapping_eq_true_iff.mp isLower with ⟨below, rfl⟩
        have isMiddle := between [] below middle above (at?_nil _) (at?_nil _) (at?_nil _)
        rcases isMapping_eq_true_iff.mp isMiddle with ⟨entries, rfl⟩
        have distinct := unambiguousMiddle.distinct
        have distinctUpper := unambiguousUpper.distinct
        have distinctBoth := distinct.overlay above
        simp only [Mapping.overlayValue_map_map, Value.map.injEq]
        refine Mapping.eq_of_keys ((unambiguousLower.distinct.overlay _).overlay _) ?_ fun key => ?_
        · exact Mapping.keys_overlay_overlay distinct distinctUpper
        · rw [Mapping.find?_overlay distinctUpper, Mapping.find?_overlay distinct,
            Mapping.find?_overlay distinctBoth, Mapping.find?_overlay distinctUpper]
          rcases inUpper : find? key above with _ | top
          · rfl
          · rcases inMiddle : find? key entries with _ | centre
            · simp
            · rcases inLower : find? key below with _ | bottom
              · simp
              · exact congrArg some (ih key top inUpper (unambiguousLower.of_find? inLower)
                  (unambiguousMiddle.of_find? inMiddle) (unambiguousUpper.of_find? inUpper)
                  (between.of_find? inLower inMiddle inUpper))

/-- Whether no path leads to a mapping in one of two values and to something else in the other. -/
def Agree (value other : Value) : Prop :=
  ∀ path held found, at? path value = some held → at? path other = some found →
    held.isMapping = found.isMapping

theorem Agree.between {lower middle : Value} (agree : Agree lower middle) (upper : Value) :
    Between lower middle upper := by
  intro path below held above atLower atMiddle _
  exact (agree path _ held atLower atMiddle).symm

theorem agree_of_not_isMapping {value other : Value} (scalar : value.isMapping = false)
    (otherScalar : other.isMapping = false) : Agree value other := by
  intro path held found reached reachedOther
  cases path with
  | nil =>
      rw [at?_nil, Option.some.injEq] at reached reachedOther
      rw [← reached, ← reachedOther, scalar, otherScalar]
  | cons key rest =>
      rw [at?_cons_of_not_isMapping key rest scalar] at reached
      cases reached

/-- Mappings agree if what they hold at the same keys agrees. -/
theorem agree_of_forall {entries others : Mapping}
    (below : ∀ entry ∈ entries, ∀ other ∈ others, entry.1.same other.1 = true →
      Agree entry.2 other.2) : Agree (.map entries) (.map others) := by
  intro path held found reached reachedOther
  cases path with
  | nil =>
      rw [at?_nil, Option.some.injEq] at reached reachedOther
      rw [← reached, ← reachedOther]
      rfl
  | cons key rest =>
      rw [at?_cons_map] at reached reachedOther
      rcases Option.bind_eq_some_iff.mp reached with ⟨value, isValue, onward⟩
      rcases Option.bind_eq_some_iff.mp reachedOther with ⟨other, isOther, onwardOther⟩
      rcases Mapping.mem_of_find? isValue with ⟨first, alike, member⟩
      rcases Mapping.mem_of_find? isOther with ⟨second, alikeOther, memberOther⟩
      have same : first.same second = true := by
        rw [Key.same_congr_left alike, Key.same_comm, alikeOther]
      exact below _ member _ memberOther same rest held found onward onwardOther

end Value

namespace Mapping

/-- The laws of overlaying mappings without ambiguous keys: what stands at each path, the order of
the keys, what overlaying nothing or the same again does, and when the order of overlaying does not
matter. -/
theorem overlay_laws {lower middle upper : Mapping}
    (unambiguousLower : (Value.map lower).Unambiguous)
    (unambiguousMiddle : (Value.map middle).Unambiguous)
    (unambiguousUpper : (Value.map upper).Unambiguous) :
    (∀ path value, value.isMapping = false →
      ((Value.map (overlay lower middle)).at? path = some value ↔
        (Value.map middle).at? path = some value ∨
          ((Value.map lower).at? path = some value ∧ ¬(Value.map middle).Overrides path))) ∧
    (∀ path below above, (Value.map lower).at? path = some (.map below) →
      (Value.map middle).at? path = some (.map above) →
        ∃ merged, (Value.map (overlay lower middle)).at? path = some (.map merged) ∧
          keys merged = keys below ++ (keys above).filter fun key => (find? key below).isNone) ∧
    overlay [] middle = middle ∧ overlay lower [] = lower ∧ overlay lower lower = lower ∧
    overlay (overlay lower middle) middle = overlay lower middle ∧
    (Value.Agree (.map lower) (.map middle) → Value.Agree (.map lower) (.map upper) →
      Value.Agree (.map middle) (.map upper) →
        overlay (overlay lower middle) upper = overlay lower (overlay middle upper)) := by
  refine ⟨?_, ?_, overlay_empty unambiguousMiddle.distinct, overlay_nil lower, ?_, ?_, ?_⟩
  · intro path value scalar
    rw [← overlayValue_map_map, Value.at?_overlayValue_eq_some_iff unambiguousMiddle scalar]
    rfl
  · intro path below above inLower inMiddle
    have merged := Value.at?_overlayValue_of_mappings unambiguousMiddle inLower inMiddle
    rw [overlayValue_map_map] at merged
    exact ⟨_, merged, keys_overlay (unambiguousMiddle path above inMiddle) below⟩
  · have absorbs := @Value.overlayValue_absorbs none _ unambiguousLower nofun
    rwa [overlayValue_none, overlayValue_map_map, Value.map.injEq] at absorbs
  · have absorbs := @Value.overlayValue_absorbs (some (.map lower)) _ unambiguousMiddle
      fun below isLower => by
        cases isLower
        exact unambiguousLower
    rwa [overlayValue_map_map, overlayValue_map_map, Value.map.injEq] at absorbs
  · intro agree _ _
    have associates := Value.overlayValue_assoc unambiguousLower unambiguousMiddle unambiguousUpper
      (agree.between _)
    simpa only [overlayValue_map_map, Value.map.injEq] using associates

/-- Settings for a log. -/
def plainLog : Mapping :=
  [(.str "log", .map [(.str "level", .str "INFO"), (.int 1, .str "one")]), (.str "name", .str "etl")]

/-- Other settings, one of them under a key that denotes the same as another key. -/
def markedLog : Mapping :=
  [(.str "log", .map [(.bool true, .str "uno"), (.str "colour", .null)])]

/-- Settings of which one is new and one is not. -/
def verboseLog : Mapping :=
  [(.str "extra", .null), (.str "log", .map [(.str "level", .str "DEBUG")])]

theorem overlay_laws_log :
    (Value.map plainLog).Unambiguous ∧ (Value.map markedLog).Unambiguous ∧
      (Value.map verboseLog).Unambiguous ∧ Value.Agree (.map plainLog) (.map markedLog) ∧
      Value.Agree (.map plainLog) (.map verboseLog) ∧
      Value.Agree (.map markedLog) (.map verboseLog) ∧
      (Value.map (overlay plainLog markedLog)).at? [.str "log", .int 1] = some (.str "uno") ∧
      overlay (overlay plainLog markedLog) verboseLog =
        overlay plainLog (overlay markedLog verboseLog) := by
  have text : ∀ content, (Value.str content).Unambiguous := fun _ =>
    Value.unambiguous_of_not_isMapping rfl
  have null : Value.null.Unambiguous := Value.unambiguous_of_not_isMapping rfl
  have texts : ∀ content other, Value.Agree (.str content) (.str other) := fun _ _ =>
    Value.agree_of_not_isMapping rfl rfl
  have textNull : ∀ content, Value.Agree (.str content) .null := fun _ =>
    Value.agree_of_not_isMapping rfl rfl
  have plain : (Value.map plainLog).Unambiguous := by
    refine .of_forall (by decide) (List.forall_mem_cons.mpr ⟨?_, ?_⟩)
    · exact .of_forall (by decide) (by simp [text])
    · simp [text]
  have marked : (Value.map markedLog).Unambiguous := by
    refine .of_forall (by decide) (List.forall_mem_singleton.mpr ?_)
    exact .of_forall (by decide) (by simp [text, null])
  have verbose : (Value.map verboseLog).Unambiguous := by
    refine .of_forall (by decide) (List.forall_mem_cons.mpr ⟨null, ?_⟩)
    exact List.forall_mem_singleton.mpr (.of_forall (by decide) (by simp [text]))
  have plainMarked : Value.Agree (.map plainLog) (.map markedLog) := by
    have inner : Value.Agree (.map [(.str "level", .str "INFO"), (.int 1, .str "one")])
        (.map [(.bool true, .str "uno"), (.str "colour", .null)]) :=
      Value.agree_of_forall (by simp [texts, textNull])
    exact Value.agree_of_forall (by simpa [plainLog, markedLog] using inner)
  have plainVerbose : Value.Agree (.map plainLog) (.map verboseLog) := by
    have inner : Value.Agree (.map [(.str "level", .str "INFO"), (.int 1, .str "one")])
        (.map [(.str "level", .str "DEBUG")]) := Value.agree_of_forall (by simp [texts])
    exact Value.agree_of_forall (by simpa [plainLog, verboseLog] using inner)
  have markedVerbose : Value.Agree (.map markedLog) (.map verboseLog) := by
    have inner : Value.Agree (.map [(.bool true, .str "uno"), (.str "colour", .null)])
        (.map [(.str "level", .str "DEBUG")]) := Value.agree_of_forall (by simp [texts])
    exact Value.agree_of_forall (by simpa [markedLog, verboseLog] using inner)
  rcases overlay_laws plain marked verbose with ⟨paths, -, -, -, -, -, associates⟩
  refine ⟨plain, marked, verbose, plainMarked, plainVerbose, markedVerbose, ?_,
    associates plainMarked plainVerbose markedVerbose⟩
  exact (paths [.str "log", .int 1] (.str "uno") rfl).mpr (Or.inl rfl)

end Mapping

end SqlPipeline
