import SqlPipeline.Proofs.Value.Overlay

/-!
# Layers of mappings

Overlaying several mappings resolves them as layers: what a layer holds at a path stands unless a
stronger layer has its say there, and whatever stands comes from a layer (`Resolves`). Which
overlays are made first does not matter for this: overlaying one resolved stack on another resolves
the two stacks put together.
-/

namespace SqlPipeline

namespace Mapping

/-- A mapping resolves layers, the strongest first. -/
structure Resolves (layers : List Mapping) (result : Mapping) : Prop where
  /-- What a layer holds stands, unless it is a mapping or a stronger layer has its say. -/
  precedence : ∀ (before : List Mapping) (layer : Mapping) (after : List Mapping)
    (path : List Key) (value : Value),
    layers = before ++ layer :: after → (Value.map layer).at? path = some value →
      value.isMapping = false → (∀ stronger ∈ before, ¬(Value.map stronger).Overrides path) →
        (Value.map result).at? path = some value
  /-- What stands comes from a layer, unless it is a mapping. -/
  origin : ∀ (path : List Key) (value : Value), (Value.map result).at? path = some value →
    value.isMapping = false → ∃ layer ∈ layers, (Value.map layer).at? path = some value
  /-- Where something stands a layer holds something. -/
  presence : ∀ path : List Key, (Value.map result).at? path ≠ none →
    ∃ layer ∈ layers, (Value.map layer).at? path ≠ none

namespace Resolves

variable {layers others : List Mapping} {result other : Mapping}

theorem single (layer : Mapping) : Resolves [layer] layer where
  precedence := by
    intro before one after path value isLayers held _ _
    obtain ⟨rfl, rfl, rfl⟩ : before = [] ∧ one = layer ∧ after = [] := by
      cases before with
      | nil => simpa [eq_comm] using isLayers
      | cons first rest => simp at isLayers
    exact held
  origin := fun path value held _ => ⟨layer, List.mem_singleton_self _, held⟩
  presence := fun path held => ⟨layer, List.mem_singleton_self _, held⟩

/-- A result has its say only where a layer has its say. -/
theorem overrides (resolves : Resolves layers result) {path : List Key}
    (speaks : (Value.map result).Overrides path) :
    ∃ layer ∈ layers, (Value.map layer).Overrides path := by
  rcases speaks with present | ⟨front, last, onTheWay, proper, reached, scalar⟩
  · rcases resolves.presence path present with ⟨layer, member, held⟩
    exact ⟨layer, member, Or.inl held⟩
  · rcases resolves.origin front last reached scalar with ⟨layer, member, held⟩
    exact ⟨layer, member, Or.inr ⟨front, last, onTheWay, proper, held, scalar⟩⟩

/-- Overlaying a resolved stack on another resolves the first stack on top of the other. -/
theorem overlay (stronger : Resolves layers result) (weaker : Resolves others other)
    (unambiguous : (Value.map result).Unambiguous) :
    Resolves (layers ++ others) (Mapping.overlay other result) where
  precedence := by
    intro before layer after path value isLayers held scalar silent
    rw [← overlayValue_map_map]
    rcases List.append_eq_append_iff.mp isLayers with ⟨early, rfl, isOthers⟩ | ⟨late, rfl, isRest⟩
    · refine Value.at?_overlayValue_of_weaker unambiguous ?_ fun speaks => ?_
      · exact weaker.precedence early layer after path value isOthers held scalar
          fun above member => silent above (List.mem_append_right _ member)
      · rcases stronger.overrides speaks with ⟨above, member, overrides⟩
        exact silent above (List.mem_append_left _ member) overrides
    · cases late with
      | nil =>
          refine Value.at?_overlayValue_of_weaker unambiguous ?_ fun speaks => ?_
          · exact weaker.precedence [] layer after path value isRest.symm held scalar nofun
          · rcases stronger.overrides speaks with ⟨above, member, overrides⟩
            exact silent above (by simpa using member) overrides
      | cons first rest =>
          obtain ⟨rfl, -⟩ := List.cons.inj isRest
          exact Value.at?_overlayValue_of_stronger unambiguous
            (stronger.precedence before layer rest path value rfl held scalar silent) scalar
  origin := by
    intro path value held scalar
    rw [← overlayValue_map_map] at held
    rcases Value.of_at?_overlayValue unambiguous held with upper | lower | ⟨isMapping, -⟩
    · rcases stronger.origin path value upper scalar with ⟨layer, member, held⟩
      exact ⟨layer, List.mem_append_left _ member, held⟩
    · rcases weaker.origin path value lower scalar with ⟨layer, member, held⟩
      exact ⟨layer, List.mem_append_right _ member, held⟩
    · rw [scalar] at isMapping
      cases isMapping
  presence := by
    intro path present
    rcases Option.ne_none_iff_exists'.mp present with ⟨value, held⟩
    rw [← overlayValue_map_map] at held
    have sides : (Value.map result).at? path ≠ none ∨ (Value.map other).at? path ≠ none := by
      rcases Value.of_at?_overlayValue unambiguous held with upper | lower | ⟨-, upper⟩
      · exact Or.inl (by simp [upper])
      · exact Or.inr fun absent => Option.some_ne_none value (lower.symm.trans absent)
      · exact Or.inl upper
    rcases sides with upper | lower
    · rcases stronger.presence path upper with ⟨layer, member, held⟩
      exact ⟨layer, List.mem_append_left _ member, held⟩
    · rcases weaker.presence path lower with ⟨layer, member, held⟩
      exact ⟨layer, List.mem_append_right _ member, held⟩

end Resolves

/-- A mapping over others, of which the earlier one is stronger. -/
def atop (imports : List Mapping) (merged : Mapping) : Mapping :=
  imports.foldl (fun merged imported => overlay imported merged) merged

theorem atop_cons (imported : Mapping) (imports : List Mapping) (merged : Mapping) :
    atop (imported :: imports) merged = atop imports (overlay imported merged) := rfl

theorem unambiguous_overlay {weaker stronger : Mapping} (lower : (Value.map weaker).Unambiguous)
    (upper : (Value.map stronger).Unambiguous) :
    (Value.map (overlay weaker stronger)).Unambiguous := by
  rw [← overlayValue_map_map]
  refine upper.overlayValue ?_
  rintro below isBelow
  cases isBelow
  exact lower

theorem unambiguous_atop {imports : List Mapping} {merged : Mapping}
    (upper : (Value.map merged).Unambiguous)
    (lower : ∀ imported ∈ imports, (Value.map imported).Unambiguous) :
    (Value.map (atop imports merged)).Unambiguous := by
  induction imports generalizing merged with
  | nil => exact upper
  | cons first rest ih =>
      exact ih (unambiguous_overlay (lower first List.mem_cons_self) upper)
        fun imported member => lower imported (List.mem_cons_of_mem _ member)

/-- A resolved stack over more mappings resolves the longer stack. -/
theorem Resolves.atop {layers imports : List Mapping} {merged : Mapping}
    (resolves : Resolves layers merged) (upper : (Value.map merged).Unambiguous)
    (lower : ∀ imported ∈ imports, (Value.map imported).Unambiguous) :
    Resolves (layers ++ imports) (atop imports merged) := by
  induction imports generalizing layers merged with
  | nil => simpa [Mapping.atop] using resolves
  | cons first rest ih =>
      have isFirst := lower first List.mem_cons_self
      rw [atop_cons, List.append_cons]
      exact ih (resolves.overlay (single first) upper) (unambiguous_overlay isFirst upper)
        fun imported member => lower imported (List.mem_cons_of_mem _ member)

/-- A name that the others do not have is erased from what lies over them. -/
theorem erase_atop {name : String} {imports : List Mapping} (merged : Mapping)
    (absent : ∀ imported ∈ imports, find? (.str name) imported = none) :
    erase name (atop imports merged) = atop imports (erase name merged) := by
  induction imports generalizing merged with
  | nil => rfl
  | cons first rest ih =>
      have later := ih (overlay first merged)
        fun imported member => absent imported (List.mem_cons_of_mem _ member)
      rw [atop_cons, atop_cons, later, erase_overlay,
        erase_of_find?_eq_none (absent first List.mem_cons_self)]

/-- Nothing is found in a mapping over others that is found in none of them. -/
theorem find?_atop_eq_none_iff {key : Key} {imports : List Mapping} {merged : Mapping} :
    find? key (atop imports merged) = none ↔
      find? key merged = none ∧ ∀ imported ∈ imports, find? key imported = none := by
  induction imports generalizing merged with
  | nil => simp [atop]
  | cons first rest ih =>
      rw [atop_cons, ih, find?_overlay_eq_none_iff, List.forall_mem_cons, and_assoc]
      tauto

/-- Where the others have nothing a mapping over them has what it had. -/
theorem find?_atop {key : Key} {imports : List Mapping} {merged : Mapping}
    (upper : (Value.map merged).Unambiguous)
    (lower : ∀ imported ∈ imports, (Value.map imported).Unambiguous)
    (absent : ∀ imported ∈ imports, find? key imported = none) :
    find? key (atop imports merged) = find? key merged := by
  induction imports generalizing merged with
  | nil => rfl
  | cons first rest ih =>
      have isFirst := lower first List.mem_cons_self
      rw [atop_cons, ih (unambiguous_overlay isFirst upper)
        (fun imported member => lower imported (List.mem_cons_of_mem _ member))
        (fun imported member => absent imported (List.mem_cons_of_mem _ member)),
        find?_overlay upper.distinct, absent first List.mem_cons_self]
      cases find? key merged <;> simp

end Mapping

end SqlPipeline
