import SqlPipeline.Proofs.Graph.Chain
import SqlPipeline.Sql.Recovery

/-!
# The chain of a list of stages

Recovery turns a list of stages into nodes that are named after their kind and their place and edges
that are named after their place. Because the places are counted over all kinds, no two nodes share
an id (`place_eq_of_chainId_eq`), and the graph is a chain (`isChain_chain`), whatever the stages.
-/

namespace SqlPipeline

namespace Graph

/-- The id of a node of a kind at a place. -/
def chainId (kind : StageKind) (place : Nat) : String :=
  kind.label ++ "-" ++ toString place

theorem hyphen_not_mem_label (kind : StageKind) : '-' ∉ kind.label.toList := by
  cases kind <;> decide

theorem hyphen_not_mem_toDigits (place : Nat) : '-' ∉ Nat.toDigits 10 place := by
  intro member
  have digit := Nat.isDigit_of_mem_toDigits (by decide) (by decide) member
  exact absurd digit (by decide)

theorem toList_chainId (kind : StageKind) (place : Nat) :
    (chainId kind place).toList = kind.label.toList ++ '-' :: Nat.toDigits 10 place := by
  simp only [chainId, String.toList_append, List.append_assoc]
  rw [← Nat.toList_repr]
  rfl

/-- The place is the number behind the hyphen. -/
theorem place_eq_of_chainId_eq {kind other : StageKind} {place otherPlace : Nat}
    (same : chainId kind place = chainId other otherPlace) : place = otherPlace := by
  have texts := congrArg String.toList same
  rw [toList_chainId, toList_chainId, List.append_cons_inj_of_notMem (hyphen_not_mem_label kind)
    (hyphen_not_mem_toDigits place)] at texts
  have numbers := congrArg (Nat.ofDigitChars 10 · 0) texts.2.2
  simpa only [Nat.ofDigitChars_ten_toDigits] using numbers

variable (settings : Settings)

theorem chainNodes_cons (first : Nat) (stage : Stage) (stages : List Stage) :
    chainNodes settings first (stage :: stages) =
      ⟨chainId stage.kind first, stage, settings.positionFor stage.kind⟩ ::
        chainNodes settings (first + 1) stages := rfl

/-- The node at a place of a chain. -/
theorem getElem?_chainNodes (first : Nat) (stages : List Stage) (place : Nat) :
    (chainNodes settings first stages)[place]? = stages[place]?.map fun stage =>
      ⟨chainId stage.kind (first + place), stage, settings.positionFor stage.kind⟩ := by
  induction stages generalizing first place with
  | nil => rfl
  | cons stage stages ih =>
      rw [chainNodes_cons]
      cases place with
      | zero => rfl
      | succ place =>
          rw [List.getElem?_cons_succ, List.getElem?_cons_succ, ih]
          congr 1
          funext stage
          rw [Nat.add_assoc, Nat.add_comm 1]

theorem map_stage_chainNodes (first : Nat) (stages : List Stage) :
    (chainNodes settings first stages).map Node.stage = stages := by
  induction stages generalizing first with
  | nil => rfl
  | cons stage stages ih => rw [chainNodes_cons, List.map_cons, ih]

/-- The edge at a place of a chain leads from the node at that place to the next. -/
theorem getElem?_chainEdges (first : Nat) (nodes : List Node) (place : Nat) :
    (chainEdges first nodes)[place]? = nodes[place]?.bind fun node =>
      nodes[place + 1]?.map fun next =>
        { id := "edge-" ++ toString (first + place), source := node.id, target := next.id } := by
  induction nodes generalizing first place with
  | nil => rfl
  | cons node rest ih =>
      rcases rest with _ | ⟨next, rest⟩
      · cases place <;> rfl
      · rw [chainEdges]
        cases place with
        | zero => rfl
        | succ place =>
            rw [List.getElem?_cons_succ, ih, Nat.add_assoc, Nat.add_comm 1]
            rfl

theorem length_chainEdges (first : Nat) (node : Node) (rest : List Node) :
    (chainEdges first (node :: rest)).length = rest.length := by
  induction rest generalizing first node with
  | nil => rfl
  | cons next rest ih => rw [chainEdges, List.length_cons, ih, List.length_cons]

theorem exists_chainEdge_iff (first : Nat) (nodes : List Node) (id next : String) :
    (∃ edge ∈ chainEdges first nodes, edge.source = id ∧ edge.target = next) ↔
      [id, next] <:+: nodes.map Node.id := by
  induction nodes generalizing first with
  | nil => simp [chainEdges]
  | cons node rest ih =>
      rcases rest with _ | ⟨other, rest⟩
      · simp [chainEdges, List.infix_cons_iff, List.cons_prefix_cons]
      · rw [chainEdges, List.map_cons, List.infix_cons_iff, ← ih (first + 1)]
        simp [List.cons_prefix_cons, eq_comm]

theorem exists_place_of_mem_chainNodes {first : Nat} {stages : List Stage} {node : Node}
    (member : node ∈ chainNodes settings first stages) :
    ∃ place, node.id = chainId node.kind (first + place) := by
  rcases List.mem_iff_getElem?.mp member with ⟨place, found⟩
  rw [getElem?_chainNodes, Option.map_eq_some_iff] at found
  rcases found with ⟨stage, -, rfl⟩
  exact ⟨place, rfl⟩

theorem nodup_map_id_chainNodes (first : Nat) (stages : List Stage) :
    ((chainNodes settings first stages).map Node.id).Nodup := by
  induction stages generalizing first with
  | nil => exact List.nodup_nil
  | cons stage stages ih =>
      rw [chainNodes_cons, List.map_cons, List.nodup_cons]
      refine ⟨?_, ih (first + 1)⟩
      rw [List.mem_map]
      rintro ⟨node, member, same⟩
      rcases exists_place_of_mem_chainNodes settings member with ⟨place, named⟩
      have later := place_eq_of_chainId_eq (named.symm.trans same)
      omega

theorem mem_map_id_of_pair {nodes : List Node} {id next : String}
    (pair : [id, next] <:+: nodes.map Node.id) :
    id ∈ nodes.map Node.id ∧ next ∈ nodes.map Node.id :=
  ⟨pair.subset (by simp), pair.subset (by simp)⟩

/-- The graph of a list of stages is a chain. -/
theorem isChain_chain (stages : List Stage) :
    (chain settings stages).IsChain (chainNodes settings 0 stages) where
  perm := .refl _
  distinct := nodup_map_id_chainNodes settings 0 stages
  kept_iff := by
    intro id next
    rw [← exists_chainEdge_iff 0]
    constructor
    · rintro ⟨edge, member, -, ends⟩
      exact ⟨edge, member, ends⟩
    · rintro ⟨edge, member, ends⟩
      have pair := (exists_chainEdge_iff 0 _ _ _).mp ⟨edge, member, rfl, rfl⟩
      have known := mem_map_id_of_pair pair
      refine ⟨edge, member, ?_, ends⟩
      rw [connects, Bool.and_eq_true, hasNode_iff_mem_ids, hasNode_iff_mem_ids, mem_ids_index,
        mem_ids_index]
      exact known

end Graph

end SqlPipeline
