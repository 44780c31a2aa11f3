import KvrocksOperator.Cluster.Kvrocks
import KvrocksOperator.Cluster.Topology

/-!
# What the controller says of a node

`ensureSetNodeID` copies id, role, master and slots from the controller's shard to the nodes of the matrix, which it
recognises by their addresses.
-/

namespace KvrocksOperator.Cluster

open Interaction

/-- Every node takes over what the controller says of it, as `ensureSetNodeID` does. -/
def identifyAll (shardData : ℕ → ShardData) (matrix : Matrix) : Matrix :=
  matrix.zipIdx.map fun (members, shard) ↦ members.map (identify (shardData shard))

theorem identify_migrate (shardData : ShardData) (node : Node) : (identify shardData node).migrate = node.migrate := by
  unfold identify
  split
  · rfl
  · split_ifs <;> rfl

theorem ip_of_stub_eq {first second : Node} (h : stub first = stub second) : first.ip = second.ip := by
  have hip : (stub first).ip = (stub second).ip := by rw [h]
  exact hip

theorem podIndex_of_stub_eq {first second : Node} (h : stub first = stub second) :
    first.podIndex = second.podIndex := by
  have hindex : (stub first).podIndex = (stub second).podIndex := by rw [h]
  exact hindex

theorem stub_identify (shardData : ShardData) (node : Node) : stub (identify shardData node) = stub node := by
  unfold identify
  split
  · rfl
  · split_ifs <;> rfl

/-- The role that the controller gives to a node depends only on its address, and on its own role if the controller
does not know it. -/
theorem identify_role_congr {first second : ShardData} (h : first.nodes = second.nodes)
    {node other : Node} (hip : node.ip = other.ip) (hrole : node.role = other.role) :
    (identify first node).role = (identify second other).role := by
  unfold identify
  rw [h, hip]
  cases second.nodes.find? fun shard ↦ simplyIp shard.addr == other.ip with
  | none => exact hrole
  | some found =>
    by_cases hmaster : found.role = .master
    · simp [hmaster]
    · simp [hmaster]

/-- Identifying a node a second time does not change its role. -/
theorem identify_role_idem (members : List Controller.Node) (first second : List String) (node : Node) :
    (identify ⟨members, second⟩ (identify ⟨members, first⟩ node)).role = (identify ⟨members, first⟩ node).role := by
  cases hfind : members.find? fun shard ↦ simplyIp shard.addr == node.ip with
  | none => simp [identify, hfind]
  | some found => by_cases hmaster : found.role = .master <;> simp [identify, hfind, hmaster]

theorem getElem?_identifyAll (shardData : ℕ → ShardData) (matrix : Matrix) (shard : ℕ) :
    (identifyAll shardData matrix)[shard]? = matrix[shard]?.map (·.map (identify (shardData shard))) := by
  unfold identifyAll
  rw [List.getElem?_map, List.getElem?_zipIdx, Nat.zero_add, Option.map_map]
  rfl

/-! ## Rules -/

section Rules

variable {W : Type} {M : Meaning operator W} {fail inv : W → Prop} {world : W} {instance_ : KVRocks} {index : ℕ}

theorem labelNode_yields_of {node : Node}
    (h : (updatePodLabels (podKey instance_ index node) node.role).Yields M fail (fun _ ↦ inv) world) :
    (labelNode instance_ index node).Yields M fail (fun result final ↦ result = node ∧ inv final) world :=
  h.bind fun _ _ hfinal ↦ ends_pure ⟨rfl, hfinal⟩

/-- The controller knows the shard and its master, and every node can be labelled. -/
theorem identifyShard_yields_of {client : Controller.Client} {nodes : List Node} {shard : ShardData}
    (hget : (Controller.getNodes client index).Yields M fail (fun result final ↦ result = some shard ∧ inv final) world)
    (hmaster : masterID shard.nodes ≠ "")
    (hlabels : ∀ node ∈ nodes, ∀ later, inv later → (labelNode instance_ index (identify shard node)).Yields M fail
      (fun result final ↦ result = identify shard node ∧ inv final) later) :
    (identifyShard client instance_ (nodes, index)).Yields M fail
      (fun result final ↦ result = nodes.map (identify shard) ∧ inv final) world := by
  apply hget.bind
  rintro _ later ⟨rfl, hlater⟩
  change (if masterID shard.nodes = "" then _ else _ : Go _).Yields _ _ _ _
  rw [if_neg hmaster]
  exact yields_mapEach_image (identify shard) inv hlater hlabels

/-- Every shard of the matrix can be identified. -/
theorem ensureSetNodeID_yields_of {h : Handler} {shardData : ℕ → ShardData} (inv : W → Prop) (hinv : inv world)
    (hshards : ∀ (index : ℕ) nodes, h.stsNodes[index]? = some nodes → ∀ later, inv later →
      (identifyShard h.controllerClient h.instance_ (nodes, index)).Yields M fail
        (fun result final ↦ result = nodes.map (identify (shardData index)) ∧ inv final) later) :
    ensureSetNodeID.Yields M fail (fun _ later final ↦
      later = { h with stsNodes := identifyAll shardData h.stsNodes } ∧ inv final) h world := by
  have hloop : (mapEach (identifyShard h.controllerClient h.instance_) h.stsNodes.zipIdx).Yields M fail
      (fun results final ↦ results = identifyAll shardData h.stsNodes ∧ inv final) world :=
    yields_mapEach_image (fun entry ↦ entry.1.map (identify (shardData entry.2))) inv hinv
      fun entry hentry ↦ hshards entry.2 entry.1 (List.mem_zipIdx_iff_getElem?.mp hentry)
  apply ends_get_bind
  apply ends_lift_bind hloop
  rintro _ final ⟨rfl, hfinal⟩
  exact ends_modify ⟨rfl, hfinal⟩

end Rules

end KvrocksOperator.Cluster
