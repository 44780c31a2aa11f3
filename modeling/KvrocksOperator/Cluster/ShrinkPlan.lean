import KvrocksOperator.Cluster.Victims
import KvrocksOperator.Cluster.Topology
import KvrocksOperator.Cluster.Rules
import KvrocksOperator.Controllers.Footprint

/-!
# What `ensureShrink` persists

`getReserveIndex` collects the ordinals of the nodes that go and then uses them as positions of the list.
`ensureStatusTopoMsg` in turn names the pod of a record after its position.  Both are right as long as the ordinals
are 0, 1, 2 and so on, which is no longer so after a slave below the highest ordinal has been removed.
-/

namespace KvrocksOperator.Cluster

open Interaction Resources

/-! ## Positions and ordinals -/

section Positions

variable {nodes : List Node} {node other : Node} {position position' : ℕ}

theorem Ascending.podIndex_lt (h : Ascending nodes) (hnode : nodes[position]? = some node)
    (hother : nodes[position']? = some other) (hlt : position < position') : node.podIndex < other.podIndex := by
  obtain ⟨hbound, rfl⟩ := List.getElem?_eq_some_iff.mp hnode
  obtain ⟨hbound', rfl⟩ := List.getElem?_eq_some_iff.mp hother
  exact List.pairwise_iff_getElem.mp h position position' hbound hbound' hlt

/-- Two nodes are at least as far apart in their ordinals as they are in the list. -/
theorem Ascending.add_le_podIndex (h : Ascending nodes) {distance : ℕ} (hnode : nodes[position]? = some node)
    (hother : nodes[position + distance]? = some other) : node.podIndex + distance ≤ other.podIndex := by
  induction distance generalizing other with
  | zero =>
    have hsame : node = other := Option.some.inj (hnode.symm.trans hother)
    exact hsame ▸ le_rfl
  | succ distance ih =>
    have hbound : position + distance < nodes.length := by
      have := (List.getElem?_eq_some_iff.mp hother).1
      omega
    have hstep := h.podIndex_lt (List.getElem?_eq_getElem hbound) hother (by omega)
    have hrest := ih (List.getElem?_eq_getElem hbound)
    omega

theorem Ascending.le_podIndex (h : Ascending nodes) (hnode : nodes[position]? = some node) :
    position ≤ node.podIndex := by
  have hbound : 0 < nodes.length := by
    have := (List.getElem?_eq_some_iff.mp hnode).1
    omega
  have hfirst := h.add_le_podIndex (List.getElem?_eq_getElem hbound)
    (show nodes[0 + position]? = some node by rwa [Nat.zero_add])
  omega

/-- Below a node that stands at the position of its ordinal every node does. -/
theorem Ascending.podIndex_eq_of_le (h : Ascending nodes) (hnode : nodes[position]? = some node)
    (hother : nodes[position']? = some other) (heq : other.podIndex = position') (hle : position ≤ position') :
    node.podIndex = position := by
  have hbelow := h.le_podIndex hnode
  obtain ⟨distance, rfl⟩ := Nat.exists_eq_add_of_le hle
  have habove := h.add_le_podIndex hnode hother
  omega

/-- The ordinals are those from 0 on. -/
theorem map_podIndex_eq_range_iff : nodes.map (·.podIndex) = List.range nodes.length ↔
      ∀ (position : ℕ) (node : Node), nodes[position]? = some node → node.podIndex = position := by
  constructor
  · intro h position node hnode
    have hget := congrArg (·[position]?) h
    simp only [List.getElem?_map, hnode, Option.map_some,
      List.getElem?_range (List.getElem?_eq_some_iff.mp hnode).1, Option.some.injEq] at hget
    exact hget
  · intro h
    apply List.ext_getElem?
    intro position
    rw [List.getElem?_map]
    by_cases hbound : position < nodes.length
    · rw [List.getElem?_range hbound, List.getElem?_eq_getElem hbound, Option.map_some,
        h position _ (List.getElem?_eq_getElem hbound)]
    · rw [List.getElem?_eq_none (not_lt.mp hbound), List.getElem?_eq_none (by simpa using hbound)]
      rfl

/-- The slave with the highest ordinal is among the victims. -/
theorem Ascending.exists_victim (h : Ascending nodes) {count : ℕ} (hcount : 0 < count) (hnode : node ∈ nodes)
    (hrole : node.role ≠ .master) : ∃ victim ∈ victims count nodes, node.podIndex ≤ victim.podIndex := by
  have hmem : node ∈ nodes.reverse.filter fun node ↦ decide (node.role ≠ .master) :=
    List.mem_filter.mpr ⟨List.mem_reverse.mpr hnode, decide_eq_true hrole⟩
  have hsorted : (nodes.reverse.filter fun node ↦ decide (node.role ≠ .master)).Pairwise
      fun first second ↦ second.podIndex < first.podIndex := (List.pairwise_reverse.mpr h).filter _
  rw [victims]
  cases hslaves : nodes.reverse.filter fun node ↦ decide (node.role ≠ .master) with
  | nil =>
    rw [hslaves] at hmem
    cases hmem
  | cons highest slaves =>
    rw [hslaves] at hmem hsorted
    refine ⟨highest, ?_, ?_⟩
    · obtain ⟨count, rfl⟩ := Nat.exists_eq_succ_of_ne_zero hcount.ne'
      exact List.mem_cons_self
    · rcases List.mem_cons.mp hmem with rfl | hlower
      · exact le_rfl
      · exact (List.rel_of_pairwise_cons hsorted hlower).le

end Positions

namespace ShrinkPlan

/-! ## The nodes that `getReserveIndex` leaves -/

/-- The list with the victims set to `nil`. -/
def withoutVictims (count : ℕ) (nodes : List Node) : List (Option Node) :=
  nodes.map fun node ↦ if node ∈ victims count nodes then none else some node

/-- How many nodes of a shard are to go. -/
def surplus (replicas : ℤ) (nodes : List Node) : ℕ := (nodes.length - replicas).toNat

/-- `getReserveIndex` returns, and has set to `nil` the victims and nothing else. -/
def ErasesVictims (replicas : ℤ) (nodes : List Node) : Prop :=
  ∃ ids, getReserveIndex replicas nodes = some (some ids, withoutVictims (surplus replicas nodes) nodes)

section Erased

variable {replicas : ℤ} {nodes : List Node}

/-- The positions that are set to `nil` are the ordinals of the victims. -/
theorem erasesVictims_iff (hless : replicas < nodes.length) : ErasesVictims replicas nodes ↔
      (∀ node ∈ victims (surplus replicas nodes) nodes, node.podIndex < nodes.length) ∧
        ∀ (position : ℕ) (node : Node), nodes[position]? = some node → (node ∈ victims (surplus replicas nodes) nodes ↔
            ∃ victim ∈ victims (surplus replicas nodes) nodes, victim.podIndex = position) := by
  have hentry (position : ℕ) (node : Node) (hnode : nodes[position]? = some node) :
      (eraseAt (((victims (surplus replicas nodes) nodes).map (·.podIndex)).reverse) (nodes.map some))[position]? =
          (withoutVictims (surplus replicas nodes) nodes)[position]? ↔
        (node ∈ victims (surplus replicas nodes) nodes ↔
          ∃ victim ∈ victims (surplus replicas nodes) nodes, victim.podIndex = position) := by
    have hbound := (List.getElem?_eq_some_iff.mp hnode).1
    rw [getElem?_eraseAt, withoutVictims, List.getElem?_map, List.getElem?_map, hnode]
    simp only [List.mem_reverse, List.mem_map, List.length_map, hbound, and_true, Option.map_some]
    split_ifs with hposition hvictim hvictim <;> simp_all
  have hsurplus : (nodes.length - replicas).toNat = surplus replicas nodes := rfl
  rw [ErasesVictims, getReserveIndex_eq hless]
  simp only [hsurplus, Option.ite_none_right_eq_some, Option.some.injEq, Prod.mk.injEq, List.mem_reverse,
    List.forall_mem_map]
  constructor
  · rintro ⟨ids, hbounds, -, hsame⟩
    exact ⟨hbounds, fun position node hnode ↦ (hentry position node hnode).mp (by rw [hsame])⟩
  · rintro ⟨hbounds, hpositions⟩
    refine ⟨_, hbounds, rfl, List.ext_getElem? fun position ↦ ?_⟩
    by_cases hbound : position < nodes.length
    · exact (hentry position _ (List.getElem?_eq_getElem hbound)).mpr
        (hpositions position _ (List.getElem?_eq_getElem hbound))
    · rw [List.getElem?_eq_none (by simpa using hbound), List.getElem?_eq_none]
      simpa [withoutVictims] using hbound

/-- Every slave stands at the position of its ordinal. -/
def SlavesInPlace (nodes : List Node) : Prop :=
  ∀ (position : ℕ) (node : Node), nodes[position]? = some node → node.role ≠ .master → node.podIndex = position

/-- The victims are set to `nil` in their own places only if every slave is in its place. -/
theorem erasesVictims_iff_slavesInPlace (hascending : Ascending nodes) (hless : replicas < nodes.length) :
    ErasesVictims replicas nodes ↔ SlavesInPlace nodes := by
  rw [erasesVictims_iff hless]
  constructor
  · rintro ⟨hbounds, hpositions⟩
    -- the ordinal of a victim is the position of a victim, so the last one can only be its own
    have hvictim : ∀ distance position node, nodes.length ≤ position + distance →
        nodes[position]? = some node → node ∈ victims (surplus replicas nodes) nodes → node.podIndex = position := by
      intro distance
      induction distance with
      | zero =>
        intro position node hfar hnode _
        have := (List.getElem?_eq_some_iff.mp hnode).1
        omega
      | succ distance ih =>
        intro position node hfar hnode hmem
        by_contra hne
        have hbelow := hascending.le_podIndex hnode
        have hother := List.getElem?_eq_getElem (hbounds node hmem)
        have hlast := ih node.podIndex _ (by omega) hother ((hpositions node.podIndex _ hother).mpr ⟨node, hmem, rfl⟩)
        have hlt := hascending.podIndex_lt hnode hother (by omega)
        omega
    intro position node hnode hrole
    have hcount : 0 < surplus replicas nodes := by
      unfold surplus
      omega
    obtain ⟨victim, hmem, hle⟩ := hascending.exists_victim hcount (List.mem_of_getElem? hnode) hrole
    obtain ⟨position', hposition'⟩ := List.mem_iff_getElem?.mp (mem_of_mem_victims hmem).1
    apply hascending.podIndex_eq_of_le hnode hposition'
      (hvictim nodes.length position' victim (by omega) hposition' hmem)
    by_contra hlt
    have := hascending.podIndex_lt hposition' hnode (by omega)
    omega
  · intro hplaces
    have hvictim {node : Node} (hmem : node ∈ victims (surplus replicas nodes) nodes) :
        nodes[node.podIndex]? = some node := by
      obtain ⟨hnode, hrole⟩ := mem_of_mem_victims hmem
      obtain ⟨position, hposition⟩ := List.mem_iff_getElem?.mp hnode
      rwa [hplaces position node hposition hrole]
    refine ⟨fun node hmem ↦ (List.getElem?_eq_some_iff.mp (hvictim hmem)).1, fun position node hnode ↦ ?_⟩
    constructor
    · intro hmem
      exact ⟨node, hmem, hplaces position node hnode (mem_of_mem_victims hmem).2⟩
    · rintro ⟨victim, hmem, rfl⟩
      exact Option.some.inj ((hvictim hmem).symm.trans hnode) ▸ hmem

end Erased

/-! ## The topology that is persisted -/

/-- The topology of the object has these records for the shard, and no others. -/
def Records (shard : ℕ) (records : List KVRocksTopology) (object : KVRocks) : Prop :=
  (object.status.topo.filter fun partition ↦ decide (partition.shard = shard)).map (·.topology) = [records]

/-- The record of a node under the name of its own pod. -/
def ownRecord (instance_ : KVRocks) (shard : ℕ) (node : Node) : KVRocksTopology :=
  topologyOf (getStatefulSetName instance_.name shard) node.podIndex node

/-- A write of the instance is one of these. -/
def Writes (expected : KVRocks → Prop) : Call → Prop
  | .updateKVRocks object => expected object
  | _ => True

/-- Whatever `ensureShrink` persists while the shard has these nodes, it lists the nodes that stay, each with its own
record. -/
def PersistsSurvivors (replicas : ℤ) (nodes : List Node) : Prop :=
  ∀ (h : Handler) (shard : ℕ), h.stsNodes[shard]? = some nodes → shard < h.instance_.spec.master →
    h.instance_.spec.replicas = replicas →
      (ensureShrink.on h).All (Writes (Records shard ((survivors (surplus replicas nodes) nodes).map
        (ownRecord h.instance_ shard)))) fun _ ↦ True

/-- Every shard with nodes has one partition. -/
theorem filter_statusTopoFrom (instanceName : String) {shards : List (List (Option Node))} {index : ℕ}
    {nodes : List (Option Node)} (hnodes : shards[index]? = some nodes) (hne : nodes ≠ []) (start : ℕ) :
    (statusTopoFrom instanceName start shards).filter (fun partition ↦ decide (partition.shard = start + index)) =
      [partitionOf instanceName (start + index) nodes] := by
  induction shards generalizing index start with
  | nil => cases hnodes
  | cons head shards ih =>
    rw [statusTopoFrom_cons]
    cases index with
    | zero =>
      obtain rfl : head = nodes := by simpa using hnodes
      have hlater : (statusTopoFrom instanceName (start + 1) shards).filter
          (fun partition ↦ decide (partition.shard = start)) = [] := by
        apply List.filter_eq_nil_iff.mpr
        intro partition hpartition
        have := le_shard_of_mem_statusTopoFrom hpartition
        simp
        omega
      rw [if_neg hne, Nat.add_zero, List.filter_cons_of_pos (by simp [partitionOf]), hlater]
    | succ index =>
      have hrest := ih (by simpa using hnodes) (start + 1)
      rw [show start + 1 + index = start + (index + 1) by omega] at hrest
      split_ifs
      · exact hrest
      · rw [List.filter_cons_of_neg (by simp [partitionOf]), hrest]

theorem records_withTopo {instance_ : KVRocks} {shards : List (List (Option Node))} {version : ℤ} {shard : ℕ}
    {nodes : List (Option Node)} (hnodes : shards[shard]? = some nodes) (hne : nodes ≠ [])
    (records : List KVRocksTopology) :
    Records shard records (withTopo instance_ shards version) ↔
      shardTopology (getStatefulSetName instance_.name shard) nodes = records := by
  have hfilter := filter_statusTopoFrom instance_.name hnodes hne 0
  rw [Nat.zero_add] at hfilter
  have htopo : (withTopo instance_ shards version).status.topo = statusTopoFrom instance_.name 0 shards := rfl
  rw [Records, htopo, hfilter]
  simp [partitionOf]

/-- The records that are written for a list without the victims, and those they should be. -/
theorem shardTopology_withoutVictims (instance_ : KVRocks) (shard count : ℕ) (nodes : List Node) :
    shardTopology (getStatefulSetName instance_.name shard) (withoutVictims count nodes) =
        (survivors count nodes).map (ownRecord instance_ shard) ↔
      ∀ position node, nodes[position]? = some node → node ∉ victims count nodes → node.podIndex = position := by
  have hleft : shardTopology (getStatefulSetName instance_.name shard) (withoutVictims count nodes) =
      (nodes.zipIdx.filter fun entry ↦ decide (entry.1 ∉ victims count nodes)).map fun entry ↦
        topologyOf (getStatefulSetName instance_.name shard) entry.2 entry.1 := by
    unfold shardTopology withoutVictims
    rw [List.zipIdx_map, List.filterMap_map, ← List.filterMap_eq_map, List.filterMap_filter]
    apply List.filterMap_congr
    rintro ⟨node, index⟩ -
    by_cases hvictim : node ∈ victims count nodes <;> simp [hvictim]
  have hright : (survivors count nodes).map (ownRecord instance_ shard) =
      (nodes.zipIdx.filter fun entry ↦ decide (entry.1 ∉ victims count nodes)).map fun entry ↦
        topologyOf (getStatefulSetName instance_.name shard) entry.1.podIndex entry.1 := by
    calc (survivors count nodes).map (ownRecord instance_ shard)
      _ = ((nodes.zipIdx.map Prod.fst).filter fun node ↦ decide (node ∉ victims count nodes)).map
          (ownRecord instance_ shard) := by rw [List.zipIdx_map_fst, survivors]
      _ = _ := by
        rw [List.filter_map, List.map_map]
        rfl
  rw [hleft, hright, List.map_inj_left]
  simp only [List.mem_filter, decide_eq_true_eq, Prod.forall, List.mem_zipIdx_iff_getElem?]
  constructor
  · intro h position node hnode hstays
    have hsame := h node position ⟨hnode, hstays⟩
    exact (podName_injective _ (congrArg KVRocksTopology.pod hsame)).symm
  · rintro h node position ⟨hnode, hstays⟩
    rw [h position node hnode hstays]

/-! ## `ensureShrink` -/

theorem getElem?_shrinkShards {instance_ : KVRocks} {index : ℕ} {shards : Matrix}
    {reserves : List (String × List ℕ)} {kept : List (List (Option Node))}
    (h : shrinkShards instance_ index shards = some (reserves, kept)) {position : ℕ} {nodes : List Node}
    (hnodes : shards[position]? = some nodes) :
    ∃ ids rest, getReserveIndex instance_.spec.replicas nodes = some (ids, rest) ∧ kept[position]? = some rest := by
  obtain ⟨hlength, hall⟩ := List.forall₂_iff_get.mp (forall₂_shrinkShards h)
  obtain ⟨hlt, hget⟩ := List.getElem?_eq_some_iff.mp hnodes
  obtain ⟨ids, hids⟩ := hall position hlt (hlength ▸ hlt)
  rw [List.get_eq_getElem, hget] at hids
  exact ⟨ids, _, hids, List.getElem?_eq_getElem (hlength ▸ hlt)⟩

section Writes

variable {expected : KVRocks → Prop} {h : Handler}

/-- Calls that write no instance. -/
theorem writes_of_kind {kinds : List CallKind} (hkinds : .updateKVRocks ∉ kinds) {request : Call}
    (hrequest : OfKind kinds request) : Writes expected request := by
  cases request with
  | updateKVRocks object => exact absurd hrequest hkinds
  | _ => trivial

theorem planShrink_writes
    (hexpected : ∀ reserves kept version message,
      shrinkShards h.instance_ 0 (h.stsNodes.take h.instance_.spec.master) = some (reserves, kept) →
      expected (withTopo { h.instance_ with status := { h.instance_.status with shrink := some message } } kept
        version)) :
    planShrink.Yields (.arbitrary (Writes expected)) (fun _ ↦ True) (fun _ _ _ ↦ True) h () := by
  have hplan : (Fallible.ofOption (shrinkShards h.instance_ 0 (h.stsNodes.take h.instance_.spec.master)) :
      Go _).Yields (.arbitrary (Writes expected)) (fun _ ↦ True)
      (fun plan _ ↦ shrinkShards h.instance_ 0 (h.stsNodes.take h.instance_.spec.master) = some plan) () :=
    yields_ofOption (fun _ hplan ↦ hplan) fun _ ↦ trivial
  apply ends_get_bind
  split
  · exact Method.ends_lift (ends_panic trivial)
  · apply ends_lift_bind hplan
    rintro ⟨reserves, kept⟩ _ hkept
    simp only
    split
    · exact Method.ends_pure trivial
    · apply ends_modify_bind
      apply persistTopo_yields
      refine ⟨hexpected reserves kept _ _ hkept, fun reply ↦ ?_⟩
      cases reply <;> trivial

theorem ensureShrink_writes
    (hexpected : ∀ reserves kept version message,
      shrinkShards h.instance_ 0 (h.stsNodes.take h.instance_.spec.master) = some (reserves, kept) →
      expected (withTopo { h.instance_ with status := { h.instance_.status with shrink := some message } } kept
        version)) :
    (ensureShrink.on h).All (Writes expected) fun _ ↦ True := by
  have hyields : ensureShrink.Yields (.arbitrary (Writes expected)) (fun _ ↦ True) (fun _ _ _ ↦ True) h () := by
    have henter : (Fallible.lift (ask (.enter (.ensureShrink h.instance_ h.stsNodes))) : Go Unit).Yields
        (.arbitrary (Writes expected)) (fun _ ↦ True) (fun _ _ ↦ True) () :=
      ends_lift ⟨trivial, fun _ ↦ trivial⟩
    have hmonitors : (forEach removeShardMonitor (shrinkIndex h)).Yields (.arbitrary (Writes expected))
        (fun _ ↦ True) (fun _ later _ ↦ later.instance_ = h.instance_ ∧ later.stsNodes = h.stsNodes) h () := by
      have hleaves := (Leaves.forEach removeShardMonitor_leaves (shrinkIndex h)) h
      have hparts := hleaves.imp fun _ later _ hsame ↦ (⟨congrArg Prod.fst hsame, congrArg (·.2.2.1) hsame⟩ :
          later.instance_ = h.instance_ ∧ later.stsNodes = h.stsNodes)
      exact Program.All.mono hparts (fun _ hkind ↦ writes_of_kind (by decide) hkind) fun _ hpost ↦ hpost
    apply ends_get_bind
    apply ends_lift_bind henter
    intro _ _ _
    split
    · exact Method.ends_pure trivial
    · apply hmonitors.bind
      rintro _ later _ ⟨hinstance, hnodes⟩
      apply planShrink_writes
      rwa [hinstance, hnodes]
  exact Program.All.mono hyields (fun _ hrequest ↦ hrequest) fun _ _ ↦ trivial

end Writes

/-- A handler of an instance with one shard. -/
def oneShard (replicas : ℤ) (nodes : List Node) : Handler :=
  { newKVRocksClusterHandler ⟨"default", "kvrocks-cluster-1-demo"⟩
      (KVRocks.created ⟨"default", "kvrocks-cluster-1-demo"⟩
        { image := "kvrocks:1", type := .cluster, kvrocksConfig := [], replicas := replicas, master := 1,
          password := "password", resources := true }) Controller.newClient with
    stsNodes := [nodes] }

/-- What `ensureShrink` writes for one shard that has to shrink. -/
theorem expected_of_oneShard {replicas : ℤ} {nodes : List Node} {ids : List ℕ}
    {rest : List (Option Node)} {expected : KVRocks → Prop}
    (hplan : getReserveIndex replicas nodes = some (some ids, rest))
    (hall : (ensureShrink.on (oneShard replicas nodes)).All (Writes expected) fun _ ↦ True) :
    ∃ message, expected (withTopo
      { (oneShard replicas nodes).instance_ with
        status := { (oneShard replicas nodes).instance_.status with shrink := some message } } [rest] 0) := by
  have hshards : shrinkShards (oneShard replicas nodes).instance_ 0 [nodes] =
      some ([(getStatefulSetName "kvrocks-cluster-1-demo" 0, ids)], [rest]) := by
    have hsame : (oneShard replicas nodes).instance_.spec.replicas = replicas := rfl
    simp only [shrinkShards, hsame, hplan]
    rfl
  have hplanned : Program.All (Writes expected) (fun _ ↦ True)
      ((Method.lift (Fallible.ofOption (shrinkShards (oneShard replicas nodes).instance_ 0 [nodes])) >>= _ :
        HandlerM Unit).on (oneShard replicas nodes)) := hall.2 ()
  rw [hshards] at hplanned
  exact ⟨_, hplanned.1⟩

/-- The ordinals of the nodes decide: the victims are set to `nil` in their own places exactly if every slave stands
at the position of its ordinal, and the topology lists the nodes that stay, each with its own record, exactly if every
node does. -/
theorem shrink_keeps_survivors_iff (replicas : ℤ) (nodes : List Node) (hascending : Ascending nodes)
    (hpos : 1 ≤ replicas) (hless : replicas < nodes.length) :
    (ErasesVictims replicas nodes ↔ SlavesInPlace nodes) ∧
      (ErasesVictims replicas nodes ∧ PersistsSurvivors replicas nodes ↔
        nodes.map (·.podIndex) = List.range nodes.length) := by
  have herases := erasesVictims_iff_slavesInPlace hascending hless
  have hne : withoutVictims (surplus replicas nodes) nodes ≠ [] := by
    apply List.ne_nil_of_length_pos
    rw [withoutVictims, List.length_map]
    omega
  refine ⟨herases, ?_⟩
  rw [map_podIndex_eq_range_iff]
  constructor
  · rintro ⟨hvictims, hsurvivors⟩ position node hnode
    obtain ⟨ids, hplan⟩ := hvictims
    obtain ⟨message, hwritten⟩ := expected_of_oneShard hplan
      (hsurvivors (oneShard replicas nodes) 0 rfl Nat.zero_lt_one rfl)
    rw [records_withTopo rfl hne] at hwritten
    have hstay := (shardTopology_withoutVictims _ 0 _ nodes).mp hwritten
    by_cases hvictim : node ∈ victims (surplus replicas nodes) nodes
    · exact herases.mp ⟨ids, hplan⟩ position node hnode (mem_of_mem_victims hvictim).2
    · exact hstay position node hnode hvictim
  · intro hplaces
    have hvictims : ErasesVictims replicas nodes := herases.mpr fun position node hnode _ ↦ hplaces position node hnode
    refine ⟨hvictims, fun h shard hnodes hshard hreplicas ↦ ensureShrink_writes ?_⟩
    intro reserves kept version message hkept
    have htaken : (h.stsNodes.take h.instance_.spec.master)[shard]? = some nodes := by
      rw [List.getElem?_take_of_lt hshard, hnodes]
    obtain ⟨ids, rest, hplan, hrest⟩ := getElem?_shrinkShards hkept htaken
    obtain ⟨ids', hplan'⟩ := hvictims
    rw [hreplicas, hplan'] at hplan
    obtain ⟨-, rfl⟩ := Prod.mk.inj (Option.some.inj hplan)
    rw [records_withTopo hrest hne]
    exact (shardTopology_withoutVictims _ shard _ nodes).mpr fun position node hnode _ ↦ hplaces position node hnode

/-- A shard with a master and slaves. -/
def shardOf (master : ℕ) (ordinals : List ℕ) : List Node :=
  ordinals.map fun ordinal : ℕ ↦
    { Kvrocks.Node.fresh ("10.0.0." ++ Text.itoa ordinal) ordinal with
      role := if ordinal = master then .master else .slave }

/-- Three nodes without a gap shrink to two. -/
theorem three_nodes_keep_survivors :
    ErasesVictims 2 (shardOf 1 [0, 1, 2]) ∧ PersistsSurvivors 2 (shardOf 1 [0, 1, 2]) :=
  (shrink_keeps_survivors_iff 2 (shardOf 1 [0, 1, 2]) (by decide) (by decide) (by decide)).2.mpr (by decide)

/-- Ordinals with a gap: the victim 3 of three nodes is an index out of range, and where the victim is 2 the master
with the ordinal 3 is set to `nil` in its place. -/
theorem gaps_lose_survivors : OneMaster (shardOf 0 [0, 1, 3]) ∧ getReserveIndex 2 (shardOf 0 [0, 1, 3]) = none ∧
      OneMaster (shardOf 3 [0, 2, 3]) ∧
      (getReserveIndex 2 (shardOf 3 [0, 2, 3])).map (·.2.map (Option.map (·.podIndex))) =
        some [some 0, some 2, none] := by
  decide

end ShrinkPlan

end KvrocksOperator.Cluster
