import Mathlib.Data.List.ReduceOption
import Mathlib.Data.List.GetD
import KvrocksOperator.Cluster.Kubernetes

/-!
# Persisted records and the pods they belong to

`ensureStatusTopoMsg` writes one record for each node, and `ensureKubernetes` puts the records over the nodes of a
later pass.  Both go by position in a list.  The record of a pod comes back to the pod with the same ordinal exactly
when the positions agree with the ordinals.
-/

namespace KvrocksOperator.Cluster

open Resources

/-! ## Records by position -/

/-- What becomes of the node at a position when records are put over a shard. -/
def restoreAt (topology : List KVRocksTopology) (index : ℕ) (node : Node) : Node :=
  match topology[index]? with
  | some topo => restoreNode topo node
  | none => node

/-- The records at a position of the persisted topology. -/
def recordsAt (partitions : List KVRocksTopoPartitions) (index : ℕ) : List KVRocksTopology :=
  (partitions[index]?.map (·.topology)).getD []

/-- Restoring a shard panics if there are more records than pods. -/
theorem restoreShard_isSome_iff (topology : List KVRocksTopology) (nodes : List Node) :
    (restoreShard topology nodes).isSome ↔ topology.length ≤ nodes.length := by
  induction topology generalizing nodes with
  | nil => simp [restoreShard]
  | cons topo topology ih =>
    cases nodes with
    | nil => simp [restoreShard]
    | cons node nodes =>
      have hrest := ih nodes
      rw [List.length_cons, List.length_cons, Nat.add_le_add_iff_right, ← hrest]
      cases hshard : restoreShard topology nodes <;> simp [restoreShard, hshard]

theorem restoreShard_getElem? {topology : List KVRocksTopology} {nodes restored : List Node}
    (h : restoreShard topology nodes = some restored) (index : ℕ) :
    restored[index]? = nodes[index]?.map (restoreAt topology index) := by
  induction topology generalizing nodes restored index with
  | nil =>
    have hnodes : nodes = restored := by simpa [restoreShard] using h
    have hid : restoreAt [] index = id := rfl
    rw [hnodes, hid, Option.map_id, id]
  | cons topo topology ih =>
    cases nodes with
    | nil => simp [restoreShard] at h
    | cons node nodes =>
      simp only [restoreShard, Option.bind_eq_bind, Option.bind_eq_some_iff, Option.some.injEq] at h
      obtain ⟨rest, hrest, rfl⟩ := h
      cases index with
      | zero => rfl
      | succ index =>
        rw [List.getElem?_cons_succ, List.getElem?_cons_succ, ih hrest index]
        rfl

/-- Restoring panics just if a shard does. -/
theorem restoreTopo_isSome_iff (partitions : List KVRocksTopoPartitions) (shards : Matrix) :
    (restoreTopo partitions shards).isSome ↔
      ∀ index, (recordsAt partitions index).length ≤ (shards.getD index []).length := by
  induction partitions generalizing shards with
  | nil => simp [restoreTopo, recordsAt]
  | cons partition partitions ih =>
    have hcases (p : ℕ → Prop) : (∀ index, p index) ↔ p 0 ∧ ∀ index, p (index + 1) :=
      ⟨fun h ↦ ⟨h 0, fun index ↦ h (index + 1)⟩, fun h index ↦ index.casesOn h.1 h.2⟩
    rw [hcases]
    cases shards with
    | nil =>
      have hrest := ih []
      by_cases hempty : partition.topology = []
      · simpa [restoreTopo, recordsAt, hempty] using hrest
      · simp [restoreTopo, recordsAt, hempty]
    | cons nodes shards =>
      have hrest := ih shards
      have hfirst := restoreShard_isSome_iff partition.topology nodes
      have hboth : (restoreTopo (partition :: partitions) (nodes :: shards)).isSome ↔
          (restoreShard partition.topology nodes).isSome ∧ (restoreTopo partitions shards).isSome := by
        cases hshard : restoreShard partition.topology nodes <;>
          cases htopo : restoreTopo partitions shards <;> simp [restoreTopo, hshard, htopo]
      rw [hboth, hfirst, hrest]
      rfl

/-- Each shard is restored by itself. -/
theorem restoreTopo_getElem? {partitions : List KVRocksTopoPartitions} {shards restored : Matrix}
    (h : restoreTopo partitions shards = some restored) (index : ℕ) :
    restored[index]? = shards[index]?.bind (restoreShard (recordsAt partitions index)) := by
  induction partitions generalizing shards restored index with
  | nil =>
    have hshards : shards = restored := by simpa [restoreTopo] using h
    have hid : restoreShard (recordsAt [] index) = some := rfl
    rw [hshards, hid]
    cases restored[index]? <;> rfl
  | cons partition partitions ih =>
    cases shards with
    | nil =>
      simp only [restoreTopo, Option.ite_none_right_eq_some] at h
      have hnil := ih h.2 index
      rw [List.getElem?_nil, Option.bind_none] at hnil ⊢
      exact hnil
    | cons nodes shards =>
      simp only [restoreTopo, Option.bind_eq_bind, Option.bind_eq_some_iff, Option.some.injEq] at h
      obtain ⟨first, hfirst, rest, hrest, rfl⟩ := h
      cases index with
      | zero => exact hfirst.symm
      | succ index => exact ih hrest index

/-- The node at a position of the restored matrix. -/
theorem restoreTopo_node {partitions : List KVRocksTopoPartitions} {shards restored : Matrix}
    (h : restoreTopo partitions shards = some restored) (shard index : ℕ) :
    (restored.getD shard [])[index]? =
      (shards.getD shard [])[index]?.map (restoreAt (recordsAt partitions shard) index) := by
  have hshard := restoreTopo_getElem? h shard
  rw [List.getD_eq_getElem?_getD, List.getD_eq_getElem?_getD, hshard]
  cases hnodes : shards[shard]? with
  | none => rfl
  | some nodes =>
    have hsome : (restoreShard (recordsAt partitions shard) nodes).isSome := by
      rw [restoreShard_isSome_iff]
      have hlength := (restoreTopo_isSome_iff partitions shards).mp (by rw [h]; rfl) shard
      rwa [List.getD_eq_getElem?_getD, hnodes] at hlength
    obtain ⟨result, hresult⟩ := Option.isSome_iff_exists.mp hsome
    rw [Option.bind_some, hresult]
    exact restoreShard_getElem? hresult index

/-! ## The records that are written -/

/-- The nodes of a shard for which a record is written, with their positions. -/
def recorded (nodes : List (Option Node)) : List (Node × ℕ) :=
  nodes.zipIdx.filterMap fun (node, index) ↦ node.map fun node ↦ (node, index)

theorem shardTopology_eq (partitionName : String) (nodes : List (Option Node)) : shardTopology partitionName nodes =
      (recorded nodes).map fun (node, index) ↦ topologyOf partitionName index node := by
  unfold shardTopology recorded
  rw [List.map_filterMap]
  congr 1
  funext ⟨node, index⟩
  cases node <;> rfl

/-- A record has the position of its node. -/
theorem mem_recorded {nodes : List (Option Node)} {node : Node} {index : ℕ} :
    (node, index) ∈ recorded nodes ↔ nodes[index]? = some (some node) := by
  unfold recorded
  constructor
  · intro h
    obtain ⟨⟨entry, position⟩, hmem, hmap⟩ := List.mem_filterMap.mp h
    have hget := List.mem_zipIdx_iff_getElem?.mp hmem
    cases entry with
    | none => cases hmap
    | some entry =>
      cases hmap
      exact hget
  · intro h
    have hmem : (some node, index) ∈ nodes.zipIdx := List.mem_zipIdx_iff_getElem?.mpr h
    exact List.mem_filterMap.mpr ⟨(some node, index), hmem, rfl⟩

/-- The ordinals of the recorded nodes, in the order of the records. -/
theorem recorded_ordinals (nodes : List (Option Node)) :
    ((recorded nodes).map fun entry ↦ entry.1.podIndex) = (nodes.map (Option.map (·.podIndex))).reduceOption := by
  have hfst : nodes.zipIdx.map Prod.fst = nodes := List.zipIdx_map_fst 0 nodes
  calc
    ((recorded nodes).map fun entry ↦ entry.1.podIndex) =
        nodes.zipIdx.filterMap fun entry ↦ entry.1.map (·.podIndex) := by
      unfold recorded
      rw [List.map_filterMap]
      congr 1
      funext ⟨node, index⟩
      cases node <;> rfl
    _ = (nodes.zipIdx.map Prod.fst).filterMap fun node ↦ node.map (·.podIndex) := by
      rw [List.filterMap_map]
      rfl
    _ = (nodes.map (Option.map (·.podIndex))).reduceOption := by
      rw [hfst]
      unfold List.reduceOption
      rw [List.filterMap_map]
      rfl

/-- The topology of shards whose indices start at `start`. -/
def statusTopoFrom (instanceName : String) (start : ℕ) (shards : List (List (Option Node))) :
    List KVRocksTopoPartitions :=
  (shards.zipIdx start).filterMap fun (nodes, index) ↦
    if nodes = [] then none else some (partitionOf instanceName index nodes)

theorem statusTopoFrom_cons (instanceName : String) (start : ℕ) (nodes : List (Option Node))
    (shards : List (List (Option Node))) :
    statusTopoFrom instanceName start (nodes :: shards) =
      if nodes = [] then statusTopoFrom instanceName (start + 1) shards
      else partitionOf instanceName start nodes :: statusTopoFrom instanceName (start + 1) shards := by
  unfold statusTopoFrom
  rw [List.zipIdx_cons, List.filterMap_cons]
  by_cases hempty : nodes = [] <;> simp [hempty]

variable {shards : List (List (Option Node))} {instanceName : String}

theorem le_shard_of_mem_statusTopoFrom {start : ℕ} {partition : KVRocksTopoPartitions}
    (h : partition ∈ statusTopoFrom instanceName start shards) : start ≤ partition.shard := by
  obtain ⟨⟨nodes, index⟩, hentry, hpartition⟩ := List.mem_filterMap.mp h
  simp only [Option.ite_none_left_eq_some, Option.some.injEq] at hpartition
  rw [← hpartition.2]
  exact List.le_snd_of_mem_zipIdx hentry

/-- A shard without records leaves nothing at any position of the topology. -/
theorem recordsAt_of_no_records (instanceName : String) (h : ∀ nodes ∈ shards, recorded nodes = []) (start index : ℕ) :
    recordsAt (statusTopoFrom instanceName start shards) index = [] := by
  induction shards generalizing start index with
  | nil => rfl
  | cons nodes shards ih =>
    have hrest : ∀ start index, recordsAt (statusTopoFrom instanceName start shards) index = [] :=
      fun start index ↦ ih (fun later hlater ↦ h later (List.mem_cons_of_mem nodes hlater)) start index
    rw [statusTopoFrom_cons]
    split_ifs
    · exact hrest (start + 1) index
    · cases index with
      | zero =>
        change shardTopology (getStatefulSetName instanceName start) nodes = []
        rw [shardTopology_eq, h nodes List.mem_cons_self, List.map_nil]
      | succ index => exact hrest (start + 1) index

/-- When no shard with records comes after one without nodes, the records of a shard stand at its own index. -/
theorem recordsAt_statusTopoFrom (instanceName : String)
    (hgap : ∀ first later, first < later → shards[first]? = some [] → recorded (shards.getD later []) = [])
    (start index : ℕ) :
    recordsAt (statusTopoFrom instanceName start shards) index =
      shardTopology (getStatefulSetName instanceName (start + index)) (shards.getD index []) := by
  induction shards generalizing start index with
  | nil => rfl
  | cons nodes shards ih =>
    rw [statusTopoFrom_cons]
    split_ifs with hempty
    · have hnone : ∀ later ∈ shards, recorded later = [] := by
        intro later hlater
        obtain ⟨position, hposition⟩ := List.mem_iff_getElem?.mp hlater
        have hrecords := hgap 0 (position + 1) (by omega) (by simp [hempty])
        rwa [List.getD_cons_succ, List.getD_eq_getElem?_getD, hposition] at hrecords
      rw [recordsAt_of_no_records instanceName hnone, shardTopology_eq]
      cases index with
      | zero => rw [List.getD_cons_zero, hempty]; rfl
      | succ index => rw [hgap 0 (index + 1) (by omega) (by simp [hempty])]; rfl
    · cases index with
      | zero => rfl
      | succ index =>
        have hrest := ih (fun first later hlt hfirst ↦
          hgap (first + 1) (later + 1) (by omega) (by simpa using hfirst)) (start + 1) index
        have hshift : start + 1 + index = start + (index + 1) := by omega
        rw [hshift] at hrest
        exact hrest

/-- A shard with nodes has its partition at its index, or at an earlier one when a shard without nodes comes before
it. -/
theorem exists_partition_of_shard (instanceName : String) {index : ℕ} {nodes : List (Option Node)}
    (hnodes : shards[index]? = some nodes) (hne : nodes ≠ []) (start : ℕ) :
    ∃ position ≤ index, (statusTopoFrom instanceName start shards)[position]? =
        some (partitionOf instanceName (start + index) nodes) ∧
      ((∃ first < index, shards[first]? = some []) → position < index) := by
  induction shards generalizing start index with
  | nil => cases hnodes
  | cons head shards ih =>
    rw [statusTopoFrom_cons]
    cases index with
    | zero =>
      have hhead : head = nodes := by simpa using hnodes
      refine ⟨0, le_rfl, ?_, ?_⟩
      · rw [if_neg (hhead ▸ hne), hhead]
        rfl
      · rintro ⟨first, hfirst, -⟩
        exact absurd hfirst (Nat.not_lt_zero first)
    | succ index =>
      obtain ⟨position, hle, hposition, hbefore⟩ := ih (by simpa using hnodes) (start + 1)
      have hshift : start + 1 + index = start + (index + 1) := by omega
      rw [hshift] at hposition
      split_ifs with hempty
      · exact ⟨position, by omega, hposition, fun _ ↦ by omega⟩
      · refine ⟨position + 1, by omega, hposition, ?_⟩
        rintro ⟨first, hfirst, hfirstNodes⟩
        cases first with
        | zero => exact absurd (by simpa using hfirstNodes) hempty
        | succ first =>
          have := hbefore ⟨first, by omega, by simpa using hfirstNodes⟩
          omega

/-! ## Reading back what was written -/

/-- The node that a pass makes of the pod of a node before it reads the records. -/
def stub (node : Node) : Node := .fresh node.ip node.podIndex

/-- What the encoding of the status makes of a list of slots. -/
def recodeSlots (slots : List ℤ) : List ℤ := Kvrocks.slotsToInt (Kvrocks.slotsToString slots)

/-- What the encoding of the status makes of a node. -/
def recode (node : Node) : Node :=
  { node with
    slots := recodeSlots node.slots
    failover := false
    migrate := node.migrate.map fun migrate ↦ { migrate with slots := recodeSlots migrate.slots } }

/-- A node is read back from its record. -/
theorem restoreNode_topologyOf (partitionName : String) (index : ℕ) (node : Node) :
    restoreNode (topologyOf partitionName index node) (stub node) = recode node := by
  have hmigrate : (node.migrate.map fun migrate : Kvrocks.MigrateMsg ↦
      ({ shard := migrate.shard, slots := Kvrocks.slotsToString migrate.slots } : MigrateMsg)).map
        (fun migrate ↦ ({ shard := migrate.shard, slots := Kvrocks.slotsToInt migrate.slots } : Kvrocks.MigrateMsg)) =
      node.migrate.map fun migrate ↦ { migrate with slots := recodeSlots migrate.slots } := by
    rw [List.map_map]
    rfl
  unfold restoreNode topologyOf stub recode Kvrocks.Node.fresh recodeSlots
  rw [List.nil_append, hmigrate]
  rfl

/-- A shard is read back from its records. -/
theorem restoreShard_topologyOf (partitionName : String) (nodes : List Node) (start : ℕ) :
    restoreShard ((nodes.zipIdx start).map fun (node, index) ↦ topologyOf partitionName index node)
      (nodes.map stub) = some (nodes.map recode) := by
  induction nodes generalizing start with
  | nil => rfl
  | cons node nodes ih =>
    rw [List.zipIdx_cons, List.map_cons, List.map_cons, List.map_cons, restoreShard, ih (start + 1),
      restoreNode_topologyOf]
    rfl

/-- A shard whose nodes are all there has one record for each of them. -/
theorem shardTopology_some (partitionName : String) (nodes : List Node) : shardTopology partitionName (nodes.map some) =
      nodes.zipIdx.map fun (node, index) ↦ topologyOf partitionName index node := by
  unfold shardTopology
  rw [List.zipIdx_map, List.filterMap_map, ← List.filterMap_eq_map]
  rfl

/-- A matrix without empty shards has one partition for each of them. -/
theorem statusTopo_of_filled (instanceName : String) {matrix : Matrix} (hfilled : [] ∉ matrix) :
    statusTopo instanceName (matrix.map (·.map some)) =
      (matrix.map (·.map some)).zipIdx.map fun entry ↦ partitionOf instanceName entry.2 entry.1 := by
  have hne : ∀ entry ∈ (matrix.map (·.map some)).zipIdx, entry.1 ≠ [] := by
    intro entry hentry hnil
    obtain ⟨nodes, hnodes, himage⟩ := List.mem_map.mp (List.fst_mem_of_mem_zipIdx hentry)
    rw [hnil] at himage
    rw [List.map_eq_nil_iff.mp himage] at hnodes
    exact hfilled hnodes
  calc statusTopo instanceName (matrix.map (·.map some))
    _ = (matrix.map (·.map some)).zipIdx.filterMap (some ∘ fun entry ↦ partitionOf instanceName entry.2 entry.1) :=
      List.filterMap_congr fun entry hentry ↦ if_neg (hne entry hentry)
    _ = _ := by rw [List.filterMap_eq_map]

theorem length_statusTopo (instanceName : String) {matrix : Matrix} (hfilled : [] ∉ matrix) :
    (statusTopo instanceName (matrix.map (·.map some))).length = matrix.length := by
  rw [statusTopo_of_filled instanceName hfilled, List.length_map, List.length_zipIdx, List.length_map]

/-- Each shard has its record. -/
theorem getElem?_statusTopo (instanceName : String) {matrix : Matrix} (hfilled : [] ∉ matrix) (index : ℕ) :
    (statusTopo instanceName (matrix.map (·.map some)))[index]? =
      matrix[index]?.map fun nodes ↦ partitionOf instanceName index (nodes.map some) := by
  rw [statusTopo_of_filled instanceName hfilled, List.getElem?_map, List.getElem?_zipIdx,
    List.getElem?_map, Option.map_map, Option.map_map, Nat.zero_add]
  rfl

/-- A matrix is read back from its records. -/
theorem restoreTopo_statusTopoFrom (instanceName : String) {matrix : Matrix} (hfilled : [] ∉ matrix) (start : ℕ) :
    restoreTopo (statusTopoFrom instanceName start (matrix.map (·.map some)))
      (matrix.map (·.map stub)) = some (matrix.map (·.map recode)) := by
  induction matrix generalizing start with
  | nil => rfl
  | cons nodes matrix ih =>
    rw [List.mem_cons, not_or] at hfilled
    have hne : nodes.map some ≠ [] := fun hnil ↦ hfilled.1 (List.map_eq_nil_iff.mp hnil).symm
    have hshard : restoreShard (partitionOf instanceName start (nodes.map some)).topology
        (nodes.map stub) = some (nodes.map recode) := by
      unfold partitionOf
      rw [shardTopology_some]
      exact restoreShard_topologyOf _ nodes 0
    rw [List.map_cons, List.map_cons, List.map_cons, statusTopoFrom_cons, if_neg hne, restoreTopo,
      hshard, ih hfilled.2 (start + 1)]
    rfl

/-- A matrix without empty shards comes back from the status as its encoding. -/
theorem restoreTopo_statusTopo (instanceName : String) {matrix : Matrix} (hfilled : [] ∉ matrix) :
    restoreTopo (statusTopo instanceName (matrix.map (·.map some))) (matrix.map (·.map stub)) =
      some (matrix.map (·.map recode)) :=
  restoreTopo_statusTopoFrom instanceName hfilled 0

/-! ## Records follow their pods -/

/-- A node has everything that a record persists. -/
structure Carries (topo : KVRocksTopology) (node : Node) : Prop where
  nodeId : node.nodeId = topo.nodeId
  role : node.role = topo.role
  master : node.master = topo.masterId
  slots : node.slots = Kvrocks.slotsToInt topo.slots
  failover : node.failover = topo.failover
  migrate : node.migrate = topo.migrate.map fun migrate ↦
    { shard := migrate.shard, slots := Kvrocks.slotsToInt migrate.slots }

/-- A node of a later pass has the record that was persisted for the pod with its ordinal, or no record when there was
no such pod. -/
structure HasOwnRecord (partitionName : String) (persisted : List (Option Node)) (node : Node) : Prop where
  kept : ∀ old index, persisted[index]? = some (some old) → old.podIndex = node.podIndex →
    Carries (topologyOf partitionName index old) node
  added : (∀ old, some old ∈ persisted → old.podIndex ≠ node.podIndex) → node = Kvrocks.Node.fresh node.ip node.podIndex

/-- The records of a persisted matrix follow their pods to the pods of a later pass. -/
structure RecordsFollow (instanceName : String) (shards : List (List (Option Node))) (pods : Matrix) : Prop where
  /-- Every record names the pod whose address it carries. -/
  named : ∀ partition ∈ statusTopo instanceName shards, ∀ topo ∈ partition.topology,
    ∃ node, some node ∈ shards.getD partition.shard [] ∧ node.ip = topo.ip ∧
      topo.pod = podName partition.partitionName node.podIndex
  /-- No index is out of range, and every pod of the later pass has its own record. -/
  restored : ∃ restored, restoreTopo (statusTopo instanceName shards) pods = some restored ∧
    (restored.map fun nodes ↦ nodes.map fun node ↦ (node.podIndex, node.ip)) =
      (pods.map fun nodes ↦ nodes.map fun node ↦ (node.podIndex, node.ip)) ∧
    ∀ shard, ∀ node ∈ restored.getD shard [],
      HasOwnRecord (getStatefulSetName instanceName shard) (shards.getD shard []) node

/-- The ordinals of a persisted matrix; `none` stands for a node that was removed from it. -/
def persistedOrdinals (shards : List (List (Option Node))) : List (List (Option ℕ)) :=
  shards.map fun nodes ↦ nodes.map (Option.map (·.podIndex))

/-- The ordinals of the pods of a later pass. -/
def podOrdinals (pods : Matrix) : List (List ℕ) := pods.map fun nodes ↦ nodes.map (·.podIndex)

/-- The positions of the persisted nodes agree with their ordinals, now and later. -/
structure Aligned (persisted : List (List (Option ℕ))) (later : List (List ℕ)) : Prop where
  /-- A recorded node stands at the position of its ordinal. -/
  position : ∀ shard ∈ persisted, ∀ index ordinal : ℕ, shard[index]? = some (some ordinal) → ordinal = index
  /-- No recorded shard comes after an empty one. -/
  gapless : ∀ first second : ℕ, first < second → persisted[first]? = some [] →
    (persisted.getD second []).reduceOption = []
  /-- The recorded ordinals are the first ones of the later pass. -/
  initial : ∀ shard, (persisted.getD shard []).reduceOption <+: later.getD shard []

theorem restoreAt_podIndex (topology : List KVRocksTopology) (index : ℕ) (node : Node) :
    (restoreAt topology index node).podIndex = node.podIndex := by
  unfold restoreAt
  split <;> rfl

theorem restoreAt_ip (topology : List KVRocksTopology) (index : ℕ) (node : Node) :
    (restoreAt topology index node).ip = node.ip := by
  unfold restoreAt
  split <;> rfl

theorem persistedOrdinals_getD (shards : List (List (Option Node))) (shard : ℕ) :
    (persistedOrdinals shards).getD shard [] = (shards.getD shard []).map (Option.map (·.podIndex)) :=
  List.getD_map shards [] (List.map (Option.map Kvrocks.Node.podIndex))

theorem podOrdinals_getD (pods : Matrix) (shard : ℕ) :
    (podOrdinals pods).getD shard [] = (pods.getD shard []).map (·.podIndex) :=
  List.getD_map pods [] (List.map Kvrocks.Node.podIndex)

theorem recorded_eq_nil_iff (shards : List (List (Option Node))) (shard : ℕ) :
    recorded (shards.getD shard []) = [] ↔ ((persistedOrdinals shards).getD shard []).reduceOption = [] := by
  rw [persistedOrdinals_getD, ← recorded_ordinals, List.map_eq_nil_iff]

variable {pods : Matrix}

/-- The record at a position of an aligned shard is the one of the pod that is later found there. -/
theorem Aligned.recorded_podIndex (h : Aligned (persistedOrdinals shards) (podOrdinals pods))
    {shard index position : ℕ} {old : Node}
    (hentry : (recorded (shards.getD shard []))[index]? = some (old, position)) :
    ((pods.getD shard []).map (·.podIndex))[index]? = some old.podIndex := by
  have hprefix := h.initial shard
  rw [persistedOrdinals_getD, ← recorded_ordinals, podOrdinals_getD] at hprefix
  have hordinal : ((recorded (shards.getD shard [])).map fun entry ↦ entry.1.podIndex)[index]? = some old.podIndex := by
    rw [List.getElem?_map, hentry]
    rfl
  obtain ⟨hlt, hget⟩ := List.getElem?_eq_some_iff.mp hordinal
  rw [List.prefix_iff_getElem?.mp hprefix index hlt, hget]

/-- In an aligned matrix every recorded node stands at the position of its ordinal. -/
theorem Aligned.recorded_position {later : List (List ℕ)} (h : Aligned (persistedOrdinals shards) later)
    {shard index : ℕ} {node : Node} (hnode : (shards.getD shard [])[index]? = some (some node)) :
    node.podIndex = index := by
  cases hshard : shards[shard]? with
  | none =>
    rw [List.getD_eq_getElem?_getD, hshard] at hnode
    cases hnode
  | some nodes =>
    rw [List.getD_eq_getElem?_getD, hshard, Option.getD_some] at hnode
    have hmem : nodes.map (Option.map (·.podIndex)) ∈ persistedOrdinals shards :=
      List.mem_map.mpr ⟨nodes, List.mem_of_getElem? hshard, rfl⟩
    apply h.position _ hmem index
    rw [List.getElem?_map, hnode]
    rfl

/-- The records of an aligned matrix stand at the indices of their shards. -/
theorem Aligned.recordsAt_eq {later : List (List ℕ)} (h : Aligned (persistedOrdinals shards) later)
    (instanceName : String) (shard : ℕ) :
    recordsAt (statusTopo instanceName shards) shard =
      shardTopology (getStatefulSetName instanceName shard) (shards.getD shard []) := by
  have hgap : ∀ first second, first < second → shards[first]? = some [] → recorded (shards.getD second []) = [] := by
    intro first second hlt hfirst
    rw [recorded_eq_nil_iff]
    apply h.gapless first second hlt
    unfold persistedOrdinals
    rw [List.getElem?_map, hfirst]
    rfl
  have hrecords := recordsAt_statusTopoFrom instanceName hgap 0 shard
  rwa [Nat.zero_add] at hrecords

/-- A node of an aligned matrix gets the record of its own ordinal. -/
theorem Aligned.hasOwnRecord (h : Aligned (persistedOrdinals shards) (podOrdinals pods)) (partitionName : String)
    {shard index : ℕ} {pod : Node} (hsorted : ((pods.getD shard []).map (·.podIndex)).Pairwise (· < ·))
    (hpod : (pods.getD shard [])[index]? = some pod) (hfresh : pod = Kvrocks.Node.fresh pod.ip pod.podIndex) :
    HasOwnRecord partitionName (shards.getD shard [])
      (restoreAt (shardTopology partitionName (shards.getD shard [])) index pod) := by
  have hordinal : ((pods.getD shard []).map (·.podIndex))[index]? = some pod.podIndex := by
    rw [List.getElem?_map, hpod]
    rfl
  have htopology : (shardTopology partitionName (shards.getD shard []))[index]? =
      (recorded (shards.getD shard []))[index]?.map fun (node, position) ↦ topologyOf partitionName position node := by
    rw [shardTopology_eq, List.getElem?_map]
  cases hentry : (recorded (shards.getD shard []))[index]? with
  | some entry =>
    obtain ⟨own, position⟩ := entry
    have hrestored : restoreAt (shardTopology partitionName (shards.getD shard [])) index pod =
        restoreNode (topologyOf partitionName position own) pod := by
      unfold restoreAt
      rw [htopology, hentry]
      rfl
    have hown : (shards.getD shard [])[position]? = some (some own) := mem_recorded.mp (List.mem_of_getElem? hentry)
    have hsame : own.podIndex = pod.podIndex := by
      have hlater := h.recorded_podIndex hentry
      rw [hordinal] at hlater
      exact (Option.some.inj hlater).symm
    rw [hrestored]
    constructor
    · intro old position' hold hindex
      have hposition : position' = position := by
        rw [← h.recorded_position hold, ← h.recorded_position hown, hsame, hindex]
        rfl
      rw [hposition, hown] at hold
      cases hold
      rw [hfresh]
      exact ⟨rfl, rfl, rfl, rfl, rfl, rfl⟩
    · intro hnone
      exact absurd hsame (hnone own (List.mem_of_getElem? hown))
  | none =>
    have hrestored : restoreAt (shardTopology partitionName (shards.getD shard [])) index pod = pod := by
      unfold restoreAt
      rw [htopology, hentry]
      rfl
    rw [hrestored]
    constructor
    · intro old position hold hindex
      -- an earlier pod would have the same ordinal
      obtain ⟨earlier, hearlier⟩ := List.mem_iff_getElem?.mp (mem_recorded.mpr hold)
      have hlt : earlier < index := by
        have hbound := (List.getElem?_eq_some_iff.mp hearlier).1
        have hend := List.getElem?_eq_none_iff.mp hentry
        omega
      have hordinal' := h.recorded_podIndex hearlier
      have hless := List.pairwise_iff_getElem.mp hsorted earlier index
        (List.getElem?_eq_some_iff.mp hordinal').1 (List.getElem?_eq_some_iff.mp hordinal).1 hlt
      rw [(List.getElem?_eq_some_iff.mp hordinal').2, (List.getElem?_eq_some_iff.mp hordinal).2, hindex] at hless
      exact absurd hless (lt_irrefl _)
    · exact fun _ ↦ hfresh

/-- Aligned records follow their pods. -/
theorem Aligned.recordsFollow (h : Aligned (persistedOrdinals shards) (podOrdinals pods))
    (hsorted : ∀ ordinals ∈ podOrdinals pods, ordinals.Pairwise (· < ·))
    (hfresh : ∀ nodes ∈ pods, ∀ node ∈ nodes, node = Kvrocks.Node.fresh node.ip node.podIndex) (instanceName : String) :
    RecordsFollow instanceName shards pods := by
  have hrange : (restoreTopo (statusTopo instanceName shards) pods).isSome := by
    rw [restoreTopo_isSome_iff]
    intro shard
    have hlength := (h.initial shard).length_le
    rw [persistedOrdinals_getD, ← recorded_ordinals, podOrdinals_getD, List.length_map, List.length_map] at hlength
    rwa [h.recordsAt_eq instanceName, shardTopology_eq, List.length_map]
  obtain ⟨restored, hrestored⟩ := Option.isSome_iff_exists.mp hrange
  have hnode := restoreTopo_node hrestored
  constructor
  · intro partition hpartition topo htopo
    obtain ⟨⟨nodes, shard⟩, hmem, hsome⟩ := List.mem_filterMap.mp hpartition
    have hshard : shards.getD shard [] = nodes := by
      rw [List.getD_eq_getElem?_getD, List.mem_zipIdx_iff_getElem?.mp hmem, Option.getD_some]
    dsimp only at hsome
    split_ifs at hsome
    cases hsome
    change topo ∈ shardTopology (getStatefulSetName instanceName shard) nodes at htopo
    rw [shardTopology_eq] at htopo
    obtain ⟨⟨node, index⟩, hentry, rfl⟩ := List.mem_map.mp htopo
    have hget := mem_recorded.mp hentry
    refine ⟨node, ?_, rfl, ?_⟩
    · change some node ∈ shards.getD shard []
      rw [hshard]
      exact List.mem_of_getElem? hget
    · rw [← hshard] at hget
      rw [h.recorded_position hget]
      rfl
  · refine ⟨restored, hrestored, ?_, ?_⟩
    · apply List.ext_getElem?
      intro shard
      have hget := restoreTopo_getElem? hrestored shard
      rw [List.getElem?_map, List.getElem?_map]
      cases hpods : pods[shard]? with
      | none =>
        rw [hget, hpods]
        rfl
      | some nodes =>
        have hall := hnode shard
        rw [List.getD_eq_getElem?_getD, List.getD_eq_getElem?_getD, hpods, Option.getD_some] at hall
        have hlength : (restoreShard (recordsAt (statusTopo instanceName shards) shard) nodes).isSome := by
          rw [restoreShard_isSome_iff]
          have hle := (restoreTopo_isSome_iff _ _).mp hrange shard
          rwa [List.getD_eq_getElem?_getD, hpods] at hle
        obtain ⟨result, hresult⟩ := Option.isSome_iff_exists.mp hlength
        rw [hget, hpods, Option.bind_some, hresult, Option.map_some, Option.map_some]
        congr 1
        apply List.ext_getElem?
        intro index
        rw [List.getElem?_map, List.getElem?_map, restoreShard_getElem? hresult, Option.map_map]
        congr 1
        funext node
        exact Prod.ext (restoreAt_podIndex _ _ _) (restoreAt_ip _ _ _)
    · intro shard node hmem
      obtain ⟨index, hindex⟩ := List.mem_iff_getElem?.mp hmem
      rw [hnode shard index] at hindex
      obtain ⟨pod, hpod, rfl⟩ := Option.map_eq_some_iff.mp hindex
      have hpods : pods.getD shard [] ∈ pods := by
        cases hshard : pods[shard]? with
        | none =>
          rw [List.getD_eq_getElem?_getD, hshard] at hpod
          cases hpod
        | some nodes =>
          rw [List.getD_eq_getElem?_getD, hshard]
          exact List.mem_of_getElem? hshard
      rw [h.recordsAt_eq instanceName]
      apply h.hasOwnRecord _ _ hpod
      · exact hfresh _ hpods pod (List.mem_of_getElem? hpod)
      · exact hsorted _ (List.mem_map.mpr ⟨_, hpods, rfl⟩)

/-! ### Marked nodes

To see where a record goes, every node is given an id and an address of its own. -/

/-- A text that belongs to one ordinal of one shard. -/
def mark (shard ordinal : ℕ) : String := podName (getStatefulSetName "" shard) ordinal

theorem mark_ne_empty (shard ordinal : ℕ) : mark shard ordinal ≠ "" := by
  intro h
  have hdash : '-' ∈ (mark shard ordinal).toList := by
    simp [mark, podName, String.toList_append]
  rw [h] at hdash
  exact absurd hdash (by decide)

/-- Every node of the matrix has the mark of its ordinal as its id and address. -/
def Marked (shards : List (List (Option Node))) : Prop :=
  ∀ shard node, some node ∈ shards.getD shard [] →
    node.nodeId = mark shard node.podIndex ∧ node.ip = mark shard node.podIndex

/-- The marked matrix with given ordinals. -/
def markedShards (persisted : List (List (Option ℕ))) : List (List (Option Node)) :=
  persisted.zipIdx.map fun (entries, shard) ↦ entries.map (Option.map fun ordinal ↦
    { Kvrocks.Node.fresh (mark shard ordinal) ordinal with nodeId := mark shard ordinal })

theorem persistedOrdinals_markedShards (persisted : List (List (Option ℕ))) :
    persistedOrdinals (markedShards persisted) = persisted := by
  unfold persistedOrdinals markedShards
  rw [List.map_map]
  calc
    persisted.zipIdx.map _ = persisted.zipIdx.map Prod.fst := by
      apply List.map_congr_left
      rintro ⟨entries, shard⟩ -
      simp only [Function.comp_apply, List.map_map]
      conv_rhs => rw [← List.map_id entries]
      apply List.map_congr_left
      intro entry _
      cases entry <;> rfl
    _ = persisted := List.zipIdx_map_fst 0 persisted

/-- The nodes carry the marks of their ordinals. -/
theorem marked_markedShards (persisted : List (List (Option ℕ))) : Marked (markedShards persisted) := by
  intro shard node hmem
  unfold markedShards at hmem
  rw [List.getD_eq_getElem?_getD, List.getElem?_map, List.getElem?_zipIdx, Nat.zero_add] at hmem
  cases hentries : persisted[shard]? with
  | none =>
    rw [hentries] at hmem
    cases hmem
  | some entries =>
    rw [hentries] at hmem
    obtain ⟨entry, -, hentry⟩ := List.mem_map.mp hmem
    cases entry with
    | none => cases hentry
    | some ordinal =>
      cases hentry
      exact ⟨rfl, rfl⟩

/-- A record of a marked matrix that follows its pod shows the mark of the pod found at its position. -/
theorem RecordsFollow.nodeId_eq_mark (h : RecordsFollow instanceName shards pods) (hmarked : Marked shards)
    {position index : ℕ} {topo : KVRocksTopology}
    (htopo : (recordsAt (statusTopo instanceName shards) position)[index]? = some topo) (hid : topo.nodeId ≠ "") :
    ∃ pod, (pods.getD position [])[index]? = some pod ∧ topo.nodeId = mark position pod.podIndex := by
  obtain ⟨restored, hrestored, -, hown⟩ := h.restored
  have hindex : index < (pods.getD position []).length := by
    have hlength := (restoreTopo_isSome_iff _ _).mp (by rw [hrestored]; rfl) position
    have hbound := (List.getElem?_eq_some_iff.mp htopo).1
    omega
  obtain ⟨pod, hpod⟩ : ∃ pod, (pods.getD position [])[index]? = some pod := ⟨_, List.getElem?_eq_getElem hindex⟩
  have hnode := restoreTopo_node hrestored position index
  have hrestore : restoreAt (recordsAt (statusTopo instanceName shards) position) index pod = restoreNode topo pod := by
    unfold restoreAt
    rw [htopo]
  rw [hpod, Option.map_some, hrestore] at hnode
  have hrecord := hown position _ (List.mem_of_getElem? hnode)
  refine ⟨pod, hpod, ?_⟩
  by_cases hknown : ∃ old, some old ∈ shards.getD position [] ∧ old.podIndex = pod.podIndex
  · obtain ⟨old, hold, hordinal⟩ := hknown
    obtain ⟨place, hplace⟩ := List.mem_iff_getElem?.mp hold
    have hcarries := (hrecord.kept old place hplace hordinal).nodeId
    have hmark : old.nodeId = mark position old.podIndex := (hmarked position old hold).1
    calc
      topo.nodeId = old.nodeId := hcarries
      _ = mark position pod.podIndex := by rw [hmark, hordinal]
  · -- a new pod has no id
    have hfresh := hrecord.added fun old hold hordinal ↦ hknown ⟨old, hold, hordinal⟩
    exact absurd (congrArg Kvrocks.Node.nodeId hfresh) hid

/-- If the records of a marked matrix follow their pods, a shard with records keeps its index and its records stand
where the pods of their ordinals are found. -/
theorem RecordsFollow.partition_position (h : RecordsFollow instanceName shards pods) (hmarked : Marked shards)
    {position shard index place : ℕ} {nodes : List (Option Node)} {node : Node}
    (hshard : shards[shard]? = some nodes)
    (hpartition : (statusTopo instanceName shards)[position]? = some (partitionOf instanceName shard nodes))
    (hentry : (recorded nodes)[index]? = some (node, place)) :
    shard = position ∧ ((pods.getD position []).map (·.podIndex))[index]? = some node.podIndex := by
  have htopo : (recordsAt (statusTopo instanceName shards) position)[index]? =
      some (topologyOf (getStatefulSetName instanceName shard) place node) := by
    unfold recordsAt
    rw [hpartition]
    change (shardTopology _ nodes)[index]? = _
    rw [shardTopology_eq, List.getElem?_map, hentry]
    rfl
  have hmem : some node ∈ shards.getD shard [] := by
    rw [List.getD_eq_getElem?_getD, hshard]
    exact List.mem_of_getElem? (mem_recorded.mp (List.mem_of_getElem? hentry))
  have hid : node.nodeId = mark shard node.podIndex := (hmarked shard node hmem).1
  have hne : node.nodeId ≠ "" := hid ▸ mark_ne_empty shard node.podIndex
  obtain ⟨pod, hpod, hmark⟩ := h.nodeId_eq_mark hmarked htopo hne
  have hsame : mark shard node.podIndex = mark position pod.podIndex := by
    rw [← hid]
    exact hmark
  obtain ⟨hposition, hordinal⟩ := podName_getStatefulSetName_inj "" hsame
  refine ⟨hposition, ?_⟩
  rw [List.getElem?_map, hpod, hordinal]
  rfl

/-- The records of a marked matrix follow their pods only if they are aligned. -/
theorem RecordsFollow.aligned (h : RecordsFollow instanceName shards pods) (hmarked : Marked shards) :
    Aligned (persistedOrdinals shards) (podOrdinals pods) := by
  have hgap : ∀ first second, first < second → shards[first]? = some [] → recorded (shards.getD second []) = [] := by
    intro first second hlt hfirst
    by_contra hrecords
    cases hsecond : shards[second]? with
    | none =>
      rw [List.getD_eq_getElem?_getD, hsecond] at hrecords
      exact hrecords rfl
    | some nodes =>
      rw [List.getD_eq_getElem?_getD, hsecond, Option.getD_some] at hrecords
      have hne : nodes ≠ [] := by
        rintro rfl
        exact hrecords rfl
      obtain ⟨position, -, hpartition, hbefore⟩ := exists_partition_of_shard instanceName hsecond hne 0
      rw [Nat.zero_add] at hpartition
      have hentry := List.getElem?_eq_getElem (List.length_pos_of_ne_nil hrecords)
      have hposition := (h.partition_position hmarked hsecond hpartition hentry).1
      have hearlier := hbefore ⟨first, hlt, hfirst⟩
      omega
  constructor
  · intro ordinals hordinals index ordinal hget
    obtain ⟨nodes, hnodes, rfl⟩ := List.mem_map.mp hordinals
    obtain ⟨shard, hshard⟩ := List.mem_iff_getElem?.mp hnodes
    have hgetD : shards.getD shard [] = nodes := by
      rw [List.getD_eq_getElem?_getD, hshard, Option.getD_some]
    rw [List.getElem?_map] at hget
    obtain ⟨entry, hentry, hpod⟩ := Option.map_eq_some_iff.mp hget
    obtain ⟨node, rfl, rfl⟩ := Option.map_eq_some_iff.mp hpod
    have hne : nodes ≠ [] := by
      rintro rfl
      cases hentry
    obtain ⟨position, -, hpartition, -⟩ := exists_partition_of_shard instanceName hshard hne 0
    rw [Nat.zero_add] at hpartition
    have htopo : topologyOf (getStatefulSetName instanceName shard) index node ∈
        (partitionOf instanceName shard nodes).topology := by
      change _ ∈ shardTopology _ nodes
      rw [shardTopology_eq]
      exact List.mem_map.mpr ⟨(node, index), mem_recorded.mpr hentry, rfl⟩
    obtain ⟨named, hnamed, hip, hname⟩ := h.named _ (List.mem_of_getElem? hpartition) _ htopo
    have hmem : some node ∈ shards.getD shard [] := hgetD ▸ List.mem_of_getElem? hentry
    have hmark : mark shard named.podIndex = mark shard node.podIndex := by
      rw [← (hmarked shard named hnamed).2, ← (hmarked shard node hmem).2]
      exact hip
    have hordinal : named.podIndex = node.podIndex := (podName_getStatefulSetName_inj "" hmark).2
    rw [← hordinal]
    exact (podName_injective _ hname).symm
  · intro first second hlt hfirst
    rw [← recorded_eq_nil_iff]
    apply hgap first second hlt
    unfold persistedOrdinals at hfirst
    rw [List.getElem?_map] at hfirst
    obtain ⟨nodes, hnodes, hnil⟩ := Option.map_eq_some_iff.mp hfirst
    rw [hnodes, List.map_eq_nil_iff.mp hnil]
  · intro shard
    rw [persistedOrdinals_getD, ← recorded_ordinals, podOrdinals_getD, List.prefix_iff_getElem?]
    intro index hindex
    rw [List.length_map] at hindex
    cases hshard : shards[shard]? with
    | none =>
      rw [List.getD_eq_getElem?_getD, hshard] at hindex
      cases hindex
    | some nodes =>
      have hgetD : shards.getD shard [] = nodes := by
        rw [List.getD_eq_getElem?_getD, hshard, Option.getD_some]
      subst hgetD
      have hne : shards.getD shard [] ≠ [] := by
        intro hempty
        rw [hempty] at hindex
        cases hindex
      obtain ⟨position, hle, hpartition, -⟩ := exists_partition_of_shard instanceName hshard hne 0
      rw [Nat.zero_add] at hpartition
      have hentry := List.getElem?_eq_getElem hindex
      obtain ⟨rfl, hpod⟩ := h.partition_position hmarked hshard hpartition hentry
      rw [hpod, List.getElem_map]
      rfl

/-- The records that `ensureStatusTopoMsg` persists for nodes with given ordinals follow their pods to any later pods,
whatever the records and addresses are, exactly when they are aligned: every recorded node stands at the position of
its ordinal, no recorded shard comes after an empty one, and the recorded ordinals of every shard are the first ones
of the later pass. -/
theorem records_follow_iff_aligned (instanceName : String) (persisted : List (List (Option ℕ)))
    (later : List (List ℕ)) (hlater : ∀ ordinals ∈ later, ordinals.Pairwise (· < ·)) :
    (∀ shards pods, persistedOrdinals shards = persisted → podOrdinals pods = later →
      (∀ nodes ∈ pods, ∀ node ∈ nodes, node = Kvrocks.Node.fresh node.ip node.podIndex) →
      RecordsFollow instanceName shards pods) ↔
    Aligned persisted later := by
  constructor
  · intro hfollow
    have hpods : podOrdinals (later.map (List.map (Kvrocks.Node.fresh ""))) = later := by
      unfold podOrdinals
      rw [List.map_map]
      conv_rhs => rw [← List.map_id later]
      apply List.map_congr_left
      intro ordinals _
      rw [Function.comp_apply, List.map_map]
      exact List.map_id ordinals
    have hfresh : ∀ nodes ∈ later.map (List.map (Kvrocks.Node.fresh "")), ∀ node ∈ nodes,
        node = Kvrocks.Node.fresh node.ip node.podIndex := by
      intro nodes hnodes node hnode
      obtain ⟨ordinals, -, rfl⟩ := List.mem_map.mp hnodes
      obtain ⟨ordinal, -, rfl⟩ := List.mem_map.mp hnode
      rfl
    have haligned := (hfollow (markedShards persisted) _ (persistedOrdinals_markedShards persisted)
      hpods hfresh).aligned (marked_markedShards persisted)
    rwa [persistedOrdinals_markedShards, hpods] at haligned
  · rintro haligned shards pods rfl rfl hfresh
    exact haligned.recordsFollow hlater hfresh instanceName

/-- Without gaps the records follow their pods when the shard grows. -/
theorem records_follow_scaleUp : RecordsFollow "demo"
      [[some { Kvrocks.Node.fresh "10.0.0.1" 0 with nodeId := "a", role := .master },
        some { Kvrocks.Node.fresh "10.0.0.2" 1 with nodeId := "b", role := .slave }]]
      [[Kvrocks.Node.fresh "10.0.0.1" 0, Kvrocks.Node.fresh "10.0.0.9" 1, Kvrocks.Node.fresh "10.0.0.3" 2]] := by
  refine (records_follow_iff_aligned "demo" [[some 0, some 1]] [[0, 1, 2]] (by decide)).mpr
    ⟨?_, ?_, ?_⟩ _ _ rfl rfl (by decide)
  · intro shard hshard index ordinal hget
    obtain rfl := List.mem_singleton.mp hshard
    match index with
    | 0 => cases hget; rfl
    | 1 => cases hget; rfl
    | index + 2 => cases hget
  · intro first second hlt hempty
    match first with
    | 0 => cases hempty
    | first + 1 => cases hempty
  · intro shard
    match shard with
    | 0 => exact ⟨[2], rfl⟩
    | shard + 1 => exact List.nil_prefix

/-- A shard with the ordinals 0 and 2, as a shrink with a master at ordinal 2 leaves it, names its second record after
a pod that does not exist.  When ordinal 1 is added, the new pod gets the record of ordinal 2, whose own pod gets
none. -/
theorem records_do_not_follow_gap : ¬ RecordsFollow "demo"
      [[some { Kvrocks.Node.fresh "10.0.0.1" 0 with nodeId := "a", role := .slave },
        some { Kvrocks.Node.fresh "10.0.0.3" 2 with nodeId := "c", role := .master }]]
      [[Kvrocks.Node.fresh "10.0.0.1" 0, Kvrocks.Node.fresh "10.0.0.2" 1, Kvrocks.Node.fresh "10.0.0.3" 2]] := by
  intro h
  obtain ⟨restored, hrestored, -, hown⟩ := h.restored
  have hvalue : restored = [[{ Kvrocks.Node.fresh "10.0.0.1" 0 with nodeId := "a", role := .slave },
        { Kvrocks.Node.fresh "10.0.0.2" 1 with nodeId := "c", role := .master },
        Kvrocks.Node.fresh "10.0.0.3" 2]] :=
    (Option.some.inj hrestored).symm
  subst hvalue
  have hrecord := hown 0 (Kvrocks.Node.fresh "10.0.0.3" 2) (by decide)
  have hid := (hrecord.kept { Kvrocks.Node.fresh "10.0.0.3" 2 with nodeId := "c", role := .master } 1 rfl rfl).nodeId
  exact absurd hid (by decide)

end KvrocksOperator.Cluster
