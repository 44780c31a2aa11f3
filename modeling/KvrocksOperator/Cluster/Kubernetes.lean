import KvrocksOperator.Cluster.Handler

/-!
# Kubernetes resources of a cluster instance

`pkg/controllers/cluster/kubernetes.go`: one StatefulSet per shard, the node matrix read from their pods and from the
persisted topology, the topology that is persisted in turn, and shrinking.
-/

namespace KvrocksOperator.Cluster

open Interaction Text Resources

/-! ## Reading the node matrix -/

/-- The loop over the pods of one StatefulSet: `none` when a pod is being deleted. -/
def podNodes : List Pod → Except GoError (Option (List Node))
  | [] => .ok (some [])
  | pod :: pods =>
    if pod.deletionTimestamp then .ok none
    else
      match getPVCOrPodIndex pod.name with
      | .error error => .error (Common.atoiError (lastField pod.name) error)
      | .ok podIndex =>
        match podNodes pods with
        | .ok (some nodes) => .ok (some (Kvrocks.Node.fresh pod.ip podIndex :: nodes))
        | .ok none => .ok none
        | .error error => .error error

/-- `sort.Slice` by `PodIndex`. -/
def sortNodes (nodes : List Node) : List Node := nodes.insertionSort (·.podIndex ≤ ·.podIndex)

/-- The key of the StatefulSet of shard `index`. -/
def statefulSetKey (instance_ : KVRocks) (index : ℕ) : NamespacedName :=
  ⟨instance_.ns, getStatefulSetName instance_.name index⟩

/-- The nodes of shard `index`, or `none` when the shard has to be waited for. -/
def initShardNodes (instance_ : KVRocks) (index : ℕ) : Go (Option (List Node)) := do
  let sts ← K8s.getStatefulSet (statefulSetKey instance_ index)
  if sts.readyReplicas ≠ sts.replicas then pure none
  else do
    let pods ← K8s.listStatefulSetPods (statefulSetKey instance_ index)
    match podNodes pods with
    | .error error => Fallible.throw error
    | .ok none => pure none
    | .ok (some nodes) => pure (some (sortNodes nodes))

/-- The shards of the given indices; the first one that has to be waited for ends the loop. -/
def initStsNodes (instance_ : KVRocks) : List ℕ → Go (Option Matrix)
  | [] => pure (some [])
  | index :: indices => do
    match ← initShardNodes instance_ index with
    | none => pure none
    | some nodes =>
      match ← initStsNodes instance_ indices with
      | none => pure none
      | some shards => pure (some (nodes :: shards))

/-- What a persisted record gives back to the node at its position. -/
def restoreNode (topo : KVRocksTopology) (node : Node) : Node :=
  { node with
    nodeId := topo.nodeId
    role := topo.role
    master := topo.masterId
    slots := Kvrocks.slotsToInt topo.slots
    failover := topo.failover
    migrate := node.migrate ++ topo.migrate.map fun migrate ↦
      { shard := migrate.shard, slots := Kvrocks.slotsToInt migrate.slots } }

/-- Records are paired with nodes by position; a record too many is an index out of range. -/
def restoreShard : List KVRocksTopology → List Node → Option (List Node)
  | [], nodes => some nodes
  | _ :: _, [] => none
  | topo :: topology, node :: nodes => do
    let restored ← restoreShard topology nodes
    some (restoreNode topo node :: restored)

/-- The loop of `ensureKubernetes` under "fix topo message". -/
def restoreTopo : List KVRocksTopoPartitions → Matrix → Option Matrix
  | [], shards => some shards
  | partition :: partitions, [] =>
    -- a partition without records indexes nothing
    if partition.topology = [] then restoreTopo partitions [] else none
  | partition :: partitions, nodes :: shards => do
    let restored ← restoreShard partition.topology nodes
    let rest ← restoreTopo partitions shards
    some (restored :: rest)

/-- Scale the StatefulSet of shard `index` up when it has fewer replicas than the instance.  The loop over `reserve`
drops one entry for each new replica. -/
def scaleUp (instance_ : KVRocks) (index : ℕ) : Go Unit := do
  let sts := newClusterStatefulSet instance_ index
  let oldSts ← K8s.getStatefulSet ⟨instance_.ns, sts.name⟩
  let delta := K8s.replicasDelta sts oldSts
  if delta > 0 then
    K8s.updateStatefulSet
      { sts with
        resourceVersion := oldSts.resourceVersion
        reserveOrdinals := oldSts.reserveOrdinals.drop delta.toNat }
  else pure ()

/-- The last part of `ensureKubernetes`: the persisted topology is put over the new node matrix. -/
def fixTopo (stsNodes : Matrix) : HandlerM Unit := do
  let h ← Method.get
  let curInstance ← Method.lift (K8s.getKVRocks h.key)
  if h.instance_.resourceVersion ≠ curInstance.resourceVersion then setRequeue
  else do
    let fixed ← Method.lift (Fallible.ofOption (restoreTopo h.instance_.status.topo stsNodes))
    Method.modify fun h ↦ { h with stsNodes := fixed, version := h.instance_.status.version }

/-- The part of `ensureKubernetes` that starts with the StatefulSets. -/
def ensureStatefulSets : HandlerM Unit := do
  let h ← Method.get
  Method.lift (forEach (fun index ↦ K8s.createStatefulSetOrUpdateImage (newClusterStatefulSet h.instance_ index))
    (List.range h.instance_.spec.master))
  let curStsList ← Method.lift (K8s.listStatefulSets h.instance_.ns (selectorLabels h.instance_))
  if curStsList.length < h.instance_.spec.master then setRequeue
  else do
    Method.lift (forEach (scaleUp h.instance_) (List.range curStsList.length))
    match ← Method.lift (initStsNodes h.instance_ (List.range curStsList.length)) with
    | none => setRequeue
    | some stsNodes => fixTopo stsNodes

/-- `ensureKubernetes` -/
def ensureKubernetes : HandlerM Unit := do
  let h ← Method.get
  Method.lift (K8s.createIfNotExistsConfigMap (newKVRocksConfigMap h.instance_))
  Method.lift (K8s.createIfNotExistsObject .service h.instance_.key)
  match ← Method.lift (K8s.getConfigMap h.key).handle with
  | .error error => if error.isNotFound then setRequeue else Method.throw error
  | .ok oldCM => do
    Method.modify fun h ↦ { h with password := (oldCM.data.lookup "password").getD "" }
    ensureStatefulSets

/-! ## Persisting the topology -/

/-- The record of the node at position `index` of a shard. -/
def topologyOf (partitionName : String) (index : ℕ) (node : Node) : KVRocksTopology :=
  { pod := podName partitionName index
    role := node.role
    nodeId := node.nodeId
    ip := node.ip
    port := Kvrocks.kvrocksPort
    slots := Kvrocks.slotsToString node.slots
    masterId := node.master
    migrate := node.migrate.map fun migrate ↦ { shard := migrate.shard, slots := Kvrocks.slotsToString migrate.slots }
    failover := false }

/-- The records of one shard; positions of removed nodes (`none`) leave no record. -/
def shardTopology (partitionName : String) (nodes : List (Option Node)) : List KVRocksTopology :=
  nodes.zipIdx.filterMap fun (node, index) ↦ node.map (topologyOf partitionName index)

/-- The partition of shard `index`. -/
def partitionOf (instanceName : String) (index : ℕ) (nodes : List (Option Node)) :
    KVRocksTopoPartitions :=
  { partitionName := getStatefulSetName instanceName index
    shard := index
    topology := shardTopology (getStatefulSetName instanceName index) nodes }

/-- The topology made from a node matrix; shards without nodes are left out. -/
def statusTopo (instanceName : String) (shards : List (List (Option Node))) : List KVRocksTopoPartitions :=
  shards.zipIdx.filterMap fun (nodes, index) ↦
    if nodes = [] then none else some (partitionOf instanceName index nodes)

/-- `ensureStatusTopoMsg` for a node matrix in which nodes may have been removed. -/
def persistTopo (shards : List (List (Option Node))) : HandlerM Unit := do
  Method.modify fun h ↦
    { h with instance_ :=
        { h.instance_ with status :=
            { h.instance_.status with
              topo := statusTopo h.instance_.name shards, version := h.version } } }
  saveInstanceOrRequeue

/-- `SlotsToString` sorts the slices it is given in place. -/
def sortSlots (node : Node) : Node :=
  { node with
    slots := Kvrocks.sortInts node.slots
    migrate := node.migrate.map fun migrate ↦
      { migrate with slots := Kvrocks.sortInts migrate.slots } }

/-- `ensureStatusTopoMsg` -/
def ensureStatusTopoMsg : HandlerM Unit := do
  let h ← Method.get
  Method.modify fun h ↦ { h with stsNodes := h.stsNodes.map (·.map sortSlots) }
  persistTopo (h.stsNodes.map (·.map some))

/-! ## Shrinking -/

/-- The first loop of `getReserveIndex`, over the nodes from the last to the first: the ordinals of `delta` nodes that
are not the master, and the ordinal of the last master passed. -/
def reserveLoop : ℕ → ℕ → List Node → List ℕ × ℕ
  | 0, masterID, _ => ([], masterID)
  | _ + 1, masterID, [] => ([], masterID)
  | delta + 1, masterID, node :: nodes =>
    if node.role ≠ .master then
      (node.podIndex :: (reserveLoop delta masterID nodes).1, (reserveLoop delta masterID nodes).2)
    else reserveLoop (delta + 1) node.podIndex nodes

/-- The second loop of `getReserveIndex`: `nodes[id] = nil` for every chosen ordinal, which is an index out of range
when there are not that many nodes. -/
def removeLoop (masterID : ℕ) : List ℕ → List (Option Node) → Option (List ℕ × List (Option Node))
  | [], nodes => some ([], nodes)
  | id :: ids, nodes =>
    if id < nodes.length then do
      let (result, rest) ← removeLoop masterID ids (nodes.set id none)
      some (if id > masterID then result else id :: result, rest)
    else none

/-- `getReserveIndex`: the ordinals to reserve (`none` when the shard need not shrink) and the nodes that are left. -/
def getReserveIndex (replicas : ℤ) (nodes : List Node) : Option (Option (List ℕ) × List (Option Node)) :=
  let delta : ℤ := nodes.length - replicas
  if delta > 0 then do
    let (reserve, masterID) := reserveLoop delta.toNat 0 nodes.reverse
    let (result, rest) ← removeLoop masterID reserve.reverse (nodes.map some)
    some (some result, rest)
  else some (none, nodes.map some)

/-- The loop of `ensureShrink` over the shards that stay. -/
def shrinkShards (instance_ : KVRocks) : ℕ → Matrix → Option (List (String × List ℕ) × List (List (Option Node)))
  | _, [] => some ([], [])
  | index, nodes :: shards => do
    let (reserve, rest) ← getReserveIndex instance_.spec.replicas nodes
    let (reserves, kept) ← shrinkShards instance_ (index + 1) shards
    some (match reserve with
      | some ids => ((getStatefulSetName instance_.name index, ids) :: reserves, rest :: kept)
      | none => (reserves, rest :: kept))

/-- Remove the monitor of a shard that goes away. -/
def removeShardMonitor (index : ℕ) : HandlerM Unit := do
  let h ← Method.get
  let (requeue, error) ← Method.lift (Common.removeMonitor h.instance_ (parseRedisName h.instance_.name).2 index)
  Method.modify fun h ↦ { h with requeue := requeue }
  match error with
  | some error => Method.throw error
  | none => pure ()

/-- The indices of the shards beyond `Spec.Master`. -/
def shrinkIndex (h : Handler) : List ℕ := (List.range h.stsNodes.length).drop h.instance_.spec.master

/-- The rest of `ensureShrink`, after the monitors are removed.  The handler's own matrix is not changed here: nothing
reads it after a shrink message has been written. -/
def planShrink : HandlerM Unit := do
  let h ← Method.get
  -- a missing shard would be an index out of range
  if h.stsNodes.length < h.instance_.spec.master then Method.lift Fallible.panic
  else do
    let (reserves, kept) ← Method.lift (Fallible.ofOption
      (shrinkShards h.instance_ 0 (h.stsNodes.take h.instance_.spec.master)))
    if shrinkIndex h = [] ∧ reserves = [] then pure ()
    else do
      Method.modify fun h ↦
        { h with instance_ :=
            { h.instance_ with status :=
                { h.instance_.status with
                  shrink := some { partition := shrinkIndex h, reserveMsg := reserves } } } }
      persistTopo kept

/-- `ensureShrink` -/
def ensureShrink : HandlerM Unit := do
  let h ← Method.get
  Method.lift (Fallible.lift (ask (.enter (.ensureShrink h.instance_ h.stsNodes))))
  if h.instance_.status.rebalance then pure ()
  else do
    forEach removeShardMonitor (shrinkIndex h)
    planShrink

/-- One entry of `ReserveMsg` in `cleanStatefulSet`. -/
def applyReserve (instance_ : KVRocks) (entry : String × List ℕ) : Go Unit := do
  let sts ← K8s.getStatefulSet ⟨instance_.ns, entry.1⟩
  K8s.updateStatefulSet
    { sts with
      replicas := instance_.spec.replicas
      reserveOrdinals := sts.reserveOrdinals ++ entry.2 }

/-- `cleanStatefulSet` with the shrink message of the instance. -/
def cleanStatefulSet (shrink : KVRocksShrinkMsg) : HandlerM Unit := do
  let h ← Method.get
  Method.lift (forEach (fun index ↦ K8s.deleteStatefulSetIfExists (statefulSetKey h.instance_ index)) shrink.partition)
  Method.lift (forEach (applyReserve h.instance_) shrink.reserveMsg)
  Method.modify fun h ↦
    { h with instance_ :=
        { h.instance_ with status :=
            { h.instance_.status with
              shrink := none, version := Kvrocks.wrapInt (h.instance_.status.version + 1) } } }
  saveInstance

/-! ## Claims of removed pods -/

/-- Whether `cleanPersistentVolumeClaim` removes a claim; `none` is an index out of range.  `sort.Search` finds the
first node whose ordinal is not smaller. -/
def claimIsStale (h : Handler) (name : String) : Option Bool :=
  let fields := (split '-' name).reverse
  match fields with
  | podField :: stsField :: _ =>
    let stsIdx := (atoi stsField).1
    let podIdx := (atoi podField).1
    if stsIdx ≥ h.instance_.spec.master then some true
    else do
      let nodes ← h.stsNodes[stsIdx.toNat]?
      match nodes.find? fun node ↦ decide ((node.podIndex : ℤ) ≥ podIdx) with
      | none => some true
      | some node => some (decide ((node.podIndex : ℤ) ≠ podIdx))
  | _ => none

/-- One claim of the loop of `cleanPersistentVolumeClaim`. -/
def cleanClaim (h : Handler) (claim : NamespacedName) : Go Unit := do
  let remove ← Fallible.ofOption (claimIsStale h claim.name)
  if remove then K8s.deletePVC claim else pure ()

/-- `cleanPersistentVolumeClaim` -/
def cleanPersistentVolumeClaim : HandlerM Unit := do
  let h ← Method.get
  if h.instance_.status.shrink.isSome then pure ()
  else do
    let pvcList ← Method.lift (K8s.listPVC h.instance_.ns (selectorLabels h.instance_))
    Method.lift (forEach (cleanClaim h) pvcList)

end KvrocksOperator.Cluster
