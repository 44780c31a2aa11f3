import KvrocksOperator.Cluster.Kubernetes

/-!
# Nodes, roles and the controller's cluster

`pkg/controllers/cluster/kvrocks.go`: configuration, roles and labels of the nodes, the update of the
kvrocks-controller's shards, and the version of the topology.
-/

namespace KvrocksOperator.Cluster

open Interaction Text Resources

/-! ## Configuration -/

/-- `ensureKVRocksConfig` -/
def ensureKVRocksConfig : HandlerM Unit := do
  let h ← Method.get
  Method.lift (forEach (Common.ensureConfig h.instance_ h.password) h.stsNodes)
  Method.modify fun h ↦ { h with password := h.instance_.spec.password }
  Method.lift (K8s.updateConfigMap (newKVRocksConfigMap h.instance_))

/-! ## Labels and roles -/

/-- `updatePodLabels` -/
def updatePodLabels (key : NamespacedName) (role : Role) : Go Unit := do
  let pod ← K8s.getPod key
  if (pod.labels.lookup kvrocksRole).getD "" ≠ role.text then
    K8s.updatePod { pod with labels := pod.labels.set kvrocksRole role.text }
  else pure ()

/-- The key of the pod of a node of shard `partition`. -/
def podKey (instance_ : KVRocks) (partition : ℕ) (node : Node) : NamespacedName :=
  ⟨instance_.ns, podName (getStatefulSetName instance_.name partition) node.podIndex⟩

/-- Label the pod of a node with its role. -/
def labelNode (instance_ : KVRocks) (partition : ℕ) (node : Node) : Go Node := do
  updatePodLabels (podKey instance_ partition node) node.role
  pure node

/-- The roles that `initCluster` gives: the first node of a shard is the master. -/
def initRoles : List Node → List Node
  | [] => []
  | node :: nodes => { node with role := .master } :: nodes.map ({ · with role := .slave })

/-- `initCluster`: an empty shard is an index out of range. -/
def initCluster : HandlerM Unit := do
  let h ← Method.get
  if [] ∈ h.stsNodes then Method.lift Fallible.panic
  else do
    let stsNodes ← Method.lift (mapEach
      (fun (nodes, partition) ↦ mapEach (labelNode h.instance_ partition) (initRoles nodes))
      h.stsNodes.zipIdx)
    Method.modify fun h ↦ { h with stsNodes := stsNodes }

/-- The node id of the first master, or the empty text. -/
def masterNodeID (nodes : List Node) : String :=
  match nodes.find? (·.role == .master) with
  | some node => node.nodeId
  | none => ""

/-- Make a node a slave of the shard's master unless it is the master or follows it already. -/
def followMaster (masterID : String) (node : Node) : Node :=
  if node.nodeId ≠ masterID ∧ node.master ≠ masterID then
    { node with master := masterID, role := .slave }
  else node

/-- One shard of `ensureReplication`. -/
def replicateShard (instance_ : KVRocks) (partition : ℕ) (nodes : List Node) : Go (List Node) :=
  if masterNodeID nodes = "" then
    match nodes with
    | [] => Fallible.panic
    | first :: rest =>
      mapEach (fun node ↦ labelNode instance_ partition (followMaster first.nodeId node))
        ({ first with role := .master } :: rest)
  else
    mapEach (fun node ↦ labelNode instance_ partition (followMaster (masterNodeID nodes) node)) nodes

/-- `ensureReplication` -/
def ensureReplication : HandlerM Unit := do
  let h ← Method.get
  let stsNodes ← Method.lift (mapEach
    (fun (nodes, partition) ↦ replicateShard h.instance_ partition nodes) h.stsNodes.zipIdx)
  Method.modify fun h ↦ { h with stsNodes := stsNodes }

/-! ## The version of the topology -/

/-- Whether the records of a shard differ from its nodes in number, in an address or in a role. -/
def shardChanged : List KVRocksTopology → List Node → Bool
  | [], [] => false
  | topo :: topology, node :: nodes =>
    topo.ip ≠ node.ip || topo.role ≠ node.role || shardChanged topology nodes
  | _, _ => true

/-- Whether the persisted topology differs from the node matrix. -/
def topoChanged : List KVRocksTopoPartitions → Matrix → Bool
  | [], [] => false
  | partition :: partitions, nodes :: shards =>
    shardChanged partition.topology nodes || topoChanged partitions shards
  | _, _ => true

/-- `ensureVersion`; a topology that has never been written is always a change. -/
def ensureVersion : HandlerM Unit :=
  Method.modify fun h ↦
    if h.instance_.status.topo = [] ∨ topoChanged h.instance_.status.topo h.stsNodes then
      { h with version := Kvrocks.wrapInt (h.version + 1) }
    else h

/-! ## Failed nodes -/

/-- `SendFailoverMsg` of `pkg/controllers/events`. -/
def sendFailoverMsg (ip : String) (key : NamespacedName) (partition : ℤ) : Go Unit :=
  Fallible.lift (ask (.addMessage ip (itoa Kvrocks.kvrocksPort) key partition))

/-- One node of the loops of `ensureFailover`: the node and whether it has changed. -/
def failoverNode (partition index : ℕ) (node : Node) : HandlerM (Node × Bool) := do
  let h ← Method.get
  if node.failover then do
    setRequeue
    let alive ← Method.lift (Kvrocks.ping node.ip h.password)
    if alive then pure ({ node with failover := false }, true)
    else do
      let name := podName (getStatefulSetName h.instance_.name partition) index
      Method.lift (K8s.deletePVCByPod name h.instance_.ns)
      Method.lift (K8s.deletePodImmediately name h.instance_.ns)
      pure ({ node with failover := false }, true)
  else do
    let alive ← Method.lift (Kvrocks.ping node.ip h.password)
    if alive then pure (node, false)
    else do
      setRequeue
      Method.lift (sendFailoverMsg node.ip h.key partition)
      pure (node, false)

/-- `ensureFailover` -/
def ensureFailover : HandlerM Unit := do
  let h ← Method.get
  let results ← mapEach (fun (nodes, partition) ↦
      mapEach (fun (node, index) ↦ failoverNode partition index node) nodes.zipIdx)
    h.stsNodes.zipIdx
  Method.modify fun h ↦ { h with stsNodes := results.map (·.map Prod.fst) }
  if results.any (·.any Prod.snd) then do
    Method.modify fun h ↦ { h with version := Kvrocks.wrapInt (h.version + 1) }
    ensureStatusTopoMsg
  else pure ()

/-! ## The controller's cluster -/

/-- `simplyIp`: the part of an address before the first colon. -/
def simplyIp (ip : String) : String := (split ':' ip).headD ""

/-- The address under which a node is registered. -/
def nodeAddr (node : Node) : String := node.ip ++ ":" ++ itoa Kvrocks.kvrocksPort

/-- One shard of the first loop of `updateCluster`: a missing shard is created, and nodes whose address belongs to no
pod are deleted. -/
def removeStaleNodes (client : Controller.Client) (password : String) (shard : List Node × ℕ) : Go Unit := do
  match ← Controller.getNodes client shard.2 with
  | none => Controller.createShard client (shard.1.map nodeAddr) password
  | some shardData =>
    forEach (fun node ↦
      if shard.1.any fun wanted ↦ simplyIp node.addr == wanted.ip then pure ()
      else Controller.deleteNode client shard.2 node.id) shardData.nodes

/-- One shard of the second loop of `updateCluster`. -/
def addMissingNodes (client : Controller.Client) (password : String) (shard : List Node × ℕ) : Go Unit := do
  match ← Controller.getNodes client shard.2 with
  | none => if shard.1 = [] then pure () else Fallible.panic
  | some shardData =>
    forEach (fun wanted ↦
      if shardData.nodes.any fun node ↦ simplyIp node.addr == wanted.ip then pure ()
      else Controller.addNode client shard.2 (nodeAddr wanted) wanted.role password) shard.1

/-- The indices from `count` down to `limit`, both as the last loop of `updateCluster` uses them. -/
def surplusShards (count limit : ℕ) : List ℕ := ((List.range count).drop limit).reverse

/-- `updateCluster` -/
def updateCluster (client : Controller.Client) (password : String) (stsNodes : Matrix) : Go Unit := do
  forEach (removeStaleNodes client password) stsNodes.zipIdx
  forEach (addMissingNodes client password) stsNodes.zipIdx
  let shards ← Controller.getShards client
  forEach (fun index : ℕ ↦ Controller.deleteShard client index) (surplusShards shards.length stsNodes.length)

/-- The id of the first master of a shard, or the empty text. -/
def masterID (nodes : List Controller.Node) : String :=
  match nodes.find? (·.role == .master) with
  | some node => node.id
  | none => ""

/-- What `ensureSetNodeID` copies from the controller's shard to a node. -/
def identify (shardData : ShardData) (node : Node) : Node :=
  match shardData.nodes.find? fun shard ↦ simplyIp shard.addr == node.ip with
  | none => node
  | some shard =>
    if shard.role = .master then
      { node with nodeId := shard.id, role := .master, master := "",
                  slots := Kvrocks.slotsToInt shardData.slotRanges }
    else
      { node with nodeId := shard.id, role := .slave, master := masterID shardData.nodes,
                  slots := Kvrocks.slotsToInt shardData.slotRanges }

/-- One shard of `ensureSetNodeID`; a shard that the controller does not have is a nil pointer. -/
def identifyShard (client : Controller.Client) (instance_ : KVRocks) (shard : List Node × ℕ) : Go (List Node) := do
  match ← Controller.getNodes client shard.2 with
  | none => Fallible.panic
  | some shardData =>
    if masterID shardData.nodes = "" then
      Fallible.throw (.text ("no master node in shard " ++ itoa shard.2))
    else
      mapEach (fun node ↦ labelNode instance_ shard.2 (identify shardData node)) shard.1

/-- `ensureSetNodeID` -/
def ensureSetNodeID : HandlerM Unit := do
  let h ← Method.get
  let stsNodes ← Method.lift (mapEach (identifyShard h.controllerClient h.instance_) h.stsNodes.zipIdx)
  Method.modify fun h ↦ { h with stsNodes := stsNodes }

/-- Register the cluster with the controller, or bring its shards up to date. -/
def registerCluster : HandlerM Unit := do
  let h ← Method.get
  if h.instance_.status.status = .creating then
    Method.lift (Controller.createCluster h.controllerClient h.instance_.spec.replicas
      (h.stsNodes.flatten.map nodeAddr) h.password)
  else Method.lift (updateCluster h.controllerClient h.password h.stsNodes)

/-- `ensureCluster`, whose first result is assigned to `h.requeue` by its caller. -/
def ensureCluster : HandlerM Unit := do
  registerCluster
  ensureSetNodeID
  Method.modify fun h ↦
    { h with instance_ := { h.instance_ with status := { h.instance_.status with status := .running } } }
  saveInstanceOrRequeue

/-- `ensureKVRocksStatus` -/
def ensureKVRocksStatus : HandlerM Unit := do
  ensureKVRocksConfig
  let h ← Method.get
  if h.instance_.status.status = .creating then initCluster else ensureReplication
  ensureCluster
  ensureVersion
  ensureStatusTopoMsg
  Method.modify fun h ↦ { h with version := h.instance_.status.version }

end KvrocksOperator.Cluster
