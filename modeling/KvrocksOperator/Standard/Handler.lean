import KvrocksOperator.Cluster.Kvrocks
import KvrocksOperator.Standard.Config

/-!
# A pass over a standard instance

`pkg/controllers/standard`: one StatefulSet with one master.  The pass brings the StatefulSet up, makes every other
node follow the master, scales down and removes the claims of removed pods.
-/

namespace KvrocksOperator.Standard

open Interaction Text Resources

/-- `NewKVRocksStandardHandler` -/
def newKVRocksStandardHandler (key : NamespacedName) (instance_ : KVRocks) :
    KVRocksStandardHandler :=
  { instance_ := instance_, password := "", stsNodes := [], requeue := false, key := key }

/-- `h.requeue = true` -/
def setRequeue : HandlerM Unit := Method.modify fun h ↦ { h with requeue := true }

/-- Write the instance and keep the resource version of the answer. -/
def saveInstance : HandlerM Unit :=
  Common.saveInstance KVRocksStandardHandler.instance_ fun saved h ↦ { h with instance_ := saved }

/-! ## Kubernetes resources -/

/-- The node of a pod. -/
def podNode (password : String) (pod : Pod) : Go Node := do
  let (ip, role) ← Kvrocks.nodeInfo pod.ip password
  match getPVCOrPodIndex pod.name with
  | .error error => Fallible.throw (Common.atoiError (lastField pod.name) error)
  | .ok index => pure { Kvrocks.Node.fresh ip index with role := role }

/-- The StatefulSet that `ensureKubernetes` looks at after scaling up.  The update is accepted only if the StatefulSet
has not changed, so the answer carries the status that was read. -/
def scaledUp (oldSts sts : StatefulSet) : StatefulSet :=
  { sts with
    resourceVersion := oldSts.resourceVersion
    reserveOrdinals := oldSts.reserveOrdinals.drop (K8s.replicasDelta sts oldSts).toNat
    readyReplicas := oldSts.readyReplicas }

/-- Scale the StatefulSet up when it has fewer replicas than the instance. -/
def scaleUp (sts oldSts : StatefulSet) : Go StatefulSet :=
  if K8s.replicasDelta sts oldSts > 0 then do
    K8s.updateStatefulSet (scaledUp oldSts sts)
    pure (scaledUp oldSts sts)
  else pure oldSts

/-- The part of `ensureKubernetes` that starts with the StatefulSet. -/
def ensureStatefulSet : HandlerM Unit := do
  let h ← Method.get
  Method.lift (K8s.createStatefulSetOrUpdateImage (newReplicationStatefulSet h.instance_))
  match ← Method.lift (K8s.getStatefulSet h.key).handle with
  | .error error => if error.isNotFound then setRequeue else Method.throw error
  | .ok oldSts => do
    let current ← Method.lift (scaleUp (newReplicationStatefulSet h.instance_) oldSts)
    if current.readyReplicas ≠ current.replicas then setRequeue
    else do
      let pods ← Method.lift (K8s.listStatefulSetPods h.key)
      let nodes ← Method.lift (mapEach (podNode h.password) pods)
      Method.modify fun h ↦ { h with stsNodes := Cluster.sortNodes (h.stsNodes ++ nodes) }

/-- `ensureKubernetes` -/
def ensureKubernetes : HandlerM Unit := do
  let h ← Method.get
  Method.lift (K8s.createIfNotExistsConfigMap (newKVRocksConfigMap h.instance_))
  Method.lift (K8s.createIfNotExistsObject .service h.instance_.key)
  match ← Method.lift (K8s.getConfigMap h.key).handle with
  | .error error => if error.isNotFound then setRequeue else Method.throw error
  | .ok oldCM => do
    Method.modify fun h ↦ { h with password := (oldCM.data.lookup "password").getD "" }
    ensureStatefulSet

/-! ## Replication -/

/-- `updateKVRocksRole`; it labels a pod as `updatePodLabels` of cluster instances does. -/
def updateKVRocksRole (instance_ : KVRocks) (podID : ℕ) (role : Role) : Go Unit :=
  Cluster.updatePodLabels ⟨instance_.ns, podName instance_.name podID⟩ role

/-- `SlaveOfMaster` -/
def slaveOfMaster (instance_ : KVRocks) (password masterIP : String) (node : Node) : Go Node := do
  let curMasterIP ← Kvrocks.getMaster node.ip password
  if curMasterIP ≠ masterIP then Kvrocks.slaveOf node.ip masterIP password else pure ()
  updateKVRocksRole instance_ node.podIndex .slave
  pure { node with role := .slave }

/-- The nodes of a new instance: the first one becomes the master of the others. -/
def initReplication (instance_ : KVRocks) (password : String) : List Node → Go (List Node)
  | [] => pure []
  | first :: rest => do
    Kvrocks.changeMyselfToMaster first.ip password
    updateKVRocksRole instance_ first.podIndex .master
    let slaves ← mapEach (slaveOfMaster instance_ password first.ip) rest
    pure ({ first with role := .master } :: slaves)

/-- The address of the only master, empty when there is none. -/
def onlyMaster : String → List Node → Except GoError String
  | masterIP, [] => .ok masterIP
  | masterIP, node :: nodes =>
    if node.role = .master then
      if masterIP = "" then onlyMaster node.ip nodes
      else if masterIP ≠ node.ip then .error (.text "more than one master exist")
      else onlyMaster masterIP nodes
    else onlyMaster masterIP nodes

/-- One node of an instance that has a master. -/
def followOnlyMaster (instance_ : KVRocks) (password masterIP : String) (node : Node) : Go Node :=
  if node.ip ≠ masterIP then slaveOfMaster instance_ password masterIP node
  else do
    updateKVRocksRole instance_ node.podIndex .master
    pure node

/-- Add the finalizer and tell the sentinels that monitor the instance. -/
def finishReplication : HandlerM Unit := do
  let h ← Method.get
  if kvrocksFinalizer ∈ h.instance_.finalizers then pure ()
  else do
    Method.modify fun h ↦
      { h with instance_ :=
          { h.instance_ with finalizers := h.instance_.finalizers ++ [kvrocksFinalizer] } }
    saveInstance
  match h.instance_.labels.lookup monitoredBy with
  | some sentinelName => Method.lift (Common.updateSentinelAnnotationCount h.instance_.ns sentinelName)
  | none => pure ()

/-- `ensureKVRocksReplication` -/
def ensureKVRocksReplication : HandlerM Unit := do
  let h ← Method.get
  if h.instance_.status.status = .creating then do
    let stsNodes ← Method.lift (initReplication h.instance_ h.password h.stsNodes)
    Method.modify fun h ↦
      { h with
        stsNodes := stsNodes
        instance_ := { h.instance_ with status := { h.instance_.status with status := .running } } }
    saveInstance
  else
    match onlyMaster "" h.stsNodes with
    | .error error => Method.throw error
    | .ok masterIP =>
      if masterIP = "" then setRequeue
      else do
        let stsNodes ← Method.lift (mapEach (followOnlyMaster h.instance_ h.password masterIP) h.stsNodes)
        Method.modify fun h ↦ { h with stsNodes := stsNodes }
        finishReplication

/-- `ensureKVRocksStatus`; the configuration phase never asks for a requeue. -/
def ensureKVRocksStatus : HandlerM Unit := do
  ensureKVRocksConfig
  ensureKVRocksReplication

/-! ## Scaling down -/

/-- `resizeStatefulSet`: slaves with the highest ordinals go first, and only ordinals up to the master's are reserved.
-/
def resizeStatefulSet : HandlerM Unit := do
  let h ← Method.get
  let delta : ℤ := h.stsNodes.length - h.instance_.spec.replicas
  if delta > 0 then do
    let (reserve, masterID) := Cluster.reserveLoop delta.toNat 0 h.stsNodes.reverse
    Method.lift (K8s.createOrUpdateStatefulSet
      { newReplicationStatefulSet h.instance_ with
        reserveOrdinals := reserve.reverse.takeWhile fun id ↦ decide (id ≤ masterID) })
    setRequeue
  else pure ()

/-- One claim of the loop of `cleanPersistentVolumeClaim`. -/
def cleanClaim (h : KVRocksStandardHandler) (claim : NamespacedName) : Go Unit :=
  match getPVCOrPodIndex claim.name with
  | .error error => Fallible.throw (Common.atoiError (lastField claim.name) error)
  | .ok index =>
    if h.stsNodes.any fun node ↦ node.podIndex == index then pure () else K8s.deletePVC claim

/-- `cleanPersistentVolumeClaim` -/
def cleanPersistentVolumeClaim : HandlerM Unit := do
  let h ← Method.get
  let pvcList ← Method.lift (K8s.listStatefulSetPVC h.key)
  Method.lift (forEach (cleanClaim h) pvcList)

/-! ## The pass -/

/-- Go on to the next phase unless the phase asks for a requeue. -/
def thenUnlessRequeue (phase : HandlerM Unit) (next : HandlerM Bool) : HandlerM Bool :=
  phase.thenUnless KVRocksStandardHandler.requeue next

/-- `Handle`: whether the pass is finished. -/
def handle : HandlerM Bool :=
  thenUnlessRequeue ensureKubernetes <|
  thenUnlessRequeue ensureKVRocksStatus <|
  thenUnlessRequeue resizeStatefulSet <|
  thenUnlessRequeue cleanPersistentVolumeClaim <|
  pure true

/-- `Finializer` -/
def finializer : HandlerM Unit := do
  let h ← Method.get
  match h.instance_.labels.lookup monitoredBy with
  | none => pure ()
  | some _ => do
    let (requeue, error) ← Method.lift (Common.removeMonitorNamed h.instance_ (parseRedisName h.instance_.name).2)
    Method.modify fun h ↦ { h with requeue := requeue }
    match error with
    | some error => Method.throw error
    | none => pure ()

end KvrocksOperator.Standard
