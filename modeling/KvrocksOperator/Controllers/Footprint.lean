import KvrocksOperator.Api.Footprint
import KvrocksOperator.Controllers.Handlers

/-!
# The footprints of the operator's functions

The kinds of calls made by the clients, by the functions the handlers share, and by the phases of the three handlers
that do not write a custom resource.
-/

namespace KvrocksOperator

open Interaction

/-! ## The Kubernetes client -/

namespace K8s

theorem createIfNotExists_makes {kinds : List CallKind} {request : Program operator (ApiResult Unit)}
    (h : request.All (OfKind kinds) fun _ ↦ True) : Makes kinds (createIfNotExists request) := by
  apply (makes_lift h).bind
  intro reply
  cases reply with
  | ok _ => exact makes_pure ()
  | error error =>
    cases error with
    | alreadyExists => exact makes_pure ()
    | _ => exact makes_throw _

theorem getKVRocks_calm (key : NamespacedName) : Calm [.getKVRocks] True (getKVRocks key) :=
  calm_attempt (all_ask List.mem_cons_self)

theorem getKVRocks_makes (key : NamespacedName) : Makes [.getKVRocks] (getKVRocks key) := (getKVRocks_calm key).makes

theorem updateKVRocks_calm (instance_ : KVRocks) : Calm [.updateKVRocks] True (updateKVRocks instance_) := by
  have hask : Calm [.updateKVRocks] True (Go.api (ask (.updateKVRocks instance_))) :=
    calm_attempt (all_ask List.mem_cons_self)
  exact hask.bind fun _ ↦ calm_pure _

theorem updateKVRocks_makes (instance_ : KVRocks) : Makes [.updateKVRocks] (updateKVRocks instance_) :=
  (updateKVRocks_calm instance_).makes

theorem createIfNotExistsConfigMap_makes (configMap : ConfigMap) :
    Makes [.createConfigMap] (createIfNotExistsConfigMap configMap) :=
  createIfNotExists_makes (all_ask List.mem_cons_self)

theorem getConfigMap_makes (key : NamespacedName) : Makes [.getConfigMap] (getConfigMap key) :=
  makes_api (all_ask List.mem_cons_self)

theorem updateConfigMap_makes (configMap : ConfigMap) : Makes [.updateConfigMap] (updateConfigMap configMap) :=
  makes_api (all_ask List.mem_cons_self)

theorem createOrUpdateConfigMap_makes (configMap : ConfigMap) :
    Makes [.getConfigMap, .createConfigMap, .updateConfigMap] (createOrUpdateConfigMap configMap) := by
  refine makes_ask_bind List.mem_cons_self fun reply ↦ ?_
  cases reply with
  | ok _ => exact (updateConfigMap_makes configMap).mono (by decide)
  | error error =>
    cases error with
    | notFound => exact (createIfNotExistsConfigMap_makes configMap).mono (by decide)
    | _ => exact makes_throw _

theorem deleteConfigMap_makes (key : NamespacedName) :
    Makes [.getConfigMap, .deleteConfigMap] (deleteConfigMap key) := by
  apply ((getConfigMap_makes key).mono (by decide)).bind
  intro _
  exact makes_api (all_ask (by simp [Call.kind]))

theorem createIfNotExistsObject_makes (kind : Kind) (key : NamespacedName) :
    Makes [.createObject] (createIfNotExistsObject kind key) :=
  createIfNotExists_makes (all_ask List.mem_cons_self)

theorem deleteService_makes (key : NamespacedName) : Makes [.getService, .deleteObject] (deleteService key) := by
  have hread : Makes [.getService, .deleteObject] (getService key) := makes_api (all_ask List.mem_cons_self)
  apply hread.bind
  intro _
  exact makes_api (all_ask (by simp [Call.kind]))

theorem getWorkload_makes (kind : Kind) (key : NamespacedName) : Makes [.getWorkload] (getWorkload kind key) :=
  makes_api (all_ask List.mem_cons_self)

theorem listDeploymentPods_calm (key : NamespacedName) :
    Calm [.getWorkload, .listPods] True (listDeploymentPods key) := by
  have hread : Calm [.getWorkload, .listPods] True (getWorkload .deployment key) :=
    calm_attempt (all_ask List.mem_cons_self)
  apply hread.bind
  intro _
  exact calm_attempt (all_ask (by simp [Call.kind]))

theorem listDeploymentPods_makes (key : NamespacedName) : Makes [.getWorkload, .listPods] (listDeploymentPods key) :=
  (listDeploymentPods_calm key).makes

theorem deleteWorkload_makes (kind : Kind) (key : NamespacedName) :
    Makes [.getWorkload, .deleteObject] (deleteWorkload kind key) := by
  apply ((getWorkload_makes kind key).mono (by decide)).bind
  intro _
  exact makes_api (all_ask (by simp [Call.kind]))

theorem createIfNotExistsStatefulSet_makes (sts : StatefulSet) :
    Makes [.createStatefulSet] (createIfNotExistsStatefulSet sts) :=
  createIfNotExists_makes (all_ask List.mem_cons_self)

theorem getStatefulSet_makes (key : NamespacedName) : Makes [.getStatefulSet] (getStatefulSet key) :=
  makes_api (all_ask List.mem_cons_self)

theorem updateStatefulSet_makes (sts : StatefulSet) : Makes [.updateStatefulSet] (updateStatefulSet sts) :=
  makes_api (all_ask List.mem_cons_self)

theorem listStatefulSets_makes (ns : String) (labels : StringMap) :
    Makes [.listStatefulSets] (listStatefulSets ns labels) :=
  makes_api (all_ask List.mem_cons_self)

theorem listStatefulSetPods_makes (key : NamespacedName) :
    Makes [.getStatefulSet, .listPods] (listStatefulSetPods key) := by
  apply ((getStatefulSet_makes key).mono (by decide)).bind
  intro _
  exact makes_api (all_ask (by simp [Call.kind]))

theorem createStatefulSetOrUpdateImage_makes (sts : StatefulSet) :
    Makes [.getStatefulSet, .createStatefulSet, .updateStatefulSet] (createStatefulSetOrUpdateImage sts) := by
  refine makes_ask_bind List.mem_cons_self fun reply ↦ ?_
  cases reply with
  | ok oldSts =>
    simp only
    split
    · exact makes_pure ()
    · exact (updateStatefulSet_makes _).mono (by decide)
  | error error =>
    cases error with
    | notFound => exact (createIfNotExistsStatefulSet_makes sts).mono (by decide)
    | _ => exact makes_throw _

theorem createOrUpdateStatefulSet_makes (sts : StatefulSet) :
    Makes [.getStatefulSet, .createStatefulSet, .updateStatefulSet] (createOrUpdateStatefulSet sts) := by
  refine makes_ask_bind List.mem_cons_self fun reply ↦ ?_
  cases reply with
  | ok oldSts => exact (updateStatefulSet_makes _).mono (by decide)
  | error error =>
    cases error with
    | notFound => exact (createIfNotExistsStatefulSet_makes sts).mono (by decide)
    | _ => exact makes_throw _

theorem deleteStatefulSetIfExists_makes (key : NamespacedName) :
    Makes [.getStatefulSet, .deleteStatefulSet] (deleteStatefulSetIfExists key) := by
  refine makes_ask_bind List.mem_cons_self fun reply ↦ ?_
  cases reply with
  | ok _ => exact makes_api (all_ask (by simp [Call.kind]))
  | error _ => exact makes_pure ()

theorem getPod_makes (key : NamespacedName) : Makes [.getPod] (getPod key) := makes_api (all_ask List.mem_cons_self)

theorem updatePod_makes (pod : Pod) : Makes [.updatePod] (updatePod pod) := makes_api (all_ask List.mem_cons_self)

theorem deletePodImmediately_makes (podName ns : String) :
    Makes [.getPod, .deletePod] (deletePodImmediately podName ns) := by
  refine makes_ask_bind List.mem_cons_self fun reply ↦ ?_
  cases reply with
  | ok _ =>
    refine makes_ask_bind (by simp [Call.kind]) fun deleted ↦ ?_
    cases deleted with
    | ok _ => exact makes_pure ()
    | error error =>
      cases error with
      | notFound => exact makes_pure ()
      | _ => exact makes_throw _
  | error error =>
    cases error with
    | notFound => exact makes_throw _
    | _ => exact makes_throw _

theorem listPVC_makes (ns : String) (labels : StringMap) : Makes [.listPVC] (listPVC ns labels) :=
  makes_api (all_ask List.mem_cons_self)

theorem listStatefulSetPVC_makes (key : NamespacedName) :
    Makes [.getStatefulSet, .listPVC] (listStatefulSetPVC key) := by
  apply ((getStatefulSet_makes key).mono (by decide)).bind
  intro _
  exact (listPVC_makes _ _).mono (by decide)

theorem deletePVC_makes (key : NamespacedName) : Makes [.deletePVC] (deletePVC key) := by
  refine makes_ask_bind List.mem_cons_self fun reply ↦ ?_
  cases reply with
  | ok _ => exact makes_pure ()
  | error error =>
    cases error with
    | notFound => exact makes_pure ()
    | _ => exact makes_throw _

theorem deletePVCByPod_makes (podName ns : String) : Makes [.getPVC, .deletePVC] (deletePVCByPod podName ns) := by
  refine makes_ask_bind List.mem_cons_self fun reply ↦ ?_
  cases reply with
  | ok _ => exact (deletePVC_makes _).mono (by decide)
  | error _ => exact makes_pure ()

end K8s

/-! ## The controller and the nodes -/

namespace Controller

theorem send_makes (client : Client) (request : Request) : Makes [.http] (send client request) :=
  makes_remote (all_ask List.mem_cons_self)

theorem sendExpecting_makes (client : Client) (request : Request) (expected : ℕ) :
    Makes [.http] (sendExpecting client request expected) := by
  apply (send_makes client request).bind
  intro response
  split
  · exact makes_throw _
  · exact makes_pure ()

theorem setEndPoint_calm (client : Client) (ns : String) : Calm [.getService] True (setEndPoint client ns) := by
  have hread : Calm [.getService] True (K8s.getService ⟨ns, Kvrocks.controllerServiceName⟩) :=
    calm_attempt (all_ask List.mem_cons_self)
  exact hread.bind fun _ ↦ calm_pure _

theorem setEndPoint_makes (client : Client) (ns : String) : Makes [.getService] (setEndPoint client ns) :=
  (setEndPoint_calm client ns).makes

theorem createIfNotExistsNamespace_makes (client : Client) : Makes [.http] (createIfNotExistsNamespace client) := by
  apply (send_makes client _).bind
  intro response
  split
  · cases response.body with
    | error error => exact makes_throw error
    | ok message =>
      simp only
      split
      · exact makes_throw _
      · exact makes_pure ()
  · exact makes_pure ()

theorem createCluster_makes (client : Client) (replicas : ℤ) (nodes : List String) (password : String) :
    Makes [.http] (createCluster client replicas nodes password) :=
  (send_makes client _).bind fun _ ↦ makes_pure ()

theorem getShards_makes (client : Client) : Makes [.http] (getShards client) := by
  apply (send_makes client _).bind
  intro response
  split
  · exact makes_pure []
  · cases response.body with
    | error error => exact makes_throw error
    | ok body =>
      cases body with
      | none => exact makes_throw _
      | some shards => exact makes_pure shards

theorem getNodes_makes (client : Client) (shardIndex : ℤ) : Makes [.http] (getNodes client shardIndex) := by
  apply (send_makes client _).bind
  intro response
  split
  · exact makes_pure none
  · cases response.body with
    | error error => exact makes_throw error
    | ok body =>
      cases body with
      | none => exact makes_throw _
      | some shard => exact makes_pure (some shard)

end Controller

namespace Kvrocks

theorem ping_makes (ip password : String) : Makes [.node] (ping ip password) := by
  apply makes_lift
  refine ⟨List.mem_cons_self, fun reply ↦ ?_⟩
  cases reply <;> trivial

theorem getConfig_makes (ip password key : String) : Makes [.node] (getConfig ip password key) := by
  have hask : Makes [.node] (Go.remote (ask (.node ip password (.configGet key)))) :=
    makes_remote (all_ask List.mem_cons_self)
  apply hask.bind
  intro value
  split
  · exact makes_pure _
  · exact makes_throw _

theorem setConfig_makes (ip password key value : String) : Makes [.node] (setConfig ip password key value) :=
  makes_remote (all_ask List.mem_cons_self)

theorem changePassword_makes (ip password newPassword : String) :
    Makes [.node] (changePassword ip password newPassword) :=
  makes_remote (all_ask List.mem_cons_self)

theorem nodeInfo_makes (ip password : String) : Makes [.node] (nodeInfo ip password) := by
  apply (makes_remote (all_ask List.mem_cons_self)).bind
  intro role
  cases role <;> exact makes_pure _

theorem changeMyselfToMaster_makes (ip password : String) : Makes [.replication] (changeMyselfToMaster ip password) :=
  makes_remote (all_ask List.mem_cons_self)

theorem getMaster_makes (ip password : String) : Makes [.replication] (getMaster ip password) :=
  makes_remote (all_ask List.mem_cons_self)

theorem slaveOf_makes (slaveIP masterIP password : String) : Makes [.replication] (slaveOf slaveIP masterIP password) :=
  makes_remote (all_ask List.mem_cons_self)

theorem getMasterFromSentinel_calm (ip password master : String) :
    Calm [.sentinel] True (getMasterFromSentinel ip password master) :=
  calm_attempt (all_ask List.mem_cons_self)

theorem removeMonitor_makes (ip password master : String) : Makes [.sentinel] (removeMonitor ip password master) :=
  makes_remote (all_ask List.mem_cons_self)

theorem setMonitor_makes (ip password master option value : String) :
    Makes [.sentinel] (Go.remote (ask (.sentinel ip password (.set master option value)))) :=
  makes_remote (all_ask List.mem_cons_self)

theorem createMonitor_makes (sentinelIP password master ip kvPass : String) :
    Makes [.sentinel] (createMonitor sentinelIP password master ip kvPass) := by
  have hmonitor : Makes [.sentinel] (Go.remote (ask (.sentinel sentinelIP password
      (.monitor master ip (Text.itoa kvrocksPort) (Text.itoa quorum))))) :=
    makes_remote (all_ask List.mem_cons_self)
  apply hmonitor.bind
  intro _
  apply (setMonitor_makes sentinelIP password master _ _).bind
  intro _
  apply (setMonitor_makes sentinelIP password master _ _).bind
  intro _
  exact setMonitor_makes sentinelIP password master _ _

theorem resetMonitor_makes (sentinelIP sentinelPassword master password : String) :
    Makes [.sentinel] (resetMonitor sentinelIP sentinelPassword master password) := by
  have hreset : Makes [.sentinel] (Go.remote (ask (.sentinel sentinelIP sentinelPassword (.reset master)))) :=
    makes_remote (all_ask List.mem_cons_self)
  apply hreset.bind
  intro _
  exact setMonitor_makes sentinelIP sentinelPassword master _ _

end Kvrocks

/-! ## Shared functions -/

namespace Common

theorem ensureKey_makes (password : String) (node : Node) (entry : String × String) :
    Makes [.node] (ensureKey password node entry) := by
  apply (Kvrocks.getConfig_makes node.ip password entry.1).bind
  intro curValue
  split
  · exact Kvrocks.setConfig_makes _ _ _ _
  · exact makes_pure ()

theorem ensureNodeConfig_makes (instance_ : KVRocks) (password : String) (node : Node) :
    Makes [.node] (ensureNodeConfig instance_ password node) := by
  apply (makes_forEach fun entry _ ↦ ensureKey_makes password node entry).bind
  intro _
  split
  · exact Kvrocks.changePassword_makes _ _ _
  · exact makes_pure ()

theorem ensureConfig_makes (instance_ : KVRocks) (password : String) (nodes : List Node) :
    Makes [.node] (ensureConfig instance_ password nodes) :=
  makes_forEach fun node _ ↦ ensureNodeConfig_makes instance_ password node

theorem getSentinel_calm (key : NamespacedName) :
    Calm [.getKVRocks, .getWorkload, .listPods] False (getSentinel key) := by
  apply ((K8s.getKVRocks_calm key).handle.mono (by decide) id).bind
  intro reply
  cases reply with
  | error error => exact calm_pure _
  | ok sentinel =>
    simp only
    split
    · exact calm_pure _
    · apply ((K8s.listDeploymentPods_calm key).handle.mono (by decide) id).bind
      intro pods
      cases pods with
      | error error => exact calm_pure _
      | ok pods => exact calm_pure _

theorem removeMonitorFrom_calm (sentinelPassword masterName : String) (sentinel : Pod) :
    Calm [.sentinel] True (removeMonitorFrom sentinelPassword masterName sentinel) := by
  apply (Kvrocks.getMasterFromSentinel_calm sentinel.ip sentinelPassword masterName).handle.bind
  intro reply
  cases reply with
  | error error => exact calm_pure ()
  | ok master => exact calm_attempt (all_ask List.mem_cons_self)

/-- `RemoveMonitor` reports an error in its result. -/
theorem removeMonitorNamed_calm (instance_ : KVRocks) (name : String) :
    Calm [.getKVRocks, .getWorkload, .listPods, .sentinel] False (removeMonitorNamed instance_ name) := by
  apply ((getSentinel_calm _).mono (by decide) id).bind
  intro found
  cases found with
  | error result => exact calm_pure result
  | ok sentinel =>
    have hloop : Calm [.sentinel] True (forEach (removeMonitorFrom sentinel.2 name) sentinel.1) :=
      calm_forEach fun pod _ ↦ removeMonitorFrom_calm sentinel.2 name pod
    apply (hloop.handle.mono (by decide) id).bind
    intro removed
    cases removed with
    | error error => exact calm_pure _
    | ok _ => exact calm_pure _

theorem removeMonitorNamed_makes (instance_ : KVRocks) (name : String) :
    Makes [.getKVRocks, .getWorkload, .listPods, .sentinel] (removeMonitorNamed instance_ name) :=
  (removeMonitorNamed_calm instance_ name).makes

theorem updateSentinelAnnotationCount_makes (ns sentinelName : String) :
    Makes [.getKVRocks, .updateKVRocks] (updateSentinelAnnotationCount ns sentinelName) := by
  apply ((K8s.getKVRocks_makes _).mono (by decide)).bind
  intro sentinel
  simp only
  split
  · exact makes_throw _
  · apply ((K8s.updateKVRocks_makes _).mono (by decide)).bind
    intro _
    exact makes_pure ()

end Common

/-! ## The cluster handler -/

namespace Cluster

theorem setRequeue_leaves : Leaves [] (fun h : Handler ↦ (h.instance_, h.password, h.stsNodes, h.key, h.version,
      h.controllerClient)) setRequeue :=
  Leaves.modify fun _ ↦ rfl

/-! ### The controller -/

theorem ensureControllerDeployment_leaves : Leaves [.createObject, .getWorkload, .createConfigMap, .getService, .http]
      (fun h : Handler ↦ (h.instance_, h.password, h.stsNodes, h.key, h.version))
      ensureControllerDeployment := by
  apply Leaves.get.bind
  intro h
  apply (K8s.createIfNotExistsConfigMap_makes _).lift_bind (by decide)
  intro _
  apply (K8s.createIfNotExistsObject_makes _ _).lift_bind (by decide)
  intro _
  apply (K8s.createIfNotExistsObject_makes _ _).lift_bind (by decide)
  intro _
  apply (K8s.getWorkload_makes _ _).lift_bind (by decide)
  intro controllerDep
  split
  · apply (Controller.setEndPoint_makes _ _).lift_bind (by decide)
    intro client
    apply (Leaves.modify (by intro; rfl)).bind
    intro _
    exact Leaves.lift ((Controller.createIfNotExistsNamespace_makes client).mono (by decide))
  · exact Leaves.modify fun _ ↦ rfl

theorem ensureController_leaves : Leaves [.createObject, .getWorkload, .createConfigMap, .getService, .http]
      (fun h : Handler ↦ (h.instance_, h.password, h.stsNodes, h.key, h.version)) ensureController := by
  apply Leaves.get.bind
  intro h
  apply (K8s.createIfNotExistsObject_makes _ _).lift_bind (by decide)
  intro _
  apply (K8s.createIfNotExistsObject_makes _ _).lift_bind (by decide)
  intro _
  apply (K8s.getWorkload_makes _ _).lift_bind (by decide)
  intro etcd
  split
  · exact ensureControllerDeployment_leaves
  · exact Leaves.modify fun _ ↦ rfl

theorem removeController_makes (ns : String) :
    Makes [.getWorkload, .deleteObject, .getService, .getConfigMap, .deleteConfigMap] (removeController ns) := by
  apply ((K8s.deleteWorkload_makes _ _).mono (by decide)).bind
  intro _
  apply ((K8s.deleteService_makes _).mono (by decide)).bind
  intro _
  apply ((K8s.deleteConfigMap_makes _).mono (by decide)).bind
  intro _
  apply ((K8s.deleteWorkload_makes _ _).mono (by decide)).bind
  intro _
  exact (K8s.deleteService_makes _).mono (by decide)

/-! ### The node matrix -/

theorem scaleUp_makes (instance_ : KVRocks) (index : ℕ) :
    Makes [.getStatefulSet, .updateStatefulSet] (scaleUp instance_ index) := by
  apply ((K8s.getStatefulSet_makes _).mono (by decide)).bind
  intro oldSts
  simp only
  split
  · exact (K8s.updateStatefulSet_makes _).mono (by decide)
  · exact makes_pure ()

theorem initShardNodes_makes (instance_ : KVRocks) (index : ℕ) :
    Makes [.getStatefulSet, .listPods] (initShardNodes instance_ index) := by
  apply ((K8s.getStatefulSet_makes _).mono (by decide)).bind
  intro sts
  split
  · exact makes_pure none
  · apply (K8s.listStatefulSetPods_makes _).bind
    intro pods
    cases podNodes pods with
    | error error => exact makes_throw error
    | ok nodes =>
      cases nodes with
      | none => exact makes_pure none
      | some nodes => exact makes_pure _

theorem initStsNodes_makes (instance_ : KVRocks) (indices : List ℕ) :
    Makes [.getStatefulSet, .listPods] (initStsNodes instance_ indices) := by
  induction indices with
  | nil => exact makes_pure _
  | cons index indices ih =>
    apply (initShardNodes_makes instance_ index).bind
    intro nodes
    cases nodes with
    | none => exact makes_pure none
    | some nodes =>
      apply ih.bind
      intro shards
      cases shards with
      | none => exact makes_pure none
      | some shards => exact makes_pure _

theorem fixTopo_leaves (stsNodes : Matrix) :
    Leaves [.getKVRocks] (fun h : Handler ↦ (h.instance_, h.password, h.key, h.controllerClient))
      (fixTopo stsNodes) := by
  apply Leaves.get.bind
  intro h
  apply (Leaves.lift (K8s.getKVRocks_makes _)).bind
  intro curInstance
  split
  · exact Leaves.modify fun _ ↦ rfl
  · apply (Leaves.lift (makes_ofOption _)).bind
    intro fixed
    exact Leaves.modify fun _ ↦ rfl

theorem ensureStatefulSets_leaves :
    Leaves [.getStatefulSet, .createStatefulSet, .updateStatefulSet, .listStatefulSets, .listPods, .getKVRocks]
      (fun h : Handler ↦ (h.instance_, h.password, h.key, h.controllerClient)) ensureStatefulSets := by
  apply Leaves.get.bind
  intro h
  apply (makes_forEach fun index _ ↦ K8s.createStatefulSetOrUpdateImage_makes _).lift_bind (by decide)
  intro _
  apply (K8s.listStatefulSets_makes _ _).lift_bind (by decide)
  intro curStsList
  split
  · exact Leaves.modify fun _ ↦ rfl
  · apply (makes_forEach fun index _ ↦ scaleUp_makes _ index).lift_bind (by decide)
    intro _
    apply (initStsNodes_makes _ _).lift_bind (by decide)
    intro stsNodes
    cases stsNodes with
    | none => exact Leaves.modify fun _ ↦ rfl
    | some stsNodes => exact (fixTopo_leaves stsNodes).mono (by decide)

theorem ensureKubernetes_leaves :
    Leaves [.createConfigMap, .createObject, .getConfigMap, .getStatefulSet, .createStatefulSet,
        .updateStatefulSet, .listStatefulSets, .listPods, .getKVRocks]
      (fun h : Handler ↦ (h.instance_, h.key, h.controllerClient)) ensureKubernetes := by
  apply Leaves.get.bind
  intro h
  apply (K8s.createIfNotExistsConfigMap_makes _).lift_bind (by decide)
  intro _
  apply (K8s.createIfNotExistsObject_makes _ _).lift_bind (by decide)
  intro _
  apply (K8s.getConfigMap_makes _).handle.lift_bind (by decide)
  intro oldCM
  cases oldCM with
  | error error =>
    simp only
    split
    · exact Leaves.modify fun _ ↦ rfl
    · exact Leaves.throw error
  | ok oldCM =>
    apply (Leaves.modify (by intro; rfl)).bind
    intro _
    apply (ensureStatefulSets_leaves.mono (by decide)).of_part
    intro state later hlater
    simp_all

/-! ### Nodes and the controller's shards -/

theorem ensureKVRocksConfig_leaves : Leaves [.node, .updateConfigMap]
      (fun h : Handler ↦ (h.instance_, h.requeue, h.stsNodes, h.key, h.version, h.controllerClient))
      ensureKVRocksConfig := by
  apply Leaves.get.bind
  intro h
  apply (makes_forEach fun nodes _ ↦ Common.ensureConfig_makes _ _ nodes).lift_bind (by decide)
  intro _
  apply (Leaves.modify (by intro; rfl)).bind
  intro _
  exact Leaves.lift ((K8s.updateConfigMap_makes _).mono (by decide))

theorem updatePodLabels_makes (key : NamespacedName) (role : Role) :
    Makes [.getPod, .updatePod] (updatePodLabels key role) := by
  apply ((K8s.getPod_makes key).mono (by decide)).bind
  intro pod
  split
  · exact (K8s.updatePod_makes _).mono (by decide)
  · exact makes_pure ()

theorem labelNode_makes (instance_ : KVRocks) (partition : ℕ) (node : Node) :
    Makes [.getPod, .updatePod] (labelNode instance_ partition node) :=
  (updatePodLabels_makes _ _).bind fun _ ↦ makes_pure node

theorem initCluster_leaves : Leaves [.getPod, .updatePod]
      (fun h : Handler ↦ (h.instance_, h.password, h.requeue, h.key, h.version, h.controllerClient))
      initCluster := by
  apply Leaves.get.bind
  intro h
  split
  · exact Leaves.lift makes_panic
  · apply (Leaves.lift (makes_mapEach fun shard _ ↦ makes_mapEach fun node _ ↦
      labelNode_makes h.instance_ shard.2 node)).bind
    intro stsNodes
    exact Leaves.modify fun _ ↦ rfl

theorem replicateShard_makes (instance_ : KVRocks) (partition : ℕ) (nodes : List Node) :
    Makes [.getPod, .updatePod] (replicateShard instance_ partition nodes) := by
  unfold replicateShard
  split
  · cases nodes with
    | nil => exact makes_panic
    | cons first rest => exact makes_mapEach fun node _ ↦ labelNode_makes _ _ _
  · exact makes_mapEach fun node _ ↦ labelNode_makes _ _ _

theorem ensureReplication_leaves : Leaves [.getPod, .updatePod]
      (fun h : Handler ↦ (h.instance_, h.password, h.requeue, h.key, h.version, h.controllerClient))
      ensureReplication := by
  apply Leaves.get.bind
  intro h
  apply (Leaves.lift (makes_mapEach fun shard _ ↦ replicateShard_makes _ _ _)).bind
  intro stsNodes
  exact Leaves.modify fun _ ↦ rfl

theorem removeStaleNodes_makes (client : Controller.Client) (password : String) (shard : List Node × ℕ) :
    Makes [.http] (removeStaleNodes client password shard) := by
  apply (Controller.getNodes_makes client _).bind
  intro shardData
  cases shardData with
  | none => exact Controller.sendExpecting_makes _ _ _
  | some shardData =>
    apply makes_forEach
    intro node _
    split
    · exact makes_pure ()
    · exact Controller.sendExpecting_makes _ _ _

theorem addMissingNodes_makes (client : Controller.Client) (password : String) (shard : List Node × ℕ) :
    Makes [.http] (addMissingNodes client password shard) := by
  apply (Controller.getNodes_makes client _).bind
  intro shardData
  cases shardData with
  | none =>
    simp only
    split
    · exact makes_pure ()
    · exact makes_panic
  | some shardData =>
    apply makes_forEach
    intro wanted _
    split
    · exact makes_pure ()
    · exact Controller.sendExpecting_makes _ _ _

theorem updateCluster_makes (client : Controller.Client) (password : String) (stsNodes : Matrix) :
    Makes [.http] (updateCluster client password stsNodes) := by
  apply (makes_forEach fun shard _ ↦ removeStaleNodes_makes client password shard).bind
  intro _
  apply (makes_forEach fun shard _ ↦ addMissingNodes_makes client password shard).bind
  intro _
  apply (Controller.getShards_makes client).bind
  intro shards
  exact makes_forEach fun index _ ↦ Controller.sendExpecting_makes _ _ _

theorem registerCluster_leaves : Leaves [.http] (fun h : Handler ↦ h) registerCluster := by
  apply Leaves.get.bind
  intro h
  split
  · exact Leaves.lift (Controller.createCluster_makes _ _ _ _)
  · exact Leaves.lift (updateCluster_makes _ _ _)

theorem identifyShard_makes (client : Controller.Client) (instance_ : KVRocks) (shard : List Node × ℕ) :
    Makes [.http, .getPod, .updatePod] (identifyShard client instance_ shard) := by
  apply ((Controller.getNodes_makes client _).mono (by decide)).bind
  intro shardData
  cases shardData with
  | none => exact makes_panic
  | some shardData =>
    simp only
    split
    · exact makes_throw _
    · exact (makes_mapEach fun node _ ↦ labelNode_makes _ _ _).mono (by decide)

theorem ensureSetNodeID_leaves : Leaves [.http, .getPod, .updatePod]
      (fun h : Handler ↦ (h.instance_, h.password, h.requeue, h.key, h.version, h.controllerClient))
      ensureSetNodeID := by
  apply Leaves.get.bind
  intro h
  apply (Leaves.lift (makes_mapEach fun shard _ ↦ identifyShard_makes _ _ shard)).bind
  intro stsNodes
  exact Leaves.modify fun _ ↦ rfl

/-! ### Failed nodes and migrations -/

theorem failoverNode_leaves (partition index : ℕ) (node : Node) :
    Leaves [.node, .getPVC, .deletePVC, .getPod, .deletePod, .addMessage]
      (fun h : Handler ↦ (h.instance_, h.password, h.stsNodes, h.key, h.version, h.controllerClient))
      (failoverNode partition index node) := by
  apply Leaves.get.bind
  intro h
  split
  · apply (Leaves.modify (by intro; rfl)).bind
    intro _
    apply (Kvrocks.ping_makes _ _).lift_bind (by decide)
    intro alive
    split
    · exact Leaves.pure _
    · apply (K8s.deletePVCByPod_makes _ _).lift_bind (by decide)
      intro _
      apply (K8s.deletePodImmediately_makes _ _).lift_bind (by decide)
      intro _
      exact Leaves.pure _
  · apply (Kvrocks.ping_makes _ _).lift_bind (by decide)
    intro alive
    split
    · exact Leaves.pure _
    · apply (Leaves.modify (by intro; rfl)).bind
      intro _
      apply (Leaves.lift (makes_lift (all_ask (by simp [Call.kind])))).bind
      intro _
      exact Leaves.pure _

theorem moveSlot_makes (client : Controller.Client) (src dest slot : ℤ) (retries : ℕ) :
    Makes [.http] (moveSlot client src dest slot retries) := by
  induction retries with
  | zero =>
    apply (Controller.sendExpecting_makes _ _ _).handle.bind
    intro reply
    cases reply with
    | ok _ => exact makes_pure ()
    | error error => exact makes_throw _
  | succ retries ih =>
    apply (Controller.sendExpecting_makes _ _ _).handle.bind
    intro reply
    cases reply with
    | ok _ => exact makes_pure ()
    | error error => exact ih

theorem dropEntry_leaves (shard index moved : ℕ) :
    Leaves [] (fun h : Handler ↦ (h.instance_, h.password, h.requeue, h.key, h.version,
      h.controllerClient)) (dropEntry shard index moved) := by
  apply Leaves.get.bind
  intro h
  apply (Leaves.lift (makes_ofOption _)).bind
  intro node
  split
  · exact Leaves.lift makes_panic
  · exact Leaves.modify fun _ ↦ rfl

/-! ### Shrinking -/

theorem removeShardMonitor_leaves (index : ℕ) : Leaves [.getKVRocks, .getWorkload, .listPods, .sentinel]
      (fun h : Handler ↦ (h.instance_, h.password, h.stsNodes, h.key, h.version, h.controllerClient))
      (removeShardMonitor index) := by
  apply Leaves.get.bind
  intro h
  apply (Leaves.lift (Common.removeMonitorNamed_makes h.instance_ _)).bind
  intro reported
  obtain ⟨requeue, error⟩ := reported
  apply (Leaves.modify (by intro; rfl)).bind
  intro _
  cases error with
  | none => exact Leaves.pure ()
  | some error => exact Leaves.throw error

theorem applyReserve_makes (instance_ : KVRocks) (entry : String × List ℕ) :
    Makes [.getStatefulSet, .updateStatefulSet] (applyReserve instance_ entry) := by
  apply ((K8s.getStatefulSet_makes _).mono (by decide)).bind
  intro sts
  exact (K8s.updateStatefulSet_makes _).mono (by decide)

theorem cleanPersistentVolumeClaim_leaves :
    Leaves [.listPVC, .deletePVC] (fun h : Handler ↦ h) cleanPersistentVolumeClaim := by
  apply Leaves.get.bind
  intro h
  split
  · exact Leaves.pure ()
  · apply (K8s.listPVC_makes _ _).lift_bind (by decide)
    intro pvcList
    apply Leaves.lift
    apply makes_forEach
    intro claim _
    apply (makes_ofOption _).bind
    intro remove
    split
    · exact (K8s.deletePVC_makes claim).mono (by decide)
    · exact makes_pure ()

theorem finializer_makes :
    MethodMakes [.getKVRocks, .getWorkload, .listPods, .sentinel, .deleteObject, .getService, .getConfigMap,
      .deleteConfigMap] finializer := by
  apply Leaves.get.bind
  intro h
  cases h.instance_.labels.lookup Resources.monitoredBy with
  | none => exact Leaves.pure ()
  | some sentinel =>
    apply ((Leaves.forEach (fun index ↦ (removeShardMonitor_leaves index).makes) _).mono (by decide)).bind
    intro _
    apply (Leaves.modify (by intro; rfl)).bind
    intro _
    exact Leaves.lift ((removeController_makes _).mono (by decide))

end Cluster

/-! ## The standard handler -/

namespace Standard

theorem podNode_makes (password : String) (pod : Pod) : Makes [.node] (podNode password pod) := by
  apply (Kvrocks.nodeInfo_makes pod.ip password).bind
  intro role
  cases Resources.getPVCOrPodIndex pod.name with
  | error error => exact makes_throw _
  | ok index => exact makes_pure _

theorem scaleUp_makes (sts oldSts : StatefulSet) : Makes [.updateStatefulSet] (scaleUp sts oldSts) := by
  unfold scaleUp
  split
  · exact (K8s.updateStatefulSet_makes _).bind fun _ ↦ makes_pure _
  · exact makes_pure oldSts

theorem ensureStatefulSet_leaves : Leaves [.getStatefulSet, .createStatefulSet, .updateStatefulSet, .listPods, .node]
      (fun h : KVRocksStandardHandler ↦ (h.instance_, h.key)) ensureStatefulSet := by
  apply Leaves.get.bind
  intro h
  apply (K8s.createStatefulSetOrUpdateImage_makes _).lift_bind (by decide)
  intro _
  apply (K8s.getStatefulSet_makes _).handle.lift_bind (by decide)
  intro oldSts
  cases oldSts with
  | error error =>
    simp only
    split
    · exact Leaves.modify fun _ ↦ rfl
    · exact Leaves.throw error
  | ok oldSts =>
    apply (scaleUp_makes _ oldSts).lift_bind (by decide)
    intro current
    split
    · exact Leaves.modify fun _ ↦ rfl
    · apply (K8s.listStatefulSetPods_makes _).lift_bind (by decide)
      intro pods
      apply (makes_mapEach fun pod _ ↦ podNode_makes h.password pod).lift_bind (by decide)
      intro nodes
      exact Leaves.modify fun _ ↦ rfl

theorem ensureKubernetes_leaves :
    Leaves [.createConfigMap, .createObject, .getConfigMap, .getStatefulSet, .createStatefulSet,
        .updateStatefulSet, .listPods, .node]
      (fun h : KVRocksStandardHandler ↦ (h.instance_, h.key)) ensureKubernetes := by
  apply Leaves.get.bind
  intro h
  apply (K8s.createIfNotExistsConfigMap_makes _).lift_bind (by decide)
  intro _
  apply (K8s.createIfNotExistsObject_makes _ _).lift_bind (by decide)
  intro _
  apply (K8s.getConfigMap_makes _).handle.lift_bind (by decide)
  intro oldCM
  cases oldCM with
  | error error =>
    simp only
    split
    · exact Leaves.modify fun _ ↦ rfl
    · exact Leaves.throw error
  | ok oldCM =>
    apply (Leaves.modify (by intro; rfl)).bind
    intro _
    exact ensureStatefulSet_leaves.mono (by decide)

theorem ensureKVRocksConfig_leaves :
    Leaves [.node, .updateConfigMap] (fun h : KVRocksStandardHandler ↦ (h.instance_, h.key)) ensureKVRocksConfig := by
  apply Leaves.get.bind
  intro h
  apply (Common.ensureConfig_makes _ _ _).lift_bind (by decide)
  intro _
  apply (Leaves.modify (by intro; rfl)).bind
  intro _
  exact Leaves.lift ((K8s.updateConfigMap_makes _).mono (by decide))

theorem slaveOfMaster_makes (instance_ : KVRocks) (password masterIP : String) (node : Node) :
    Makes [.replication, .getPod, .updatePod] (slaveOfMaster instance_ password masterIP node) := by
  apply ((Kvrocks.getMaster_makes _ _).mono (by decide)).bind
  intro curMasterIP
  split
  · apply ((Kvrocks.slaveOf_makes _ _ _).mono (by decide)).bind
    intro _
    apply ((Cluster.updatePodLabels_makes _ _).mono (by decide)).bind
    intro _
    exact makes_pure _
  · apply ((Cluster.updatePodLabels_makes _ _).mono (by decide)).bind
    intro _
    exact makes_pure _

theorem initReplication_makes (instance_ : KVRocks) (password : String) (nodes : List Node) :
    Makes [.replication, .getPod, .updatePod] (initReplication instance_ password nodes) := by
  cases nodes with
  | nil => exact makes_pure []
  | cons first rest =>
    apply ((Kvrocks.changeMyselfToMaster_makes _ _).mono (by decide)).bind
    intro _
    apply ((Cluster.updatePodLabels_makes _ _).mono (by decide)).bind
    intro _
    apply (makes_mapEach fun node _ ↦ slaveOfMaster_makes _ _ _ node).bind
    intro slaves
    exact makes_pure _

theorem followOnlyMaster_makes (instance_ : KVRocks) (password masterIP : String) (node : Node) :
    Makes [.replication, .getPod, .updatePod] (followOnlyMaster instance_ password masterIP node) := by
  unfold followOnlyMaster
  split
  · exact slaveOfMaster_makes _ _ _ node
  · apply ((Cluster.updatePodLabels_makes _ _).mono (by decide)).bind
    intro _
    exact makes_pure node

theorem saveInstance_leaves :
    Leaves [.getKVRocks, .updateKVRocks] (fun h : KVRocksStandardHandler ↦ h.stsNodes) saveInstance := by
  apply Leaves.get.bind
  intro h
  apply (K8s.updateKVRocks_makes _).lift_bind (by decide)
  intro saved
  exact Leaves.modify fun _ ↦ rfl

theorem finishReplication_leaves :
    Leaves [.getKVRocks, .updateKVRocks] (fun h : KVRocksStandardHandler ↦ h.stsNodes) finishReplication := by
  apply Leaves.get.bind
  intro h
  simp only
  split
  · split
    · exact Leaves.lift (Common.updateSentinelAnnotationCount_makes _ _)
    · exact Leaves.pure ()
  · apply (Leaves.modify (by intro; rfl)).bind
    intro _
    apply saveInstance_leaves.bind
    intro _
    split
    · exact Leaves.lift (Common.updateSentinelAnnotationCount_makes _ _)
    · exact Leaves.pure ()

theorem resizeStatefulSet_leaves : Leaves [.getStatefulSet, .createStatefulSet, .updateStatefulSet]
      (fun h : KVRocksStandardHandler ↦ (h.instance_, h.key)) resizeStatefulSet := by
  apply Leaves.get.bind
  intro h
  simp only
  split
  · apply (Leaves.lift (K8s.createOrUpdateStatefulSet_makes _)).bind
    intro _
    exact Leaves.modify fun _ ↦ rfl
  · exact Leaves.pure ()

theorem cleanPersistentVolumeClaim_leaves :
    Leaves [.getStatefulSet, .listPVC, .deletePVC] (fun h : KVRocksStandardHandler ↦ h) cleanPersistentVolumeClaim := by
  apply Leaves.get.bind
  intro h
  apply (K8s.listStatefulSetPVC_makes _).lift_bind (by decide)
  intro pvcList
  apply Leaves.lift
  apply makes_forEach
  intro claim _
  unfold cleanClaim
  cases Resources.getPVCOrPodIndex claim.name with
  | error error => exact makes_throw _
  | ok index =>
    simp only
    split
    · exact makes_pure ()
    · exact (K8s.deletePVC_makes claim).mono (by decide)

theorem finializer_makes : MethodMakes [.getKVRocks, .getWorkload, .listPods, .sentinel] finializer := by
  apply Leaves.get.bind
  intro h
  cases h.instance_.labels.lookup Resources.monitoredBy with
  | none => exact Leaves.pure ()
  | some sentinel =>
    apply (Leaves.lift (Common.removeMonitorNamed_makes h.instance_ _)).bind
    intro reported
    obtain ⟨requeue, error⟩ := reported
    apply (Leaves.modify (by intro; rfl)).bind
    intro _
    cases error with
    | none => exact Leaves.pure ()
    | some error => exact Leaves.throw error

end Standard

/-! ## The sentinel handler -/

namespace Sentinel

theorem ensureKubernetes_leaves :
    Leaves [.getConfigMap, .createConfigMap, .updateConfigMap, .createObject, .getWorkload, .listPods]
      (fun h : Handler ↦ (h.instance_, h.key)) ensureKubernetes := by
  apply Leaves.get.bind
  intro h
  apply (K8s.createOrUpdateConfigMap_makes _).lift_bind (by decide)
  intro _
  apply (K8s.createIfNotExistsObject_makes _ _).lift_bind (by decide)
  intro _
  apply (K8s.createIfNotExistsObject_makes _ _).lift_bind (by decide)
  intro _
  apply (K8s.getWorkload_makes _ _).lift_bind (by decide)
  intro dep
  split
  · exact Leaves.modify fun _ ↦ rfl
  · apply (K8s.listDeploymentPods_makes _).lift_bind (by decide)
    intro pods
    exact Leaves.modify fun _ ↦ rfl

theorem findMaster_makes (password : String) (pods : List Pod) : Makes [.node] (findMaster password pods) := by
  induction pods with
  | nil => exact makes_throw _
  | cons pod pods ih =>
    apply (Kvrocks.nodeInfo_makes _ _).bind
    rintro ⟨ip, role⟩
    simp only
    split
    · exact makes_pure _
    · exact ih

theorem ensureMonitorAt_makes (sentinelPassword masterIP masterName password sentinelIP : String) :
    Makes [.sentinel] (ensureMonitorAt sentinelPassword masterIP masterName password sentinelIP) := by
  have hrenew : Makes [.sentinel] (do
      let _ ← (Kvrocks.removeMonitor sentinelIP sentinelPassword masterName).handle
      Kvrocks.createMonitor sentinelIP sentinelPassword masterName masterIP password) :=
    (Kvrocks.removeMonitor_makes _ _ _).handle.bind fun _ ↦ Kvrocks.createMonitor_makes _ _ _ _ _
  apply (Kvrocks.getMasterFromSentinel_calm _ _ _).makes.handle.bind
  intro master
  cases master with
  | error error => exact hrenew
  | ok ip =>
    simp only
    split
    · exact Kvrocks.resetMonitor_makes _ _ _ _
    · exact hrenew

theorem monitorMaster_makes (h : Handler) (kvrocks : KVRocks) (stsName masterName : String) :
    Makes [.getStatefulSet, .listPods, .node, .sentinel] (monitorMaster h kvrocks stsName masterName) := by
  have hmaster : Makes [.getStatefulSet, .listPods, .node, .sentinel]
      (getMasterMsg ⟨kvrocks.ns, stsName⟩ kvrocks.spec.password) := by
    apply ((K8s.listStatefulSetPods_makes _).mono (by decide)).bind
    intro pods
    exact (findMaster_makes _ pods).mono (by decide)
  apply hmaster.bind
  intro masterIP
  exact (makes_forEach fun sentinelIP _ ↦ ensureMonitorAt_makes _ _ _ _ sentinelIP).mono (by decide)

theorem monitorAll_leaves (kvrockses : List KVRocks) :
    Leaves [.getStatefulSet, .listPods, .node, .sentinel] (fun h : Handler ↦ (h.instance_, h.key))
      (monitorAll kvrockses) := by
  induction kvrockses with
  | nil => exact Leaves.pure ()
  | cons kvrocks rest ih =>
    unfold monitorAll
    cases kvrocks.labels.lookup Resources.monitoredBy with
    | none => exact ih
    | some sentinel =>
      simp only
      split
      · exact (Leaves.modify (by intro; rfl)).bind fun _ ↦ ih
      · apply Leaves.get.bind
        intro h
        split
        · exact Leaves.lift (monitorMaster_makes _ _ _ _)
        · exact (Leaves.lift (makes_forEach fun index _ ↦ monitorMaster_makes _ _ _ _)).bind fun _ ↦ ih

theorem ensureSentinel_leaves : Leaves [.listKVRocks, .getStatefulSet, .listPods, .node, .sentinel]
      (fun h : Handler ↦ (h.instance_, h.key)) ensureSentinel := by
  apply Leaves.get.bind
  intro h
  apply (Leaves.lift (makes_api (all_ask (by simp [Call.kind])))).bind
  intro kvrockses
  exact (monitorAll_leaves kvrockses).mono (by decide)

end Sentinel

/-! ## The handlers of the three types -/

namespace Controllers

/-- `Finializer` of any handler. -/
theorem handlerOf_finializer_makes (key : NamespacedName) (type : KVRocksType) (instance_ : KVRocks) :
    Makes [.getKVRocks, .getWorkload, .listPods, .sentinel, .deleteObject, .getService, .getConfigMap,
      .deleteConfigMap] ((handlerOf key type).finializer instance_) := by
  cases type with
  | sentinel => exact ((Leaves.pure () : MethodMakes _ _).finish _).bind fun _ ↦ makes_pure _
  | standard => exact ((Standard.finializer_makes.mono (by decide)).finish _).bind fun _ ↦ makes_pure _
  | cluster => exact (Cluster.finializer_makes.finish _).bind fun _ ↦ makes_pure _

end Controllers

end KvrocksOperator
