import KvrocksOperator.Client.Kvrocks
import KvrocksOperator.Resources.Objects

/-!
# The Kubernetes client

`pkg/client/k8s`: what the operator makes of single requests to the API server.
-/

namespace KvrocksOperator.K8s

open Interaction

/-- A creation that is content to find the object there. -/
def createIfNotExists (request : Program operator (ApiResult Unit)) : Go Unit := do
  match ← Fallible.lift request with
  | .ok _ => pure ()
  | .error .alreadyExists => pure ()
  | .error error => Fallible.throw (.api error)

/-! ## Custom resources -/

/-- `GetKVRocks` -/
def getKVRocks (key : NamespacedName) : Go KVRocks := Go.api (ask (.getKVRocks key))

/-- `UpdateKVRocks`: the instance with the resource version that the API server has given it. -/
def updateKVRocks (instance_ : KVRocks) : Go KVRocks := do
  let resourceVersion ← Go.api (ask (.updateKVRocks instance_))
  pure { instance_ with resourceVersion := resourceVersion }

/-! ## ConfigMaps, services and workloads -/

/-- `CreateIfNotExistsConfigMap` -/
def createIfNotExistsConfigMap (configMap : ConfigMap) : Go Unit := createIfNotExists (ask (.createConfigMap configMap))

/-- `GetConfigMap` -/
def getConfigMap (key : NamespacedName) : Go ConfigMap := Go.api (ask (.getConfigMap key))

/-- `UpdateConfigMap` -/
def updateConfigMap (configMap : ConfigMap) : Go Unit := Go.api (ask (.updateConfigMap configMap))

/-- `CreateOrUpdateConfigMap` -/
def createOrUpdateConfigMap (configMap : ConfigMap) : Go Unit := do
  match ← Fallible.lift (ask (.getConfigMap ⟨configMap.ns, configMap.name⟩)) with
  | .error .notFound => createIfNotExistsConfigMap configMap
  | .error error => Fallible.throw (.api error)
  | .ok _ => updateConfigMap configMap

/-- `DeleteConfigMap` -/
def deleteConfigMap (key : NamespacedName) : Go Unit := do
  let _ ← getConfigMap key
  Go.api (ask (.deleteConfigMap key))

/-- `CreateIfNotExistsService`, `CreateIfNotExistsDeployment` and `CreateIfNotExistsNativeStatefulSet`. -/
def createIfNotExistsObject (kind : Kind) (key : NamespacedName) : Go Unit :=
  createIfNotExists (ask (.createObject kind key))

/-- `GetService`: the cluster IP of a service. -/
def getService (key : NamespacedName) : Go String := Go.api (ask (.getService key))

/-- `DeleteService` -/
def deleteService (key : NamespacedName) : Go Unit := do
  let _ ← getService key
  Go.api (ask (.deleteObject .service key))

/-- `GetDeployment` and `GetNativeStatefulSet`. -/
def getWorkload (kind : Kind) (key : NamespacedName) : Go Workload := Go.api (ask (.getWorkload kind key))

/-- `ListDeploymentPods` -/
def listDeploymentPods (key : NamespacedName) : Go (List Pod) := do
  let deployment ← getWorkload .deployment key
  Go.api (ask (.listPods key.ns deployment.matchLabels))

/-- `DeleteDeployment` and `DeleteNativeStatefulSet`. -/
def deleteWorkload (kind : Kind) (key : NamespacedName) : Go Unit := do
  let _ ← getWorkload kind key
  Go.api (ask (.deleteObject kind key))

/-! ## StatefulSets -/

/-- `CreateIfNotExistsStatefulSet` -/
def createIfNotExistsStatefulSet (sts : StatefulSet) : Go Unit := createIfNotExists (ask (.createStatefulSet sts))

/-- `GetStatefulSet` -/
def getStatefulSet (key : NamespacedName) : Go StatefulSet := Go.api (ask (.getStatefulSet key))

/-- `UpdateStatefulSet` -/
def updateStatefulSet (sts : StatefulSet) : Go Unit := Go.api (ask (.updateStatefulSet sts))

/-- `ListStatefulSets` -/
def listStatefulSets (ns : String) (labels : StringMap) : Go (List StatefulSet) :=
  Go.api (ask (.listStatefulSets ns labels))

/-- `ListStatefulSetPods` -/
def listStatefulSetPods (key : NamespacedName) : Go (List Pod) := do
  let sts ← getStatefulSet key
  Go.api (ask (.listPods sts.ns sts.matchLabels))

/-- `CreateStatefulSetOrUpdateImage`: when an image differs the whole new object is written, its replicas and its
empty `ReserveOrdinals` included. -/
def createStatefulSetOrUpdateImage (sts : StatefulSet) : Go Unit := do
  match ← Fallible.lift (ask (.getStatefulSet ⟨sts.ns, sts.name⟩)) with
  | .error .notFound => createIfNotExistsStatefulSet sts
  | .error error => Fallible.throw (.api error)
  | .ok oldSts =>
    if oldSts.image = sts.image ∧ oldSts.exporterImage = sts.exporterImage then pure ()
    else updateStatefulSet { sts with resourceVersion := oldSts.resourceVersion }

/-- `CreateOrUpdateStatefulSet` -/
def createOrUpdateStatefulSet (sts : StatefulSet) : Go Unit := do
  match ← Fallible.lift (ask (.getStatefulSet ⟨sts.ns, sts.name⟩)) with
  | .error .notFound => createIfNotExistsStatefulSet sts
  | .error error => Fallible.throw (.api error)
  | .ok oldSts => updateStatefulSet { sts with resourceVersion := oldSts.resourceVersion }

/-- `DeleteStatefulSetIfExists`: no error of the read is reported. -/
def deleteStatefulSetIfExists (key : NamespacedName) : Go Unit := do
  match ← Fallible.lift (ask (.getStatefulSet key)) with
  | .error _ => pure ()
  | .ok _ => Go.api (ask (.deleteStatefulSet key))

/-- `*sts.Spec.Replicas - *oldSts.Spec.Replicas`, a difference of values of type `int32`.  No StatefulSet has a
negative number of replicas, so that the difference can only fall below the range. -/
def replicasDelta (sts oldSts : StatefulSet) : ℤ :=
  if sts.replicas - oldSts.replicas < -2 ^ 31 then sts.replicas - oldSts.replicas + 2 ^ 32
  else sts.replicas - oldSts.replicas

theorem replicasDelta_of_le {sts oldSts : StatefulSet} (h : -2 ^ 31 ≤ sts.replicas - oldSts.replicas) :
    replicasDelta sts oldSts = sts.replicas - oldSts.replicas :=
  if_neg (not_lt.mpr h)

/-! ## Pods and claims -/

/-- `GetPod` -/
def getPod (key : NamespacedName) : Go Pod := Go.api (ask (.getPod key))

/-- `UpdatePod` -/
def updatePod (pod : Pod) : Go Unit := Go.api (ask (.updatePod pod))

/-- `DeletePodImmediately`: a pod that is not found is a nil pointer, which the client refuses to delete. -/
def deletePodImmediately (podName ns : String) : Go Unit := do
  match ← Fallible.lift (ask (.getPod ⟨ns, podName⟩)) with
  | .error .notFound => Fallible.throw (.text "expected pointer, but got nil")
  | .error error => Fallible.throw (.api error)
  | .ok _ =>
    match ← Fallible.lift (ask (.deletePod ⟨ns, podName⟩)) with
    | .ok _ => pure ()
    | .error .notFound => pure ()
    | .error error => Fallible.throw (.api error)

/-- `ListPVC` -/
def listPVC (ns : String) (labels : StringMap) : Go (List NamespacedName) := Go.api (ask (.listPVC ns labels))

/-- `ListStatefulSetPVC` -/
def listStatefulSetPVC (key : NamespacedName) : Go (List NamespacedName) := do
  let sts ← getStatefulSet key
  listPVC key.ns sts.matchLabels

/-- `DeletePVC` -/
def deletePVC (key : NamespacedName) : Go Unit := do
  match ← Fallible.lift (ask (.deletePVC key)) with
  | .ok _ => pure ()
  | .error .notFound => pure ()
  | .error error => Fallible.throw (.api error)

/-- `DeletePVCByPod`: a claim that cannot be read is left alone. -/
def deletePVCByPod (podName ns : String) : Go Unit := do
  match ← Fallible.lift (ask (.getPVC ⟨ns, "data-" ++ podName⟩)) with
  | .error _ => pure ()
  | .ok _ => deletePVC ⟨ns, "data-" ++ podName⟩

end KvrocksOperator.K8s
