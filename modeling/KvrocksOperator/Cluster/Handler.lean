import KvrocksOperator.Client.Controller
import KvrocksOperator.Common.Command

/-!
# The handler of a cluster instance

The receiver of the methods of `pkg/controllers/cluster`, with `controller.go` and `sentinel.go`.  The map `masters`
is written by `ensureMigrate` and never read, so it is left out.
-/

namespace KvrocksOperator.Cluster

open Interaction Resources

/-- `KVRocksClusterHandler` -/
structure Handler where
  instance_ : KVRocks
  password : String
  requeue : Bool
  stsNodes : Matrix
  key : NamespacedName
  version : ℤ
  controllerClient : Controller.Client
  deriving DecidableEq

/-- A method of the handler. -/
abbrev HandlerM (α : Type) := Method operator GoError Handler α

/-- `NewKVRocksClusterHandler` -/
def newKVRocksClusterHandler (key : NamespacedName) (instance_ : KVRocks)
    (controllerClient : Controller.Client) : Handler :=
  { instance_ := instance_, password := "", requeue := false, stsNodes := [], key := key,
    version := 0, controllerClient := controllerClient }

/-- `h.requeue = true` -/
def setRequeue : HandlerM Unit := Method.modify fun h ↦ { h with requeue := true }

/-- Write the instance and keep the resource version of the answer. -/
def saveInstance : HandlerM Unit := Common.saveInstance Handler.instance_ fun saved h ↦ { h with instance_ := saved }

/-- Write the instance; a failed write asks for a requeue before it is reported. -/
def saveInstanceOrRequeue : HandlerM Unit := do
  let h ← Method.get
  match ← Method.lift (K8s.updateKVRocks h.instance_).handle with
  | .ok saved => Method.modify fun h ↦ { h with instance_ := saved }
  | .error error => do
    setRequeue
    Method.throw error

/-! ## The kvrocks-controller -/

/-- Whether all replicas of a workload are ready. -/
def Workload.isReady (workload : Workload) : Bool := workload.readyReplicas == workload.replicas

/-- `createControllerNamespace` -/
def createControllerNamespace (client : Controller.Client) : Go Unit := Controller.createIfNotExistsNamespace client

/-- The controller half of `ensureController`, run when etcd is ready. -/
def ensureControllerDeployment : HandlerM Unit := do
  let h ← Method.get
  let ns := h.instance_.ns
  Method.lift (K8s.createIfNotExistsConfigMap (newKVRocksControllerConfigmap h.instance_))
  Method.lift (K8s.createIfNotExistsObject .service ⟨ns, Kvrocks.controllerServiceName⟩)
  Method.lift (K8s.createIfNotExistsObject .deployment ⟨ns, Kvrocks.controllerDeploymentName⟩)
  let controllerDep ← Method.lift (K8s.getWorkload .deployment ⟨ns, Kvrocks.controllerDeploymentName⟩)
  if Workload.isReady controllerDep then do
    let client ← Method.lift (Controller.setEndPoint h.controllerClient ns)
    Method.modify fun h ↦ { h with controllerClient := client }
    Method.lift (createControllerNamespace client)
  else setRequeue

/-- `ensureController` -/
def ensureController : HandlerM Unit := do
  let h ← Method.get
  let ns := h.instance_.ns
  Method.lift (K8s.createIfNotExistsObject .service ⟨ns, Kvrocks.etcdServiceName⟩)
  Method.lift (K8s.createIfNotExistsObject .nativeStatefulSet ⟨ns, Kvrocks.etcdStatefulName⟩)
  let etcd ← Method.lift (K8s.getWorkload .nativeStatefulSet ⟨ns, Kvrocks.etcdStatefulName⟩)
  if Workload.isReady etcd then ensureControllerDeployment else setRequeue

/-- `removeController`; it never asks for a requeue. -/
def removeController (ns : String) : Go Unit := do
  K8s.deleteWorkload .deployment ⟨ns, Kvrocks.controllerDeploymentName⟩
  K8s.deleteService ⟨ns, Kvrocks.controllerServiceName⟩
  K8s.deleteConfigMap ⟨ns, "controller-config"⟩
  K8s.deleteWorkload .nativeStatefulSet ⟨ns, Kvrocks.etcdStatefulName⟩
  K8s.deleteService ⟨ns, Kvrocks.etcdServiceName⟩

/-! ## Sentinels -/

/-- Tell the sentinels that monitor the instance. -/
def notifySentinel (instance_ : KVRocks) : Go Unit :=
  match instance_.labels.lookup monitoredBy with
  | some sentinelName => Common.updateSentinelAnnotationCount instance_.ns sentinelName
  | none => pure ()

/-- `ensureSentinel` -/
def ensureSentinel : HandlerM Unit := do
  let h ← Method.get
  if h.instance_.status.shrink.isSome then pure ()
  else if kvrocksFinalizer ∈ h.instance_.finalizers then Method.lift (notifySentinel h.instance_)
  else do
    Method.modify fun h ↦
      { h with instance_ :=
          { h.instance_ with finalizers := h.instance_.finalizers ++ [kvrocksFinalizer] } }
    saveInstance
    Method.lift (notifySentinel h.instance_)

end KvrocksOperator.Cluster
