import KvrocksOperator.Cluster.Handle

/-!
# Reconciling

`pkg/controllers/kvrocks_controller.go`.  The handlers of the instance types are reached through the interface
`KVRocksHandler`; the one of cluster instances is `clusterHandler`.
-/

namespace KvrocksOperator.Controllers

open Interaction Resources

/-- `KVRocksHandler`: what `Handle` and `Finializer` return for an instance, with what `Requeue` returns afterwards.
-/
structure KVRocksHandler where
  handle : KVRocks → Go (Except GoError Bool × Bool)
  finializer : KVRocks → Go (Except GoError Unit × Bool)

/-- The handler of cluster instances. -/
def clusterHandler (key : NamespacedName) : KVRocksHandler where
  handle instance_ := do
    let (result, h) ← Cluster.handle.finish (Cluster.newKVRocksClusterHandler key instance_ Controller.newClient)
    pure (result, h.requeue)
  finializer instance_ := do
    let (result, h) ← Cluster.finializer.finish (Cluster.newKVRocksClusterHandler key instance_ Controller.newClient)
    pure (result, h.requeue)

/-- What `Reconcile` returns. -/
inductive Result where
  | finished
  | requeueAfter
  | failed (error : GoError)
  deriving DecidableEq

/-- `shouldRetry` -/
def shouldRetry : Except GoError α → Bool
  | .error error => error.isNotFound || error.isConflict
  | .ok _ => false

/-- `shouldNotRetry` -/
def shouldNotRetry : Except GoError α → Bool
  | .error error => error.isForbidden || error.isInvalid
  | .ok _ => false

/-- `checkSpecification`: whether the specification is reasonable. -/
def checkSpecification (instance_ : KVRocks) : Go Bool :=
  match validateKVRocks instance_ with
  | none => pure true
  | some reason => do
    let _ ← (K8s.updateKVRocks
      { instance_ with status :=
          { instance_.status with status := .failed, reason := reason } }).handle
    pure false

/-- The labels that `runIfInitialize` wants. -/
def wantedLabels (instance_ : KVRocks) : StringMap :=
  let labels := mergeLabels instance_.labels (selectorLabels instance_)
  if instance_.spec.type = .sentinel then mergeLabels labels sentinelLabels else labels

/-- `runIfInitialize` -/
def runIfInitialize (instance_ : KVRocks) : Go KVRocks := do
  let labelled ←
    if (wantedLabels instance_).deepEqual instance_.labels then pure instance_
    else K8s.updateKVRocks { instance_ with labels := wantedLabels instance_ }
  if labelled.status.status = .none then
    K8s.updateKVRocks { labelled with status := { labelled.status with status := .creating } }
  else pure labelled

/-- The branch of `Reconcile` for an instance that is being deleted. -/
def reconcileDeletion (handler : KVRocksHandler) (instance_ : KVRocks) : Go Result :=
  if kvrocksFinalizer ∉ instance_.finalizers then pure .finished
  else do
    let (result, requeue) ← handler.finializer instance_
    if requeue || shouldRetry result then pure .requeueAfter
    else
      match result with
      | .error _ => pure .finished
      | .ok _ => do
        let removed ← (K8s.updateKVRocks
          { instance_ with finalizers := instance_.finalizers.filter (· ≠ kvrocksFinalizer) }).handle
        if shouldRetry removed then pure .requeueAfter else pure .finished

/-- The branch of `Reconcile` for an instance that has to be brought up to date. -/
def reconcileInstance (handler : KVRocksHandler) (instance_ : KVRocks) : Go Result := do
  let reasonable ← checkSpecification instance_
  if reasonable then do
    match ← (runIfInitialize instance_).handle with
    | .error _ => pure .finished
    | .ok initialized => do
      let (result, requeue) ← handler.handle initialized
      if requeue || shouldRetry result then pure .requeueAfter
      else if shouldNotRetry result then pure .finished
      else
        match result with
        | .error error => pure (.failed error)
        | .ok _ => pure .finished
  else pure .finished

/-- `Reconcile`; `handlerOf` is the switch on `Spec.Type`. -/
def reconcile (handlerOf : KVRocksType → KVRocksHandler) (key : NamespacedName) : Go Result := do
  match ← (K8s.getKVRocks key).handle with
  | .error error => if error.isNotFound then pure .finished else pure (.failed error)
  | .ok instance_ =>
    let handler := handlerOf instance_.spec.type
    if instance_.deletionTimestamp then reconcileDeletion handler instance_
    else if instance_.status.status = .failed then pure .finished
    else reconcileInstance handler instance_

end KvrocksOperator.Controllers
