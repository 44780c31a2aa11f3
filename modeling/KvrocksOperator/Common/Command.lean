import KvrocksOperator.Client.K8s

/-!
# Commands shared by the handlers

`pkg/controllers/common`: bringing the configuration of nodes up to date and removing a monitor from the sentinels,
and `UpdateSentinelAnnotationCount` of `pkg/controllers/sentinel`.
-/

namespace KvrocksOperator.Common

open Interaction Text Resources

/-- Write the instance a handler holds and keep the resource version of the answer. -/
def saveInstance {σ : Type} (held : σ → KVRocks) (hold : KVRocks → σ → σ) : Method operator GoError σ Unit := do
  let h ← Method.get
  let saved ← Method.lift (K8s.updateKVRocks (held h))
  Method.modify (hold saved)

/-! ## Configuration -/

/-- One key of the inner loop of `EnsureConfig`. -/
def ensureKey (password : String) (node : Node) (entry : String × String) : Go Unit := do
  let curValue ← Kvrocks.getConfig node.ip password entry.1
  if curValue ≠ entry.2 then Kvrocks.setConfig node.ip password entry.1 entry.2 else pure ()

/-- One node of the outer loop of `EnsureConfig`. -/
def ensureNodeConfig (instance_ : KVRocks) (password : String) (node : Node) : Go Unit := do
  forEach (ensureKey password node) (parseKVRocksConfigs instance_.spec.kvrocksConfig)
  if password ≠ instance_.spec.password then
    Kvrocks.changePassword node.ip password instance_.spec.password
  else pure ()

/-- `EnsureConfig`: `password` is the one the handler was created with. -/
def ensureConfig (instance_ : KVRocks) (password : String) (nodes : List Node) : Go Unit :=
  forEach (ensureNodeConfig instance_ password) nodes

/-! ## Sentinels -/

/-- `GetSentinel`: the pods and the password of a running sentinel, or whether to requeue and with which error. -/
def getSentinel (key : NamespacedName) : Go (Except (Bool × Option GoError) (List Pod × String)) := do
  match ← (K8s.getKVRocks key).handle with
  | .error error => pure (.error (true, some error))
  | .ok sentinel =>
    if sentinel.status.status ≠ .running then pure (.error (true, none))
    else
      match ← (K8s.listDeploymentPods key).handle with
      | .error error => pure (.error (false, some error))
      | .ok pods => pure (.ok (pods, sentinel.spec.password))

/-- Remove the monitor from one sentinel pod that has it. -/
def removeMonitorFrom (sentinelPassword masterName : String) (sentinel : Pod) : Go Unit := do
  match ← (Kvrocks.getMasterFromSentinel sentinel.ip sentinelPassword masterName).handle with
  | .error _ => pure ()
  | .ok _ => Kvrocks.removeMonitor sentinel.ip sentinelPassword masterName

/-- `RemoveMonitor` for a master name: whether to requeue, and the error. -/
def removeMonitorNamed (instance_ : KVRocks) (name : String) : Go (Bool × Option GoError) := do
  let key : NamespacedName := ⟨instance_.ns, (instance_.labels.lookup monitoredBy).getD ""⟩
  match ← getSentinel key with
  | .error result => pure result
  | .ok (pods, sentinelPassword) =>
    match ← (forEach (removeMonitorFrom sentinelPassword name) pods : Go Unit).handle with
    | .error error => pure (false, some error)
    | .ok _ => pure (false, none)

/-- `RemoveMonitor` with an index. -/
def removeMonitor (instance_ : KVRocks) (masterName : String) (index : ℤ) : Go (Bool × Option GoError) :=
  removeMonitorNamed instance_ (masterName ++ "-" ++ itoa index)

/-- The error of `strconv.Atoi`. -/
def atoiError (text : String) : NumError → GoError
  | .malformed => .text ("strconv.Atoi: parsing \"" ++ text ++ "\": invalid syntax")
  | .outOfRange => .text ("strconv.Atoi: parsing \"" ++ text ++ "\": value out of range")

/-- `UpdateSentinelAnnotationCount` -/
def updateSentinelAnnotationCount (ns sentinelName : String) : Go Unit := do
  let sentinel ← K8s.getKVRocks ⟨ns, sentinelName⟩
  let count := (sentinel.annotations.lookup "change-count").getD "0"
  match atoi count with
  | (_, some error) => Fallible.throw (atoiError count error)
  | (countInt, none) => do
    let _ ← K8s.updateKVRocks
      { sentinel with annotations := sentinel.annotations.set "change-count" (itoa (Kvrocks.wrapInt (countInt + 1))) }
    pure ()

end KvrocksOperator.Common
