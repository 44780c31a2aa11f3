import KvrocksOperator.Common.Command
import KvrocksOperator.Sentinel.Monitor

/-!
# A pass over a sentinel instance

`pkg/controllers/sentinel`: a Deployment of sentinels, which monitor the instances that carry their label.
-/

namespace KvrocksOperator.Sentinel

open Interaction Resources

/-- `NewKVRocksSentinelHandler` -/
def newKVRocksSentinelHandler (key : NamespacedName) (instance_ : KVRocks) : Handler :=
  { instance_ := instance_, key := key, pods := [], requeue := false }

/-- `ensureKubernetes` -/
def ensureKubernetes : HandlerM Unit := do
  let h ← Method.get
  Method.lift (K8s.createOrUpdateConfigMap (newSentinelConfigMap h.instance_))
  Method.lift (K8s.createIfNotExistsObject .service h.instance_.key)
  Method.lift (K8s.createIfNotExistsObject .deployment h.instance_.key)
  let dep ← Method.lift (K8s.getWorkload .deployment h.key)
  if dep.readyReplicas ≠ dep.replicas then Method.modify fun h ↦ { h with requeue := true }
  else do
    let pods ← Method.lift (K8s.listDeploymentPods h.key)
    Method.modify fun h ↦ { h with pods := h.pods ++ pods.map Pod.ip }

/-- The end of `Handle`: the instance is running. -/
def markRunning : HandlerM Bool := do
  Method.modify fun h ↦
    { h with instance_ := { h.instance_ with status := { h.instance_.status with status := .running } } }
  Common.saveInstance Handler.instance_ fun saved h ↦ { h with instance_ := saved }
  pure true

/-- Go on to the next phase unless the phase asks for a requeue. -/
def thenUnlessRequeue (phase : HandlerM Unit) (next : HandlerM Bool) : HandlerM Bool :=
  phase.thenUnless Handler.requeue next

/-- `Handle`: whether the pass is finished. -/
def handle : HandlerM Bool :=
  thenUnlessRequeue ensureKubernetes <|
  thenUnlessRequeue ensureSentinel <|
  markRunning

/-- `Finializer` -/
def finializer : HandlerM Unit := pure ()

end KvrocksOperator.Sentinel
