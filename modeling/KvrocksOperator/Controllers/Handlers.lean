import KvrocksOperator.Controllers.Reconcile
import KvrocksOperator.Sentinel.Handler
import KvrocksOperator.Standard.Handler

/-!
# The handlers of the three instance types

The switch of `Reconcile` on `Spec.Type`.
-/

namespace KvrocksOperator.Controllers

open Interaction

/-- The handler of standard instances. -/
def standardHandler (key : NamespacedName) : KVRocksHandler where
  handle instance_ := do
    let (result, h) ← Standard.handle.finish (Standard.newKVRocksStandardHandler key instance_)
    pure (result, h.requeue)
  finializer instance_ := do
    let (result, h) ← Standard.finializer.finish (Standard.newKVRocksStandardHandler key instance_)
    pure (result, h.requeue)

/-- The handler of sentinel instances. -/
def sentinelHandler (key : NamespacedName) : KVRocksHandler where
  handle instance_ := do
    let (result, h) ← Sentinel.handle.finish (Sentinel.newKVRocksSentinelHandler key instance_)
    pure (result, h.requeue)
  finializer instance_ := do
    let (result, h) ← Sentinel.finializer.finish (Sentinel.newKVRocksSentinelHandler key instance_)
    pure (result, h.requeue)

/-- The handler that `Reconcile` makes for an instance. -/
def handlerOf (key : NamespacedName) : KVRocksType → KVRocksHandler
  | .sentinel => sentinelHandler key
  | .standard => standardHandler key
  | .cluster => clusterHandler key

end KvrocksOperator.Controllers
