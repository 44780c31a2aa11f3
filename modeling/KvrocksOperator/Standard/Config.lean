import KvrocksOperator.Common.Command

/-!
# The handler of a standard instance

The configuration phase of `pkg/controllers/standard`.
-/

namespace KvrocksOperator.Standard

open Interaction Resources

/-- `KVRocksStandardHandler` -/
structure KVRocksStandardHandler where
  instance_ : KVRocks
  password : String
  stsNodes : List Node
  requeue : Bool
  key : NamespacedName
  deriving DecidableEq

/-- A method of the handler. -/
abbrev HandlerM (α : Type) := Method operator GoError KVRocksStandardHandler α

/-- `ensureKVRocksConfig` -/
def ensureKVRocksConfig : HandlerM Unit := do
  let h ← Method.get
  Method.lift (Common.ensureConfig h.instance_ h.password h.stsNodes)
  Method.modify fun h ↦ { h with password := h.instance_.spec.password }
  Method.lift (K8s.updateConfigMap (newKVRocksConfigMap h.instance_))

end KvrocksOperator.Standard
