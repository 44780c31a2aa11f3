import Mathlib.Data.List.Basic
import Mathlib.Data.Int.Basic

/-!
# The data of the operator

The custom resource of `api/v1alpha1`, the Kubernetes objects that the operator reads or writes, and the in-memory
node of `pkg/client/kvrocks`.  A Go map is an association list, and a `nil` slice or map is the empty list.  No
function modelled here tells a `nil` slice from an empty one.  The one write into a map that could be `nil` is the one
into the labels of a pod; the pods of a StatefulSet carry the labels of its template, so their maps are not `nil`.
Fields that no modelled function reads are left out.
-/

namespace KvrocksOperator

/-- A Go map from strings to strings. -/
abbrev StringMap := List (String × String)

namespace StringMap

/-- The map after an assignment. -/
def set (map : StringMap) (key value : String) : StringMap := (key, value) :: map.filter fun entry ↦ entry.1 ≠ key

/-- Two maps with the same value at every key of either. -/
def deepEqual (left right : StringMap) : Bool :=
  (left ++ right).all fun entry ↦ left.lookup entry.1 == right.lookup entry.1

end StringMap

/-- The name of a namespaced Kubernetes object. -/
structure NamespacedName where
  ns : String
  name : String
  deriving DecidableEq

/-! ## The custom resource -/

/-- `KVRocksType` -/
inductive KVRocksType where
  | sentinel
  | standard
  | cluster
  deriving DecidableEq

/-- `KVRocksStatusType`; `none` is the empty string of a new object. -/
inductive KVRocksStatusType where
  | none
  | creating
  | running
  | failed
  deriving DecidableEq

/-- The role of a node.  The source keeps roles as strings: `empty` is the role of a node that no record describes
yet, and `other` keeps any text a remote side may answer with. -/
inductive Role where
  | empty
  | master
  | slave
  | other (text : String)
  deriving DecidableEq

/-- The string the source uses for a role, as it stands in a pod label. -/
def Role.text : Role → String
  | .empty => ""
  | .master => "master"
  | .slave => "slave"
  | .other text => text

structure KVRocksSpec where
  image : String
  type : KVRocksType
  kvrocksConfig : StringMap
  replicas : ℤ
  master : ℕ
  password : String
  /-- Whether `resources` is set. -/
  resources : Bool
  deriving DecidableEq

/-- An entry of `status.topo[].topology[].migrate`. -/
structure MigrateMsg where
  shard : ℤ
  slots : List String
  deriving DecidableEq

structure KVRocksTopology where
  pod : String
  role : Role
  nodeId : String
  ip : String
  port : ℕ
  slots : List String
  masterId : String
  migrate : List MigrateMsg
  failover : Bool
  deriving DecidableEq

structure KVRocksTopoPartitions where
  partitionName : String
  shard : ℕ
  topology : List KVRocksTopology
  deriving DecidableEq

structure KVRocksShrinkMsg where
  partition : List ℕ
  reserveMsg : List (String × List ℕ)
  deriving DecidableEq

structure KVRocksStatus where
  status : KVRocksStatusType
  reason : String
  version : ℤ
  rebalance : Bool
  topo : List KVRocksTopoPartitions
  shrink : Option KVRocksShrinkMsg
  deriving DecidableEq

/-- The custom resource.  `deletionTimestamp` only says whether it is set. -/
structure KVRocks where
  kind : String
  ns : String
  name : String
  labels : StringMap
  annotations : StringMap
  finalizers : List String
  deletionTimestamp : Bool
  resourceVersion : ℕ
  spec : KVRocksSpec
  status : KVRocksStatus
  deriving DecidableEq

def KVRocks.key (instance_ : KVRocks) : NamespacedName := ⟨instance_.ns, instance_.name⟩

/-- The object that a user creates, before the operator has seen it. -/
def KVRocks.created (key : NamespacedName) (spec : KVRocksSpec) : KVRocks :=
  { kind := "KVRocks", ns := key.ns, name := key.name, labels := [], annotations := [],
    finalizers := [], deletionTimestamp := false, resourceVersion := 0, spec := spec,
    status := { status := .none, reason := "", version := 0, rebalance := false, topo := [],
                shrink := none } }

/-- `KVRocksFinalizer` -/
def kvrocksFinalizer : String := "kvrocks/finalizer"

/-! ## Kubernetes objects -/

/-- An OpenKruise StatefulSet.  Its two containers are the instance and the exporter. -/
structure StatefulSet where
  ns : String
  name : String
  matchLabels : StringMap
  replicas : ℤ
  reserveOrdinals : List ℕ
  image : String
  exporterImage : String
  readyReplicas : ℤ
  resourceVersion : ℕ
  deriving DecidableEq

structure Pod where
  ns : String
  name : String
  ip : String
  labels : StringMap
  deletionTimestamp : Bool
  deriving DecidableEq

structure ConfigMap where
  ns : String
  name : String
  data : StringMap
  deriving DecidableEq

/-- A Deployment or a native StatefulSet: its readiness and the labels of its pods. -/
structure Workload where
  matchLabels : StringMap
  replicas : ℤ
  readyReplicas : ℤ
  deriving DecidableEq

/-! ## Nodes -/

namespace Kvrocks

/-- A migration of slots to another shard, with the slots decoded. -/
structure MigrateMsg where
  shard : ℤ
  slots : List ℤ
  deriving DecidableEq

/-- `kvrocks.Node` -/
structure Node where
  ip : String
  role : Role
  podIndex : ℕ
  slots : List ℤ
  nodeId : String
  master : String
  failover : Bool
  migrate : List MigrateMsg
  deriving DecidableEq

/-- The node that a pod is turned into before its record is read. -/
def Node.fresh (ip : String) (podIndex : ℕ) : Node :=
  { ip := ip, role := .empty, podIndex := podIndex, slots := [], nodeId := "", master := "",
    failover := false, migrate := [] }

/-- The nodes of each shard, `[][]*kvrocks.Node`. -/
abbrev Matrix : Type := List (List Node)

def kvrocksPort : ℕ := 6379

def quorum : ℕ := 2

def controllerPort : ℕ := 9379

def etcdStatefulName : String := "etcd0"

def etcdServiceName : String := "etcd0-service"

def controllerServiceName : String := "controller-service"

def controllerDeploymentName : String := "kvrocks-controller"

end Kvrocks

export Kvrocks (Node Matrix)

/-! ## The controller's data -/

namespace Controller

/-- A node as the kvrocks-controller reports it. -/
structure Node where
  id : String
  addr : String
  role : Role
  deriving DecidableEq

structure ShardData where
  nodes : List Node
  slotRanges : List String
  deriving DecidableEq

structure ClusterOption where
  name : String
  nodes : List String
  replicas : ℤ
  password : String
  deriving DecidableEq

structure ShardOption where
  nodes : List String
  password : String
  deriving DecidableEq

structure NodeOption where
  addr : String
  role : Role
  password : String
  deriving DecidableEq

structure MigrationOption where
  source : ℤ
  target : ℤ
  slot : ℤ
  deriving DecidableEq

end Controller

export Controller (ShardData MigrationOption)

/-! ## Failover messages -/

/-- `eventMessage`.  Messages are pointers in the source, so a message carries an identity of its own; `timeout` is
the time after which it is given up. -/
structure EventMessage where
  id : ℕ
  ip : String
  port : String
  key : NamespacedName
  partition : ℤ
  timeout : ℕ
  deriving DecidableEq

end KvrocksOperator
