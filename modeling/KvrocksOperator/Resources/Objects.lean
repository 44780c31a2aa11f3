import KvrocksOperator.Resources.Names

/-!
# The objects built for an instance

`pkg/resources`: the StatefulSets and ConfigMaps the operator derives from an instance, the validation of a
specification and the configuration keys it may change on a running node.
-/

namespace KvrocksOperator.Resources

/-! ## StatefulSets -/

/-- The image of `NewExporterContainer`. -/
def exporterImage : String := "hulkdev/kvrocks-exporter:latest"

/-- `NewStatefulSet` with the containers of a kvrocks instance.  `ReserveOrdinals` is never set here. -/
def newStatefulSet (instance_ : KVRocks) (name : String) : StatefulSet :=
  { ns := instance_.ns
    name := name
    matchLabels := mergeLabels instance_.labels (statefulSetLabels name)
    replicas := instance_.spec.replicas
    reserveOrdinals := []
    image := instance_.spec.image
    exporterImage := exporterImage
    readyReplicas := 0
    resourceVersion := 0 }

/-- `NewClusterStatefulSet` -/
def newClusterStatefulSet (instance_ : KVRocks) (index : ℕ) : StatefulSet :=
  newStatefulSet instance_ (getStatefulSetName instance_.name index)

/-- `NewReplicationStatefulSet` -/
def newReplicationStatefulSet (instance_ : KVRocks) : StatefulSet := newStatefulSet instance_ instance_.name

/-! ## Configuration -/

/-- `UnChangeCfg`: keys that are only read when a node starts. -/
def unChangeCfg : List String :=
  ["daemonize", "bind", "port", "workers", "tcp-backlog", "slaveof", "db-name", "dir", "backup-dir",
    "log-dir", "pidfile", "supervised", "rename-command", "rocksdb.block_size",
    "rocksdb.wal_size_limit_mb", "rocksdb.enable_pipelined_write",
    "rocksdb.cache_index_and_filter_blocks", "rocksdb.subkey_block_cache_size",
    "rocksdb.metadata_block_cache_size", "rocksdb.share_metadata_and_subkey_block_cache",
    "rocksdb.row_cache_size", "masterauth", "requirepass", "cluster-enabled"]

/-- `ParseKVRocksConfigs` -/
def parseKVRocksConfigs (config : StringMap) : StringMap := config.filter fun entry ↦ !unChangeCfg.contains entry.1

/-- One line of `kvrocks.conf`. -/
def configLine (entry : String × String) : String :=
  if entry.2 = "" then entry.1 ++ " \"\"\n" else entry.1 ++ " " ++ entry.2 ++ "\n"

/-- The text of `kvrocks.conf`. -/
def kvrocksConf (instance_ : KVRocks) : String :=
  String.join (instance_.spec.kvrocksConfig.map configLine) ++ "masterauth " ++ instance_.spec.password ++ "\n" ++
    "requirepass " ++ instance_.spec.password ++ "\n" ++
    "dir /var/lib/kvrocks\n" ++
    (if instance_.spec.type = .cluster then "cluster-enabled yes\n" else "") ++
    (if instance_.spec.type = .standard then "slaveof 127.0.0.1 6379\n" else "")

/-- `NewKVRocksConfigMap`, less the two constant scripts. -/
def newKVRocksConfigMap (instance_ : KVRocks) : ConfigMap :=
  { ns := instance_.ns
    name := instance_.name
    data := [("kvrocks.conf", kvrocksConf instance_), ("password", instance_.spec.password)] }

@[simp] theorem newKVRocksConfigMap_password (instance_ : KVRocks) :
    (newKVRocksConfigMap instance_).data.lookup "password" = some instance_.spec.password := by
  rfl

/-- `NewSentinelConfigMap` -/
def newSentinelConfigMap (instance_ : KVRocks) : ConfigMap :=
  { ns := instance_.ns
    name := instance_.name
    data := [("sentinel.conf",
      "user default +@all -acl -sentinel +sentinel|master +sentinel|replicas +sentinel|sentinels " ++
      "+sentinel|get-master-addr-by-name +sentinel|is-master-down-by-addr +sentinel|slaves on nopass\n" ++
      "user superuser ~* +@all on >" ++ instance_.spec.password ++ "\n")] }

/-- The configuration file of the controller. -/
def newKVRocksControllerConfigmap (instance_ : KVRocks) : ConfigMap :=
  { ns := instance_.ns, name := "controller-config", data := [] }

/-! ## Validation -/

def errorPasswordEmpty : String := "passworUnreasonable"

def errorReplicasUnreasonable : String := "replicasUnreasonable"

def errorResourcesNULL : String := "resourcesUnreasonable"

/-- `ValidateKVRocks`: the reason why a specification is refused, if it is. -/
def validateKVRocks (instance_ : KVRocks) : Option String :=
  if instance_.spec.password = "" then some errorPasswordEmpty
  else if instance_.spec.resources = false then some errorResourcesNULL
  else
    match instance_.spec.type with
    | .sentinel =>
      if instance_.spec.replicas < 2 ∨ instance_.spec.replicas.tmod 2 = 0 then
        some errorReplicasUnreasonable
      else none
    | .standard => if instance_.spec.master ≠ 1 then some errorReplicasUnreasonable else none
    | .cluster => if instance_.spec.master < 3 then some errorReplicasUnreasonable else none

end KvrocksOperator.Resources
