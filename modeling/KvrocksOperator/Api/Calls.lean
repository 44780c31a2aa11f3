import KvrocksOperator.Api.Types
import KvrocksOperator.Interaction.Program

/-!
# The calls of the operator

Everything the operator does outside its own memory is a call: requests to the Kubernetes API server, HTTP requests to
the kvrocks-controller, commands to kvrocks nodes and sentinels, and the operations on the failover queue.
`Call.Reply` is the type of what comes back.  The bodies of HTTP answers are given decoded: a body that cannot be read
or parsed is an error.

`Call.enter` and `Call.returned` have no effect.  They mark that a pass has entered a phase with the given data and
that the goroutine of a message returns, so that a run can be asked for more than its remote calls.
-/

namespace KvrocksOperator

open Interaction

/-! ## Errors -/

/-- Errors of the Kubernetes API, by the predicates of `k8s.io/apimachinery/pkg/api/errors`. -/
inductive ApiError where
  | notFound
  | alreadyExists
  | conflict
  | forbidden
  | invalid
  | other (message : String)
  deriving DecidableEq

/-- An `error` of the source. -/
inductive GoError where
  | api (error : ApiError)
  /-- A text made by `errors.New` or `fmt.Errorf`. -/
  | text (message : String)
  /-- An error of the HTTP client, of reading or decoding a body, or of a redis connection. -/
  | remote (message : String)
  deriving DecidableEq

def GoError.isNotFound (error : GoError) : Bool := error == .api .notFound

def GoError.isConflict (error : GoError) : Bool := error == .api .conflict

def GoError.isForbidden (error : GoError) : Bool := error == .api .forbidden

def GoError.isInvalid (error : GoError) : Bool := error == .api .invalid

/-- What a Kubernetes request returns. -/
abbrev ApiResult (α : Type) := Except ApiError α

/-! ## Requests to the kvrocks-controller -/

/-- The requests of `pkg/client/controller`, after the prefix made of the end point.  The first arguments are the
controller namespace and the cluster name of the path. -/
inductive Request where
  | createNamespace (ns : String)
  | createCluster (ns : String) (option : Controller.ClusterOption)
  | createShard (ns cluster : String) (option : Controller.ShardOption)
  | getShards (ns cluster : String)
  | deleteShard (ns cluster : String) (shardIndex : ℤ)
  | getNodes (ns cluster : String) (shardIndex : ℤ)
  | deleteNode (ns cluster : String) (shardIndex : ℤ) (nodeID : String)
  | addNode (ns cluster : String) (shardIndex : ℤ) (option : Controller.NodeOption)
  | failoverShard (ns cluster : String) (shardIndex : ℤ)
  | migrateSlotAndData (ns cluster : String) (option : MigrationOption)
  deriving DecidableEq

/-- What the client decodes from the body of an answer: the entry of the response map, when the map has one, or the
message of an error response. -/
abbrev Request.Body : Request → Type
  | .createNamespace _ => String
  | .getShards _ _ => Option (List ShardData)
  | .getNodes _ _ _ => Option ShardData
  | _ => Unit

/-- An HTTP answer. -/
structure Response (β : Type) where
  statusCode : ℕ
  body : Except GoError β

def statusOK : ℕ := 200

def statusCreated : ℕ := 201

/-! ## Commands to nodes and sentinels -/

/-- Commands of `pkg/client/kvrocks` to a kvrocks node.  A node may answer `ROLE` with nothing; `changePassword` is
the pipeline that sets `masterauth` and `requirepass`. -/
inductive NodeCommand where
  | ping
  | role
  | configGet (key : String)
  | configSet (key value : String)
  | changePassword (newPassword : String)
  deriving DecidableEq

abbrev NodeCommand.Reply : NodeCommand → Type
  | .role => Except GoError (Option Role)
  | .configGet _ => Except GoError (List String)
  | _ => Except GoError Unit

/-- Commands about the replication of a node: the master named by `INFO replication`, empty when there is none, and
`SLAVEOF`. -/
inductive ReplicationCommand where
  | masterHost
  | slaveOf (host port : String)
  deriving DecidableEq

abbrev ReplicationCommand.Reply : ReplicationCommand → Type
  | .masterHost => Except GoError String
  | .slaveOf _ _ => Except GoError Unit

/-- Commands to a sentinel. -/
inductive SentinelCommand where
  | master (name : String)
  | remove (name : String)
  | monitor (name ip port quorum : String)
  | set (name option value : String)
  | reset (name : String)
  deriving DecidableEq

abbrev SentinelCommand.Reply : SentinelCommand → Type
  | .master _ => Except GoError String
  | _ => Except GoError Unit

/-! ## Calls -/

/-- Objects that the operator creates and deletes but whose content it never reads back. -/
inductive Kind where
  | service
  | deployment
  | nativeStatefulSet
  deriving DecidableEq

/-- Points of the code that a run can observe. -/
inductive Phase where
  | ensureShrink (instance_ : KVRocks) (stsNodes : Matrix)
  deriving DecidableEq

inductive Call where
  | getKVRocks (key : NamespacedName)
  | updateKVRocks (instance_ : KVRocks)
  | listKVRocks (ns : String) (labels : StringMap)
  | createObject (kind : Kind) (key : NamespacedName)
  | deleteObject (kind : Kind) (key : NamespacedName)
  | getService (key : NamespacedName)
  | getWorkload (kind : Kind) (key : NamespacedName)
  | createConfigMap (configMap : ConfigMap)
  | getConfigMap (key : NamespacedName)
  | updateConfigMap (configMap : ConfigMap)
  | deleteConfigMap (key : NamespacedName)
  | createStatefulSet (sts : StatefulSet)
  | getStatefulSet (key : NamespacedName)
  | updateStatefulSet (sts : StatefulSet)
  | deleteStatefulSet (key : NamespacedName)
  | listStatefulSets (ns : String) (labels : StringMap)
  | listPods (ns : String) (labels : StringMap)
  | getPod (key : NamespacedName)
  | updatePod (pod : Pod)
  | deletePod (key : NamespacedName)
  | listPVC (ns : String) (labels : StringMap)
  | getPVC (key : NamespacedName)
  | deletePVC (key : NamespacedName)
  | http (endPoint : String) (request : Request)
  | node (ip password : String) (command : NodeCommand)
  | replication (ip password : String) (command : ReplicationCommand)
  | sentinel (ip password : String) (command : SentinelCommand)
  | lock
  | unlock
  | addMessage (ip port : String) (key : NamespacedName) (partition : ℤ)
  | resendMessage (message : EventMessage)
  | deleteKey (ip : String)
  | beforeTimeout (message : EventMessage)
  | enter (phase : Phase)
  | returned
  deriving DecidableEq

/-- The reply to a call.  A Kubernetes update returns the resource version it has given to the object, which the
client writes back into the object it was handed. -/
abbrev Call.Reply : Call → Type
  | .getKVRocks _ => ApiResult KVRocks
  | .updateKVRocks _ => ApiResult ℕ
  | .listKVRocks _ _ => ApiResult (List KVRocks)
  | .createObject _ _ | .deleteObject _ _ => ApiResult Unit
  | .getService _ => ApiResult String
  | .getWorkload _ _ => ApiResult Workload
  | .createConfigMap _ | .updateConfigMap _ | .deleteConfigMap _ => ApiResult Unit
  | .getConfigMap _ => ApiResult ConfigMap
  | .createStatefulSet _ | .updateStatefulSet _ | .deleteStatefulSet _ => ApiResult Unit
  | .getStatefulSet _ => ApiResult StatefulSet
  | .listStatefulSets _ _ => ApiResult (List StatefulSet)
  | .listPods _ _ => ApiResult (List Pod)
  | .getPod _ => ApiResult Pod
  | .updatePod _ | .deletePod _ => ApiResult Unit
  | .listPVC _ _ => ApiResult (List NamespacedName)
  | .getPVC _ => ApiResult Unit
  | .deletePVC _ => ApiResult Unit
  | .http _ request => Except GoError (Response request.Body)
  | .node _ _ command => command.Reply
  | .replication _ _ command => command.Reply
  | .sentinel _ _ command => command.Reply
  | .lock | .unlock | .addMessage _ _ _ _ | .resendMessage _ | .deleteKey _ => Unit
  | .beforeTimeout _ => Bool
  | .enter _ | .returned => Unit

/-- An answer that reports a failure, where the call can fail. -/
def Call.failure : (request : Call) → request.Reply
  | .getKVRocks _ | .updateKVRocks _ | .listKVRocks _ _ | .createObject _ _ | .deleteObject _ _
  | .getService _ | .getWorkload _ _ | .createConfigMap _ | .getConfigMap _ | .updateConfigMap _
  | .deleteConfigMap _ | .createStatefulSet _ | .getStatefulSet _ | .updateStatefulSet _
  | .deleteStatefulSet _ | .listStatefulSets _ _ | .listPods _ _ | .getPod _ | .updatePod _
  | .deletePod _ | .listPVC _ _ | .getPVC _ | .deletePVC _ => .error (.other "failure")
  | .http _ _ => .error (.remote "failure")
  | .node _ _ .ping | .node _ _ .role | .node _ _ (.configGet _) | .node _ _ (.configSet _ _)
  | .node _ _ (.changePassword _) => .error (.remote "failure")
  | .replication _ _ .masterHost | .replication _ _ (.slaveOf _ _) => .error (.remote "failure")
  | .sentinel _ _ (.master _) | .sentinel _ _ (.remove _) | .sentinel _ _ (.monitor _ _ _ _)
  | .sentinel _ _ (.set _ _ _) | .sentinel _ _ (.reset _) => .error (.remote "failure")
  | .lock | .unlock | .addMessage _ _ _ _ | .resendMessage _ | .deleteKey _ | .enter _
  | .returned => ()
  | .beforeTimeout _ => false

/-- The interface of the operator. -/
abbrev operator : Interface := { Call := Call, Reply := Call.Reply }

/-- Make one call. -/
abbrev ask (request : Call) : Program operator request.Reply := Program.perform (I := operator) request

end KvrocksOperator
