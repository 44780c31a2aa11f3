import KvrocksOperator.Client.Controller
import KvrocksOperator.Common.Command

/-!
# Failover messages

`pkg/controllers/events`: decoding what a sentinel publishes, and handling one message of the queue.
-/

namespace KvrocksOperator.Events

open Interaction Text Resources

/-! ## Listening -/

/-- `systemId` of `producer`: the second dash-separated field of the name of the sentinel instance, an index out of
range when there is none. -/
def systemId (sentinelName : String) : Option String := (split '-' sentinelName)[1]?

/-- What `listen` makes of one payload. -/
inductive Decoded where
  | skip
  | add (ip port : String) (key : NamespacedName) (partition : ℤ)
  deriving DecidableEq

/-- The body of the loop of `listen`; `none` is an index out of range. -/
def decode (systemId namespaceName payload : String) : Option Decoded := do
  let ns := (split '/' namespaceName).headD ""
  let fileds := split ' ' payload
  let masterMsg := split '-' (← fileds[1]?)
  match masterMsg with
  | name :: partition :: _ =>
    let ip ← fileds[2]?
    let port ← fileds[3]?
    -- the error of `Atoi` is ignored
    some (.add ip port ⟨ns, getClusterName systemId name⟩ (atoi partition).1)
  | _ => some .skip

/-- One message of the channel of `listen`. -/
def listenMessage (systemId namespaceName payload : String) : Go Unit := do
  match ← Fallible.ofOption (decode systemId namespaceName payload) with
  | .skip => pure ()
  | .add ip port key partition => do
    Fallible.lift (ask .lock)
    Fallible.lift (ask (.addMessage ip port key partition))
    Fallible.lift (ask .unlock)

/-! ## Handling a message -/

def errNoSuitableSlaver : String := "ErrNoSuitableSlaver"

def errNoMaster : String := "ErrNoMaster"

/-- The instance with a status that holds nothing but the failure. -/
def markFailed (reason : String) (instance_ : KVRocks) : KVRocks :=
  { instance_ with
    status := { status := .failed, reason := reason, version := 0, rebalance := false, topo := [],
                shrink := none } }

/-- Whether the record of the failed address, if there is one that is not failing over already, is the master's. -/
def isMasterFailover (ip : String) (topology : List KVRocksTopology) : Bool :=
  match topology.find? fun topo ↦ !topo.failover && topo.ip == ip with
  | some topo => topo.role == .master
  | none => false

/-- The inner loop over the controller's nodes for one record. -/
def failoverRecord (ip masterID : String) (nodes : List Controller.Node) (topo : KVRocksTopology) :
    KVRocksTopology :=
  nodes.foldl (fun current node ↦
    let current :=
      if topo.nodeId = node.id then
        { current with
          failover := false
          role := node.role
          masterId := if node.role = .slave then masterID else current.masterId }
      else current
    if topo.ip = ip then { current with failover := true } else current) topo

/-- The instance that `handleFailover` writes after a failover. -/
def updateTopology (msg : EventMessage) (masterID : String) (nodes : List Controller.Node)
    (instance_ : KVRocks) : KVRocks :=
  { instance_ with
    status :=
      { instance_.status with
        topo := instance_.status.topo.modify msg.partition.toNat fun partition ↦
          { partition with
            topology := partition.topology.map (failoverRecord msg.ip masterID nodes) }
        version := Kvrocks.wrapInt (instance_.status.version + 1) } }

/-- The id of the first master, or the empty text. -/
def newMasterID (nodes : List Controller.Node) : String :=
  match nodes.find? (·.role == .master) with
  | some node => node.id
  | none => ""

/-- Read the nodes of the shard that has failed over, and write the instance with their roles. -/
def storeFailover (client : Controller.Client) (msg : EventMessage) (instance_ : KVRocks) : Go Unit := do
  match ← Controller.getNodes client msg.partition with
  | none => Fallible.panic
  | some shardData => do
    let masterID := newMasterID shardData.nodes
    let _ ← K8s.updateKVRocks (if masterID = "" then markFailed errNoMaster instance_
        else updateTopology msg masterID shardData.nodes instance_)
    pure ()

/-- What follows a failover that the controller has answered with success. -/
def recordFailover (client : Controller.Client) (msg : EventMessage) (instance_ : KVRocks) : Go Unit := do
  let partition ← Fallible.ofOption (Go.index instance_.status.topo msg.partition)
  if isMasterFailover msg.ip partition.topology then do
    let _ ← Common.removeMonitor instance_ (parseRedisName msg.key.name).2 msg.partition
    storeFailover client msg instance_
  else storeFailover client msg instance_

/-- The body of `handleFailover`.  It returns an error exactly when the source returns with `err` set and `requeue`
true; when the instance cannot be read the source clears `requeue`. -/
def failoverBody (client : Controller.Client) (msg : EventMessage) : Go Unit := do
  match ← (K8s.getKVRocks msg.key).handle with
  | .error _ => pure ()
  | .ok instance_ =>
    if instance_.spec.type ≠ .cluster then pure ()
    else if instance_.deletionTimestamp ∨ instance_.status.status = .failed then pure ()
    else do
      let client ← Controller.setEndPoint client instance_.ns
      match ← (Controller.failoverShard client msg.partition).handle with
      | .error _ => do
        let _ ← K8s.updateKVRocks (markFailed errNoSuitableSlaver instance_)
        pure ()
      | .ok _ => recordFailover client msg instance_

/-- The deferred functions of `handleFailover`: the message goes back to the queue after an error within its time, and
is forgotten otherwise. -/
def settle (msg : EventMessage) : Outcome GoError Unit → Program operator (Outcome GoError Unit)
  | .err _ => do
    let inTime ← ask (.beforeTimeout msg)
    if inTime then ask (.resendMessage msg) else ask (.deleteKey msg.ip)
    ask .unlock
    pure (.ok ())
  | outcome => do
    ask (.deleteKey msg.ip)
    ask .unlock
    pure outcome

/-- `handleFailover`; `client` is the controller client of the event loop, whose end point is set anew for every
message. -/
def handleFailover (client : Controller.Client) (msg : EventMessage) : Go Unit :=
  ⟨do
    ask .lock
    let outcome ← (failoverBody client msg).program
    settle msg outcome⟩

end KvrocksOperator.Events
