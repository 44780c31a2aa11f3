import KvrocksOperator.Client.Kvrocks

/-!
# The client of the kvrocks-controller

`pkg/client/controller`.  The client is made with a fixed controller namespace and a fixed cluster name; only its end
point is set later.  Several methods answer an unexpected status code with the `err` variable of the preceding call,
which is nil there: `createCluster`, `getShards` and `getNodes` then return without an error.
-/

namespace KvrocksOperator

open Interaction Text

namespace Controller

/-- The `Controller` inside a `Client`. -/
structure Client where
  endPoint : String
  ns : String
  clusterName : String
  deriving DecidableEq

/-- `NewClient` -/
def newClient : Client := { endPoint := "", ns := "cluster-demo", clusterName := "cluster-demo" }

variable (client : Client)

/-- Send a request below the end point of the client. -/
def send (request : Request) : Go (Response request.Body) := Go.remote (ask (.http client.endPoint request))

/-- The error of a method that wants another status code. -/
def unexpectedStatus (statusCode : ℕ) : GoError := .text ("unexpected response status code: " ++ itoa statusCode)

/-- A request that succeeds with one status code. -/
def sendExpecting (request : Request) (expected : ℕ) : Go Unit := do
  let resp ← send client request
  if resp.statusCode ≠ expected then Fallible.throw (unexpectedStatus resp.statusCode)
  else pure ()

/-- `SetEndPoint`: the client with the end point of the namespace's controller service. -/
def setEndPoint (ns : String) : Go Client := do
  let clusterIP ← Go.api (ask (.getService ⟨ns, Kvrocks.controllerServiceName⟩))
  pure { client with endPoint := "http://" ++ clusterIP ++ ":" ++ itoa Kvrocks.controllerPort ++ "/api/v1" }

/-- `CreateIfNotExistsNamespace` -/
def createIfNotExistsNamespace : Go Unit := do
  let resp ← send client (.createNamespace client.ns)
  if resp.statusCode ≠ statusCreated then
    match resp.body with
    | .error error => Fallible.throw error
    | .ok message =>
      if message ≠ "the entry already existed" then Fallible.throw (.text message) else pure ()
  else pure ()

/-- `CreateCluster` -/
def createCluster (replicas : ℤ) (nodes : List String) (password : String) : Go Unit := do
  let _ ← send client (.createCluster client.ns
    { name := client.clusterName, nodes := nodes, replicas := replicas, password := password })
  -- both branches of the status check return a nil error
  pure ()

/-- `CreateShard` -/
def createShard (nodes : List String) (password : String) : Go Unit :=
  sendExpecting client (.createShard client.ns client.clusterName
    { nodes := nodes, password := password }) statusCreated

/-- `GetShards`; a `nil` slice is the empty list. -/
def getShards : Go (List ShardData) := do
  let resp ← send client (.getShards client.ns client.clusterName)
  if resp.statusCode ≠ statusOK then pure []
  else
    match resp.body with
    | .error error => Fallible.throw error
    | .ok none => Fallible.throw (.text "unexpected response format")
    | .ok (some shards) => pure shards

/-- `DeleteShard` -/
def deleteShard (shardIndex : ℤ) : Go Unit :=
  sendExpecting client (.deleteShard client.ns client.clusterName shardIndex) statusOK

/-- `GetNodes`; a `nil` pointer is `none`. -/
def getNodes (shardIndex : ℤ) : Go (Option ShardData) := do
  let resp ← send client (.getNodes client.ns client.clusterName shardIndex)
  if resp.statusCode ≠ statusOK then pure none
  else
    match resp.body with
    | .error error => Fallible.throw error
    | .ok none => Fallible.throw (.text "unexpected response format")
    | .ok (some shard) => pure (some shard)

/-- `DeleteNode` -/
def deleteNode (shardIndex : ℤ) (nodeID : String) : Go Unit :=
  sendExpecting client (.deleteNode client.ns client.clusterName shardIndex nodeID) statusOK

/-- `AddNode` -/
def addNode (shardIndex : ℤ) (addr : String) (role : Role) (password : String) : Go Unit :=
  sendExpecting client (.addNode client.ns client.clusterName shardIndex
    { addr := addr, role := role, password := password }) statusCreated

/-- `FailoverShard` -/
def failoverShard (shardIndex : ℤ) : Go Unit :=
  sendExpecting client (.failoverShard client.ns client.clusterName shardIndex) statusOK

/-- `MigrateSlotAndData` -/
def migrateSlotAndData (source target slot : ℤ) : Go Unit :=
  sendExpecting client (.migrateSlotAndData client.ns client.clusterName
    { source := source, target := target, slot := slot }) statusOK

end Controller

end KvrocksOperator
