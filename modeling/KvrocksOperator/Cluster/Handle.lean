import KvrocksOperator.Cluster.Kvrocks

/-!
# A pass over a cluster instance

Slot migration (`rebalance.go`) and the sequence of phases of `Handle` (`handler.go`).
-/

namespace KvrocksOperator.Cluster

open Interaction Resources

/-! ## Slot migration -/

/-- Move one slot; `retries` further attempts are left. -/
def moveSlot (client : Controller.Client) (src dest slot : ℤ) : ℕ → Go Unit
  | 0 => do
    match ← (Controller.migrateSlotAndData client src dest slot).handle with
    | .ok _ => pure ()
    | .error _ => Fallible.throw (.text "slot migrate timeout")
  | retries + 1 => do
    match ← (Controller.migrateSlotAndData client src dest slot).handle with
    | .ok _ => pure ()
    | .error _ => moveSlot client src dest slot retries

/-- How often a slot is tried again. -/
def slotRetries : ℕ := 5

/-- Change the node at a position of the matrix. -/
def modifyNode (shard index : ℕ) (change : Node → Node) (stsNodes : Matrix) : Matrix :=
  stsNodes.modify shard fun nodes ↦ nodes.modify index change

/-- `node.Slots = node.Slots[len(migrate.Slots):]` and `node.Migrate = node.Migrate[1:]`. -/
def withoutEntry (moved : ℕ) (node : Node) : Node :=
  { node with slots := node.slots.drop moved, migrate := node.migrate.tail }

/-- Take the finished entry off a node; the bound of the slice is checked by the run time. -/
def dropEntry (shard index moved : ℕ) : HandlerM Unit := do
  let h ← Method.get
  let node ← Method.lift (Fallible.ofOption (h.stsNodes[shard]?.bind (·[index]?)))
  if node.slots.length < moved then Method.lift Fallible.panic
  else Method.modify fun h ↦ { h with stsNodes := modifyNode shard index (withoutEntry moved) h.stsNodes }

/-- One turn of the loop of `ensureReBalanceTopo` for the node at a position of the matrix.  The entry of the turn is
the first one that the node has left: the loop ranges over the slice of the start, and both share the slots that
`SlotsToString` sorts. -/
def reBalanceEntry (src : ℤ) (shard index : ℕ) : HandlerM Unit := do
  let h ← Method.get
  let migrate ← Method.lift (Fallible.ofOption ((h.stsNodes[shard]?.bind (·[index]?)).bind (·.migrate.head?)))
  Method.lift (forEach (fun slot ↦ moveSlot h.controllerClient src migrate.shard slot slotRetries) migrate.slots)
  dropEntry shard index migrate.slots.length
  ensureStatusTopoMsg

/-- `ensureReBalanceTopo` -/
def ensureReBalanceTopo (src : ℤ) (shard index : ℕ) (entries : List Kvrocks.MigrateMsg) : HandlerM Unit :=
  forEach (fun _ ↦ reBalanceEntry src shard index) entries

/-- The masters of the matrix in order, each with its position. -/
def masters (stsNodes : Matrix) : List (Node × ℕ × ℕ) :=
  stsNodes.zipIdx.flatMap fun (nodes, shard) ↦ nodes.zipIdx.filterMap fun (node, index) ↦
      if node.role = .master then some (node, shard, index) else none

/-- `ensureMigrate`: only the first master with migrations is handled. -/
def ensureMigrate : HandlerM Unit := do
  let h ← Method.get
  match (masters h.stsNodes).zipIdx.find? fun ((node, _, _), _) ↦ node.migrate ≠ [] with
  | some ((node, shard, index), src) => do
    setRequeue
    ensureReBalanceTopo src shard index node.migrate
  | none => ensureStatusTopoMsg

/-! ## The pass -/

/-- Go on to the next phase unless the phase asks for a requeue. -/
def thenUnlessRequeue (phase : HandlerM Unit) (next : HandlerM Bool) : HandlerM Bool :=
  phase.thenUnless Handler.requeue next

/-- The first phases of `Handle`: an announced shrink is carried out before anything else. -/
def cleanStatefulSetIfShrinking : HandlerM Unit := do
  let h ← Method.get
  match h.instance_.status.shrink with
  | some shrink => cleanStatefulSet shrink
  | none => pure ()

/-- `Handle`: whether the pass is finished. -/
def handle : HandlerM Bool :=
  thenUnlessRequeue ensureController <|
  thenUnlessRequeue cleanStatefulSetIfShrinking <|
  thenUnlessRequeue ensureKubernetes <|
  thenUnlessRequeue ensureFailover <|
  thenUnlessRequeue ensureKVRocksStatus <|
  thenUnlessRequeue ensureMigrate <|
  thenUnlessRequeue ensureShrink <|
  thenUnlessRequeue ensureSentinel <|
  thenUnlessRequeue cleanPersistentVolumeClaim <|
  pure true

/-- `Finializer` -/
def finializer : HandlerM Unit := do
  let h ← Method.get
  match h.instance_.labels.lookup monitoredBy with
  | none => pure ()
  | some _ => do
    forEach removeShardMonitor (List.range h.instance_.spec.master)
    Method.modify fun h ↦ { h with requeue := false }
    Method.lift (removeController h.instance_.ns)

end KvrocksOperator.Cluster
