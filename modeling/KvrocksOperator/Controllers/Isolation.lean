import KvrocksOperator.Controller.Store
import KvrocksOperator.Controllers.OwnedShards

/-!
# Cluster instances of one namespace

The client of the controller is made with a fixed controller namespace and a fixed cluster name, and takes its end
point from the controller service of the Kubernetes namespace; the objects of the controller and of etcd have fixed
names too.  Whatever a step for one cluster instance does to its shards or to these objects, it does to those of every
other instance of the namespace.
-/

namespace KvrocksOperator.Controllers.Isolation

open Interaction Resources

/-! ## The world of several instances -/

/-- The instances, the clusters of the controllers, and the objects that exist.  A service has a fixed cluster IP. -/
structure World where
  instances : Store KVRocks
  controllers : Controller.Store
  objects : List (Kind × NamespacedName)
  configMaps : List NamespacedName
  address : NamespacedName → String

instance : LawfulBEq (Kind × NamespacedName) := inferInstance

/-- The node of a shard becomes its master. -/
def promote (id : String) (shard : ShardData) : ShardData :=
  { shard with nodes := shard.nodes.map fun node ↦ { node with role := if node.id = id then .master else .slave } }

/-- How a controller answers.  A failover makes another node of the shard its master; the requests that are not
described change nothing but the shards of the cluster that they name. -/
def Controls (endPoint : String) : (request : Request) → Controller.Store →
    Except GoError (Response request.Body) → Controller.Store → Prop
  | .failoverShard ns cluster index, store, reply, store' =>
    Controller.OnExisting ((Go.index (store.shards ⟨endPoint, ns, cluster⟩) index).bind
        (·.nodes.find? (·.role ≠ .master))) statusOK reply
      (fun node ↦ store' = store.after endPoint (.failoverShard ns cluster index) ⟨endPoint, ns, cluster⟩
        ((store.shards ⟨endPoint, ns, cluster⟩).modify index.toNat (promote node.id)))
      (store' = store.asked endPoint (.failoverShard ns cluster index))
  | .createNamespace ns, store, _, store' => store' = store.asked endPoint (.createNamespace ns)
  | .createCluster ns option, store, _, store' =>
    ∃ shards, store' = store.after endPoint (.createCluster ns option) ⟨endPoint, ns, option.name⟩ shards
  | .migrateSlotAndData ns cluster option, store, _, store' =>
    ∃ shards, store' = store.after endPoint (.migrateSlotAndData ns cluster option) ⟨endPoint, ns, cluster⟩ shards
  | request, store, reply, store' => Controller.Serves endPoint request store reply store'

/-- The answer about an object that may be missing. -/
def FoundIf {α : Type} (present : Prop) (value : α → Prop) : ApiResult α → Prop
  | .ok object => present ∧ value object
  | .error error => error = .notFound ∧ ¬ present

/-- The answer that a call gets when nothing fails. -/
def Truthful : Program.Answers operator World
  | .getKVRocks key, before, reply, after =>
    Lifecycle.Serves (.getKVRocks key) before.instances reply before.instances ∧ after = before
  | .updateKVRocks object, before, reply, after => ∃ instances,
      Lifecycle.Serves (.updateKVRocks object) before.instances reply instances ∧
        after = { before with instances := instances }
  | .http endPoint request, before, reply, after => ∃ controllers,
      Controls endPoint request before.controllers reply controllers ∧
        after = { before with controllers := controllers }
  | .createObject kind key, before, reply, after =>
    if (kind, key) ∈ before.objects then reply = .error .alreadyExists ∧ after = before
    else reply = .ok () ∧ after = { before with objects := (kind, key) :: before.objects }
  | .getService key, before, reply, after =>
    FoundIf ((.service, key) ∈ before.objects) (· = before.address key) reply ∧ after = before
  | .getWorkload kind key, before, reply, after =>
    FoundIf ((kind, key) ∈ before.objects) (fun _ ↦ True) reply ∧ after = before
  | .deleteObject kind key, before, reply, after =>
    if (kind, key) ∈ before.objects then
      reply = .ok () ∧ after = { before with objects := before.objects.filter (· ≠ (kind, key)) }
    else reply = .error .notFound ∧ after = before
  | .createConfigMap configMap, before, reply, after =>
    if ⟨configMap.ns, configMap.name⟩ ∈ before.configMaps then reply = .error .alreadyExists ∧ after = before
    else reply = .ok () ∧ after = { before with configMaps := ⟨configMap.ns, configMap.name⟩ :: before.configMaps }
  | .getConfigMap key, before, reply, after => FoundIf (key ∈ before.configMaps) (fun _ ↦ True) reply ∧ after = before
  | .deleteConfigMap key, before, reply, after =>
    if key ∈ before.configMaps then
      reply = .ok () ∧ after = { before with configMaps := before.configMaps.filter (· ≠ key) }
    else reply = .error .notFound ∧ after = before
  | _, before, _, after => after = before

/-- Any call may also fail. -/
def Serves : Program.Answers operator World := fun request before reply after ↦
  Truthful request before reply after ∨ (reply = request.failure ∧ after = before)

/-! ## What an instance depends on -/

/-- The client that is made for an instance, with the end point of its namespace. -/
def World.clientOf (world : World) (key : NamespacedName) : Controller.Client :=
  { Controller.newClient with
    endPoint := "http://" ++ world.address ⟨key.ns, Kvrocks.controllerServiceName⟩ ++ ":" ++
      Text.itoa Kvrocks.controllerPort ++ "/api/v1" }

/-- The controller's shards of an instance. -/
def World.shardsOf (world : World) (key : NamespacedName) : List ShardData :=
  world.controllers.shards (world.clientOf key).clusterKey

/-- The objects that `ensureController` creates for an instance, besides a ConfigMap. -/
def dependencies (key : NamespacedName) : List (Kind × NamespacedName) :=
  [(.service, ⟨key.ns, Kvrocks.etcdServiceName⟩), (.nativeStatefulSet, ⟨key.ns, Kvrocks.etcdStatefulName⟩),
    (.service, ⟨key.ns, Kvrocks.controllerServiceName⟩), (.deployment, ⟨key.ns, Kvrocks.controllerDeploymentName⟩)]

/-- The shards of an instance and the objects that it depends on are as they were. -/
structure Kept (key : NamespacedName) (before after : World) : Prop where
  shards : after.shardsOf key = before.shardsOf key
  objects : ∀ object ∈ dependencies key, object ∈ after.objects ↔ object ∈ before.objects
  configMap : ⟨key.ns, "controller-config"⟩ ∈ after.configMaps ↔ ⟨key.ns, "controller-config"⟩ ∈ before.configMaps

/-! ## The runs -/

/-- Every thread works for an instance. -/
structure Thread where
  owner : NamespacedName
  number : ℕ
  deriving DecidableEq

/-- What is run for an instance. -/
inductive Starts (owner : NamespacedName) : Program operator Unit → Prop where
  | reconcile : Starts owner ((reconcile (handlerOf owner) owner).program.bind fun _ ↦ .done ())
  | handleFailover (endPoint : String) (msg : EventMessage) (hkey : msg.key = owner) :
      Starts owner ((Events.handleFailover { Controller.newClient with endPoint := endPoint } msg).program.bind
        fun _ ↦ .done ())

/-- Users delete instances, which marks them. -/
inductive Moves : World → World → Prop where
  | delete (world : World) {key : NamespacedName} {object : KVRocks}
      (hstored : world.instances.current key = some object)
      (number : ℕ) (hfresh : ∀ other ∈ world.instances.versions, other.resourceVersion ≠ number) :
      Moves world { world with
        instances := world.instances.put { object with deletionTimestamp := true } number hfresh }

/-- Passes and failover handlers of any instances, in any number of threads. -/
def system : System operator Thread World where
  answers _ := Serves
  starts thread _ := Starts thread.owner
  moves := Moves

/-- A cluster instance is stored under the name. -/
def ClusterAt (key : NamespacedName) (world : World) : Prop :=
  ∃ object, world.instances.current key = some object ∧ object.spec.type = .cluster

/-- In every run from a world, every step for the one instance leaves what the other depends on. -/
def LeavesFrom (world : World) (owner other : NamespacedName) : Prop :=
  ∀ config, system.Reaches (System.initial world) config → ∀ (thread : Thread), thread.owner = owner →
    ∀ (request : Call) (resume : request.Reply → Program operator Unit) (reply : request.Reply) (after : World),
      config.running thread = some (.call request resume) → Serves request config.world reply after →
        Kept other config.world after

/-- Neither of two cluster instances disturbs the other. -/
def Isolated (first second : NamespacedName) : Prop :=
  ∀ world, ClusterAt first world → ClusterAt second world →
    LeavesFrom world first second ∧ LeavesFrom world second first

/-! ## Instances of one namespace -/

theorem shardsOf_of_ns {first second : NamespacedName} (hns : first.ns = second.ns) (world : World) :
    world.shardsOf first = world.shardsOf second := by
  unfold World.shardsOf World.clientOf
  rw [hns]

/-- The world after a failover for an instance. -/
def World.failedOver (world : World) (key : NamespacedName) (index : ℕ) (id : String) : World :=
  let client := world.clientOf key
  let request : Request := .failoverShard client.ns client.clusterName index
  let shards := (world.shardsOf key).modify index (promote id)
  { world with controllers := world.controllers.after client.endPoint request client.clusterKey shards }

theorem shardsOf_failedOver (world : World) (key : NamespacedName) (index : ℕ) (id : String) :
    (world.failedOver key index id).shardsOf key = (world.shardsOf key).modify index (promote id) :=
  Function.update_self ..

/-- Another master makes another shard. -/
theorem promote_ne {shard : ShardData} {node : Controller.Node} (hnode : node ∈ shard.nodes)
    (hrole : node.role ≠ .master) : promote node.id shard ≠ shard := by
  intro hsame
  obtain ⟨position, hposition⟩ := List.mem_iff_getElem?.mp hnode
  have hpromoted : (promote node.id shard).nodes[position]? = some { node with role := .master } := by
    unfold promote
    rw [List.getElem?_map, hposition, Option.map_some, if_pos rfl]
  rw [hsame, hposition, Option.some.injEq] at hpromoted
  exact hrole (congrArg (·.role) hpromoted)

section Failover

variable {world : World} {owner other : NamespacedName} {object : KVRocks} {index : ℕ}
  {shard : ShardData} {node : Controller.Node}

/-- The handler of a failover message sends its request to the cluster of the namespace. -/
theorem handleFailover_asks (hstored : world.instances.current owner = some object)
    (hcluster : object.spec.type = .cluster)
    (hlive : object.deletionTimestamp = false ∧ object.status.status ≠ .failed)
    (hservice : (.service, ⟨owner.ns, Kvrocks.controllerServiceName⟩) ∈ world.objects) (endPoint : String)
    {msg : EventMessage} (hkey : msg.key = owner) :
    Program.Asks Serves (.http (world.clientOf owner).endPoint (.failoverShard (world.clientOf owner).ns
        (world.clientOf owner).clusterName msg.partition)) world
      ((Events.handleFailover { Controller.newClient with endPoint := endPoint } msg).program.bind fun _ ↦ .done ())
      world := by
  have hobject := world.instances.stored hstored
  have hread : Serves (.getKVRocks msg.key) world (.ok object) world := by
    refine .inl ⟨⟨rfl, fun found hfound ↦ ?_⟩, rfl⟩
    cases hfound
    exact ⟨hobject.1, hobject.2.trans hkey.symm⟩
  have hns : object.ns = owner.ns := congrArg (·.ns) hobject.2
  have haddress : Serves (.getService ⟨object.ns, Kvrocks.controllerServiceName⟩) world
      (.ok (world.address ⟨owner.ns, Kvrocks.controllerServiceName⟩)) world := by
    rw [hns]
    exact .inl ⟨⟨hservice, rfl⟩, rfl⟩
  have hlock : Serves .lock world () world := .inl rfl
  have hopen : ¬ (object.deletionTimestamp = true ∨ object.status.status = .failed) := by
    rw [hlive.1]
    simpa using hlive.2
  refine .later hlock (.later hread ?_)
  simp only [Program.done_bind, Fallible.ofReply, Fallible.caught, Fallible.resume]
  rw [if_neg (not_not.mpr hcluster), if_neg hopen]
  exact .later haddress (.here _)

/-- The controller carries out a failover if the shard has a node that is not its master. -/
theorem serves_failedOver {found : Controller.Node} (hshard : (world.shardsOf owner)[index]? = some shard)
    (hfind : shard.nodes.find? (·.role ≠ .master) = some found) :
    Serves (.http (world.clientOf owner).endPoint (.failoverShard (world.clientOf owner).ns
        (world.clientOf owner).clusterName index)) world (.ok ⟨statusOK, .ok ()⟩)
      (world.failedOver owner index found.id) := by
  refine .inl ⟨_, ?_, rfl⟩
  have hlookup : (Go.index (world.shardsOf owner) index).bind (·.nodes.find? (·.role ≠ .master)) = some found := by
    rw [Go.index_natCast, hshard]
    exact hfind
  change Controller.OnExisting ((Go.index (world.shardsOf owner) index).bind _) _ _ _ _
  rw [hlookup]
  exact ⟨⟨_, rfl, rfl⟩, rfl⟩

/-- A failover message for an instance changes the master of a shard of every instance of the namespace. -/
theorem not_leavesFrom_of_failover (hns : owner.ns = other.ns) (hstored : world.instances.current owner = some object)
    (hcluster : object.spec.type = .cluster)
    (hlive : object.deletionTimestamp = false ∧ object.status.status ≠ .failed)
    (hservice : (.service, ⟨owner.ns, Kvrocks.controllerServiceName⟩) ∈ world.objects)
    (hshard : (world.shardsOf other)[index]? = some shard) (hnode : node ∈ shard.nodes) (hrole : node.role ≠ .master) :
    ¬ LeavesFrom world owner other := by
  intro hleaves
  let msg : EventMessage := ⟨0, "", "", owner, index, 0⟩
  have hasks := handleFailover_asks hstored hcluster hlive hservice "" (rfl : msg.key = owner)
  obtain ⟨config, resume, hreach, rfl, hrunning⟩ := System.initial_reaches_of_asks system
    (Starts.handleFailover "" msg rfl : system.starts ⟨owner, 0⟩ world _) hasks
  have hsome : (shard.nodes.find? (·.role ≠ .master)).isSome :=
    List.find?_isSome.mpr ⟨node, hnode, decide_eq_true hrole⟩
  obtain ⟨found, hfind⟩ := Option.isSome_iff_exists.mp hsome
  have hother : found.role ≠ .master := by simpa using List.find?_some hfind
  rw [← shardsOf_of_ns hns] at hshard
  have hanswer := serves_failedOver hshard hfind
  have hkept := (hleaves config hreach ⟨owner, 0⟩ rfl _ resume _ _ hrunning hanswer).shards
  rw [← shardsOf_of_ns hns, ← shardsOf_of_ns hns, shardsOf_failedOver] at hkept
  have hpromoted : (config.world.shardsOf owner)[index]? = some (promote found.id shard) := by
    rw [← hkept, List.getElem?_modify_eq, hshard]
    rfl
  rw [hshard, Option.some.injEq] at hpromoted
  exact promote_ne (List.mem_of_find?_eq_some hfind) hother hpromoted.symm

end Failover

/-! ## Two instances -/

/-- A running cluster with three shards of two pods, which a sentinel monitors. -/
def instanceOf (key : NamespacedName) : KVRocks :=
  let created := KVRocks.created key
    { image := "kvrocks:2.0", type := .cluster, kvrocksConfig := [], replicas := 2, master := 3, password := "secret",
      resources := true }
  { created with
    labels := [(monitoredBy, "sentinel-1")]
    finalizers := [kvrocksFinalizer]
    status := { created.status with status := .running } }

/-- Two instances of a namespace. -/
def storeOf (ns first second : String) : Store KVRocks :=
  (Store.single (instanceOf ⟨ns, first⟩) 1).put (instanceOf ⟨ns, second⟩) 2 fun other hother ↦ by
      rw [Store.single_versions] at hother
      rw [List.mem_singleton.mp hother, Versioned.version_stamp]
      decide

/-- A shard of two nodes. -/
def pair (master slave : String) : ShardData := ⟨[⟨master, master, .master⟩, ⟨slave, slave, .slave⟩], []⟩

/-- The controller of the namespace knows the pods of the first instance. -/
def worldOf (ns first second : String) : World where
  instances := storeOf ns first second
  controllers :=
    { shards := fun _ ↦ [pair "10.0.0.1:6379" "10.0.0.2:6379", pair "10.0.1.1:6379" "10.0.1.2:6379",
        pair "10.0.2.1:6379" "10.0.2.2:6379"]
      requests := [] }
  objects := dependencies ⟨ns, first⟩
  configMaps := [⟨ns, "controller-config"⟩]
  address := fun _ ↦ "10.96.0.1"

theorem stored_storeOf {ns first second name : String} (h : name = first ∨ name = second) :
    ∃ object, (storeOf ns first second).current ⟨ns, name⟩ = some object ∧ object.spec.type = .cluster ∧
      object.deletionTimestamp = false ∧ object.status.status ≠ .failed := by
  unfold storeOf
  rw [Store.put_current, Store.single, Store.put_current]
  by_cases hsecond : name = second
  · rw [hsecond]
    exact ⟨_, if_pos rfl, rfl, rfl, nofun⟩
  · have hfirst : name = first := h.resolve_right hsecond
    have hother : (⟨ns, name⟩ : NamespacedName) ≠ ⟨ns, second⟩ := fun hsame ↦ hsecond (congrArg (·.name) hsame)
    rw [hfirst] at hother ⊢
    exact ⟨_, (if_neg hother).trans (if_pos rfl), rfl, rfl, nofun⟩

/-- No two names of a namespace are those of isolated instances. -/
theorem not_isolated_of_namespace (ns first second : String) : ¬ Isolated ⟨ns, first⟩ ⟨ns, second⟩ := by
  intro hisolated
  obtain ⟨object, hobject, hcluster, hlive⟩ := stored_storeOf (.inl rfl : first = first ∨ first = second)
  obtain ⟨other, hother, htype, -⟩ := stored_storeOf (.inr rfl : second = first ∨ second = second)
  have hleaves := (hisolated (worldOf ns first second) ⟨object, hobject, hcluster⟩ ⟨other, hother, htype⟩).1
  have hservice : (.service, ⟨ns, Kvrocks.controllerServiceName⟩) ∈ (worldOf ns first second).objects := by
    simp [worldOf, dependencies]
  have hshard : ((worldOf ns first second).shardsOf ⟨ns, second⟩)[0]? = some (pair "10.0.0.1:6379" "10.0.0.2:6379") :=
    rfl
  have hnode : ⟨"10.0.0.2:6379", "10.0.0.2:6379", .slave⟩ ∈ (pair "10.0.0.1:6379" "10.0.0.2:6379").nodes :=
    List.mem_cons_of_mem _ List.mem_cons_self
  have hns : (⟨ns, first⟩ : NamespacedName).ns = (⟨ns, second⟩ : NamespacedName).ns := rfl
  exact not_leavesFrom_of_failover hns hobject hcluster hlive hservice hshard hnode nofun hleaves

/-! ## A pass and a deletion -/

/-- The answers of the controllers. -/
def control (endPoint : String) : (request : Request) → Controller.Store →
    Option (Except GoError (Response request.Body) × Controller.Store)
  | .createNamespace ns, store => some (.ok ⟨statusCreated, .ok ""⟩, store.asked endPoint (.createNamespace ns))
  | .getShards ns cluster, store =>
    some (.ok ⟨statusOK, .ok (some (store.shards ⟨endPoint, ns, cluster⟩))⟩,
      store.asked endPoint (.getShards ns cluster))
  | .getNodes ns cluster index, store =>
    (Go.index (store.shards ⟨endPoint, ns, cluster⟩) index).map fun shard ↦
      (.ok ⟨statusOK, .ok (some shard)⟩, store.asked endPoint (.getNodes ns cluster index))
  | .deleteNode ns cluster index id, store =>
    ((Go.index (store.shards ⟨endPoint, ns, cluster⟩) index).bind (·.nodes.find? (·.id == id))).map fun _ ↦
      (.ok ⟨statusOK, .ok ()⟩, store.after endPoint (.deleteNode ns cluster index id) ⟨endPoint, ns, cluster⟩
        ((store.shards ⟨endPoint, ns, cluster⟩).modify index.toNat fun shard ↦
          { shard with nodes := shard.nodes.eraseP (·.id == id) }))
  | .addNode ns cluster index option, store =>
    (Go.index (store.shards ⟨endPoint, ns, cluster⟩) index).bind fun shard ↦
      if option.addr ∈ shard.nodes.map (·.id) then none
      else some (.ok ⟨statusCreated, .ok ()⟩,
        store.after endPoint (.addNode ns cluster index option) ⟨endPoint, ns, cluster⟩
          ((store.shards ⟨endPoint, ns, cluster⟩).modify index.toNat fun shard ↦
            { shard with nodes := shard.nodes ++ [⟨option.addr, option.addr, option.role⟩] }))
  | _, _ => none

/-- The pods of the sentinel, and those of the second instance. -/
def podsOf (labels : StringMap) : List Pod :=
  match labels.lookup "sts" with
  | none => [{ ns := "default", name := "sentinel-1-0", ip := "10.0.0.9", labels := [], deletionTimestamp := false }]
  | some sts =>
    [{ ns := "default", name := sts ++ "-0", ip := sts ++ "-0", labels := [], deletionTimestamp := false },
      { ns := "default", name := sts ++ "-1", ip := sts ++ "-1", labels := [], deletionTimestamp := false }]

/-- The answers to calls that change nothing. -/
def answer : (request : Call) → request.Reply
  | .getStatefulSet key => .ok { Cluster.Claims.demoSet key with replicas := 2, readyReplicas := 2 }
  | .listStatefulSets ns _ =>
    .ok ((List.range 3).map fun index ↦ Cluster.Claims.demoSet ⟨ns, getStatefulSetName "kvrocks-cluster-1-b" index⟩)
  | .listPods _ labels => .ok (podsOf labels)
  | .getPod key => .ok ⟨key.ns, key.name, "", [], false⟩
  | .listPVC _ _ => .ok []
  | .sentinel _ _ (.master _) => .ok "10.0.0.1"
  | .sentinel _ _ (.remove _) => .ok ()
  | request => Cluster.Claims.answer 1 request

/-- A server for both. -/
def serve : (request : Call) → World → Option (request.Reply × World)
  | .getKVRocks key, world => some ((world.instances.current key).elim (.error .notFound) .ok, world)
  | .updateKVRocks object, world =>
    some ((Lifecycle.accept object world.instances).1,
      { world with instances := (Lifecycle.accept object world.instances).2 })
  | .http endPoint request, world =>
    (control endPoint request world.controllers).map fun (reply, controllers) ↦
      (reply, { world with controllers := controllers })
  | .createObject kind key, world =>
    if (kind, key) ∈ world.objects then some (.error .alreadyExists, world)
    else some (.ok (), { world with objects := (kind, key) :: world.objects })
  | .getService key, world =>
    if (.service, key) ∈ world.objects then some (.ok (world.address key), world) else some (.error .notFound, world)
  | .getWorkload kind key, world =>
    if (kind, key) ∈ world.objects then some (.ok { replicas := 1, readyReplicas := 1, matchLabels := [] }, world)
    else some (.error .notFound, world)
  | .deleteObject kind key, world =>
    if (kind, key) ∈ world.objects then
      some (.ok (), { world with objects := world.objects.filter (· ≠ (kind, key)) })
    else some (.error .notFound, world)
  | .createConfigMap configMap, world =>
    if ⟨configMap.ns, configMap.name⟩ ∈ world.configMaps then some (.error .alreadyExists, world)
    else some (.ok (), { world with configMaps := ⟨configMap.ns, configMap.name⟩ :: world.configMaps })
  | .getConfigMap key, world =>
    if key ∈ world.configMaps then
      some (.ok { ns := key.ns, name := key.name, data := [("password", "secret")] }, world)
    else some (.error .notFound, world)
  | .deleteConfigMap key, world =>
    if key ∈ world.configMaps then some (.ok (), { world with configMaps := world.configMaps.filter (· ≠ key) })
    else some (.error .notFound, world)
  | request, world => some (answer request, world)

theorem control_controls {endPoint : String} {request : Request} {store : Controller.Store}
    {answer : Except GoError (Response request.Body) × Controller.Store}
    (h : control endPoint request store = some answer) : Controls endPoint request store answer.1 answer.2 := by
  cases request with
  | createNamespace ns =>
    cases h
    rfl
  | getShards ns cluster =>
    cases h
    exact ⟨rfl, rfl⟩
  | getNodes ns cluster index =>
    obtain ⟨shard, hshard, rfl⟩ := Option.map_eq_some_iff.mp h
    refine ⟨rfl, ?_⟩
    rw [hshard]
  | deleteNode ns cluster index id =>
    obtain ⟨node, hnode, rfl⟩ := Option.map_eq_some_iff.mp h
    change Controller.OnExisting _ _ _ _ _
    rw [hnode]
    exact ⟨⟨_, rfl, rfl⟩, rfl⟩
  | addNode ns cluster index option =>
    obtain ⟨shard, hshard, hsome⟩ := Option.bind_eq_some_iff.mp h
    obtain ⟨hfresh, hanswer⟩ := Option.ite_none_left_eq_some.mp hsome
    cases hanswer
    change Controller.OnExisting _ _ _ _ _
    rw [hshard]
    exact ⟨⟨_, rfl, rfl⟩, option.addr, hfresh, rfl⟩
  | _ => cases h

theorem serve_serves (request : Call) (world : World) (answer : request.Reply × World)
    (h : serve request world = some answer) : Serves request world answer.1 answer.2 := by
  left
  cases request
  case getKVRocks key =>
    cases h
    exact ⟨Lifecycle.serves_current key world.instances, rfl⟩
  case updateKVRocks object =>
    cases h
    exact ⟨_, Lifecycle.serves_accept object world.instances, rfl⟩
  case http endPoint request =>
    obtain ⟨replied, hreplied, rfl⟩ := Option.map_eq_some_iff.mp h
    exact ⟨_, control_controls hreplied, rfl⟩
  -- what is there is found or deleted, what is missing can be created
  case createObject | getService | getWorkload | deleteObject | createConfigMap | getConfigMap | deleteConfigMap =>
    simp only [serve] at h
    split at h
    · rename_i hpresent
      cases h
      simp [Truthful, FoundIf, hpresent]
    · rename_i hmissing
      cases h
      simp [Truthful, FoundIf, hmissing]
  all_goals
    cases h
    rfl

/-- Two instances and their sentinel. -/
def demoWorld : World :=
  { worldOf "default" "kvrocks-cluster-1-a" "kvrocks-cluster-1-b" with
    instances := (storeOf "default" "kvrocks-cluster-1-a" "kvrocks-cluster-1-b").put OwnedShards.sentinel 3
      (by decide +revert)
    objects := (.deployment, ⟨"default", "sentinel-1"⟩) :: dependencies ⟨"default", "kvrocks-cluster-1-a"⟩ }

/-- The user has deleted the first instance. -/
def deletedWorld : World :=
  { demoWorld with
    instances := demoWorld.instances.put
      { instanceOf ⟨"default", "kvrocks-cluster-1-a"⟩ with resourceVersion := 1, deletionTimestamp := true } 4
      (by decide +revert) }

/-- A pass of `Reconcile`. -/
def pass (key : NamespacedName) : Program operator (Outcome GoError Controllers.Result) :=
  (reconcile (handlerOf key) key).program

theorem exec_of_tryRun {key : NamespacedName} {world final : World}
    (h : ((pass key).tryRun serve world).map (·.2) = some final) :
    ∃ outcome, Exec Serves (pass key) world outcome final := by
  obtain ⟨result, hresult, rfl⟩ := Option.map_eq_some_iff.mp h
  exact ⟨result.1, exec_tryRun serve_serves hresult⟩

/-- A pass over the second instance replaces all nodes of the first one by its own, and the deletion of the first one
deletes all that the second depends on. -/
theorem pass_and_deletion_disturb :
    (∃ outcome final, Exec Serves (pass ⟨"default", "kvrocks-cluster-1-b"⟩) demoWorld outcome final ∧
      (final.shardsOf ⟨"default", "kvrocks-cluster-1-a"⟩).map (·.nodes.map (·.addr)) =
        [["kvrocks-cluster-1-b-0-0:6379", "kvrocks-cluster-1-b-0-1:6379"],
          ["kvrocks-cluster-1-b-1-0:6379", "kvrocks-cluster-1-b-1-1:6379"],
          ["kvrocks-cluster-1-b-2-0:6379", "kvrocks-cluster-1-b-2-1:6379"]]) ∧
    Moves demoWorld deletedWorld ∧
    ∃ outcome final, Exec Serves (pass ⟨"default", "kvrocks-cluster-1-a"⟩) deletedWorld outcome final ∧
      ∀ object ∈ dependencies ⟨"default", "kvrocks-cluster-1-b"⟩, object ∉ final.objects := by
  have hpass : (((pass ⟨"default", "kvrocks-cluster-1-b"⟩).tryRun serve demoWorld).map (·.2)).map (fun final ↦
      (final.shardsOf ⟨"default", "kvrocks-cluster-1-a"⟩).map (·.nodes.map (·.addr))) =
        some [["kvrocks-cluster-1-b-0-0:6379", "kvrocks-cluster-1-b-0-1:6379"],
          ["kvrocks-cluster-1-b-1-0:6379", "kvrocks-cluster-1-b-1-1:6379"],
          ["kvrocks-cluster-1-b-2-0:6379", "kvrocks-cluster-1-b-2-1:6379"]] := by decide +kernel
  have hdeletion : (((pass ⟨"default", "kvrocks-cluster-1-a"⟩).tryRun serve deletedWorld).map (·.2)).map (·.objects) =
      some [(.deployment, ⟨"default", "sentinel-1"⟩)] := by decide +kernel
  obtain ⟨final, hfinal, hshards⟩ := Option.map_eq_some_iff.mp hpass
  obtain ⟨last, hlast, hobjects⟩ := Option.map_eq_some_iff.mp hdeletion
  obtain ⟨outcome, hexec⟩ := exec_of_tryRun hfinal
  obtain ⟨result, hremoved⟩ := exec_of_tryRun hlast
  have hstored : demoWorld.instances.current ⟨"default", "kvrocks-cluster-1-a"⟩ =
      some { instanceOf ⟨"default", "kvrocks-cluster-1-a"⟩ with resourceVersion := 1 } := by decide
  refine ⟨⟨outcome, final, hexec, hshards⟩, .delete demoWorld hstored 4 _, result, last, hremoved, ?_⟩
  rw [hobjects]
  decide

end KvrocksOperator.Controllers.Isolation
