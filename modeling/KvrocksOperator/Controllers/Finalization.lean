import KvrocksOperator.Controllers.Accounted

/-!
# Deleting a monitored cluster again and again

Faulty passes of `Reconcile` over a cluster that is being deleted, then one in which every call is answered
truthfully.  `removeController` reads each of its five objects before it deletes it and returns the error when the
object is gone, so that a pass which has deleted the first of them cannot be repeated.
-/

namespace KvrocksOperator.Controllers.Finalization

open Interaction Resources

/-! ## The world of a deletion -/

/-- What a deletion reads and changes: the custom resources, the services and workloads that exist, the ConfigMaps,
and which sentinel monitors which master.  The pods of a workload do not change. -/
structure World where
  stored : NamespacedName → Option KVRocks
  objects : List (Kind × NamespacedName)
  configMaps : List ConfigMap
  monitors : List (String × String)
  workload : Kind → NamespacedName → Workload
  pods : String → StringMap → List Pod

/-- The answer to the request for an object that may be missing. -/
def found {α : Type} : Option α → ApiResult α
  | some object => .ok object
  | none => .error .notFound

/-- Store an object under a new resource version.  An object that is being deleted is gone when its last finalizer is.
-/
def World.store (object : KVRocks) (world : World) : World :=
  { world with
    stored := fun key ↦
      if key = object.key then
        if object.deletionTimestamp = true ∧ object.finalizers = [] then none
        else some { object with resourceVersion := object.resourceVersion + 1 }
      else world.stored key }

def World.deleteObject (kind : Kind) (key : NamespacedName) (world : World) : World :=
  { world with objects := world.objects.filter (· ≠ (kind, key)) }

def World.deleteConfigMap (key : NamespacedName) (world : World) : World :=
  { world with configMaps := world.configMaps.filter fun map ↦ (⟨map.ns, map.name⟩ : NamespacedName) ≠ key }

def World.removeMonitor (ip name : String) (world : World) : World :=
  { world with monitors := world.monitors.filter (· ≠ (ip, name)) }

def World.configMap (key : NamespacedName) (world : World) : Option ConfigMap :=
  world.configMaps.find? fun map ↦ (⟨map.ns, map.name⟩ : NamespacedName) = key

/-- The truthful answer to a call.  Calls that no deletion makes are refused. -/
def serve : (request : Call) → World → request.Reply × World
  | .getKVRocks key, world => (found (world.stored key), world)
  | .updateKVRocks object, world =>
    match world.stored object.key with
    | none => (.error .notFound, world)
    | some current =>
      if current.resourceVersion = object.resourceVersion then
        (.ok (object.resourceVersion + 1), world.store object)
      else (.error .conflict, world)
  | .deleteObject kind key, world =>
    if (kind, key) ∈ world.objects then (.ok (), world.deleteObject kind key)
    else (.error .notFound, world)
  | .getService key, world =>
    if (.service, key) ∈ world.objects then (.ok "", world) else (.error .notFound, world)
  | .getWorkload kind key, world =>
    if (kind, key) ∈ world.objects then (.ok (world.workload kind key), world)
    else (.error .notFound, world)
  | .getConfigMap key, world => (found (world.configMap key), world)
  | .deleteConfigMap key, world =>
    if (world.configMap key).isSome then (.ok (), world.deleteConfigMap key)
    else (.error .notFound, world)
  | .listPods ns labels, world => (.ok (world.pods ns labels), world)
  | .sentinel ip _ (.master name), world =>
    if (ip, name) ∈ world.monitors then (.ok "", world)
    else (.error (.remote "ERR No such master with that name"), world)
  | .sentinel ip _ (.remove name), world =>
    if (ip, name) ∈ world.monitors then (.ok (), world.removeMonitor ip name)
    else (.error (.remote "ERR No such master with that name"), world)
  | request, world => (request.failure, world)

/-- Any call may fail instead, and it may have been carried out all the same. -/
def faulty : Program.Answers operator World :=
  fun request world reply world' ↦ (reply = (serve request world).1 ∧ world' = (serve request world).2) ∨
      (failure ⟨request, reply⟩ ≠ none ∧ (world' = world ∨ world' = (serve request world).2))

/-- Any number of passes, each with any failures at any calls. -/
def FaultyPasses (key : NamespacedName) : World → World → Prop :=
  Relation.ReflTransGen fun world world' ↦
    ∃ outcome, Exec faulty (reconcile (handlerOf key) key).program world outcome world'

/-- A pass in which every call is answered truthfully. -/
def laterPass (key : NamespacedName) (world : World) : World :=
  ((reconcile (handlerOf key) key).program.run serve world).2

/-! ## What a deletion needs -/

/-- The object is gone or does not carry the finalizer. -/
def Finalized (key : NamespacedName) (world : World) : Prop :=
  ∀ current, world.stored key = some current → kvrocksFinalizer ∉ current.finalizers

/-- The sentinel can be read, and its Deployment too if it is running. -/
def SentinelReadable (key : NamespacedName) (world : World) : Prop :=
  ∃ sentinel, world.stored key = some sentinel ∧
    (sentinel.status.status = .running → (.deployment, key) ∈ world.objects)

/-- The Deployment of the controller, which `removeController` deletes first. -/
def controllerDeployment (ns : String) : Kind × NamespacedName := (.deployment, ⟨ns, Kvrocks.controllerDeploymentName⟩)

/-- The five objects of the controller and of etcd. -/
structure ControllerPresent (ns : String) (world : World) : Prop where
  deployment : controllerDeployment ns ∈ world.objects
  service : (.service, ⟨ns, Kvrocks.controllerServiceName⟩) ∈ world.objects
  configMap : (world.configMap ⟨ns, "controller-config"⟩).isSome
  etcd : (.nativeStatefulSet, ⟨ns, Kvrocks.etcdStatefulName⟩) ∈ world.objects
  etcdService : (.service, ⟨ns, Kvrocks.etcdServiceName⟩) ∈ world.objects

/-- The sentinel that monitors an instance. -/
def sentinelKey (instance_ : KVRocks) : NamespacedName := ⟨instance_.ns, (instance_.labels.lookup monitoredBy).getD ""⟩

/-- What `Finializer` needs to return without an error. -/
def Ready (instance_ : KVRocks) (world : World) : Prop :=
  (instance_.spec.master = 0 ∨ SentinelReadable (sentinelKey instance_) world) ∧ ControllerPresent instance_.ns world

/-- The finalizer is gone, or everything that `Finializer` looks for is there. -/
def Removable (key : NamespacedName) (world : World) : Prop :=
  ∀ current, world.stored key = some current → kvrocksFinalizer ∈ current.finalizers → Ready current world

/-! ## The faithful pass -/

variable {world world' : World}

section Faithful

/-- Where nothing but the monitors has changed. -/
def OnlyMonitors (world world' : World) : Prop := ∃ monitors, world' = { world with monitors := monitors }

theorem OnlyMonitors.refl (world : World) : OnlyMonitors world world := ⟨world.monitors, rfl⟩

theorem OnlyMonitors.trans {first second third : World} (h : OnlyMonitors first second)
    (h' : OnlyMonitors second third) : OnlyMonitors first third := by
  obtain ⟨monitors, rfl⟩ := h
  obtain ⟨monitors', rfl⟩ := h'
  exact ⟨monitors', rfl⟩

theorem OnlyMonitors.stored (h : OnlyMonitors world world') : world'.stored = world.stored := by
  obtain ⟨monitors, rfl⟩ := h
  rfl

/-- Monitors do not matter to the sentinel object. -/
theorem OnlyMonitors.sentinelReadable_iff (h : OnlyMonitors world world') (key : NamespacedName) :
    SentinelReadable key world' ↔ SentinelReadable key world := by
  obtain ⟨monitors, rfl⟩ := h
  rfl

theorem OnlyMonitors.controllerPresent_iff (h : OnlyMonitors world world') (ns : String) :
    ControllerPresent ns world' ↔ ControllerPresent ns world := by
  obtain ⟨monitors, rfl⟩ := h
  exact ⟨fun ⟨h₁, h₂, h₃, h₄, h₅⟩ ↦ ⟨h₁, h₂, h₃, h₄, h₅⟩, fun ⟨h₁, h₂, h₃, h₄, h₅⟩ ↦ ⟨h₁, h₂, h₃, h₄, h₅⟩⟩

variable {world : World} {fail : World → Prop}

/-- Sentinels are asked only about monitors they have, so that no command to them fails. -/
theorem removeMonitorFrom_faithful (password name : String) (pod : Pod) :
    (Common.removeMonitorFrom password name pod).Yields (.deterministic serve) (fun _ ↦ False)
      (fun _ ↦ OnlyMonitors world) world := by
  have hmaster : (Kvrocks.getMasterFromSentinel pod.ip password name).handle.Yields
      (.deterministic serve) (fun _ ↦ False)
      (fun reply final ↦ final = world ∧ ∀ ip, reply = .ok ip → (pod.ip, name) ∈ world.monitors) world := by
    apply ends_handle
    by_cases hmonitored : (pod.ip, name) ∈ world.monitors
    · exact ends_attempt_run (if_pos hmonitored) ⟨rfl, fun _ _ ↦ hmonitored⟩
    · exact ends_attempt_run (if_neg hmonitored) fun _ ↦ ⟨rfl, fun _ hok ↦ by cases hok⟩
  apply hmaster.bind
  rintro reply final ⟨rfl, hreply⟩
  cases reply with
  | error error => exact ends_pure (.refl final)
  | ok ip => exact ends_attempt_run (if_pos (hreply ip rfl)) ⟨_, rfl⟩

/-- A read tells what is stored. -/
theorem getKVRocks_faithful (key : NamespacedName) :
    (K8s.getKVRocks key).handle.Yields (.deterministic serve) (fun _ ↦ False)
      (fun reply final ↦ reply.toOption = world.stored key ∧ final = world) world := by
  apply ends_handle
  cases hstored : world.stored key with
  | none =>
    have hrun : (ask (.getKVRocks key)).run serve world = (.error .notFound, world) :=
      congrArg (fun object ↦ (found object, world)) hstored
    exact ends_attempt_run hrun fun _ ↦ ⟨rfl, rfl⟩
  | some object =>
    have hrun : (ask (.getKVRocks key)).run serve world = (.ok object, world) :=
      congrArg (fun object ↦ (found object, world)) hstored
    exact ends_attempt_run hrun ⟨rfl, rfl⟩

theorem getWorkload_faithful (kind : Kind) (key : NamespacedName) :
    (K8s.getWorkload kind key).Ends (.deterministic serve)
      (fun final ↦ (kind, key) ∉ world.objects ∧ final = world) (fun _ ↦ False)
      (fun _ final ↦ (kind, key) ∈ world.objects ∧ final = world) world := by
  by_cases hpresent : (kind, key) ∈ world.objects
  · exact ends_attempt_run (if_pos hpresent) ⟨hpresent, rfl⟩
  · exact ends_attempt_run (if_neg hpresent) ⟨hpresent, rfl⟩

theorem listDeploymentPods_faithful (key : NamespacedName) :
    (K8s.listDeploymentPods key).handle.Yields (.deterministic serve) (fun _ ↦ False)
      (fun reply final ↦ (reply.toOption.isSome ↔ (.deployment, key) ∈ world.objects) ∧ final = world)
      world := by
  apply ends_handle
  have hread : (K8s.getWorkload .deployment key).Ends (.deterministic serve)
      (fun final ↦ ∀ error : GoError, ((Except.error error : Except GoError (List Pod)).toOption.isSome ↔
        (.deployment, key) ∈ world.objects) ∧ final = world) (fun _ ↦ False)
      (fun _ final ↦ (.deployment, key) ∈ world.objects ∧ final = world) world :=
    (getWorkload_faithful .deployment key).mono
      (fun final hmissing _ ↦ ⟨by simp [Except.toOption, hmissing.1], hmissing.2⟩) (fun _ h ↦ h)
      fun _ _ hpresent ↦ hpresent
  apply hread.bind
  rintro workload final ⟨hpresent, rfl⟩
  exact ends_attempt_run rfl ⟨by simp [Except.toOption, hpresent], rfl⟩

/-- `GetSentinel` reports an error exactly if the sentinel cannot be read. -/
theorem getSentinel_faithful (key : NamespacedName) :
    (Common.getSentinel key).Yields (.deterministic serve) (fun _ ↦ False) (fun reply final ↦ final = world ∧
        ((∃ requeue error, reply = .error (requeue, some error)) ↔ ¬ SentinelReadable key world))
      world := by
  apply (getKVRocks_faithful key).bind
  rintro reply final ⟨hstored, rfl⟩
  cases reply with
  | error error =>
    apply ends_pure
    refine ⟨rfl, iff_of_true ⟨true, error, rfl⟩ ?_⟩
    rintro ⟨sentinel, hsentinel, _⟩
    rw [hsentinel] at hstored
    cases hstored
  | ok sentinel =>
    have hstored : final.stored key = some sentinel := hstored.symm
    by_cases hrunning : sentinel.status.status ≠ .running
    · simp only [hrunning, ne_eq, not_false_eq_true, if_true]
      apply ends_pure
      refine ⟨rfl, iff_of_false (by simp) (not_not.mpr ⟨sentinel, hstored, ?_⟩)⟩
      intro h
      exact absurd h hrunning
    · simp only [hrunning, if_false]
      apply (listDeploymentPods_faithful key).bind
      rintro pods later ⟨hpods, rfl⟩
      have hreadable : SentinelReadable key later ↔ (.deployment, key) ∈ later.objects := by
        constructor
        · rintro ⟨other, hother, hdeployment⟩
          rw [hstored] at hother
          cases hother
          exact hdeployment (not_not.mp hrunning)
        · intro hdeployment
          exact ⟨sentinel, hstored, fun _ ↦ hdeployment⟩
      cases pods with
      | error error =>
        apply ends_pure
        refine ⟨rfl, iff_of_true ⟨false, error, rfl⟩ ?_⟩
        rw [hreadable, ← hpods]
        simp [Except.toOption]
      | ok pods =>
        apply ends_pure
        refine ⟨rfl, iff_of_false (by simp) (not_not.mpr ?_)⟩
        rw [hreadable, ← hpods]
        rfl

/-- `RemoveMonitor` reports an error exactly if the sentinel cannot be read. -/
theorem removeMonitorNamed_faithful (instance_ : KVRocks) (name : String) :
    (Common.removeMonitorNamed instance_ name).Yields (.deterministic serve) (fun _ ↦ False)
      (fun reported final ↦ OnlyMonitors world final ∧
        (reported.2 = none ↔ SentinelReadable (sentinelKey instance_) world)) world := by
  apply (getSentinel_faithful (sentinelKey instance_)).bind
  rintro reply final ⟨rfl, hreadable⟩
  cases reply with
  | error reported =>
    obtain ⟨requeue, error⟩ := reported
    apply ends_pure
    refine ⟨.refl final, ?_⟩
    rw [← not_iff_not, ← hreadable]
    cases error <;> simp
  | ok sentinel =>
    have hloop : (forEach (Common.removeMonitorFrom sentinel.2 name) sentinel.1 : Go Unit).handle.Yields
        (.deterministic serve) (fun _ ↦ False)
        (fun removed later ↦ removed = .ok () ∧ OnlyMonitors final later) final := by
      apply yields_handle
      have hall : (forEach (Common.removeMonitorFrom sentinel.2 name) sentinel.1).Yields
          (.deterministic serve) (fun _ ↦ False) (fun _ ↦ OnlyMonitors final) final :=
        ends_forEach_const (OnlyMonitors final) (.refl final) fun pod _ current hcurrent ↦
          (removeMonitorFrom_faithful sentinel.2 name pod).imp fun _ _ hlater ↦ hcurrent.trans hlater
      exact hall.mono (fun _ hnever ↦ hnever.elim) fun _ _ hlater ↦ ⟨rfl, hlater⟩
    apply hloop.bind
    rintro removed later ⟨rfl, hlater⟩
    apply ends_pure
    refine ⟨hlater, iff_of_true rfl ?_⟩
    by_contra hunreadable
    obtain ⟨_, _, hreply⟩ := hreadable.mpr hunreadable
    cases hreply

/-! ### The five objects -/

@[simp] theorem mem_objects_deleteObject {object : Kind × NamespacedName} {kind : Kind} {key : NamespacedName} :
    object ∈ (world.deleteObject kind key).objects ↔ object ∈ world.objects ∧ object ≠ (kind, key) := by
  simp [World.deleteObject]

@[simp] theorem configMap_deleteObject {kind : Kind} {key other : NamespacedName} :
    (world.deleteObject kind key).configMap other = world.configMap other := rfl

@[simp] theorem objects_deleteConfigMap {key : NamespacedName} :
    (world.deleteConfigMap key).objects = world.objects := rfl

theorem deleteObject_faithful {kind : Kind} {key : NamespacedName} (hpresent : (kind, key) ∈ world.objects) :
    (Go.api (ask (.deleteObject kind key))).Yields (.deterministic serve) fail
      (fun _ final ↦ final = world.deleteObject kind key) world :=
  ends_attempt_run (if_pos hpresent) rfl

theorem deleteWorkload_faithful (kind : Kind) (key : NamespacedName) :
    (K8s.deleteWorkload kind key).Yields (.deterministic serve)
      (fun final ↦ (kind, key) ∉ world.objects ∧ final = world)
      (fun _ final ↦ (kind, key) ∈ world.objects ∧ final = world.deleteObject kind key) world := by
  have hread : (K8s.getWorkload kind key).Yields (.deterministic serve)
      (fun final ↦ (kind, key) ∉ world.objects ∧ final = world)
      (fun _ final ↦ (kind, key) ∈ world.objects ∧ final = world) world :=
    (getWorkload_faithful kind key).mono (fun _ h ↦ h) (fun _ hnever ↦ hnever.elim) fun _ _ h ↦ h
  apply hread.bind
  rintro workload final ⟨hpresent, rfl⟩
  exact (deleteObject_faithful hpresent).imp fun _ _ hfinal ↦ ⟨hpresent, hfinal⟩

theorem deleteService_faithful (key : NamespacedName) : (K8s.deleteService key).Yields (.deterministic serve)
      (fun final ↦ (.service, key) ∉ world.objects ∧ final = world)
      (fun _ final ↦ (.service, key) ∈ world.objects ∧ final = world.deleteObject .service key) world := by
  by_cases hpresent : (.service, key) ∈ world.objects
  · have hread : (K8s.getService key).Yields (.deterministic serve)
        (fun final ↦ (.service, key) ∉ world.objects ∧ final = world) (fun _ final ↦ final = world) world :=
      ends_attempt_run (if_pos hpresent) rfl
    apply hread.bind
    rintro _ final rfl
    exact (deleteObject_faithful hpresent).imp fun _ _ hfinal ↦ ⟨hpresent, hfinal⟩
  · apply Fallible.Yields.bind_never
    exact ends_attempt_run (if_neg hpresent) ⟨hpresent, rfl⟩

theorem deleteConfigMap_faithful (key : NamespacedName) : (K8s.deleteConfigMap key).Yields (.deterministic serve)
      (fun final ↦ world.configMap key = none ∧ final = world)
      (fun _ final ↦ (world.configMap key).isSome ∧ final = world.deleteConfigMap key) world := by
  cases hmap : world.configMap key with
  | none =>
    apply Fallible.Yields.bind_never
    have hrun : (ask (.getConfigMap key)).run serve world = (.error .notFound, world) :=
      congrArg (fun map ↦ (found map, world)) hmap
    exact ends_attempt_run hrun ⟨rfl, rfl⟩
  | some map =>
    have hrun : (ask (.getConfigMap key)).run serve world = (.ok map, world) :=
      congrArg (fun map ↦ (found map, world)) hmap
    have hread : (K8s.getConfigMap key).Yields (.deterministic serve)
        (fun final ↦ (some map : Option ConfigMap) = none ∧ final = world) (fun _ final ↦ final = world)
        world :=
      ends_attempt_run hrun rfl
    apply hread.bind
    rintro _ final rfl
    have hpresent : (final.configMap key).isSome = true := by rw [hmap]; rfl
    exact ends_attempt_run (if_pos hpresent) ⟨rfl, rfl⟩

/-- `removeController` returns without an error exactly if the five objects are there. -/
theorem removeController_faithful (ns : String) : (Cluster.removeController ns).Yields (.deterministic serve)
      (fun final ↦ ¬ ControllerPresent ns world ∧ final.stored = world.stored)
      (fun _ final ↦ ControllerPresent ns world ∧ final.stored = world.stored) world := by
  apply ((deleteWorkload_faithful .deployment _).mono ?_ fun _ _ h ↦ h).bind
  · rintro _ second ⟨hdeployment, rfl⟩
    apply ((deleteService_faithful _).mono ?_ fun _ _ h ↦ h).bind
    · rintro _ third ⟨hservice, rfl⟩
      apply ((deleteConfigMap_faithful _).mono ?_ fun _ _ h ↦ h).bind
      · rintro _ fourth ⟨hconfigMap, rfl⟩
        apply ((deleteWorkload_faithful .nativeStatefulSet _).mono ?_ fun _ _ h ↦ h).bind
        · rintro _ fifth ⟨hetcd, rfl⟩
          apply (deleteService_faithful _).mono
          · rintro final ⟨hmissing, rfl⟩
            refine ⟨fun hpresent ↦ hmissing ?_, rfl⟩
            simpa [Kvrocks.etcdServiceName, Kvrocks.controllerServiceName] using hpresent.etcdService
          · rintro _ final ⟨hetcdService, rfl⟩
            refine ⟨⟨hdeployment, ?_, ?_, ?_, ?_⟩, rfl⟩
            · simpa using hservice
            · simpa using hconfigMap
            · simpa using hetcd
            · simp only [mem_objects_deleteObject, objects_deleteConfigMap] at hetcdService
              exact hetcdService.1.1.1
        · rintro final ⟨hmissing, rfl⟩
          refine ⟨fun hpresent ↦ hmissing ?_, rfl⟩
          simpa using hpresent.etcd
      · rintro final ⟨hmissing, rfl⟩
        refine ⟨fun hpresent ↦ ?_, rfl⟩
        have hsome := hpresent.configMap
        simp only [configMap_deleteObject] at hmissing
        rw [hmissing] at hsome
        cases hsome
    · rintro final ⟨hmissing, rfl⟩
      refine ⟨fun hpresent ↦ hmissing ?_, rfl⟩
      simpa using hpresent.service
  · rintro final ⟨hmissing, rfl⟩
    exact ⟨fun hpresent ↦ hmissing hpresent.deployment, rfl⟩

/-! ### The pass -/

/-- The monitor of a shard is removed if the sentinel can be read. -/
theorem removeShardMonitor_faithful (index : ℕ) (h : Cluster.Handler) :
    (Cluster.removeShardMonitor index).Yields (.deterministic serve)
      (fun final ↦ OnlyMonitors world final ∧ ¬ SentinelReadable (sentinelKey h.instance_) world)
      (fun _ later final ↦ later.instance_ = h.instance_ ∧ OnlyMonitors world final ∧
        SentinelReadable (sentinelKey h.instance_) world) h world := by
  apply ends_get_bind
  apply ends_lift_bind ((removeMonitorNamed_faithful h.instance_ _).mono
    (fun _ hnever ↦ hnever.elim) fun _ _ hreported ↦ hreported)
  rintro ⟨requeue, error⟩ final ⟨honly, hreadable⟩
  apply ends_modify_bind
  cases error with
  | none => exact Method.ends_pure ⟨rfl, honly, hreadable.mp rfl⟩
  | some error => exact Method.ends_throw error ⟨honly, fun h ↦ by cases hreadable.mpr h⟩

/-- The loop over the shards fails exactly if there is a shard and the sentinel cannot be read. -/
theorem removeMonitors_faithful (master : ℕ) (h : Cluster.Handler) :
    (forEach Cluster.removeShardMonitor (List.range master)).Yields (.deterministic serve)
      (fun final ↦ OnlyMonitors world final ∧ ¬ (master = 0 ∨ SentinelReadable (sentinelKey h.instance_) world))
      (fun _ later final ↦ OnlyMonitors world final ∧
        (master = 0 ∨ SentinelReadable (sentinelKey h.instance_) world) ∧ later.instance_ = h.instance_)
      h world := by
  cases master with
  | zero => exact Method.ends_pure ⟨.refl world, .inl rfl, rfl⟩
  | succ master =>
    rw [List.range_succ_eq_map, forEach_cons]
    apply ((removeShardMonitor_faithful 0 h).mono
      (fun _ hunreadable ↦ ⟨hunreadable.1, by simpa using hunreadable.2⟩) fun _ _ _ h ↦ h).bind
    rintro _ later final ⟨hinstance, honly, hreadable⟩
    -- the sentinel stays readable for the other shards
    have hloop : (forEach Cluster.removeShardMonitor ((List.range master).map Nat.succ)).Yields
        (.deterministic serve) (fun _ ↦ False)
        (fun _ state current ↦ state.instance_ = h.instance_ ∧ OnlyMonitors world current) later final := by
      apply Method.yields_forEach ⟨hinstance, honly⟩
      rintro index _ state current ⟨hstate, hcurrent⟩
      have hstill : SentinelReadable (sentinelKey state.instance_) current := by
        rw [hstate, hcurrent.sentinelReadable_iff]
        exact hreadable
      apply (removeShardMonitor_faithful index state).mono
      · exact fun _ hunreadable ↦ hunreadable.2 hstill
      · rintro _ state' current' ⟨hstate', hcurrent', _⟩
        exact ⟨hstate'.trans hstate, hcurrent.trans hcurrent'⟩
    exact hloop.mono (fun _ hnever ↦ hnever.elim) fun _ _ _ hend ↦ ⟨hend.2, .inr hreadable, hend.1⟩

/-- `Finializer` returns without an error exactly if everything it looks for is there; it then does not ask for a
requeue. -/
theorem finializer_faithful (h : Cluster.Handler) {sentinel : String}
    (hmonitored : h.instance_.labels.lookup monitoredBy = some sentinel) :
    Cluster.finializer.Yields (.deterministic serve)
      (fun final ↦ ¬ Ready h.instance_ world ∧ final.stored = world.stored)
      (fun _ later final ↦ later.requeue = false ∧ Ready h.instance_ world ∧ final.stored = world.stored)
      h world := by
  apply ends_get_bind
  rw [hmonitored]
  apply ((removeMonitors_faithful h.instance_.spec.master h).mono
    (fun _ hfailed ↦ ⟨fun hready ↦ hfailed.2 hready.1, hfailed.1.stored⟩) fun _ _ _ h ↦ h).bind
  rintro _ later final ⟨honly, hsentinel, _⟩
  apply ends_modify_bind
  apply Method.ends_lift
  apply (removeController_faithful h.instance_.ns).mono
  · rintro last ⟨hmissing, hstored⟩
    refine ⟨fun hready ↦ hmissing ?_, hstored.trans honly.stored⟩
    exact (honly.controllerPresent_iff _).mpr hready.2
  · rintro _ last ⟨hpresent, hstored⟩
    exact ⟨rfl, ⟨hsentinel, (honly.controllerPresent_iff _).mp hpresent⟩, hstored.trans honly.stored⟩

/-- The finalizer is taken off a stored object that nobody else changes. -/
theorem removeFinalizer_faithful {current : KVRocks} (hstored : world.stored current.key = some current) :
    (K8s.updateKVRocks { current with
      finalizers := current.finalizers.filter (· ≠ kvrocksFinalizer) }).handle.Yields
      (.deterministic serve) (fun _ ↦ False) (fun _ final ↦ Finalized current.key final) world := by
  apply ends_handle
  let object : KVRocks := { current with finalizers := current.finalizers.filter (· ≠ kvrocksFinalizer) }
  have hserve : serve (.updateKVRocks object) world = (.ok (current.resourceVersion + 1), world.store object) := by
    have hlookup : world.stored object.key = some current := hstored
    simp only [serve, hlookup]
    exact if_pos rfl
  have hask : (Go.api (ask (.updateKVRocks object))).Ends (.deterministic serve)
      (fun final ↦ ∀ _ : GoError, Finalized current.key final) (fun _ ↦ False)
      (fun _ final ↦ final = world.store object) world :=
    ends_attempt_run hserve rfl
  apply hask.bind
  rintro version final rfl
  apply ends_pure
  intro written hwritten
  have hkey : current.key = object.key := rfl
  simp only [World.store, hkey, if_true] at hwritten
  split at hwritten
  · cases hwritten
  · cases hwritten
    simp [object]

/-- A monitored cluster that is being deleted, as far as it is still stored. -/
def Deleting (key : NamespacedName) (world : World) : Prop :=
  ∀ current, world.stored key = some current →
    current.key = key ∧ current.spec.type = .cluster ∧ current.deletionTimestamp = true ∧
      ∃ sentinel, current.labels.lookup monitoredBy = some sentinel

/-- The faithful pass over an object that carries the finalizer. -/
theorem reconcileDeletion_faithful {key : NamespacedName} {current : KVRocks} {sentinel : String}
    (hstored : world.stored key = some current) (hkey : current.key = key)
    (hmonitored : current.labels.lookup monitoredBy = some sentinel)
    (hfinalizer : kvrocksFinalizer ∈ current.finalizers) :
    (reconcileDeletion (clusterHandler key) current).Yields (.deterministic serve)
      (fun final ↦ ¬ Ready current world ∧ final.stored = world.stored)
      (fun _ final ↦ (Ready current world ∧ Finalized key final) ∨
        (¬ Ready current world ∧ final.stored = world.stored)) world := by
  unfold reconcileDeletion
  rw [if_neg (not_not.mpr hfinalizer)]
  have hfinializer : ((clusterHandler key).finializer current).Yields (.deterministic serve)
      (fun final ↦ ¬ Ready current world ∧ final.stored = world.stored)
      (fun result final ↦ final.stored = world.stored ∧ ((result = (.ok (), false) ∧ Ready current world) ∨
          ((∃ error requeue, result = (.error error, requeue)) ∧ ¬ Ready current world))) world := by
    have hmethod : Cluster.finializer.Yields (.deterministic serve)
        (fun final ↦ ¬ Ready current world ∧ final.stored = world.stored)
        (fun _ later final ↦ later.requeue = false ∧ Ready current world ∧ final.stored = world.stored)
        (Cluster.newKVRocksClusterHandler key current Controller.newClient) world :=
      finializer_faithful _ hmonitored
    apply hmethod.finish.bind
    rintro ⟨result, later⟩ final hresult
    apply ends_pure
    cases result with
    | ok _ => exact ⟨hresult.2.2, .inl ⟨by rw [← hresult.1], hresult.2.1⟩⟩
    | error error => exact ⟨hresult.2, .inr ⟨⟨error, later.requeue, rfl⟩, hresult.1⟩⟩
  apply hfinializer.bind
  rintro result final ⟨hfinal, ⟨rfl, hready⟩ | ⟨⟨error, requeue, rfl⟩, hready⟩⟩
  · have hcurrent : final.stored current.key = some current := by rw [hfinal, hkey, hstored]
    apply ((removeFinalizer_faithful hcurrent).mono (fun _ hnever ↦ hnever.elim) fun _ _ h ↦ h).bind
    intro removed last hlast
    rw [hkey] at hlast
    split
    · exact ends_pure (.inl ⟨hready, hlast⟩)
    · exact ends_pure (.inl ⟨hready, hlast⟩)
  · simp only
    split
    · exact ends_pure (.inr ⟨hready, hfinal⟩)
    · exact ends_pure (.inr ⟨hready, hfinal⟩)

/-- A faithful pass removes the finalizer exactly if everything that `Finializer` looks for is there. -/
theorem laterPass_finalizes_iff {key : NamespacedName} (hdeleting : Deleting key world) :
    Finalized key (laterPass key world) ↔ Removable key world := by
  have hpass : (reconcile (handlerOf key) key).Yields (.deterministic serve)
      (fun final ↦ Finalized key final ↔ Removable key world)
      (fun _ final ↦ Finalized key final ↔ Removable key world) world := by
    apply ((getKVRocks_faithful key).mono (fun _ hnever ↦ hnever.elim) fun _ _ h ↦ h).bind
    rintro reply final ⟨hreply, rfl⟩
    cases reply with
    | error error =>
      have hgone : final.stored key = none := hreply.symm
      have hboth : Finalized key final ↔ Removable key final := by simp [Finalized, Removable, hgone]
      simp only
      split
      · exact ends_pure hboth
      · exact ends_pure hboth
    | ok current =>
      have hstored : final.stored key = some current := hreply.symm
      obtain ⟨hkey, htype, hdeleted, sentinel, hmonitored⟩ := hdeleting current hstored
      simp only [htype, hdeleted, if_true, handlerOf]
      by_cases hfinalizer : kvrocksFinalizer ∈ current.finalizers
      · have hremovable : Removable key final ↔ Ready current final := by
          simp [Removable, hstored, hfinalizer]
        have hnot : ∀ last : World, last.stored = final.stored → ¬ Finalized key last := by
          intro last hlast hfinalized
          exact hfinalized current (by rw [hlast, hstored]) hfinalizer
        rw [hremovable]
        apply (reconcileDeletion_faithful hstored hkey hmonitored hfinalizer).mono
        · rintro last ⟨hready, hlast⟩
          exact iff_of_false (hnot last hlast) hready
        · rintro _ last (⟨hready, hlast⟩ | ⟨hready, hlast⟩)
          · exact iff_of_true hlast hready
          · exact iff_of_false (hnot last hlast) hready
      · have hboth : Finalized key final ↔ Removable key final := by
          simp [Finalized, Removable, hstored, hfinalizer]
        unfold reconcileDeletion
        rw [if_pos hfinalizer]
        exact ends_pure hboth
  have hend : Outcome.Meets (Finalized key (laterPass key world) ↔ Removable key world)
      (fun _ ↦ Finalized key (laterPass key world) ↔ Removable key world)
      ((reconcile (handlerOf key) key).program.run serve world).1 := hpass
  cases houtcome : ((reconcile (handlerOf key) key).program.run serve world).1 with
  | ok _ => rw [houtcome] at hend; exact hend
  | err _ => rw [houtcome] at hend; exact hend
  | panic => rw [houtcome] at hend; exact hend

end Faithful

/-! ## Faulty passes -/

variable {request : Call}

/-- A faulty call changes nothing, or what the faithful call changes. -/
theorem faulty_world {reply : request.Reply} (h : faulty request world reply world') :
    world' = world ∨ world' = (serve request world).2 := by
  rcases h with ⟨_, hserved⟩ | ⟨_, hfault⟩
  · exact .inr hserved
  · exact hfault

/-- The kinds of the calls that change at most the monitors. -/
def readKinds : List CallKind := [.getKVRocks, .getWorkload, .listPods, .sentinel]

theorem serve_onlyMonitors (h : OfKind readKinds request) (world : World) :
    OnlyMonitors world (serve request world).2 := by
  cases request with
  | getKVRocks key => exact .refl world
  | getWorkload kind key =>
    simp only [serve]
    split <;> exact .refl world
  | listPods ns labels => exact .refl world
  | sentinel ip password command =>
    cases command with
    | master name =>
      simp only [serve]
      split <;> exact .refl world
    | remove name =>
      simp only [serve]
      split
      · exact ⟨_, rfl⟩
      · exact .refl world
    | monitor name ip port quorum => exact .refl world
    | set name option value => exact .refl world
    | reset name => exact .refl world
  | _ => simp [OfKind, Call.kind, readKinds] at h

theorem faulty_onlyMonitors (h : OfKind readKinds request) {reply : request.Reply}
    (hstep : faulty request world reply world') : OnlyMonitors world world' := by
  rcases faulty_world hstep with rfl | rfl
  · exact .refl world'
  · exact serve_onlyMonitors h world

/-- The kinds of the calls with which `removeController` goes on after its first deletion. -/
def deleteKinds : List CallKind := [.getWorkload, .deleteObject, .getService, .getConfigMap, .deleteConfigMap]

theorem serve_delete (h : OfKind deleteKinds request) (world : World) :
    (serve request world).2.stored = world.stored ∧ (serve request world).2.objects ⊆ world.objects := by
  cases request with
  | getWorkload kind key =>
    simp only [serve]
    split <;> simp
  | deleteObject kind key =>
    simp only [serve]
    split
    · exact ⟨rfl, fun _ hobject ↦ (mem_objects_deleteObject.mp hobject).1⟩
    · simp
  | getService key =>
    simp only [serve]
    split <;> simp
  | getConfigMap key => simp [serve]
  | deleteConfigMap key =>
    simp only [serve]
    split <;> simp [World.deleteConfigMap]
  | _ => simp [OfKind, Call.kind, deleteKinds] at h

section Faulty

variable {start : World} {key : NamespacedName} {instance_ : KVRocks} {world world' : World}

/-- The object has lost at most finalizers. -/
def Shorn (instance_ current : KVRocks) : Prop :=
  ∃ finalizers version, finalizers ⊆ instance_.finalizers ∧
    current = { instance_ with finalizers := finalizers, resourceVersion := version }

/-- What every faulty pass leaves of the world in which the deletion began: the object loses at most finalizers, and
the other objects lose nothing before the Deployment of the controller is gone. -/
structure Reached (start : World) (key : NamespacedName) (instance_ : KVRocks) (world : World) : Prop where
  others : ∀ other, other ≠ key → world.stored other = start.stored other
  own : ∀ current, world.stored key = some current → Shorn instance_ current
  order : controllerDeployment instance_.ns ∈ world.objects →
    world.objects = start.objects ∧ world.configMaps = start.configMaps

theorem Reached.onlyMonitors (h : Reached start key instance_ world) (honly : OnlyMonitors world world') :
    Reached start key instance_ world' := by
  obtain ⟨monitors, rfl⟩ := honly
  exact ⟨h.others, h.own, h.order⟩

/-- Once the Deployment is gone, nothing more is said of the other objects. -/
theorem Reached.without_deployment (h : Reached start key instance_ world) (hstored : world'.stored = world.stored)
    (hgone : controllerDeployment instance_.ns ∉ world'.objects) : Reached start key instance_ world' := by
  refine ⟨?_, ?_, fun hthere ↦ absurd hthere hgone⟩
  · rw [hstored]
    exact h.others
  · rw [hstored]
    exact h.own

/-- The Deployment goes first. -/
theorem deleteDeployment_keeps (h : Reached start key instance_ world) :
    (K8s.deleteWorkload .deployment ⟨instance_.ns, Kvrocks.controllerDeploymentName⟩).Yields
      (.sequential faulty) (Reached start key instance_)
      (fun _ final ↦ Reached start key instance_ final ∧ controllerDeployment instance_.ns ∉ final.objects) world := by
  have hread : (K8s.getWorkload .deployment ⟨instance_.ns, Kvrocks.controllerDeploymentName⟩).Keeps
      (.sequential faulty) (Reached start key instance_) :=
    Fallible.Returns.keeps (K8s.getWorkload_makes _ _) fun request hkind _ _ _ hstep hinv ↦
      hinv.onlyMonitors (faulty_onlyMonitors (by simp_all [OfKind, readKinds]) hstep)
  apply (hread world h).bind
  intro workload before hbefore
  apply ends_attempt
  intro reply after hstep
  have hdeleted : controllerDeployment instance_.ns ∉
      (before.deleteObject .deployment ⟨instance_.ns, Kvrocks.controllerDeploymentName⟩).objects := by
    simp [controllerDeployment]
  -- whether or not the deletion is reported, it is carried out or not
  have hafter : Reached start key instance_ after ∧
      (reply = .ok () → controllerDeployment instance_.ns ∉ after.objects) := by
    simp only [faulty, serve] at hstep
    split at hstep
    · rcases hstep with ⟨_, rfl⟩ | ⟨hfailure, rfl | rfl⟩
      · exact ⟨hbefore.without_deployment rfl hdeleted, fun _ ↦ hdeleted⟩
      · exact ⟨hbefore, fun hok ↦ absurd (by rw [hok]; rfl) hfailure⟩
      · exact ⟨hbefore.without_deployment rfl hdeleted, fun _ ↦ hdeleted⟩
    · rename_i hmissing
      rcases hstep with ⟨_, rfl⟩ | ⟨_, rfl | rfl⟩ <;> exact ⟨hbefore, fun _ ↦ hmissing⟩
  cases reply with
  | ok _ => exact ⟨hafter.1, hafter.2 rfl⟩
  | error error => exact hafter.1

/-- Nothing that `removeController` goes on with brings the Deployment back. -/
theorem keeps_without_deployment {α : Type} {function : Go α} (h : Makes deleteKinds function) :
    function.Keeps (.sequential faulty) fun world ↦ Reached start key instance_ world ∧
      controllerDeployment instance_.ns ∉ world.objects := by
  apply Fallible.Returns.keeps h
  rintro request hkind before reply after hstep ⟨hreached, hgone⟩
  rcases faulty_world hstep with rfl | rfl
  · exact ⟨hreached, hgone⟩
  · obtain ⟨hstored, hobjects⟩ := serve_delete hkind before
    have hstill : controllerDeployment instance_.ns ∉ (serve request before).2.objects :=
      fun hthere ↦ hgone (hobjects hthere)
    exact ⟨hreached.without_deployment hstored hstill, hstill⟩

/-- Whatever fails, nothing goes before the Deployment. -/
theorem removeController_keeps :
    (Cluster.removeController instance_.ns).Keeps (.sequential faulty) (Reached start key instance_) := by
  intro world h
  apply (deleteDeployment_keeps h).bind
  intro _ second hsecond
  have hrest : Makes deleteKinds (do
      K8s.deleteService ⟨instance_.ns, Kvrocks.controllerServiceName⟩
      K8s.deleteConfigMap ⟨instance_.ns, "controller-config"⟩
      K8s.deleteWorkload .nativeStatefulSet ⟨instance_.ns, Kvrocks.etcdStatefulName⟩
      K8s.deleteService ⟨instance_.ns, Kvrocks.etcdServiceName⟩) := by
    apply ((K8s.deleteService_makes _).mono (by decide)).bind
    intro _
    apply ((K8s.deleteConfigMap_makes _).mono (by decide)).bind
    intro _
    apply ((K8s.deleteWorkload_makes _ _).mono (by decide)).bind
    intro _
    exact (K8s.deleteService_makes _).mono (by decide)
  exact (keeps_without_deployment hrest second hsecond).mono (fun _ hfinal ↦ hfinal.1) fun _ _ hfinal ↦ hfinal.1

/-- However `Finializer` ends, nothing has gone before the Deployment. -/
theorem finializer_keeps (h : Cluster.Handler) (hns : h.instance_.ns = instance_.ns)
    (hworld : Reached start key instance_ world) :
    Cluster.finializer.Yields (.sequential faulty) (Reached start key instance_)
      (fun _ _ ↦ Reached start key instance_) h world := by
  apply ends_get_bind
  cases h.instance_.labels.lookup monitoredBy with
  | none => exact Method.ends_pure hworld
  | some sentinel =>
    have hloop := (Leaves.forEach Cluster.removeShardMonitor_leaves (List.range h.instance_.spec.master)).mono
      (show _ ⊆ readKinds by decide)
    have hkeep : ∀ request, OfKind readKinds request → ∀ world reply world', faulty request world reply world' →
        Reached start key instance_ world → Reached start key instance_ world' :=
      fun _ hkind _ _ _ hstep hinv ↦ hinv.onlyMonitors (faulty_onlyMonitors hkind hstep)
    apply (hloop.keeps hkeep hworld).bind
    rintro _ later final ⟨-, hfinal⟩
    apply ends_modify_bind
    apply Method.ends_lift
    simp only [hns]
    exact removeController_keeps final hfinal

/-- The update of an object that has lost at most finalizers. -/
theorem update_keeps (hkey : instance_.key = key) {object : KVRocks} (hshorn : Shorn instance_ object) :
    (K8s.updateKVRocks object).Keeps (.sequential faulty) (Reached start key instance_) := by
  intro world hworld
  have hobject : object.key = key := by
    obtain ⟨_, _, _, rfl⟩ := hshorn
    exact hkey
  have hstored : Reached start key instance_ (world.store object) := by
    refine ⟨fun other hother ↦ ?_, fun current hcurrent ↦ ?_, hworld.order⟩
    · exact (if_neg (hobject ▸ hother)).trans (hworld.others other hother)
    · simp only [World.store, hobject, if_true] at hcurrent
      split at hcurrent
      · cases hcurrent
      · cases hcurrent
        obtain ⟨finalizers, version, hsubset, rfl⟩ := hshorn
        exact ⟨finalizers, version + 1, hsubset, rfl⟩
  have hask : (Go.api (ask (.updateKVRocks object))).Yields (.sequential faulty)
      (Reached start key instance_) (fun _ ↦ Reached start key instance_) world := by
    apply ends_attempt
    intro reply after hstep
    have hafter : Reached start key instance_ after := by
      rcases faulty_world hstep with rfl | rfl
      · exact hworld
      · simp only [serve]
        split
        · exact hworld
        · split
          · exact hstored
          · exact hworld
    cases reply <;> exact hafter
  apply hask.bind
  intro _ final hfinal
  exact ends_pure hfinal

/-- What can be read is what is stored. -/
theorem getKVRocks_faulty : (K8s.getKVRocks key).handle.Yields (.sequential faulty) (fun _ ↦ False)
      (fun reply final ↦ final = world ∧ ∀ current, reply = .ok current → world.stored key = some current)
      world := by
  apply ends_handle
  apply ends_attempt
  intro reply after hstep
  have hafter : after = world := by
    rcases faulty_world hstep with rfl | rfl <;> rfl
  cases reply with
  | error error => exact fun _ ↦ ⟨hafter, fun _ hok ↦ by cases hok⟩
  | ok current =>
    refine ⟨hafter, ?_⟩
    rintro _ ⟨⟩
    rcases hstep with ⟨hreply, _⟩ | ⟨hfailure, _⟩
    · have hfound : (.ok current : ApiResult KVRocks) = found (world.stored key) := hreply
      cases hstored : world.stored key with
      | none => rw [hstored] at hfound; cases hfound
      | some object => rw [hstored] at hfound; cases hfound; rfl
    · exact absurd rfl hfailure

/-- A faulty pass over the object itself. -/
theorem reconcileDeletion_keeps (hkey : instance_.key = key) {current : KVRocks} (hshorn : Shorn instance_ current) :
    (reconcileDeletion (clusterHandler key) current).Keeps (.sequential faulty) (Reached start key instance_) := by
  intro world hworld
  unfold reconcileDeletion
  split
  · exact ends_pure hworld
  · have hns : current.ns = instance_.ns := by
      obtain ⟨_, _, _, rfl⟩ := hshorn
      rfl
    have hfinializer : ((clusterHandler key).finializer current).Yields (.sequential faulty)
        (Reached start key instance_) (fun _ ↦ Reached start key instance_) world := by
      have hmethod : Cluster.finializer.Yields (.sequential faulty) (Reached start key instance_)
          (fun _ _ ↦ Reached start key instance_)
          (Cluster.newKVRocksClusterHandler key current Controller.newClient) world :=
        finializer_keeps _ hns hworld
      apply hmethod.finish.bind
      rintro ⟨result, h⟩ last hlast
      apply ends_pure
      cases result <;> exact hlast
    apply hfinializer.bind
    rintro ⟨result, requeue⟩ last hlast
    simp only
    split
    · exact ends_pure hlast
    · cases result with
      | error error => exact ends_pure hlast
      | ok _ =>
        have hupdate : (K8s.updateKVRocks { current with
            finalizers := current.finalizers.filter (· ≠ kvrocksFinalizer) }).Keeps (.sequential faulty)
            (Reached start key instance_) := by
          apply update_keeps hkey
          obtain ⟨finalizers, version, hsubset, rfl⟩ := hshorn
          exact ⟨_, version, fun name hname ↦ hsubset (List.mem_of_mem_filter hname), rfl⟩
        apply (hupdate.handle last hlast).bind
        intro removed end_ hend
        split
        · exact ends_pure hend
        · exact ends_pure hend

/-- A faulty pass over the object. -/
theorem pass_keeps (hkey : instance_.key = key) (htype : instance_.spec.type = .cluster)
    (hdeleted : instance_.deletionTimestamp = true) :
    (reconcile (handlerOf key) key).Keeps (.sequential faulty) (Reached start key instance_) := by
  intro world hworld
  apply (getKVRocks_faulty.mono (fun _ hnever ↦ hnever.elim) fun _ _ h ↦ h).bind
  rintro reply final ⟨rfl, hreply⟩
  cases reply with
  | error error =>
    simp only
    split
    · exact ends_pure hworld
    · exact ends_pure hworld
  | ok current =>
    have hshorn := hworld.own current (hreply current rfl)
    have hcurrent : current.spec.type = .cluster ∧ current.deletionTimestamp = true := by
      obtain ⟨_, _, _, rfl⟩ := hshorn
      exact ⟨htype, hdeleted⟩
    simp only [hcurrent.1, hcurrent.2, if_true, handlerOf]
    exact reconcileDeletion_keeps hkey hshorn final hworld

/-- However many faulty passes there are, they leave what one of them leaves. -/
theorem passes_reach (hstored : start.stored key = some instance_) (hkey : instance_.key = key)
    (htype : instance_.spec.type = .cluster) (hdeleted : instance_.deletionTimestamp = true)
    (hpasses : FaultyPasses key start world) : Reached start key instance_ world := by
  induction hpasses with
  | refl =>
    refine ⟨fun _ _ ↦ rfl, fun current hcurrent ↦ ?_, fun _ ↦ ⟨rfl, rfl⟩⟩
    rw [hstored] at hcurrent
    cases hcurrent
    exact ⟨instance_.finalizers, instance_.resourceVersion, fun _ h ↦ h, rfl⟩
  | tail _ hpass ih =>
    obtain ⟨outcome, hexec⟩ := hpass
    exact (pass_keeps hkey htype hdeleted).exec hexec ih

/-- The object is still being deleted. -/
theorem Reached.deleting (h : Reached start key instance_ world) (hkey : instance_.key = key)
    (htype : instance_.spec.type = .cluster) (hdeleted : instance_.deletionTimestamp = true) {sentinel : String}
    (hmonitored : instance_.labels.lookup monitoredBy = some sentinel) : Deleting key world := by
  intro current hcurrent
  obtain ⟨_, _, _, rfl⟩ := h.own current hcurrent
  exact ⟨hkey, htype, hdeleted, sentinel, hmonitored⟩

/-- If the deletion could have been finished at once, it can be finished as long as the Deployment of the controller
is there. -/
theorem Reached.removable_iff (h : Reached start key instance_ world) (hstored : start.stored key = some instance_)
    (hstart : Removable key start) :
    Removable key world ↔ Finalized key world ∨ controllerDeployment instance_.ns ∈ world.objects := by
  constructor
  · intro hremovable
    by_cases hfinalized : Finalized key world
    · exact .inl hfinalized
    · simp only [Finalized, not_forall, not_not] at hfinalized
      obtain ⟨current, hcurrent, hfinalizer⟩ := hfinalized
      have hdeployment := (hremovable current hcurrent hfinalizer).2.deployment
      obtain ⟨_, _, _, rfl⟩ := h.own current hcurrent
      exact .inr hdeployment
  · rintro (hfinalized | hdeployment) current hcurrent hfinalizer
    · exact absurd hfinalizer (hfinalized current hcurrent)
    · obtain ⟨hobjects, hconfigMaps⟩ := h.order hdeployment
      obtain ⟨finalizers, version, hsubset, rfl⟩ := h.own current hcurrent
      obtain ⟨hsentinel, hpresent⟩ := hstart instance_ hstored (hsubset hfinalizer)
      refine ⟨hsentinel.imp_right ?_, ?_⟩
      · rintro ⟨sentinel, hread, hrunning⟩
        by_cases hown : sentinelKey instance_ = key
        · -- an instance that names itself as its sentinel
          have hsentinel : sentinel = instance_ := by
            rw [hown, hstored] at hread
            exact (Option.some.inj hread).symm
          refine ⟨_, (congrArg world.stored hown).trans hcurrent, fun hstatus ↦ ?_⟩
          rw [hobjects]
          exact hrunning (by rw [hsentinel]; exact hstatus)
        · refine ⟨sentinel, (h.others _ hown).trans hread, fun hstatus ↦ ?_⟩
          rw [hobjects]
          exact hrunning hstatus
      · obtain ⟨h₁, h₂, h₃, h₄, h₅⟩ := hpresent
        refine ⟨?_, ?_, ?_, ?_, ?_⟩
        · rwa [hobjects]
        · rwa [hobjects]
        · simpa only [World.configMap, hconfigMaps] using h₃
        · rwa [hobjects]
        · rwa [hobjects]

end Faulty

/-- A monitored cluster is being deleted, and any number of passes have met any failures.  A pass in which every call
is answered truthfully then removes the finalizer exactly if everything that `Finializer` looks for is there.  Where
the deletion could have been finished at the beginning, this is so exactly if the Deployment of the controller is
there or the finalizer is gone. -/
theorem finalization_resumes_iff {start world : World} {key : NamespacedName} {instance_ : KVRocks}
    {sentinel : String} (hstored : start.stored key = some instance_) (hkey : instance_.key = key)
    (htype : instance_.spec.type = .cluster) (hdeleted : instance_.deletionTimestamp = true)
    (hmonitored : instance_.labels.lookup monitoredBy = some sentinel)
    (hpasses : FaultyPasses key start world) :
    (Finalized key (laterPass key world) ↔ Removable key world) ∧ (Removable key start → (Removable key world ↔
          Finalized key world ∨ controllerDeployment instance_.ns ∈ world.objects)) := by
  have hreached := passes_reach hstored hkey htype hdeleted hpasses
  refine ⟨laterPass_finalizes_iff (hreached.deleting hkey htype hdeleted hmonitored), fun hstart ↦ ?_⟩
  exact hreached.removable_iff hstored hstart

/-- A cluster of three shards that is being deleted. -/
def deletedCluster : KVRocks :=
  { KVRocks.created ⟨"default", "kvrocks-cluster-1-demo"⟩
      { image := "kvrocks:2.0", type := .cluster, kvrocksConfig := [], replicas := 1, master := 3,
        password := "secret", resources := true } with
    labels := [(monitoredBy, "kvrocks-sentinel-1")]
    finalizers := [kvrocksFinalizer]
    deletionTimestamp := true }

/-- Its sentinel, which is running. -/
def runningSentinel : KVRocks :=
  { KVRocks.created ⟨"default", "kvrocks-sentinel-1"⟩
      { image := "kvrocks:2.0", type := .sentinel, kvrocksConfig := [], replicas := 3, master := 0,
        password := "secret", resources := true } with
    status := { status := .running, reason := "", version := 0, rebalance := false, topo := [],
                shrink := none } }

/-- The world in which the deletion begins: the sentinel has one pod, which monitors the three shards. -/
def intact : World where
  stored := fun key ↦
    if key = deletedCluster.key then some deletedCluster
    else if key = runningSentinel.key then some runningSentinel
    else none
  objects :=
    [controllerDeployment "default", (.service, ⟨"default", Kvrocks.controllerServiceName⟩),
      (.nativeStatefulSet, ⟨"default", Kvrocks.etcdStatefulName⟩),
      (.service, ⟨"default", Kvrocks.etcdServiceName⟩), (.deployment, runningSentinel.key)]
  configMaps := [⟨"default", "controller-config", []⟩]
  monitors := [("10.0.1.1", "demo-0"), ("10.0.1.1", "demo-1"), ("10.0.1.1", "demo-2")]
  workload := fun _ _ ↦ ⟨[], 1, 1⟩
  pods := fun _ _ ↦ [⟨"default", "kvrocks-sentinel-1-0", "10.0.1.1", [], false⟩]

/-- Calls of one kind fail. -/
def unavailable (kind : CallKind) (request : Call) (world : World) : request.Reply × World :=
  if request.kind = kind ∧ failure ⟨request, request.failure⟩ ≠ none then (request.failure, world)
  else serve request world

/-- A pass over the intact world meanwhile. -/
def interrupted (kind : CallKind) : World :=
  ((reconcile (handlerOf deletedCluster.key) deletedCluster.key).program.run (unavailable kind) intact).2

theorem interrupted_reached (kind : CallKind) : FaultyPasses deletedCluster.key intact (interrupted kind) := by
  apply Relation.ReflTransGen.single
  refine ⟨_, exec_run ?_ _ intact⟩
  intro request world
  unfold unavailable
  split_ifs with hfails
  · exact .inr ⟨hfails.2, .inl rfl⟩
  · exact .inl ⟨rfl, rfl⟩

/-- Everything is there at the beginning. -/
theorem intact_removable : Removable deletedCluster.key intact := by
  rintro current hcurrent _
  obtain rfl : deletedCluster = current := Option.some.inj hcurrent
  exact ⟨.inr ⟨runningSentinel, by rfl, fun _ ↦ by decide⟩, ⟨by decide, by decide, by decide, by decide, by decide⟩⟩

/-- While pods cannot be listed the finalizer stays.  The pass after that takes it off. -/
theorem finalization_resumes_interrupted :
    ¬ Finalized deletedCluster.key (interrupted .listPods) ∧
      Finalized deletedCluster.key (laterPass deletedCluster.key (interrupted .listPods)) := by
  have hstored : (interrupted .listPods).stored deletedCluster.key = some deletedCluster := by rfl
  obtain ⟨hlater, hresumes⟩ := finalization_resumes_iff (by rfl) rfl rfl rfl (by rfl) (interrupted_reached .listPods)
  refine ⟨fun hfinalized ↦ hfinalized deletedCluster hstored (by decide), hlater.mpr ?_⟩
  exact (hresumes intact_removable).mpr (.inr (by decide))

/-- The deletion could have been finished, one pass stopped after it had deleted the Deployment of the controller
because services could not be read, and the pass after it does not remove the finalizer although nothing fails. -/
theorem finalization_stuck :
    Removable deletedCluster.key intact ∧ FaultyPasses deletedCluster.key intact (interrupted .getService) ∧
      ¬ Finalized deletedCluster.key (laterPass deletedCluster.key (interrupted .getService)) := by
  refine ⟨intact_removable, interrupted_reached .getService, fun hfinalized ↦ ?_⟩
  have hstored : (laterPass deletedCluster.key (interrupted .getService)).stored deletedCluster.key =
      some deletedCluster := by rfl
  exact hfinalized deletedCluster hstored (by decide)

end KvrocksOperator.Controllers.Finalization
