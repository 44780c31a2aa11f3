import KvrocksOperator.Client.StatefulSets
import KvrocksOperator.Cluster.Agreement
import KvrocksOperator.Cluster.Encoding
import KvrocksOperator.Interaction.Table
import KvrocksOperator.Migration.Matrix

/-!
# The world of a cluster instance

The controllers with their shards, the labels of the pods, the custom resources, the StatefulSets and the claims, and
how calls are answered when nobody else writes.  What a pass finds around it and never writes (the workloads, the
addresses and the pods) is a `Setting`.  The first phases of `Handle` are run here, in a world where no call fails and
nothing is left to do for them.
-/

namespace KvrocksOperator.Cluster.Rest

open Interaction Controller Resources

/-! ## The world of a pass -/

/-- What a pass finds around it and does not write. -/
structure Setting where
  workload : Kind → NamespacedName → Workload
  address : NamespacedName → String
  pods : String → StringMap → List Pod

/-- A claim for a volume and its labels. -/
structure VolumeClaim where
  key : NamespacedName
  labels : StringMap
  deriving DecidableEq

/-- The controllers, the labels of the pods, the custom resources, the StatefulSets and the claims. -/
structure World where
  store : Store
  labels : NamespacedName → StringMap
  instances : Table KVRocks.key
  sets : Table StatefulSet.key
  claims : Table VolumeClaim.key

/-- Whether labels have all that a selector asks for. -/
def selects (selector labels : StringMap) : Bool := selector.all fun entry ↦ labels.lookup entry.1 == some entry.2

/-- The StatefulSets of a namespace that a selector matches. -/
def listSets (sets : Table StatefulSet.key) (ns : String) (selector : StringMap) : List StatefulSet :=
  sets.rows.filter fun sts ↦ sts.ns == ns && selects selector sts.matchLabels

/-- The claims of a namespace that a selector matches. -/
def listClaims (claims : Table VolumeClaim.key) (ns : String) (selector : StringMap) : List NamespacedName :=
  (claims.rows.filter fun claim ↦ claim.key.ns == ns && selects selector claim.labels).map (·.key)

namespace World

variable (world : World)

/-- The labels of a pod are replaced. -/
def relabel (key : NamespacedName) (labels : StringMap) : World :=
  { world with labels := Function.update world.labels key labels }

/-- A custom resource is written. -/
def save (object : KVRocks) : World := { world with instances := world.instances.replace object }

def withSets (sets : Table StatefulSet.key) : World := { world with sets := sets }

end World

/-- A namespace of the controller is created, or exists already, and its clusters are left alone. -/
def Grants (before after : Store) : (request : Request) → Except GoError (Response request.Body) → Prop
  | .createNamespace _, reply => after.shards = before.shards ∧ ∃ response, reply = .ok response ∧
      (response.statusCode = statusCreated ∨ response.body = .ok "the entry already existed")
  | _, _ => True

/-- What the API server says of an object that is there or not. -/
def lookUp {α : Type} (found : Option α) : ApiResult α := found.elim (.error .notFound) .ok

/-- A write that is accepted on a condition. -/
def Accepted {α : Type} (condition : Prop) (refusal : ApiError) (write : α → World) (before : World)
    (reply : ApiResult α) (after : World) : Prop :=
  condition ∧ (∃ value, reply = .ok value ∧ after = write value) ∨ ¬ condition ∧ reply = .error refusal ∧ after = before

theorem accepted_total {α : Type} [Inhabited α] (condition : Prop) (refusal : ApiError) (write : α → World)
    (before : World) : ∃ reply after, Accepted condition refusal write before reply after := by
  by_cases h : condition
  · exact ⟨_, _, .inl ⟨h, default, rfl, rfl⟩⟩
  · exact ⟨_, _, .inr ⟨h, rfl, rfl⟩⟩

/-- How calls are answered when none fails and nobody else writes.  A write is refused when the object has changed
since it was read; the number of ready replicas is not what the operator writes but up to the StatefulSet. -/
def Reliable (S : Setting) : Program.Answers operator World
  | .http endPoint request, before, reply, after =>
    Serves endPoint request before.store reply after.store ∧ Grants before.store after.store request reply ∧
      after = { before with store := after.store }
  | .getPod key, before, reply, after =>
    after = before ∧ ∃ pod, reply = .ok pod ∧ (⟨pod.ns, pod.name⟩ : NamespacedName) = key ∧
      pod.labels = before.labels key
  | .updatePod pod, before, reply, after => reply = .ok () ∧ after = before.relabel ⟨pod.ns, pod.name⟩ pod.labels
  | .getKVRocks key, before, reply, after => after = before ∧ reply = lookUp (before.instances.find key)
  | .updateKVRocks object, before, reply, after =>
    Accepted ((before.instances.find object.key).map (·.resourceVersion) = some object.resourceVersion) .conflict
      (fun number ↦ before.save { object with resourceVersion := number }) before reply after
  | .getStatefulSet key, before, reply, after => after = before ∧ reply = lookUp (before.sets.find key)
  | .createStatefulSet sts, before, reply, after =>
    ∃ number ready, Accepted (before.sets.find sts.key = none) .alreadyExists (fun _ ↦
      before.withSets (before.sets.add { sts with resourceVersion := number, readyReplicas := ready })) before reply
      after
  | .updateStatefulSet sts, before, reply, after =>
    ∃ number ready, Accepted ((before.sets.find sts.key).isSome = true) .notFound (fun _ ↦
      before.withSets (before.sets.replace { sts with resourceVersion := number, readyReplicas := ready })) before reply
      after
  | .deleteStatefulSet key, before, _, after => after = before.withSets (before.sets.remove key)
  | .deletePVC key, before, _, after => after = { before with claims := before.claims.remove key }
  | .listStatefulSets ns selector, before, reply, after =>
    after = before ∧ reply = .ok (listSets before.sets ns selector)
  | .listPVC ns selector, before, reply, after => after = before ∧ reply = .ok (listClaims before.claims ns selector)
  | .listPods ns selector, before, reply, after => after = before ∧ reply = .ok (S.pods ns selector)
  | .getService key, before, reply, after => after = before ∧ reply = .ok (S.address key)
  | .getWorkload kind key, before, reply, after => after = before ∧ reply = .ok (S.workload kind key)
  | .createObject _ _, before, reply, after | .createConfigMap _, before, reply, after =>
    after = before ∧ (reply = .ok () ∨ reply = .error .alreadyExists)
  | .getConfigMap _, before, reply, after => after = before ∧ ∃ configMap, reply = .ok configMap
  | .node _ _ (.configGet _), before, reply, after => after = before ∧ ∃ name value, reply = .ok [name, value]
  | .updateConfigMap _, before, reply, after | .node _ _ .ping, before, reply, after
  | .node _ _ (.configSet _ _), before, reply, after | .node _ _ (.changePassword _), before, reply, after =>
    after = before ∧ reply = .ok ()
  | _, before, _, after => after = before

/-- Every call has such an answer. -/
theorem reliable_total (S : Setting) (request : Call) (world : World) :
    ∃ reply after, Reliable S request world reply after := by
  have hfailure := request.failure
  cases request with
  | http endPoint request =>
    cases request with
    | createNamespace ns =>
      exact ⟨.ok ⟨statusCreated, .ok ""⟩, { world with
        store := world.store.after endPoint (.createNamespace ns) ⟨"", "", ""⟩ (world.store.shards ⟨"", "", ""⟩) },
        ⟨_, _, rfl⟩, ⟨Function.update_eq_self _ _, _, rfl, .inl rfl⟩, rfl⟩
    | _ =>
      obtain ⟨reply, store, hserves⟩ := serves_total endPoint _ world.store
      exact ⟨reply, { world with store := store }, hserves, trivial, rfl⟩
  | updateKVRocks object => exact accepted_total _ _ _ _
  | createStatefulSet sts | updateStatefulSet sts =>
    exact (accepted_total _ _ _ _).imp fun _ ↦ Exists.imp fun _ haccepted ↦ ⟨0, 0, haccepted⟩
  | getPod key => exact ⟨_, _, rfl, ⟨key.ns, key.name, "", world.labels key, false⟩, rfl, rfl, rfl⟩
  | getConfigMap key => exact ⟨_, _, rfl, ⟨"", "", []⟩, rfl⟩
  | createObject | createConfigMap => exact ⟨_, _, rfl, .inl rfl⟩
  | node ip password command =>
    cases command with
    | configGet key => exact ⟨_, _, rfl, "", "", rfl⟩
    | role => exact ⟨hfailure, _, rfl⟩
    | _ => exact ⟨_, _, rfl, rfl⟩
  | _ => first | exact ⟨_, _, rfl, rfl⟩ | exact ⟨hfailure, _, rfl⟩

/-- The answers as a meaning of programs. -/
abbrev steady (S : Setting) : Meaning operator World := Meaning.sequential (Reliable S)

/-- The function returns a value, with this outcome, when no call fails. -/
abbrev Rests {α : Type} (S : Setting) (function : Go α) (post : α → World → Prop) (world : World) : Prop :=
  function.Yields (steady S) (fun _ ↦ False) post world

/-- The function returns and has changed nothing. -/
abbrev Idle {α : Type} (S : Setting) (function : Go α) (world : World) : Prop :=
  Rests S function (fun _ final ↦ final = world) world

/-- The function returns this value and has changed nothing. -/
abbrev Reads {α : Type} (S : Setting) (function : Go α) (value : α) (world : World) : Prop :=
  Rests S function (fun result final ↦ result = value ∧ final = world) world

/-- The method returns a value, with this outcome, when no call fails. -/
abbrev RestsAt {α : Type} (S : Setting) (method : HandlerM α) (post : α → Handler → World → Prop) (h : Handler)
    (world : World) : Prop :=
  method.Yields (steady S) (fun _ ↦ False) post h world

/-- The method returns and has changed nothing. -/
abbrev IdleAt (S : Setting) (method : HandlerM Unit) (h : Handler) (world : World) : Prop :=
  RestsAt S method (fun _ later final ↦ later = h ∧ final = world) h world

/-! ## What a pass must not change -/

/-- A custom resource without its annotations and its resource version. -/
def bare (object : KVRocks) : KVRocks := { object with annotations := [], resourceVersion := 0 }

/-- The world without the log of the controllers and without annotations and resource versions of custom resources. -/
structure Content where
  shards : ClusterKey → List ShardData
  labels : NamespacedName → StringMap
  instances : List KVRocks
  sets : Table StatefulSet.key
  claims : Table VolumeClaim.key

/-- The value of `kvrocks/role` on a pod. -/
def Content.roleLabel (content : Content) (key : NamespacedName) : String :=
  ((content.labels key).lookup kvrocksRole).getD ""

def World.content (world : World) : Content :=
  { shards := world.store.shards
    labels := world.labels
    instances := world.instances.rows.map bare
    sets := world.sets
    claims := world.claims }

/-- Nothing has been written since. -/
structure Still (world final : World) : Prop where
  content : final.content = world.content
  instances : final.instances = world.instances

namespace Still

variable {world middle final : World}

theorem refl (world : World) : Still world world := ⟨rfl, rfl⟩

theorem trans (h : Still world middle) (h' : Still middle final) : Still world final :=
  ⟨h'.content.trans h.content, h'.instances.trans h.instances⟩

theorem withStore {store : Store} (h : store.shards = world.store.shards) :
    Still world { world with store := store } := by
  refine ⟨?_, rfl⟩
  unfold World.content
  rw [h]

end Still

/-! ## Single calls -/

section Calls

variable {S : Setting} {world : World}

/-- A request that is answered. -/
theorem api_rests {α : Type} {program : Program operator (ApiResult α)} {post : α → World → Prop}
    (h : (steady S).wp program (fun reply final ↦ ∃ value, reply = .ok value ∧ post value final) world) :
    Rests S (Go.api program) post world := by
  apply ends_attempt
  apply (steady S).wp_mono h
  rintro _ final ⟨value, rfl, hpost⟩
  exact hpost

/-- A loop whose steps change nothing. -/
theorem idle_forEach {α : Type} {body : α → Go Unit} {items : List α} (h : ∀ item ∈ items, Idle S (body item) world) :
    Idle S (forEach body items) world := by
  apply ends_forEach_const (· = world) rfl
  rintro item hitem _ rfl
  exact h item hitem

/-- What exists already is left alone. -/
theorem createIfNotExists_rests {request : Program operator (ApiResult Unit)}
    (h : (steady S).wp request (fun reply final ↦ final = world ∧
      (reply = .ok () ∨ reply = .error .alreadyExists)) world) :
    Idle S (K8s.createIfNotExists request) world := by
  apply Fallible.ends_lift_bind
  apply (steady S).wp_mono h
  intro reply final hfinal
  rcases hfinal.2 with rfl | rfl <;> exact ends_pure hfinal.1

theorem createIfNotExistsObject_rests (kind : Kind) (key : NamespacedName) :
    Idle S (K8s.createIfNotExistsObject kind key) world := by
  apply createIfNotExists_rests
  exact fun _ _ hanswer ↦ hanswer

theorem createIfNotExistsConfigMap_rests (configMap : ConfigMap) :
    Idle S (K8s.createIfNotExistsConfigMap configMap) world := by
  apply createIfNotExists_rests
  exact fun _ _ hanswer ↦ hanswer

theorem getWorkload_rests (kind : Kind) (key : NamespacedName) :
    Reads S (K8s.getWorkload kind key) (S.workload kind key) world := by
  apply api_rests
  exact fun _ _ hanswer ↦ ⟨_, hanswer.2, rfl, hanswer.1⟩

theorem getConfigMap_rests (key : NamespacedName) : Idle S (K8s.getConfigMap key) world := by
  apply api_rests
  exact fun _ _ hanswer ↦ hanswer.2.imp fun _ hreply ↦ ⟨hreply, hanswer.1⟩

theorem updateConfigMap_rests (configMap : ConfigMap) : Idle S (K8s.updateConfigMap configMap) world := by
  apply api_rests
  exact fun _ _ hanswer ↦ ⟨_, hanswer.2, hanswer.1⟩

theorem getStatefulSet_rests {key : NamespacedName} {sts : StatefulSet} (h : world.sets.find key = some sts) :
    Reads S (K8s.getStatefulSet key) sts world := by
  apply api_rests
  exact fun _ _ hanswer ↦ ⟨sts, by rw [hanswer.2, h]; rfl, rfl, hanswer.1⟩

theorem getKVRocks_rests {key : NamespacedName} {object : KVRocks} (h : world.instances.find key = some object) :
    Reads S (K8s.getKVRocks key) object world := by
  apply api_rests
  exact fun _ _ hanswer ↦ ⟨object, by rw [hanswer.2, h]; rfl, rfl, hanswer.1⟩

theorem listStatefulSets_rests (ns : String) (selector : StringMap) :
    Reads S (K8s.listStatefulSets ns selector) (listSets world.sets ns selector) world := by
  apply api_rests
  exact fun _ _ hanswer ↦ ⟨_, hanswer.2, rfl, hanswer.1⟩

theorem listPods_rests (ns : String) (selector : StringMap) :
    Reads S (Go.api (ask (.listPods ns selector))) (S.pods ns selector) world := by
  apply api_rests
  exact fun _ _ hanswer ↦ ⟨_, hanswer.2, rfl, hanswer.1⟩

theorem listPVC_rests (ns : String) (selector : StringMap) :
    Reads S (K8s.listPVC ns selector) (listClaims world.claims ns selector) world := by
  apply api_rests
  exact fun _ _ hanswer ↦ ⟨_, hanswer.2, rfl, hanswer.1⟩

theorem getPod_rests (key : NamespacedName) :
    Rests S (K8s.getPod key) (fun pod final ↦ pod.labels = world.labels key ∧ final = world) world := by
  apply api_rests
  exact fun _ _ hanswer ↦ hanswer.2.imp fun _ hpod ↦ ⟨hpod.1, hpod.2.2, hanswer.1⟩

theorem ping_rests (ip password : String) : Reads S (Kvrocks.ping ip password) true world := by
  apply ends_lift
  apply ((steady S).wp_bind _ _ _ _).mpr
  intro reply final hanswer
  rw [show reply = .ok () from hanswer.2]
  exact ⟨rfl, hanswer.1⟩

/-- The object is written over the one that it was read from. -/
theorem updates_rests {object old : KVRocks} {post : KVRocks → World → Prop}
    (hstored : world.instances.find object.key = some old) (hversion : old.resourceVersion = object.resourceVersion)
    (h : ∀ number, post { object with resourceVersion := number }
      (world.save { object with resourceVersion := number })) :
    Updates (steady S) (fun _ ↦ False) object post world := by
  intro reply final hanswer
  rcases hanswer with ⟨-, number, rfl, rfl⟩ | ⟨hrefused, -⟩
  · exact h number
  · exact absurd (by rw [hstored, Option.map_some, hversion]) hrefused

end Calls

/-! ## The controller -/

/-- The client with the address of the controller of a namespace. -/
def Setting.reach (S : Setting) (client : Client) (ns : String) : Client :=
  { client with
    endPoint := "http://" ++ S.address ⟨ns, Kvrocks.controllerServiceName⟩ ++ ":" ++
      Text.itoa Kvrocks.controllerPort ++ "/api/v1" }

/-- The controller of a namespace and its store are up. -/
structure Setting.Up (S : Setting) (ns : String) : Prop where
  etcd : Workload.isReady (S.workload .nativeStatefulSet ⟨ns, Kvrocks.etcdStatefulName⟩) = true
  controller : Workload.isReady (S.workload .deployment ⟨ns, Kvrocks.controllerDeploymentName⟩) = true

section Controller

variable {S : Setting} {world : World}

theorem setEndPoint_rests (client : Client) (ns : String) :
    Reads S (setEndPoint client ns) (S.reach client ns) world := by
  have hask : Reads S (Go.api (ask (.getService ⟨ns, Kvrocks.controllerServiceName⟩)))
      (S.address ⟨ns, Kvrocks.controllerServiceName⟩) world := by
    apply api_rests
    exact fun _ _ hanswer ↦ ⟨_, hanswer.2, rfl, hanswer.1⟩
  apply hask.bind
  intro ip final hip
  obtain ⟨rfl, hfinal⟩ := hip
  exact ends_pure ⟨rfl, hfinal⟩

/-- A namespace that exists already is no failure. -/
theorem createControllerNamespace_rests (client : Client) :
    Rests S (createControllerNamespace client) (fun _ final ↦ Still world final) world := by
  have hsend : Rests S (send client (.createNamespace client.ns)) (fun response final ↦
      (response.statusCode = statusCreated ∨ response.body = .ok "the entry already existed") ∧ Still world final)
      world := by
    apply ends_attempt
    intro reply final hanswer
    obtain ⟨-, ⟨hspares, response, rfl, hresponse⟩, hfinal⟩ := hanswer
    refine ⟨hresponse, ?_⟩
    rw [hfinal]
    exact Still.withStore hspares
  apply hsend.bind
  intro response final hresponse
  obtain ⟨hresponse, hstill⟩ := hresponse
  split
  · rename_i hcode
    rw [hresponse.resolve_left hcode]
    exact ends_pure hstill
  · exact ends_pure hstill

theorem ensureController_rests {h : Handler} (hup : S.Up h.instance_.ns) :
    RestsAt S ensureController (fun _ later final ↦
      later = { h with controllerClient := S.reach h.controllerClient h.instance_.ns } ∧
        Still world final) h world := by
  apply ends_get_bind
  apply ends_lift_bind (createIfNotExistsObject_rests _ _)
  rintro _ _ rfl
  apply ends_lift_bind (createIfNotExistsObject_rests _ _)
  rintro _ _ rfl
  apply ends_lift_bind (getWorkload_rests _ _)
  rintro _ _ ⟨rfl, rfl⟩
  rw [if_pos hup.etcd]
  apply ends_get_bind
  apply ends_lift_bind (createIfNotExistsConfigMap_rests _)
  rintro _ _ rfl
  apply ends_lift_bind (createIfNotExistsObject_rests _ _)
  rintro _ _ rfl
  apply ends_lift_bind (createIfNotExistsObject_rests _ _)
  rintro _ _ rfl
  apply ends_lift_bind (getWorkload_rests _ _)
  rintro _ _ ⟨rfl, rfl⟩
  rw [if_pos hup.controller]
  apply ends_lift_bind (setEndPoint_rests _ _)
  rintro _ _ ⟨rfl, rfl⟩
  apply ends_modify_bind
  apply Method.ends_lift
  apply (createControllerNamespace_rests _).imp
  exact fun _ _ hstill ↦ ⟨rfl, hstill⟩

end Controller

/-! ## StatefulSets -/

/-- The StatefulSet of a shard is not to grow, all of its replicas are ready, and these are the nodes of its pods. -/
def ShardReady (S : Setting) (instance_ : KVRocks) (sets : Table StatefulSet.key) (index : ℕ)
    (nodes : List Kvrocks.Node) : Prop :=
  ∃ sts found, sets.find (statefulSetKey instance_ index) = some sts ∧
    K8s.replicasDelta (newClusterStatefulSet instance_ index) sts ≤ 0 ∧ sts.readyReplicas = sts.replicas ∧
    podNodes (S.pods sts.ns sts.matchLabels) = .ok (some found) ∧ sortNodes found = nodes

/-- The StatefulSet of a shard has the images that the operator would give it. -/
def HasImages (instance_ : KVRocks) (sets : Table StatefulSet.key) (index : ℕ) : Prop :=
  ∃ sts, sets.find (statefulSetKey instance_ index) = some sts ∧ sts.image = instance_.spec.image ∧
    sts.exporterImage = exporterImage

/-- The StatefulSets are as the instance asks for them, and these are the nodes of their pods. -/
structure Provided (S : Setting) (instance_ : KVRocks) (sets : Table StatefulSet.key) (pods : Matrix) : Prop where
  images : ∀ index < instance_.spec.master, HasImages instance_ sets index
  listed : (listSets sets instance_.ns (selectorLabels instance_)).length = pods.length
  enough : instance_.spec.master ≤ pods.length
  ready : ∀ index nodes, pods[index]? = some nodes → ShardReady S instance_ sets index nodes

section StatefulSets

variable {S : Setting} {world : World} {instance_ : KVRocks}

/-- The images are right. -/
theorem createStatefulSetOrUpdateImage_rests {index : ℕ} (h : HasImages instance_ world.sets index) :
    Idle S (K8s.createStatefulSetOrUpdateImage (newClusterStatefulSet instance_ index)) world := by
  obtain ⟨sts, hfind, himage, hexporter⟩ := h
  apply Fallible.ends_lift_bind
  intro reply final hanswer
  obtain rfl : reply = .ok sts := hanswer.2.trans (congrArg lookUp hfind)
  have hsame : sts.image = (newClusterStatefulSet instance_ index).image ∧
      sts.exporterImage = (newClusterStatefulSet instance_ index).exporterImage := ⟨himage, hexporter⟩
  change (if _ then pure () else _ : Go Unit).Yields _ _ _ _
  rw [if_pos hsame]
  exact ends_pure hanswer.1

/-- There is nothing to scale up. -/
theorem scaleUp_rests {index : ℕ} {nodes : List Kvrocks.Node} (h : ShardReady S instance_ world.sets index nodes) :
    Idle S (scaleUp instance_ index) world := by
  obtain ⟨sts, found, hfind, hdelta, -⟩ := h
  apply (getStatefulSet_rests hfind).bind
  intro oldSts final hold
  obtain ⟨rfl, hfinal⟩ := hold
  simp only
  rw [if_neg (not_lt.mpr hdelta)]
  exact ends_pure hfinal

theorem initShardNodes_rests {index : ℕ} {nodes : List Kvrocks.Node}
    (h : ShardReady S instance_ world.sets index nodes) :
    Reads S (initShardNodes instance_ index) (some nodes) world := by
  obtain ⟨sts, found, hfind, -, hready, hpods, rfl⟩ := h
  have hlist : Reads S (K8s.listStatefulSetPods (statefulSetKey instance_ index))
      (S.pods sts.ns sts.matchLabels) world := by
    apply (getStatefulSet_rests hfind).bind
    rintro _ _ ⟨rfl, rfl⟩
    exact listPods_rests _ _
  apply (getStatefulSet_rests hfind).bind
  rintro _ _ ⟨rfl, rfl⟩
  rw [if_neg (not_not.mpr hready)]
  apply hlist.bind
  rintro _ _ ⟨rfl, rfl⟩
  rw [hpods]
  exact ends_pure ⟨rfl, rfl⟩

/-- The pods of all shards are listed. -/
theorem initStsNodes_rests {pods : Matrix}
    (hready : ∀ index nodes, pods[index]? = some nodes → ShardReady S instance_ world.sets index nodes)
    {indices : List ℕ} (hindices : ∀ index ∈ indices, index < pods.length) :
    Reads S (initStsNodes instance_ indices) (some (indices.map fun index ↦ pods.getD index [])) world := by
  induction indices with
  | nil => exact ends_pure ⟨rfl, rfl⟩
  | cons index indices ih =>
    obtain ⟨hindex, hrest⟩ := List.forall_mem_cons.mp hindices
    apply (initShardNodes_rests (hready index _ (List.getElem?_eq_getElem hindex))).bind
    rintro _ _ ⟨rfl, rfl⟩
    apply (ih hrest).bind
    rintro _ _ ⟨rfl, rfl⟩
    refine ends_pure ⟨?_, rfl⟩
    rw [List.map_cons, List.getD_eq_getElem _ _ hindex]

end StatefulSets

section Kubernetes

variable {S : Setting} {world : World} {h : Handler} {pods fixed : Matrix}

/-- The records are restored over the pods. -/
theorem fixTopo_rests (hsynced : world.instances.find h.key = some h.instance_)
    (hfixed : restoreTopo h.instance_.status.topo pods = some fixed) :
    RestsAt S (fixTopo pods) (fun _ later final ↦
      later = { h with stsNodes := fixed, version := h.instance_.status.version } ∧ final = world) h world := by
  apply ends_get_bind
  apply ends_lift_bind (getKVRocks_rests hsynced)
  rintro _ world ⟨rfl, rfl⟩
  rw [if_neg (not_not.mpr rfl), hfixed]
  apply ends_lift_bind (ends_pure ⟨rfl, rfl⟩ : (pure fixed : Go _).Yields _ _
    (fun found final ↦ found = fixed ∧ final = world) world)
  rintro _ world ⟨rfl, rfl⟩
  exact ends_modify ⟨rfl, rfl⟩

theorem map_getD_range (pods : Matrix) : (List.range pods.length).map (fun index ↦ pods.getD index []) = pods := by
  apply List.ext_getElem
  · simp
  · intro index hfirst hsecond
    rw [List.getElem_map, List.getElem_range, List.getD_eq_getElem _ _ hsecond]

/-- No StatefulSet is written, and the matrix is that of the status over the pods. -/
theorem ensureKubernetes_rests (hsynced : world.instances.find h.key = some h.instance_)
    (hprovided : Provided S h.instance_ world.sets pods)
    (hfixed : restoreTopo h.instance_.status.topo pods = some fixed) :
    RestsAt S ensureKubernetes (fun _ later final ↦ (∃ password, later =
        { h with password := password, stsNodes := fixed, version := h.instance_.status.version }) ∧
      final = world) h world := by
  have himages : Idle S (forEach
      (fun index ↦ K8s.createStatefulSetOrUpdateImage (newClusterStatefulSet h.instance_ index))
      (List.range h.instance_.spec.master) : Go Unit) world :=
    idle_forEach fun index hindex ↦
      createStatefulSetOrUpdateImage_rests (hprovided.images index (List.mem_range.mp hindex))
  have hscale : Idle S (forEach (scaleUp h.instance_) (List.range pods.length) : Go Unit) world :=
    idle_forEach fun index hindex ↦
      scaleUp_rests (hprovided.ready index _ (List.getElem?_eq_getElem (List.mem_range.mp hindex)))
  have hread : Reads S (initStsNodes h.instance_ (List.range pods.length)) (some pods) world := by
    have hinit : Rests S (initStsNodes h.instance_ (List.range pods.length)) _ world :=
      initStsNodes_rests hprovided.ready fun index hindex ↦ List.mem_range.mp hindex
    rwa [map_getD_range] at hinit
  have hconfigMap : Rests S (K8s.getConfigMap h.key).handle
      (fun result final ↦ (∃ configMap, result = .ok configMap) ∧ final = world) world := by
    apply yields_handle
    apply (getConfigMap_rests h.key).mono (fun _ hnever ↦ hnever.elim)
    intro configMap final hfinal
    exact ⟨⟨configMap, rfl⟩, hfinal⟩
  apply ends_get_bind
  apply ends_lift_bind (createIfNotExistsConfigMap_rests _)
  rintro _ world rfl
  apply ends_lift_bind (createIfNotExistsObject_rests _ _)
  rintro _ world rfl
  apply ends_lift_bind hconfigMap
  rintro _ world ⟨⟨configMap, rfl⟩, rfl⟩
  apply ends_modify_bind
  apply ends_get_bind
  apply ends_lift_bind himages
  rintro _ world rfl
  apply ends_lift_bind (listStatefulSets_rests _ _)
  rintro _ world ⟨rfl, rfl⟩
  have hlisted := hprovided.listed
  have hcount : ¬ (listSets world.sets h.instance_.ns (selectorLabels h.instance_)).length <
      h.instance_.spec.master := by
    rw [hlisted]
    exact not_lt.mpr hprovided.enough
  rw [if_neg hcount, hlisted]
  apply ends_lift_bind hscale
  rintro _ world rfl
  apply ends_lift_bind hread
  rintro _ world ⟨rfl, rfl⟩
  apply (fixTopo_rests (by exact hsynced) (by exact hfixed)).imp
  rintro _ later final ⟨rfl, rfl⟩
  exact ⟨⟨_, rfl⟩, rfl⟩

/-! ## Failed nodes and configuration -/

/-- All nodes answer, and none is flagged. -/
theorem ensureFailover_rests (hunflagged : Encoding.Unflagged h) : IdleAt S ensureFailover h world := by
  have hnode (partition index : ℕ) {node : Kvrocks.Node} (hflag : node.failover = false) (current : Handler)
      (later : World) (hsame : current = h ∧ later = world) :
      RestsAt S (failoverNode partition index node)
        (fun result current final ↦ result = (node, false) ∧ current = h ∧ final = world) current later := by
    obtain ⟨rfl, rfl⟩ := hsame
    apply ends_get_bind
    rw [if_neg (by rw [hflag]; decide)]
    apply ends_lift_bind (ping_rests _ _)
    rintro _ world ⟨rfl, rfl⟩
    rw [if_pos rfl]
    exact Method.ends_pure ⟨rfl, rfl, rfl⟩
  have hloop : RestsAt S (mapEach (fun (shard : List Kvrocks.Node × ℕ) ↦
      mapEach (fun (entry : Kvrocks.Node × ℕ) ↦ failoverNode shard.2 entry.2 entry.1) shard.1.zipIdx)
      h.stsNodes.zipIdx : HandlerM _) (fun results later final ↦
        results = h.stsNodes.zipIdx.map (fun shard ↦ shard.1.zipIdx.map fun entry ↦ (entry.1, false)) ∧
          later = h ∧ final = world) h world := by
    apply Method.yields_mapEach_image _ (fun later final ↦ later = h ∧ final = world) ⟨rfl, rfl⟩
    intro shard hshard later current hsame
    have hnodes := hunflagged shard.1 (List.fst_mem_of_mem_zipIdx hshard)
    apply Method.yields_mapEach_image _ (fun later final ↦ later = h ∧ final = world) hsame
    intro entry hentry later current hsame
    exact hnode shard.2 entry.2 (hnodes entry.1 (List.fst_mem_of_mem_zipIdx hentry)) later current hsame
  have hfirst : (h.stsNodes.zipIdx.map fun shard ↦ shard.1.zipIdx.map fun entry ↦ (entry.1, false)).map
      (·.map Prod.fst) = h.stsNodes := by
    simp only [List.map_map, Function.comp_def, List.zipIdx_map_fst]
  have hsecond : (h.stsNodes.zipIdx.map fun shard ↦ shard.1.zipIdx.map fun entry ↦ (entry.1, false)).any
      (·.any Prod.snd) = false := by
    simp
  apply ends_get_bind
  apply hloop.bind
  rintro results later final ⟨rfl, rfl, rfl⟩
  apply ends_modify_bind
  rw [hsecond, hfirst, if_neg Bool.false_ne_true]
  exact Method.ends_pure ⟨rfl, rfl⟩

end Kubernetes

section Config

variable {S : Setting} {world : World} {h : Handler}

theorem ensureKey_rests (password : String) (node : Kvrocks.Node) (entry : String × String) :
    Idle S (Common.ensureKey password node entry) world := by
  have hget : Idle S (Kvrocks.getConfig node.ip password entry.1) world := by
    have hask : Rests S (Go.remote (ask (.node node.ip password (.configGet entry.1))))
        (fun value final ↦ (∃ name result, value = [name, result]) ∧ final = world) world := by
      apply ends_attempt
      intro reply final hanswer
      obtain ⟨name, result, rfl⟩ := hanswer.2
      exact ⟨⟨name, result, rfl⟩, hanswer.1⟩
    apply hask.bind
    rintro _ final ⟨⟨name, result, rfl⟩, hfinal⟩
    exact ends_pure hfinal
  apply hget.bind
  rintro value world rfl
  split
  · apply ends_attempt
    rintro _ final ⟨hfinal, rfl⟩
    exact hfinal
  · exact ends_pure rfl

theorem ensureNodeConfig_rests (instance_ : KVRocks) (password : String) (node : Kvrocks.Node) :
    Idle S (Common.ensureNodeConfig instance_ password node) world := by
  have hkeys : Idle S (forEach (Common.ensureKey password node)
      (parseKVRocksConfigs instance_.spec.kvrocksConfig) : Go Unit) world :=
    idle_forEach fun entry _ ↦ ensureKey_rests password node entry
  apply hkeys.bind
  rintro _ world rfl
  split
  · apply ends_attempt
    rintro _ final ⟨hfinal, rfl⟩
    exact hfinal
  · exact ends_pure rfl

/-- Whatever is sent to the nodes, the rest of the world does not notice. -/
theorem ensureKVRocksConfig_rests : RestsAt S ensureKVRocksConfig (fun _ later final ↦
      later = { h with password := h.instance_.spec.password } ∧ final = world) h world := by
  have hnodes : Idle S (forEach (Common.ensureConfig h.instance_ h.password) h.stsNodes : Go Unit) world :=
    idle_forEach fun nodes _ ↦ idle_forEach fun node _ ↦ ensureNodeConfig_rests h.instance_ h.password node
  apply ends_get_bind
  apply ends_lift_bind hnodes
  rintro _ world rfl
  apply ends_modify_bind
  apply Method.ends_lift
  apply (updateConfigMap_rests _).imp
  exact fun _ _ hfinal ↦ ⟨rfl, hfinal⟩

end Config

end KvrocksOperator.Cluster.Rest
