import KvrocksOperator.Cluster.Convergence
import KvrocksOperator.Cluster.Identity
import KvrocksOperator.Cluster.Rules

/-!
# The persisted topology and the controller

After an `ensureKVRocksStatus` that returns nil, the records of the status and the labels of the pods say what the
controller says.  The phases of the function are taken one after the other: `ensureReplication` keeps the pods of the
matrix, `updateCluster` leaves the controller with exactly their addresses, `ensureSetNodeID` overwrites what every
node had from elsewhere, and `ensureStatusTopoMsg` writes the result.
-/

namespace KvrocksOperator.Cluster

open Interaction Controller Resources Sequences

namespace Agreement

/-! ## The world of a pass -/

/-- The controllers, the labels of the pods and the persisted instance. -/
structure World where
  store : Store
  labels : NamespacedName → StringMap
  persisted : KVRocks

/-- The value of `kvrocks/role` on a pod. -/
def World.roleLabel (world : World) (key : NamespacedName) : String := ((world.labels key).lookup kvrocksRole).getD ""

/-- The labels of a pod are replaced. -/
def World.relabel (world : World) (key : NamespacedName) (labels : StringMap) : World :=
  { world with labels := Function.update world.labels key labels }

/-- The instance is written. -/
def World.save (world : World) (instance_ : KVRocks) : World := { world with persisted := instance_ }

/-- The controllers carry out what they are asked; requests to the API server may fail, and those that do not are
carried out; anything may come back from the other calls. -/
def Answers : Program.Answers operator World
  | .http endPoint request, before, reply, after =>
    Serves endPoint request before.store reply after.store ∧ after = { before with store := after.store }
  | .getPod key, before, reply, after =>
    after = before ∧ ∀ pod, reply = .ok pod →
      (⟨pod.ns, pod.name⟩ : NamespacedName) = key ∧ pod.labels = before.labels key
  | .updatePod pod, before, reply, after =>
    match reply with
    | .ok _ => after = before.relabel ⟨pod.ns, pod.name⟩ pod.labels
    | .error _ => after = before
  | .updateKVRocks instance_, before, reply, after =>
    match reply with
    | .ok version => after = before.save { instance_ with resourceVersion := version }
    | .error _ => after = before
  | _, before, _, after => after = before

/-- The world as a meaning of programs. -/
abbrev around : Meaning operator World := Meaning.sequential Answers

/-- No failure is excluded. -/
abbrev anyFailure : World → Prop := fun _ ↦ True

/-- The controllers are a part of the world that answers as it does alone. -/
theorem answers_view (request : Call) (before : World) (reply : request.Reply) (after : World)
    (h : Answers request before reply after) : Controller.answers request before.store reply after.store := by
  cases request with
  | http endPoint request => exact h.1
  | getPod key =>
    rw [h.1]
    rfl
  | updatePod pod =>
    cases reply with
    | ok _ =>
      have hafter : after = before.relabel ⟨pod.ns, pod.name⟩ pod.labels := h
      rw [hafter]
      rfl
    | error error =>
      have hafter : after = before := h
      rw [hafter]
      rfl
  | updateKVRocks instance_ =>
    cases reply with
    | ok version =>
      have hafter : after = before.save { instance_ with resourceVersion := version } := h
      rw [hafter]
      rfl
    | error error =>
      have hafter : after = before := h
      rw [hafter]
      rfl
  | _ => exact congrArg World.store h

/-! ## Labels -/

theorem lookup_set (map : StringMap) (key value : String) : (map.set key value).lookup key = some value := by
  unfold StringMap.set
  rw [List.lookup_cons, beq_self_eq_true]

/-- Only the labels of some pods differ. -/
structure Relabelled (touched : NamespacedName → Prop) (before after : World) : Prop where
  shards : after.store.shards = before.store.shards
  others : ∀ key, ¬ touched key → after.labels key = before.labels key

theorem Relabelled.refl (touched : NamespacedName → Prop) (world : World) :
    Relabelled touched world world := ⟨rfl, fun _ _ ↦ rfl⟩

variable {touched : NamespacedName → Prop}

theorem Relabelled.trans {first second third : World} (h : Relabelled touched first second)
    (h' : Relabelled touched second third) : Relabelled touched first third where
  shards := h'.shards.trans h.shards
  others key hkey := (h'.others key hkey).trans (h.others key hkey)

theorem Relabelled.mono {touched' : NamespacedName → Prop} {before after : World}
    (h : Relabelled touched before after) (htouched : ∀ key, touched key → touched' key) :
    Relabelled touched' before after where
  shards := h.shards
  others key hkey := h.others key fun htouch ↦ hkey (htouched key htouch)

/-- Other pods keep their labels. -/
theorem Relabelled.roleLabel {before after : World} (h : Relabelled touched before after) {key : NamespacedName}
    (hkey : ¬ touched key) : after.roleLabel key = before.roleLabel key := by
  unfold World.roleLabel
  rw [h.others key hkey]

/-- One pod gets its label. -/
theorem updatePodLabels_yields (key : NamespacedName) (role : Role) (world : World) :
    (updatePodLabels key role).Yields around anyFailure (fun _ final ↦
      final.roleLabel key = role.text ∧ Relabelled (· = key) world final) world := by
  have hget : (K8s.getPod key).Yields around anyFailure (fun pod final ↦ final = world ∧
      (⟨pod.ns, pod.name⟩ : NamespacedName) = key ∧ pod.labels = world.labels key) world := by
    apply ends_attempt
    intro reply after hanswer
    cases reply with
    | ok pod => exact ⟨hanswer.1, hanswer.2 pod rfl⟩
    | error error => trivial
  apply hget.bind
  intro pod later hpod
  obtain ⟨rfl, hkey, hlabels⟩ := hpod
  split
  · apply ends_attempt
    intro reply after hanswer
    cases reply with
    | error error => trivial
    | ok _ =>
      have hafter : after = later.relabel key (pod.labels.set kvrocksRole role.text) := by
        rw [← hkey]
        exact hanswer
      have hlabel : after.roleLabel key = role.text := by
        rw [hafter]
        simp [World.roleLabel, World.relabel, lookup_set]
      refine ⟨hlabel, ?_, fun other hother ↦ ?_⟩
      · rw [hafter]
        rfl
      · rw [hafter]
        exact Function.update_of_ne hother _ _
  · rename_i hsame
    apply ends_pure
    rw [not_not, hlabels] at hsame
    exact ⟨hsame, Relabelled.refl _ _⟩

/-- The pod of the node is labelled with its role. -/
theorem labelNode_yields (instance_ : KVRocks) (partition : ℕ) (node : Kvrocks.Node) (world : World) :
    (labelNode instance_ partition node).Yields around anyFailure (fun result final ↦
      result = node ∧ final.roleLabel (podKey instance_ partition node) = node.role.text ∧
        Relabelled (· = podKey instance_ partition node) world final) world :=
  labelNode_yields_of (updatePodLabels_yields _ node.role world)

/-- The pods of a shard. -/
def podsOf (instance_ : KVRocks) (partition : ℕ) (key : NamespacedName) : Prop :=
  ∃ node, key = podKey instance_ partition node

theorem podKey_of_stub_eq (instance_ : KVRocks) (partition : ℕ) {node node' : Kvrocks.Node}
    (h : stub node = stub node') : podKey instance_ partition node = podKey instance_ partition node' := by
  unfold podKey
  rw [podIndex_of_stub_eq h]

/-- The labels of the first pods of a shard are done. -/
structure LabelledUpTo (instance_ : KVRocks) (partition : ℕ) (nodes : List Kvrocks.Node)
    (image : Kvrocks.Node → Kvrocks.Node) (world : World) (images : List Kvrocks.Node)
    (final : World) : Prop where
  taken : images = (nodes.take images.length).map image
  labelled : ∀ index < images.length, ∀ node, nodes[index]? = some node →
    final.roleLabel (podKey instance_ partition node) = (image node).role.text
  frame : Relabelled (podsOf instance_ partition) world final

variable {world final : World}

/-- One node more. -/
theorem LabelledUpTo.next {instance_ : KVRocks} {partition : ℕ} {nodes : List Kvrocks.Node}
    {image : Kvrocks.Node → Kvrocks.Node} (hordinals : (nodes.map (·.podIndex)).Nodup) {later : World}
    {images : List Kvrocks.Node} {node : Kvrocks.Node}
    (h : LabelledUpTo instance_ partition nodes image world images later) (hnode : nodes[images.length]? = some node)
    (hlabel : final.roleLabel (podKey instance_ partition node) = (image node).role.text)
    (hframe : Relabelled (· = podKey instance_ partition node) later final) :
    LabelledUpTo instance_ partition nodes image world (images ++ [image node]) final := by
  constructor
  · rw [List.length_append, List.length_singleton, List.take_add_one, hnode, List.map_append, ← h.taken]
    rfl
  · intro index hindex other hother
    rw [List.length_append, List.length_singleton] at hindex
    by_cases hlast : index = images.length
    · rw [hlast, hnode] at hother
      cases hother
      exact hlabel
    · have hne : podKey instance_ partition other ≠ podKey instance_ partition node := by
        intro hsame
        apply hlast
        have hlt : index < (nodes.map (·.podIndex)).length := by
          rw [List.length_map]
          exact (List.getElem?_eq_some_iff.mp hother).1
        apply (List.getElem?_inj hlt hordinals).mp
        rw [List.getElem?_map, List.getElem?_map, hother, hnode, Option.map_some, Option.map_some, (podKey_inj hsame).2]
      rw [hframe.roleLabel hne]
      exact h.labelled index (by omega) other hother
  · apply h.frame.trans
    apply hframe.mono
    intro key hkey
    exact ⟨node, hkey⟩

/-- A loop that labels the nodes of a shard with their roles. -/
theorem labelShard_yields (instance_ : KVRocks) (partition : ℕ) {nodes : List Kvrocks.Node}
    {image : Kvrocks.Node → Kvrocks.Node} (himage : ∀ node, stub (image node) = stub node)
    (hordinals : (nodes.map (·.podIndex)).Nodup) (world : World) :
    (mapEach (fun node ↦ labelNode instance_ partition (image node)) nodes).Yields around anyFailure
      (fun images final ↦ images = nodes.map image ∧
        (∀ node ∈ nodes, final.roleLabel (podKey instance_ partition node) = (image node).role.text) ∧
        Relabelled (podsOf instance_ partition) world final) world := by
  have hloop : (mapEach (fun node ↦ labelNode instance_ partition (image node)) nodes).Yields around
      anyFailure (fun images final ↦ images.length = nodes.length ∧
        LabelledUpTo instance_ partition nodes image world images final) world := by
    apply yields_mapEach_index (LabelledUpTo instance_ partition nodes image world)
    · exact ⟨rfl, fun index hindex ↦ absurd hindex (Nat.not_lt_zero index), Relabelled.refl _ _⟩
    · intro images node hnode later hlater
      apply (labelNode_yields instance_ partition (image node) later).imp
      intro result final hfinal
      rw [podKey_of_stub_eq instance_ partition (himage node)] at hfinal
      rw [hfinal.1]
      exact hlater.next hordinals hnode hfinal.2.1 hfinal.2.2
  apply hloop.imp
  intro images final hfinal
  refine ⟨?_, fun node hnode ↦ ?_, hfinal.2.frame⟩
  · rw [hfinal.2.taken, hfinal.1, List.take_length]
  · obtain ⟨index, hindex⟩ := List.mem_iff_getElem?.mp hnode
    apply hfinal.2.labelled index _ node hindex
    rw [hfinal.1]
    exact (List.getElem?_eq_some_iff.mp hindex).1

/-! ## Replication -/

/-- Following a master changes neither address nor ordinal. -/
theorem stub_followMaster (masterID : String) (node : Kvrocks.Node) :
    stub (followMaster masterID node) = stub node := by
  unfold followMaster
  split_ifs <;> rfl

/-- The nodes of a shard, of which the first is the master if no node with an id is. -/
def nominated (nodes : List Kvrocks.Node) : List Kvrocks.Node :=
  if masterNodeID nodes = "" then nodes.modifyHead ({ · with role := .master }) else nodes

/-- The node id that the nodes of a shard are to follow. -/
def leaderID (nodes : List Kvrocks.Node) : String :=
  if masterNodeID nodes = "" then (nodes.head?.map (·.nodeId)).getD "" else masterNodeID nodes

/-- What `ensureReplication` makes of the nodes of a shard. -/
def elected (nodes : List Kvrocks.Node) : List Kvrocks.Node := (nominated nodes).map (followMaster (leaderID nodes))

/-- The two steps of `ensureReplication` for a shard with nodes. -/
theorem replicateShard_eq (instance_ : KVRocks) (partition : ℕ) {nodes : List Kvrocks.Node} (hne : nodes ≠ []) :
    replicateShard instance_ partition nodes =
      mapEach (fun node ↦ labelNode instance_ partition (followMaster (leaderID nodes) node)) (nominated nodes) := by
  unfold replicateShard nominated leaderID
  split_ifs with hmaster
  · cases nodes with
    | nil => exact absurd rfl hne
    | cons first rest => rfl
  · rfl

theorem stub_nominated (nodes : List Kvrocks.Node) : (nominated nodes).map stub = nodes.map stub := by
  unfold nominated
  split_ifs
  · cases nodes <;> rfl
  · rfl

theorem stub_elected (nodes : List Kvrocks.Node) : (elected nodes).map stub = nodes.map stub := by
  have hstub : stub ∘ followMaster (leaderID nodes) = stub := funext (stub_followMaster (leaderID nodes))
  rw [elected, List.map_map, hstub, stub_nominated]

theorem podIndex_nominated (nodes : List Kvrocks.Node) :
    (nominated nodes).map (·.podIndex) = nodes.map (·.podIndex) := by
  unfold nominated
  split_ifs
  · cases nodes <;> rfl
  · rfl

/-- A shard is replicated as `elected` says, and its pods are labelled with the roles. -/
theorem replicateShard_elects (instance_ : KVRocks) (partition : ℕ) {nodes : List Kvrocks.Node}
    (hordinals : (nodes.map (·.podIndex)).Nodup) (world : World) :
    (replicateShard instance_ partition nodes).Yields around anyFailure (fun replicated final ↦
      (replicated = elected nodes ∧ nodes ≠ []) ∧
      (∀ node ∈ elected nodes, final.roleLabel (podKey instance_ partition node) = node.role.text) ∧
      Relabelled (podsOf instance_ partition) world final) world := by
  by_cases hne : nodes = []
  · rw [hne]
    exact ends_panic trivial
  · rw [replicateShard_eq instance_ partition hne]
    have hdistinct : ((nominated nodes).map (·.podIndex)).Nodup := by rwa [podIndex_nominated]
    apply (labelShard_yields instance_ partition (stub_followMaster (leaderID nodes)) hdistinct world).imp
    intro replicated final hfinal
    refine ⟨⟨hfinal.1, hne⟩, List.forall_mem_map.mpr fun node hnode ↦ ?_, hfinal.2.2⟩
    rw [podKey_of_stub_eq instance_ partition (stub_followMaster (leaderID nodes) node)]
    exact hfinal.2.1 node hnode

/-- The matrix still describes the same pods, and the controllers have not changed. -/
theorem replicateShard_yields (instance_ : KVRocks) (partition : ℕ) {nodes : List Kvrocks.Node}
    (hordinals : (nodes.map (·.podIndex)).Nodup) (world : World) :
    (replicateShard instance_ partition nodes).Yields around anyFailure (fun replicated final ↦
      (replicated.map stub = nodes.map stub ∧ nodes ≠ []) ∧ final.store.shards = world.store.shards) world := by
  apply (replicateShard_elects instance_ partition hordinals world).imp
  intro replicated final hfinal
  refine ⟨⟨?_, hfinal.1.2⟩, hfinal.2.2.shards⟩
  rw [hfinal.1.1, stub_elected]

/-- The ordinals of each shard tell its pods apart. -/
def Ordinals (stsNodes : Matrix) : Prop := ∀ nodes ∈ stsNodes, (nodes.map (·.podIndex)).Nodup

/-- The first shards have been replicated. -/
structure ReplicatedUpTo (stsNodes : Matrix) (world : World) (images : Matrix) (final : World) : Prop where
  stubs : images.map (·.map stub) = (stsNodes.take images.length).map (·.map stub)
  filled : [] ∉ stsNodes.take images.length
  shards : final.store.shards = world.store.shards

/-- One shard more. -/
theorem ReplicatedUpTo.next {stsNodes images : Matrix} {later : World}
    {nodes replicated : List Kvrocks.Node} (h : ReplicatedUpTo stsNodes world images later)
    (hnodes : stsNodes[images.length]? = some nodes) (hstub : replicated.map stub = nodes.map stub) (hne : nodes ≠ [])
    (hshards : final.store.shards = later.store.shards) :
    ReplicatedUpTo stsNodes world (images ++ [replicated]) final := by
  have htake : stsNodes.take (images ++ [replicated]).length = stsNodes.take images.length ++ [nodes] := by
    rw [List.length_append, List.length_singleton, List.take_add_one, hnodes]
    rfl
  constructor
  · rw [htake, List.map_append, List.map_append, h.stubs, List.map_singleton, List.map_singleton, hstub]
  · rw [htake, List.mem_append, List.mem_singleton, not_or]
    exact ⟨h.filled, fun hnil ↦ hne hnil.symm⟩
  · exact hshards.trans h.shards

variable {h : Handler}

/-- The nodes keep their addresses and ordinals. -/
theorem ensureReplication_yields (hordinals : Ordinals h.stsNodes) (world : World) :
    ensureReplication.Yields around anyFailure (fun _ later final ↦
      (∃ stsNodes, later = { h with stsNodes := stsNodes } ∧ stsNodes.map (·.map stub) = h.stsNodes.map (·.map stub)) ∧
      [] ∉ h.stsNodes ∧ final.store.shards = world.store.shards) h world := by
  have hloop : (mapEach (fun (nodes, partition) ↦ replicateShard h.instance_ partition nodes)
      h.stsNodes.zipIdx).Yields around anyFailure (fun stsNodes final ↦ stsNodes.length = h.stsNodes.zipIdx.length ∧
          ReplicatedUpTo h.stsNodes world stsNodes final) world := by
    apply yields_mapEach_index (ReplicatedUpTo h.stsNodes world)
    · exact ⟨rfl, List.not_mem_nil, rfl⟩
    · intro images shard hshard later hlater
      have hnodes := (getElem?_of_zipIdx hshard).1
      have hmem := hordinals shard.1 (List.mem_of_getElem? hnodes)
      apply (replicateShard_yields h.instance_ shard.2 hmem later).imp
      intro replicated final hfinal
      exact hlater.next hnodes hfinal.1.1 hfinal.1.2 hfinal.2
  apply ends_get_bind
  apply ends_lift_bind hloop
  intro stsNodes final hfinal
  apply ends_modify
  have htake : h.stsNodes.take stsNodes.length = h.stsNodes := by
    rw [hfinal.1, List.length_zipIdx, List.take_length]
  have hstubs := hfinal.2.stubs
  have hfilled := hfinal.2.filled
  rw [htake] at hstubs hfilled
  exact ⟨⟨stsNodes, rfl, hstubs⟩, hfilled, hfinal.2.shards⟩

/-! ## The controller's answers -/

/-- A request to a controller. -/
def IsHttp : Call → Prop
  | .http _ _ => True
  | _ => False

variable {allowed : Call → Prop}

/-- A request that is answered with a value or an error. -/
theorem attempt_returns {δ α : Type} {wrap : δ → GoError} {program : Program operator (Except δ α)}
    (h : program.All allowed fun _ ↦ True) : (Fallible.attempt wrap program).Returns allowed fun _ ↦ True := by
  apply ends_attempt
  apply h.mono (fun _ h ↦ h)
  intro reply _
  cases reply with
  | ok value => trivial
  | error error => trivial

theorem send_returns (client : Controller.Client) {request : Request} (h : allowed (.http client.endPoint request)) :
    (send client request).Returns allowed fun _ ↦ True :=
  attempt_returns ⟨h, fun _ ↦ trivial⟩

theorem getNodes_returns (client : Controller.Client) (index : ℤ)
    (h : allowed (.http client.endPoint (.getNodes client.ns client.clusterName index))) :
    (Controller.getNodes client index).Returns allowed fun _ ↦ True := by
  apply Fallible.Ends.bind (send_returns client h)
  intro response _ _
  split
  · exact ends_pure trivial
  · split
    · exact ends_throw _ trivial
    · exact ends_throw _ trivial
    · exact ends_pure trivial

/-- Reading the nodes of a shard. -/
theorem getNodes_yields (client : Controller.Client) (index : ℕ) (world : World) :
    (Controller.getNodes client index).Yields around anyFailure (fun result final ↦
      (result = (world.store.shards client.clusterKey)[index]? ∧
        final.store.shards = world.store.shards) ∧ final.labels = world.labels) world := by
  have hstore : (Controller.getNodes client index).Yields around anyFailure (fun result final ↦
      result = (world.store.shards client.clusterKey)[index]? ∧ final.store.shards = world.store.shards) world := by
    have hpart : (Controller.getNodes client index).Yields served (fun _ ↦ True)
        (fun result store ↦ result = (world.store.shards client.clusterKey)[index]? ∧
          store = world.store.asked client.endPoint (.getNodes client.ns client.clusterName index)) world.store :=
      Controller.getNodes_yields client index
    apply (Fallible.Yields.view World.store answers_view hpart).imp
    intro result final hfinal
    refine ⟨hfinal.1, ?_⟩
    rw [hfinal.2]
    rfl
  have hhttp : (Controller.getNodes client index).Returns IsHttp fun _ ↦ True := getNodes_returns client index trivial
  apply hstore.keeps hhttp
  · intro request hhttp before reply after hanswer hbefore
    cases request with
    | http endPoint request =>
      rw [hanswer.2]
      exact hbefore
    | _ => exact hhttp.elim
  · rfl

/-- The nodes of a shard get what the controller has for them. -/
theorem identifyShard_yields (client : Controller.Client) (instance_ : KVRocks) {nodes : List Kvrocks.Node}
    (index : ℕ) (hordinals : (nodes.map (·.podIndex)).Nodup) (world : World) :
    (identifyShard client instance_ (nodes, index)).Yields around anyFailure (fun image final ↦
      (∃ shard, (world.store.shards client.clusterKey)[index]? = some shard ∧ image = nodes.map (identify shard) ∧
        ∀ node ∈ nodes, final.roleLabel (podKey instance_ index node) = (identify shard node).role.text) ∧
      Relabelled (podsOf instance_ index) world final) world := by
  apply (getNodes_yields client index world).bind
  intro result later hresult
  obtain ⟨⟨rfl, hshards⟩, hlabels⟩ := hresult
  cases hshard : (world.store.shards client.clusterKey)[index]? with
  | none => exact ends_panic trivial
  | some shard =>
    simp only
    split
    · exact ends_throw _ trivial
    · apply (labelShard_yields instance_ index (stub_identify shard) hordinals later).imp
      intro image final hfinal
      have hread : Relabelled (podsOf instance_ index) world later := ⟨hshards, fun key _ ↦ congrFun hlabels key⟩
      exact ⟨⟨shard, rfl, hfinal.1, hfinal.2.1⟩, hread.trans hfinal.2.2⟩

/-- The first shards have been identified. -/
structure IdentifiedUpTo (h : Handler) (world : World) (images : Matrix) (final : World) : Prop where
  shards : final.store.shards = world.store.shards
  identified : ∀ (index : ℕ) nodes, index < images.length → h.stsNodes[index]? = some nodes →
    ∃ shard, (world.store.shards h.controllerClient.clusterKey)[index]? = some shard ∧
      images[index]? = some (nodes.map (identify shard)) ∧
      ∀ node ∈ nodes, final.roleLabel (podKey h.instance_ index node) = (identify shard node).role.text

/-- One shard more. -/
theorem IdentifiedUpTo.next {later : World} {images : Matrix} {nodes : List Kvrocks.Node}
    {shard : ShardData} (hup : IdentifiedUpTo h world images later) (hnodes : h.stsNodes[images.length]? = some nodes)
    (hshard : (world.store.shards h.controllerClient.clusterKey)[images.length]? = some shard)
    (hlabels : ∀ node ∈ nodes, final.roleLabel (podKey h.instance_ images.length node) =
      (identify shard node).role.text)
    (hframe : Relabelled (podsOf h.instance_ images.length) later final) :
    IdentifiedUpTo h world (images ++ [nodes.map (identify shard)]) final := by
  constructor
  · exact hframe.shards.trans hup.shards
  · intro index others hindex hothers
    rw [List.length_append, List.length_singleton] at hindex
    by_cases hlast : index = images.length
    · rw [hlast] at hothers ⊢
      rw [hnodes] at hothers
      cases hothers
      refine ⟨shard, hshard, ?_, hlabels⟩
      rw [List.getElem?_append_right (Nat.le_refl _), Nat.sub_self]
      rfl
    · have hlt : index < images.length := by omega
      obtain ⟨found, hfound, himage, hdone⟩ := hup.identified index others hlt hothers
      refine ⟨found, hfound, ?_, fun node hnode ↦ ?_⟩
      · rw [List.getElem?_append_left hlt]
        exact himage
      · have hother : ¬ podsOf h.instance_ images.length (podKey h.instance_ index node) := by
          intro hpod
          obtain ⟨other, hsame⟩ := hpod
          exact hlast (podKey_inj hsame).1
        rw [hframe.roleLabel hother]
        exact hdone node hnode

/-- Every shard is identified and its pods are labelled. -/
theorem ensureSetNodeID_yields (hordinals : Ordinals h.stsNodes) (world : World) :
    ensureSetNodeID.Yields around anyFailure (fun _ later final ↦
      ∃ stsNodes, later = { h with stsNodes := stsNodes } ∧ stsNodes.length = h.stsNodes.length ∧
        IdentifiedUpTo h world stsNodes final) h world := by
  have hloop : (mapEach (identifyShard h.controllerClient h.instance_) h.stsNodes.zipIdx).Yields around
      anyFailure (fun stsNodes final ↦ stsNodes.length = h.stsNodes.zipIdx.length ∧
        IdentifiedUpTo h world stsNodes final) world := by
    apply yields_mapEach_index (IdentifiedUpTo h world)
    · exact ⟨rfl, fun index _ hindex ↦ absurd hindex (Nat.not_lt_zero index)⟩
    · intro images shard hshard later hlater
      obtain ⟨hnodes, hindex⟩ := getElem?_of_zipIdx hshard
      have hmem := hordinals shard.1 (List.mem_of_getElem? hnodes)
      apply (identifyShard_yields h.controllerClient h.instance_ shard.2 hmem later).imp
      intro image final hfinal
      obtain ⟨⟨found, hfound, himage, hlabels⟩, hframe⟩ := hfinal
      rw [hindex] at hfound hlabels hframe
      rw [hlater.shards] at hfound
      rw [himage]
      exact hlater.next hnodes hfound hlabels hframe
  apply ends_get_bind
  apply ends_lift_bind hloop
  intro stsNodes final hfinal
  apply ends_modify
  rw [List.length_zipIdx] at hfinal
  exact ⟨stsNodes, rfl, hfinal⟩

/-! ## Configuration -/

/-- A call that leaves this world alone. -/
def Quiet (request : Call) : Prop := ∀ before reply after, Answers request before reply after → after = before

theorem quiet_node (ip password : String) (command : NodeCommand) :
    Quiet (.node ip password command) := fun _ _ _ hanswer ↦ hanswer

theorem quiet_updateConfigMap (configMap : ConfigMap) : Quiet (.updateConfigMap configMap) :=
  fun _ _ _ hanswer ↦ hanswer

/-- Setting a key leaves the controller and the pods alone. -/
theorem ensureKey_returns (password : String) (node : Kvrocks.Node) (entry : String × String) :
    (Common.ensureKey password node entry).Returns Quiet fun _ ↦ True := by
  have hget : (Kvrocks.getConfig node.ip password entry.1).Returns Quiet fun _ ↦ True := by
    have hask : (Go.remote (ask (.node node.ip password (.configGet entry.1)))).Returns Quiet
        fun _ ↦ True := attempt_returns ⟨quiet_node _ _ _, fun _ ↦ trivial⟩
    apply Fallible.Ends.bind hask
    intro value _ _
    split
    · exact ends_pure trivial
    · exact ends_throw _ trivial
  apply Fallible.Ends.bind hget
  intro value _ _
  split
  · exact attempt_returns ⟨quiet_node _ _ _, fun _ ↦ trivial⟩
  · exact ends_pure trivial

theorem ensureNodeConfig_returns (instance_ : KVRocks) (password : String) (node : Kvrocks.Node) :
    (Common.ensureNodeConfig instance_ password node).Returns Quiet fun _ ↦ True := by
  have hkeys : (forEach (Common.ensureKey password node)
      (parseKVRocksConfigs instance_.spec.kvrocksConfig) : Go Unit).Returns Quiet fun _ ↦ True :=
    ends_forEach_const (fun _ ↦ True) trivial fun entry _ _ _ ↦ ensureKey_returns password node entry
  apply Fallible.Ends.bind hkeys
  intro _ _ _
  split
  · exact attempt_returns ⟨quiet_node _ _ _, fun _ ↦ trivial⟩
  · exact ends_pure trivial

/-- `ensureKVRocksConfig` changes only the password of the handler. -/
theorem ensureKVRocksConfig_yields (world : World) : ensureKVRocksConfig.Yields around anyFailure (fun _ later final ↦
      later = { h with password := h.instance_.spec.password } ∧ final = world) h world := by
  have hconfig : (forEach (Common.ensureConfig h.instance_ h.password) h.stsNodes : Go Unit).Returns
      Quiet fun _ ↦ True :=
    ends_forEach_const (fun _ ↦ True) trivial fun nodes _ _ _ ↦
      ends_forEach_const (fun _ ↦ True) trivial fun node _ _ _ ↦ ensureNodeConfig_returns h.instance_ h.password node
  have hmap : (K8s.updateConfigMap (newKVRocksConfigMap h.instance_)).Returns Quiet fun _ ↦ True :=
    attempt_returns ⟨quiet_updateConfigMap _, fun _ ↦ trivial⟩
  apply ends_get_bind
  apply ends_lift_bind (hconfig.yields (fun _ h ↦ h) trivial)
  intro _ final hfinal
  apply ends_modify_bind
  apply Method.ends_lift
  apply (hmap.yields (fun _ h ↦ h) trivial).imp
  intro _ last hlast
  exact ⟨rfl, hlast.2.trans hfinal.2⟩

/-! ## Writing the instance -/

/-- An update of the object that succeeds is persisted. -/
theorem updates {instance_ : KVRocks} {post : KVRocks → World → Prop}
    (h : ∀ version, post { instance_ with resourceVersion := version }
      (world.save { instance_ with resourceVersion := version })) :
    Updates around anyFailure instance_ post world := by
  intro reply after hanswer
  cases reply with
  | error error => trivial
  | ok version =>
    have hafter : after = world.save { instance_ with resourceVersion := version } := hanswer
    rw [hafter]
    exact h version

/-- What `ensureKVRocksStatus` leaves behind, with the matrix that it has persisted. -/
structure Settled (h : Handler) (replicated stsNodes : Matrix) (final : World) : Prop where
  filled : [] ∉ h.stsNodes
  stubs : replicated.map (·.map stub) = h.stsNodes.map (·.map stub)
  length : stsNodes.length = replicated.length
  topo : final.persisted.status.topo = statusTopo h.instance_.name (stsNodes.map (·.map some))
  wellKept : WellKept (final.store.shards h.controllerClient.clusterKey)
  converged : Converged replicated (final.store.shards h.controllerClient.clusterKey)
  identified : ∀ (index : ℕ) nodes, replicated[index]? = some nodes →
    ∃ shard, (final.store.shards h.controllerClient.clusterKey)[index]? = some shard ∧
      stsNodes[index]? = some (nodes.map (identify shard)) ∧
      ∀ node ∈ nodes, final.roleLabel (podKey h.instance_ index node) = (identify shard node).role.text

theorem colonFree_stub (stsNodes : Matrix) : ColonFree (stsNodes.map (·.map stub)) ↔ ColonFree stsNodes := by
  simp [ColonFree, stub, Kvrocks.Node.fresh]

theorem ordinals_stub (stsNodes : Matrix) : Ordinals (stsNodes.map (·.map stub)) ↔ Ordinals stsNodes := by
  simp [Ordinals, stub, Kvrocks.Node.fresh, Function.comp_def]

/-- `ensureVersion` looks at the topology and changes only the version. -/
theorem ensureVersion_yields : ensureVersion.Yields around anyFailure (fun _ later final ↦
      (∃ version, later = { h with version := version }) ∧ final = world) h world := by
  apply ends_modify
  split
  · exact ⟨⟨_, rfl⟩, rfl⟩
  · exact ⟨⟨h.version, rfl⟩, rfl⟩

/-- The controller has the nodes of the matrix afterwards. -/
theorem updateCluster_yields (client : Controller.Client) (password : String) {stsNodes : Matrix}
    (hfree : ColonFree stsNodes) (hkept : WellKept (world.store.shards client.clusterKey)) :
    (updateCluster client password stsNodes).Yields around anyFailure (fun _ final ↦
      WellKept (final.store.shards client.clusterKey) ∧
        Converged stsNodes (final.store.shards client.clusterKey)) world := by
  have hpart : (updateCluster client password stsNodes).Yields served (fun _ ↦ True)
      (fun _ store ↦ WellKept (store.shards client.clusterKey) ∧
        Converged stsNodes (store.shards client.clusterKey)) world.store :=
    Cluster.updateCluster_yields client password hfree hkept
  exact Fallible.Yields.view World.store answers_view hpart

/-- The part of `ensureKVRocksStatus` from `ensureCluster` on, for the matrix that `ensureReplication` has left. -/
theorem ensureCluster_yields (hrunning : h.instance_.status.status = .running) (hordinals : Ordinals h.stsNodes)
    (hfree : ColonFree h.stsNodes) (hkept : WellKept (world.store.shards h.controllerClient.clusterKey)) :
    ensureCluster.Yields around anyFailure (fun _ later final ↦
      later.stsNodes.length = h.stsNodes.length ∧ later.instance_.name = h.instance_.name ∧
        WellKept (final.store.shards h.controllerClient.clusterKey) ∧
        Converged h.stsNodes (final.store.shards h.controllerClient.clusterKey) ∧
        IdentifiedUpTo h final later.stsNodes final) h world := by
  have hregister : registerCluster.Yields around anyFailure (fun _ later final ↦ later = h ∧
      WellKept (final.store.shards h.controllerClient.clusterKey) ∧
        Converged h.stsNodes (final.store.shards h.controllerClient.clusterKey)) h world := by
    apply ends_get_bind
    rw [if_neg (by rw [hrunning]; decide)]
    apply Method.ends_lift
    apply (updateCluster_yields h.controllerClient h.password hfree hkept).imp
    exact fun _ _ hfinal ↦ ⟨rfl, hfinal⟩
  apply hregister.bind
  intro _ registered current hregistered
  obtain ⟨rfl, hwell, hconverged⟩ := hregistered
  apply (ensureSetNodeID_yields hordinals current).bind
  intro _ identified final hidentified
  obtain ⟨stsNodes, hlater, hlength, hdone⟩ := hidentified
  rw [hlater]
  apply ends_modify_bind
  apply saveInstanceOrRequeue_yields
  apply updates
  intro version
  have hshards := congrFun hdone.shards registered.controllerClient.clusterKey
  refine ⟨hlength, rfl, ?_, ?_, rfl, ?_⟩
  · change WellKept (final.store.shards registered.controllerClient.clusterKey)
    rw [hshards]
    exact hwell
  · change Converged _ (final.store.shards registered.controllerClient.clusterKey)
    rw [hshards]
    exact hconverged
  · change ∀ (index : ℕ) nodes, index < stsNodes.length → _ → ∃ shard,
      (final.store.shards registered.controllerClient.clusterKey)[index]? = some shard ∧ _
    rw [hshards]
    exact hdone.identified

/-- The tail of `ensureKVRocksStatus`, which writes the matrix that has been identified. -/
theorem persist_yields : (do
        ensureVersion
        ensureStatusTopoMsg
        Method.modify fun h ↦ { h with version := h.instance_.status.version } :
      HandlerM Unit).Yields around anyFailure (fun _ later final ↦ later.stsNodes = h.stsNodes.map (·.map sortSlots) ∧
          final.persisted.status.topo = statusTopo h.instance_.name (h.stsNodes.map (·.map some)) ∧
          final.store = world.store ∧ final.labels = world.labels) h world := by
  apply ensureVersion_yields.bind
  intro _ versioned current hversioned
  obtain ⟨⟨version, hversion⟩, rfl⟩ := hversioned
  rw [hversion]
  have hwrite : ensureStatusTopoMsg.Yields around anyFailure (fun _ later final ↦
      later.stsNodes = h.stsNodes.map (·.map sortSlots) ∧
        final.persisted.status.topo = statusTopo h.instance_.name (h.stsNodes.map (·.map some)) ∧
        final.store = current.store ∧ final.labels = current.labels)
      { h with version := version } current := by
    apply ensureStatusTopoMsg_yields
    apply updates
    exact fun _ ↦ ⟨rfl, rfl, rfl, rfl⟩
  apply hwrite.bind
  intro _ _ final hfinal
  exact ends_modify hfinal

/-- What a pass leaves that returns nil. -/
theorem ensureKVRocksStatus_yields (hrunning : h.instance_.status.status = .running) (hordinals : Ordinals h.stsNodes)
    (hfree : ColonFree h.stsNodes) (hkept : WellKept (world.store.shards h.controllerClient.clusterKey)) :
    ensureKVRocksStatus.Yields around anyFailure
      (fun _ later final ↦ ∃ replicated stsNodes, Settled h replicated stsNodes final ∧
        later.stsNodes = stsNodes.map (·.map sortSlots)) h world := by
  apply (ensureKVRocksConfig_yields world).bind
  intro _ configured current hconfigured
  obtain ⟨hconfigured, rfl⟩ := hconfigured
  apply ends_get_bind
  rw [if_neg (by rw [hconfigured, hrunning]; decide)]
  have hreplication : ensureReplication.Yields around anyFailure (fun _ later final ↦
      (∃ stsNodes, later = { configured with stsNodes := stsNodes } ∧
        stsNodes.map (·.map stub) = h.stsNodes.map (·.map stub)) ∧
      [] ∉ h.stsNodes ∧ final.store.shards = current.store.shards) configured current := by
    rw [hconfigured]
    apply ensureReplication_yields
    exact hordinals
  apply hreplication.bind
  intro _ later replicatedWorld hreplicated
  obtain ⟨⟨replicated, hlater, hstubs⟩, hfilled, hshards⟩ := hreplicated
  have hinstance : later.instance_ = h.instance_ := by rw [hlater, hconfigured]
  have hclient : later.controllerClient = h.controllerClient := by rw [hlater, hconfigured]
  have hmatrix : later.stsNodes = replicated := by rw [hlater]
  have hordinals' : Ordinals later.stsNodes := by
    rw [hmatrix, ← ordinals_stub, hstubs, ordinals_stub]
    exact hordinals
  have hfree' : ColonFree later.stsNodes := by
    rw [hmatrix, ← colonFree_stub, hstubs, colonFree_stub]
    exact hfree
  have hkept' : WellKept (replicatedWorld.store.shards later.controllerClient.clusterKey) := by
    rw [hshards, hclient]
    exact hkept
  rw [← hinstance] at hrunning
  apply (ensureCluster_yields hrunning hordinals' hfree' hkept').bind
  intro _ after clusterWorld hafter
  rw [hmatrix, hinstance, hclient] at hafter
  obtain ⟨hlength, hname, hwell, hconverged, hidentified⟩ := hafter
  apply persist_yields.imp
  intro _ last final hfinal
  obtain ⟨hlast, htopo, hstore, hlabels⟩ := hfinal
  refine ⟨replicated, after.stsNodes, ⟨hfilled, hstubs, hlength, ?_, ?_, ?_, ?_⟩, hlast⟩
  · rw [htopo, hname]
  · rw [hstore]
    exact hwell
  · rw [hstore]
    exact hconverged
  · intro index nodes hnodes
    have hlt : index < after.stsNodes.length := by
      rw [hlength]
      exact (List.getElem?_eq_some_iff.mp hnodes).1
    rw [← hmatrix] at hnodes
    obtain ⟨shard, hshard, himage, hroles⟩ := hidentified.identified index nodes hlt hnodes
    rw [hclient] at hshard
    rw [hinstance] at hroles
    refine ⟨shard, ?_, himage, fun node hnode ↦ ?_⟩
    · rw [hstore]
      exact hshard
    · unfold World.roleLabel
      rw [hlabels]
      exact hroles node hnode

/-! ## Agreement -/

/-- A shard of the controller with one master and with different addresses. -/
structure OneMaster (shard : ShardData) : Prop where
  master : ∃! master, master ∈ shard.nodes ∧ master.role = .master
  ips : (shardIps shard).Nodup

/-- The role under which a node of the controller is recorded: whoever is not the master is a slave. -/
def recordedRole (role : Role) : Role := if role = .master then .master else .slave

/-- A record says what the shard of the controller says of an address. -/
structure RecordAgrees (shard : ShardData) (ip : String) (record : KVRocksTopology) : Prop where
  address : record.ip = ip
  known : ∃ node ∈ shard.nodes, HasIp node ip
  node : ∀ node ∈ shard.nodes, HasIp node ip → record.nodeId = node.id ∧ record.role = recordedRole node.role
  masterId : ∀ master ∈ shard.nodes, master.role = .master →
    record.masterId = if record.role = .master then "" else master.id
  slots : record.slots = Kvrocks.slotsToString (Kvrocks.slotsToInt shard.slotRanges)

/-- The records of a partition and the labels of its pods say what a shard of the controller says. -/
structure ShardAgrees (world : World) (instance_ : KVRocks) (index : ℕ) (nodes : List Kvrocks.Node)
    (shard : ShardData) (partition : KVRocksTopoPartitions) : Prop where
  length : partition.topology.length = nodes.length
  records : ∀ (position : ℕ) node record, nodes[position]? = some node →
    partition.topology[position]? = some record → RecordAgrees shard node.ip record ∧
      world.roleLabel (podKey instance_ index node) = record.role.text
  oneMaster : partition.topology.countP (·.role = .master) = 1
  oneLabel : nodes.countP (fun node ↦ world.roleLabel (podKey instance_ index node) = "master") = 1

section Shard

variable {shard : ShardData} {node : Kvrocks.Node}

/-- The address of a pod is registered, and only once. -/
theorem find_of_mem_shardIps (hips : (shardIps shard).Nodup) (hip : node.ip ∈ shardIps shard) :
    ∃ found ∈ shard.nodes, simplyIp found.addr = node.ip ∧
      (shard.nodes.find? fun other ↦ simplyIp other.addr == node.ip) = some found ∧
      ∀ other ∈ shard.nodes, simplyIp other.addr = node.ip → other = found := by
  obtain ⟨member, hmember, hsame⟩ := List.mem_map.mp hip
  have hfind : (shard.nodes.find? fun other ↦ simplyIp other.addr == node.ip).isSome :=
    List.find?_isSome.mpr ⟨member, hmember, beq_iff_eq.mpr hsame⟩
  obtain ⟨found, hfound⟩ := Option.isSome_iff_exists.mp hfind
  have hbeq := List.find?_some hfound
  have haddr : simplyIp found.addr = node.ip := by simpa using hbeq
  refine ⟨found, List.mem_of_find?_eq_some hfound, haddr, hfound, fun other hother hip ↦ ?_⟩
  apply List.inj_on_of_nodup_map hips hother (List.mem_of_find?_eq_some hfound)
  rw [hip, haddr]

/-- The master that is found is the only one. -/
theorem masterID_eq (hone : OneMaster shard) {master : Controller.Node} (hmaster : master ∈ shard.nodes)
    (hrole : master.role = .master) : masterID shard.nodes = master.id := by
  have hfind : (shard.nodes.find? (·.role == .master)).isSome :=
    List.find?_isSome.mpr ⟨master, hmaster, beq_iff_eq.mpr hrole⟩
  obtain ⟨found, hfound⟩ := Option.isSome_iff_exists.mp hfind
  have hbeq := List.find?_some hfound
  have hfoundRole : found.role = .master := by simpa using hbeq
  have hsame : found = master := hone.master.unique ⟨List.mem_of_find?_eq_some hfound, hfoundRole⟩ ⟨hmaster, hrole⟩
  unfold masterID
  rw [hfound, hsame]

/-- What `identify` makes of a node that the controller knows. -/
theorem identify_of_find {found : Controller.Node}
    (hfind : (shard.nodes.find? fun other ↦ simplyIp other.addr == node.ip) = some found) :
    identify shard node =
      { node with
        nodeId := found.id
        role := recordedRole found.role
        master := if found.role = .master then "" else masterID shard.nodes
        slots := Kvrocks.slotsToInt shard.slotRanges } := by
  unfold identify recordedRole
  rw [hfind]
  by_cases hmaster : found.role = .master <;> simp [hmaster]

theorem recordedRole_eq_master (role : Role) : recordedRole role = .master ↔ role = .master := by
  unfold recordedRole
  split <;> simp [*]

/-- The record of an identified node agrees with the controller. -/
theorem recordAgrees_identify (hone : OneMaster shard) (haddrs : ∀ other ∈ shard.nodes, ∃ ip, HasIp other ip)
    (hip : node.ip ∈ shardIps shard) (partitionName : String) (position : ℕ) :
    RecordAgrees shard node.ip (topologyOf partitionName position (identify shard node)) := by
  obtain ⟨found, hmember, haddr, hfind, hunique⟩ := find_of_mem_shardIps hone.ips hip
  rw [identify_of_find hfind]
  constructor
  · rfl
  · exact (mem_shardIps_iff haddrs node.ip).mp hip
  · intro other hother hhas
    rw [hunique other hother hhas.simplyIp_addr]
    exact ⟨rfl, rfl⟩
  · intro master hmaster hrole
    rw [← masterID_eq hone hmaster hrole]
    simp only [topologyOf, recordedRole_eq_master]
  · rfl

/-- A pod is a master exactly if its address is the one of the controller's master. -/
theorem identify_role_master_iff (hone : OneMaster shard) (hip : node.ip ∈ shardIps shard) {master : Controller.Node}
    (hmaster : master ∈ shard.nodes) (hrole : master.role = .master) :
    (identify shard node).role = .master ↔ node.ip = simplyIp master.addr := by
  obtain ⟨found, hmember, haddr, hfind, hunique⟩ := find_of_mem_shardIps hone.ips hip
  rw [identify_of_find hfind, recordedRole_eq_master]
  constructor
  · intro hfound
    rw [hone.master.unique ⟨hmaster, hrole⟩ ⟨hmember, hfound⟩, haddr]
  · intro hsame
    rw [← hunique master hmaster hsame.symm]
    exact hrole

/-- Among pods with the addresses of the shard, exactly one has the role of the master. -/
theorem countP_master (hone : OneMaster shard) {nodes : List Kvrocks.Node} (hips : (wantedIps nodes).Nodup)
    (hsame : ∀ ip, ip ∈ shardIps shard ↔ ip ∈ wantedIps nodes) :
    nodes.countP (fun node ↦ (identify shard node).role = .master) = 1 := by
  obtain ⟨master, ⟨hmaster, hrole⟩, -⟩ := hone.master
  have hmem : simplyIp master.addr ∈ wantedIps nodes := (hsame _).mp (List.mem_map.mpr ⟨master, hmaster, rfl⟩)
  calc nodes.countP (fun node ↦ (identify shard node).role = .master)
    _ = nodes.countP (fun node ↦ node.ip == simplyIp master.addr) := by
      apply List.countP_congr
      intro node hnode
      have hip : node.ip ∈ shardIps shard := (hsame _).mpr (List.mem_map.mpr ⟨node, hnode, rfl⟩)
      rw [decide_eq_true_iff, beq_iff_eq]
      exact identify_role_master_iff hone hip hmaster hrole
    _ = (wantedIps nodes).count (simplyIp master.addr) := by
      rw [List.count, wantedIps, List.countP_map]
      rfl
    _ = 1 := List.count_eq_one_of_mem hips hmem

/-- The label `master` is given to masters only. -/
theorem text_identify_role_iff (hone : OneMaster shard) (hip : node.ip ∈ shardIps shard) :
    (identify shard node).role.text = "master" ↔ (identify shard node).role = .master := by
  obtain ⟨found, hmember, -, hfind, -⟩ := find_of_mem_shardIps hone.ips hip
  rw [identify_of_find hfind]
  by_cases hmaster : found.role = .master <;> simp [recordedRole, hmaster, Role.text]

end Shard

theorem wantedIps_of_stubs {first second : List Kvrocks.Node} (h : first.map stub = second.map stub) :
    wantedIps first = wantedIps second := by
  have hips : (first.map stub).map (·.ip) = (second.map stub).map (·.ip) := by rw [h]
  rw [List.map_map, List.map_map] at hips
  exact hips

namespace Settled

variable {h : Handler} {replicated stsNodes : Matrix} {final : World}

theorem filled_stsNodes (hsettled : Settled h replicated stsNodes final) : [] ∉ stsNodes := by
  intro hnil
  obtain ⟨index, hindex⟩ := List.mem_iff_getElem?.mp hnil
  have hlt : index < replicated.length := by
    rw [← hsettled.length]
    exact (List.getElem?_eq_some_iff.mp hindex).1
  have hothers := List.getElem?_eq_getElem hlt
  obtain ⟨shard, -, himage, -⟩ := hsettled.identified index _ hothers
  rw [hindex, Option.some.injEq] at himage
  have hempty : replicated[index] = [] := List.map_eq_nil_iff.mp himage.symm
  rw [hempty] at hothers
  obtain ⟨nodes, hnodes, hstubs⟩ := getElem?_of_map_eq hsettled.stubs.symm hothers
  rw [List.map_nil, List.map_eq_nil_iff] at hstubs
  rw [hstubs] at hnodes
  exact hsettled.filled (List.mem_of_getElem? hnodes)

/-- There is a record for every shard. -/
theorem length_topo (hsettled : Settled h replicated stsNodes final) :
    final.persisted.status.topo.length = h.stsNodes.length := by
  have hlengths := congrArg List.length hsettled.stubs
  rw [List.length_map, List.length_map] at hlengths
  rw [hsettled.topo, length_statusTopo _ hsettled.filled_stsNodes, hsettled.length, hlengths]

/-- The controller has every shard. -/
theorem length_shards (hsettled : Settled h replicated stsNodes final) :
    (final.store.shards h.controllerClient.clusterKey).length = h.stsNodes.length := by
  have hlengths := congrArg List.length hsettled.stubs
  rw [List.length_map, List.length_map] at hlengths
  rw [hsettled.converged.1, hlengths]

/-- One shard of the matrix after the pass. -/
theorem shardAgrees (hsettled : Settled h replicated stsNodes final) {index : ℕ} {nodes : List Kvrocks.Node}
    {shard : ShardData} {partition : KVRocksTopoPartitions} (hnodes : h.stsNodes[index]? = some nodes)
    (hips : (wantedIps nodes).Nodup)
    (hshard : (final.store.shards h.controllerClient.clusterKey)[index]? = some shard) (hone : OneMaster shard)
    (hpartition : final.persisted.status.topo[index]? = some partition) :
    ShardAgrees final h.instance_ index nodes shard partition := by
  obtain ⟨members, hmembers, hstubs⟩ := getElem?_of_map_eq hsettled.stubs hnodes
  obtain ⟨found, hfound, himage, hlabels⟩ := hsettled.identified index members hmembers
  rw [hshard, Option.some.injEq] at hfound
  rw [← hfound] at himage hlabels
  have htopology : partition.topology = (members.map (identify shard)).zipIdx.map fun entry ↦
      topologyOf (getStatefulSetName h.instance_.name index) entry.2 entry.1 := by
    rw [hsettled.topo, getElem?_statusTopo _ hsettled.filled_stsNodes, himage, Option.map_some,
      Option.some.injEq] at hpartition
    rw [← hpartition]
    exact shardTopology_some _ _
  have haddrs := (hsettled.wellKept index shard hshard).2
  have hsame (ip : String) : ip ∈ shardIps shard ↔ ip ∈ wantedIps members :=
    hsettled.converged.shardIps_eq hsettled.wellKept hshard hmembers ip
  rw [← wantedIps_of_stubs hstubs] at hips
  constructor
  · rw [htopology, List.length_map, List.length_zipIdx, List.length_map]
    have hlengths := congrArg List.length hstubs
    rwa [List.length_map, List.length_map] at hlengths
  · intro position node record hnode hrecord
    obtain ⟨member, hmember, hstub⟩ := getElem?_of_map_eq hstubs hnode
    have hmem := List.mem_of_getElem? hmember
    have hip : member.ip ∈ shardIps shard := (hsame _).mpr (List.mem_map.mpr ⟨member, hmem, rfl⟩)
    rw [htopology, List.getElem?_map, List.getElem?_zipIdx, List.getElem?_map, hmember, Option.map_some,
      Option.map_some, Option.map_some, Option.some.injEq] at hrecord
    rw [← hrecord, ← ip_of_stub_eq hstub, ← podKey_of_stub_eq _ _ hstub]
    exact ⟨recordAgrees_identify hone haddrs hip _ _, hlabels member hmem⟩
  · calc partition.topology.countP (·.role = .master)
      _ = (members.map (identify shard)).zipIdx.countP (fun entry ↦ entry.1.role = .master) := by
        rw [htopology, List.countP_map]
        rfl
      _ = (members.map (identify shard)).countP (·.role = .master) :=
        countP_zipIdx _ fun node : Kvrocks.Node ↦ decide (node.role = .master)
      _ = members.countP (fun node ↦ (identify shard node).role = .master) := by
        rw [List.countP_map]
        rfl
      _ = 1 := countP_master hone hips hsame
  · calc nodes.countP (fun node ↦ final.roleLabel (podKey h.instance_ index node) = "master")
      _ = (nodes.map stub).countP (fun node ↦ final.roleLabel (podKey h.instance_ index node) = "master") := by
        rw [List.countP_map]
        rfl
      _ = members.countP (fun node ↦ final.roleLabel (podKey h.instance_ index node) = "master") := by
        rw [← hstubs, List.countP_map]
        rfl
      _ = members.countP (fun node ↦ (identify shard node).role = .master) := by
        apply List.countP_congr
        intro member hmember
        have hip : member.ip ∈ shardIps shard := (hsame _).mpr (List.mem_map.mpr ⟨member, hmember, rfl⟩)
        rw [decide_eq_true_iff, decide_eq_true_iff, hlabels member hmember]
        exact text_identify_role_iff hone hip
      _ = 1 := countP_master hone hips hsame

end Settled

/-- After an `ensureKVRocksStatus` that returns nil, the persisted topology and the labels of the pods agree with the
controller, if every shard of the controller has one master and different addresses.  A node that is not the master is
recorded as a slave, whatever role the controller has for it. -/
theorem persisted_topology_agrees {h later : Handler} {world final : World}
    (hrunning : h.instance_.status.status = .running) (hordinals : Ordinals h.stsNodes)
    (hips : ∀ nodes ∈ h.stsNodes, (wantedIps nodes).Nodup) (hfree : ColonFree h.stsNodes)
    (hkept : WellKept (world.store.shards h.controllerClient.clusterKey))
    (hpass : Exec Answers (ensureKVRocksStatus.on h) world (.ok (), later) final)
    (hone : ∀ shard ∈ final.store.shards h.controllerClient.clusterKey, OneMaster shard) :
    final.persisted.status.topo.length = h.stsNodes.length ∧
      (final.store.shards h.controllerClient.clusterKey).length = h.stsNodes.length ∧
      ∀ (index : ℕ) nodes shard partition, h.stsNodes[index]? = some nodes →
        (final.store.shards h.controllerClient.clusterKey)[index]? = some shard →
        final.persisted.status.topo[index]? = some partition →
        ShardAgrees final h.instance_ index nodes shard partition := by
  have hyields := ensureKVRocksStatus_yields hrunning hordinals hfree hkept
  have houtcome := (ensures_iff_exec _ _ _).mp hyields _ _ hpass
  obtain ⟨replicated, stsNodes, hsettled, -⟩ := houtcome
  refine ⟨hsettled.length_topo, hsettled.length_shards, ?_⟩
  intro index nodes shard partition hnodes hshard hpartition
  have hdistinct := hips nodes (List.mem_of_getElem? hnodes)
  exact hsettled.shardAgrees hnodes hdistinct hshard (hone shard (List.mem_of_getElem? hshard)) hpartition

/-! ## A pass with stale values

The controller still has the node of a pod that is gone, and the matrix holds the roles and ids of an earlier time. -/

/-- A shard of two pods, in a handler whose matrix is out of date. -/
def outdated : Handler :=
  { newKVRocksClusterHandler ⟨"default", "kvrocks-cluster-1-demo"⟩
      { KVRocks.created ⟨"default", "kvrocks-cluster-1-demo"⟩
          { image := "", type := .cluster, kvrocksConfig := [], replicas := 2, master := 1,
            password := "secret", resources := true } with
        status := { status := .running, reason := "", version := 1, rebalance := false, topo := [],
                    shrink := none } }
      newClient with
    password := "secret"
    stsNodes := [[{ Kvrocks.Node.fresh "10.0.0.1" 0 with role := .slave, nodeId := "old", slots := [9] },
      Kvrocks.Node.fresh "10.0.0.2" 1]] }

/-- The controller's master is the first pod. -/
def current : ShardData := ⟨[⟨"a", "10.0.0.1:6379", .master⟩, ⟨"b", "10.0.0.2:6379", .slave⟩], ["0-3"]⟩

/-- A node is left over from a pod that is gone. -/
def leftover : World :=
  { store :=
      { shards := fun _ ↦ [{ current with nodes := current.nodes ++ [⟨"c", "10.0.0.9:6379", .slave⟩] }]
        requests := [] }
    labels := fun _ ↦ []
    persisted := outdated.instance_ }

/-- The controllers have changed. -/
def World.withStore (world : World) (store : Store) : World := { world with store := store }

/-- A server for the calls of this pass. -/
def serve : (request : Call) → World → Option (request.Reply × World)
  | .http endPoint (.getNodes ns cluster index), world =>
    (Go.index (world.store.shards ⟨endPoint, ns, cluster⟩) index).map fun shard ↦ (.ok ⟨statusOK, .ok (some shard)⟩,
        world.withStore (world.store.asked endPoint (.getNodes ns cluster index)))
  | .http endPoint (.getShards ns cluster), world =>
    some (.ok ⟨statusOK, .ok (some (world.store.shards ⟨endPoint, ns, cluster⟩))⟩,
      world.withStore (world.store.asked endPoint (.getShards ns cluster)))
  | .http endPoint (.deleteNode ns cluster index id), world =>
    ((Go.index (world.store.shards ⟨endPoint, ns, cluster⟩) index).bind (·.nodes.find? (·.id == id))).map fun _ ↦
      (.ok ⟨statusOK, .ok ()⟩, world.withStore (world.store.after endPoint (.deleteNode ns cluster index id)
          ⟨endPoint, ns, cluster⟩
          ((world.store.shards ⟨endPoint, ns, cluster⟩).modify index.toNat fun shard ↦
            { shard with nodes := shard.nodes.eraseP (·.id == id) })))
  | .http endPoint (.addNode ns cluster index option), world =>
    ((Go.index (world.store.shards ⟨endPoint, ns, cluster⟩) index).bind fun shard ↦
        if "new" ∈ shard.nodes.map (·.id) then none else some shard).map fun _ ↦
      (.ok ⟨statusCreated, .ok ()⟩,
        world.withStore (world.store.after endPoint (.addNode ns cluster index option) ⟨endPoint, ns, cluster⟩
          ((world.store.shards ⟨endPoint, ns, cluster⟩).modify index.toNat fun shard ↦
            { shard with nodes := shard.nodes ++ [⟨"new", option.addr, option.role⟩] })))
  | .getPod key, world => some (.ok ⟨key.ns, key.name, "", world.labels key, false⟩, world)
  | .updatePod pod, world => some (.ok (), world.relabel ⟨pod.ns, pod.name⟩ pod.labels)
  | .updateConfigMap _, world => some (.ok (), world)
  | .updateKVRocks instance_, world =>
    some (.ok (instance_.resourceVersion + 1),
      world.save { instance_ with resourceVersion := instance_.resourceVersion + 1 })
  | _, _ => none

theorem serve_answers (request : Call) (world : World) (answer : request.Reply × World)
    (h : serve request world = some answer) : Answers request world answer.1 answer.2 := by
  cases request with
  | http endPoint request =>
    cases request with
    | getNodes ns cluster index =>
      obtain ⟨shard, hshard, rfl⟩ := Option.map_eq_some_iff.mp h
      refine ⟨⟨rfl, ?_⟩, rfl⟩
      rw [hshard]
    | getShards ns cluster =>
      cases h
      exact ⟨⟨rfl, rfl⟩, rfl⟩
    | deleteNode ns cluster index id =>
      obtain ⟨node, hnode, rfl⟩ := Option.map_eq_some_iff.mp h
      refine ⟨?_, rfl⟩
      unfold Serves
      simp only
      rw [hnode]
      exact ⟨⟨_, rfl, rfl⟩, rfl⟩
    | addNode ns cluster index option =>
      obtain ⟨shard, hshard, rfl⟩ := Option.map_eq_some_iff.mp h
      obtain ⟨found, hfound, hnew⟩ := Option.bind_eq_some_iff.mp hshard
      refine ⟨?_, rfl⟩
      unfold Serves
      simp only
      rw [hfound]
      refine ⟨⟨_, rfl, rfl⟩, "new", ?_, rfl⟩
      intro hmem
      rw [if_pos hmem] at hnew
      cases hnew
    | _ => cases h
  | getPod key =>
    cases h
    refine ⟨rfl, fun pod hpod ↦ ?_⟩
    cases hpod
    exact ⟨rfl, rfl⟩
  | updatePod pod =>
    cases h
    rfl
  | updateConfigMap configMap =>
    cases h
    rfl
  | updateKVRocks instance_ =>
    cases h
    rfl
  | _ => cases h

theorem wellKept_leftover : WellKept (leftover.store.shards outdated.controllerClient.clusterKey) := by
  intro index shard hshard
  have hmem := List.mem_of_getElem? hshard
  rw [List.mem_singleton.mp hmem]
  refine ⟨?_, fun node hnode ↦ ?_⟩
  · unfold ShardData.Identified
    decide
  · simp only [current, List.cons_append, List.nil_append, List.mem_cons, List.not_mem_nil, or_false] at hnode
    rcases hnode with rfl | rfl | rfl
    · exact ⟨"10.0.0.1", by decide, "6379", rfl⟩
    · exact ⟨"10.0.0.2", by decide, "6379", rfl⟩
    · exact ⟨"10.0.0.9", by decide, "6379", rfl⟩

theorem oneMaster_current : OneMaster current where
  master := by
    refine ⟨⟨"a", "10.0.0.1:6379", .master⟩, ⟨by decide, rfl⟩, ?_⟩
    rintro node ⟨hmember, hrole⟩
    simp only [current, List.mem_cons, List.not_mem_nil, or_false] at hmember
    apply hmember.elim
    · exact id
    · intro hslave
      rw [hslave] at hrole
      cases hrole
  ips := by decide

/-- The shard of the example agrees after the pass. -/
theorem persisted_topology_agrees_outdated :
    ∃ later final, Exec Answers (ensureKVRocksStatus.on outdated) leftover (.ok (), later) final ∧
      final.persisted.status.topo.length = outdated.stsNodes.length ∧
      (final.store.shards outdated.controllerClient.clusterKey).length = outdated.stsNodes.length ∧
      ∀ (index : ℕ) nodes shard partition, outdated.stsNodes[index]? = some nodes →
        (final.store.shards outdated.controllerClient.clusterKey)[index]? = some shard →
        final.persisted.status.topo[index]? = some partition →
        ShardAgrees final outdated.instance_ index nodes shard partition := by
  have hrun : ((ensureKVRocksStatus.on outdated).tryRun serve leftover).map (fun result ↦
      (result.1.1, result.2.store.shards outdated.controllerClient.clusterKey)) = some (.ok (), [current]) := by decide
  obtain ⟨⟨⟨outcome, later⟩, final⟩, hresult, hfinal⟩ := Option.map_eq_some_iff.mp hrun
  have hexec := exec_tryRun serve_answers hresult
  obtain ⟨rfl, hshards⟩ := Prod.mk.inj hfinal
  refine ⟨later, final, hexec, persisted_topology_agrees rfl ?_ ?_ ?_ ?_ hexec ?_⟩
  · unfold Ordinals
    decide
  · decide
  · unfold ColonFree
    decide
  · exact wellKept_leftover
  · intro shard hshard
    rw [hshards, List.mem_singleton] at hshard
    rw [hshard]
    exact oneMaster_current

/-! ## A node without a role

Neither pod has a record, and the controller knows the first one only.  `ensureReplication` makes the first node the
master and, since both node ids are empty, leaves the second one without a role, with which it is added to the
controller. -/

/-- The handler before any node has been recorded. -/
def unrecorded : Handler :=
  { outdated with stsNodes := [[Kvrocks.Node.fresh "10.0.0.1" 0, Kvrocks.Node.fresh "10.0.0.2" 1]] }

/-- The controller has the first pod. -/
def firstOnly : World :=
  { leftover with store := { shards := fun _ ↦ [⟨[⟨"a", "10.0.0.1:6379", .master⟩], ["0-3"]⟩], requests := [] } }

/-- The controller's shard after the pass. -/
def roleless : ShardData := ⟨[⟨"a", "10.0.0.1:6379", .master⟩, ⟨"new", "10.0.0.2:6379", .empty⟩], ["0-3"]⟩

theorem wellKept_firstOnly : WellKept (firstOnly.store.shards unrecorded.controllerClient.clusterKey) := by
  intro index shard hshard
  rw [List.mem_singleton.mp (List.mem_of_getElem? hshard)]
  refine ⟨?_, fun node hnode ↦ ?_⟩
  · unfold ShardData.Identified
    decide
  · rw [List.mem_singleton.mp hnode]
    exact ⟨"10.0.0.1", by decide, "6379", rfl⟩

theorem oneMaster_roleless : OneMaster roleless where
  master := by
    refine ⟨⟨"a", "10.0.0.1:6379", .master⟩, ⟨by decide, rfl⟩, ?_⟩
    rintro node ⟨hmember, hrole⟩
    simp only [roleless, List.mem_cons, List.not_mem_nil, or_false] at hmember
    rcases hmember with rfl | rfl
    · rfl
    · cases hrole
  ips := by decide

/-- The pass returns nil, the controller's shard has one master and different addresses, and the record of the second
pod says slave where the controller has no role. -/
theorem empty_role_recorded_as_slave : unrecorded.instance_.status.status = .running ∧ Ordinals unrecorded.stsNodes ∧
      (∀ nodes ∈ unrecorded.stsNodes, (wantedIps nodes).Nodup) ∧ ColonFree unrecorded.stsNodes ∧
      WellKept (firstOnly.store.shards unrecorded.controllerClient.clusterKey) ∧
      ∃ later final, Exec Answers (ensureKVRocksStatus.on unrecorded) firstOnly (.ok (), later) final ∧
        final.store.shards unrecorded.controllerClient.clusterKey = [roleless] ∧ OneMaster roleless ∧
        ∃ partition record node, final.persisted.status.topo = [partition] ∧ partition.topology[1]? = some record ∧
          node ∈ roleless.nodes ∧ HasIp node record.ip ∧ record.role = .slave ∧ node.role = .empty := by
  have hrun : ((ensureKVRocksStatus.on unrecorded).tryRun serve firstOnly).map (fun result ↦
      (result.1.1, result.2.store.shards unrecorded.controllerClient.clusterKey,
        result.2.persisted.status.topo.map fun partition ↦
          partition.topology.map fun record ↦ (record.ip, record.role))) =
        some (.ok (), [roleless], [[("10.0.0.1", .master), ("10.0.0.2", .slave)]]) := by decide
  obtain ⟨⟨⟨outcome, later⟩, final⟩, hresult, hfinal⟩ := Option.map_eq_some_iff.mp hrun
  obtain ⟨rfl, hfinal⟩ := Prod.mk.inj hfinal
  obtain ⟨hshards, htopo⟩ := Prod.mk.inj hfinal
  obtain ⟨partition, hpartition, hrecords⟩ := List.map_eq_singleton_iff.mp htopo
  have hsecond := congrArg (·[1]?) hrecords
  rw [List.getElem?_map] at hsecond
  obtain ⟨record, hrecord, hdata⟩ := Option.map_eq_some_iff.mp hsecond
  obtain ⟨hip, hrole⟩ := Prod.mk.inj hdata
  refine ⟨rfl, by unfold Ordinals; decide, by decide, by unfold ColonFree; decide, wellKept_firstOnly, later, final,
    exec_tryRun serve_answers hresult, hshards, oneMaster_roleless, partition, record,
    ⟨"new", "10.0.0.2:6379", .empty⟩, hpartition, hrecord, by decide, ?_, hrole, rfl⟩
  rw [hip]
  exact ⟨by decide, "6379", rfl⟩

end Agreement

end KvrocksOperator.Cluster
