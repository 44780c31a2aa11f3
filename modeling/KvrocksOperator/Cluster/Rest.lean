import KvrocksOperator.Cluster.Steady

/-!
# A cluster instance at rest

When everything that the phases of `Handle` look for is in place, a pass of `Handle` in which no call fails finds
nothing to do: it ends without asking for a requeue, and what it writes is what was there.  `Rested` says what has to
be in place, phase by phase.  The topology goes through the encoding of the status on the way from one pass to the
next, so the pass does not work on the matrix that was recorded but on `recode` of it; the records that it writes are
the same.
-/

namespace KvrocksOperator.Cluster.Rest

open Interaction Controller Resources

/-! ## Roles and labels -/

/-- What the controller says of the nodes of a shard is what they have and what their pods are labelled with. -/
structure Agreed (content : Content) (instance_ : KVRocks) (index : ℕ) (nodes : List Kvrocks.Node)
    (shard : ShardData) : Prop where
  one : Agreement.OneMaster shard
  named : masterID shard.nodes ≠ ""
  ips : ∀ ip, ip ∈ shardIps shard ↔ ip ∈ wantedIps nodes
  identified : ∀ node ∈ nodes, identify shard node = node
  labelled : ∀ node ∈ nodes, content.roleLabel (podKey instance_ index node) = node.role.text

namespace Agreed

variable {content : Content} {instance_ : KVRocks} {index : ℕ} {nodes : List Kvrocks.Node} {shard : ShardData}
  {node : Kvrocks.Node}

/-- A node is the master or a slave of it. -/
theorem role_cases (h : Agreed content instance_ index nodes shard) (hnode : node ∈ nodes) :
    node.role = .master ∧ node.nodeId = masterID shard.nodes ∨
      node.role = .slave ∧ node.master = masterID shard.nodes := by
  have hip : node.ip ∈ shardIps shard := (h.ips node.ip).mpr (List.mem_map_of_mem hnode)
  obtain ⟨found, hmember, -, hfind, -⟩ := Agreement.find_of_mem_shardIps h.one.ips hip
  have hsame := h.identified node hnode
  unfold identify at hsame
  rw [hfind] at hsame
  by_cases hrole : found.role = .master
  · simp only [hrole, if_true] at hsame
    rw [← hsame, Agreement.masterID_eq h.one hmember hrole]
    exact .inl ⟨rfl, rfl⟩
  · simp only [hrole, if_false] at hsame
    rw [← hsame]
    exact .inr ⟨rfl, rfl⟩

theorem exists_master (h : Agreed content instance_ index nodes shard) : ∃ node ∈ nodes, node.role = .master := by
  obtain ⟨master, ⟨hmaster, hrole⟩, -⟩ := h.one.master
  have hip : simplyIp master.addr ∈ shardIps shard := List.mem_map_of_mem hmaster
  obtain ⟨node, hnode, hsame⟩ := List.mem_map.mp ((h.ips _).mp hip)
  have hnodeIp : node.ip ∈ shardIps shard := hsame.symm ▸ hip
  refine ⟨node, hnode, ?_⟩
  rw [← h.identified node hnode]
  exact (Agreement.identify_role_master_iff h.one hnodeIp hmaster hrole).mpr hsame

/-- The recorded master is the controller's. -/
theorem masterNodeID_eq (h : Agreed content instance_ index nodes shard) :
    masterNodeID nodes = masterID shard.nodes := by
  obtain ⟨master, hmaster, hrole⟩ := h.exists_master
  have hsome : (nodes.find? (·.role == .master)).isSome := List.find?_isSome.mpr ⟨master, hmaster, beq_iff_eq.mpr hrole⟩
  obtain ⟨found, hfound⟩ := Option.isSome_iff_exists.mp hsome
  have hbeq := List.find?_some hfound
  have hfoundRole : found.role = .master := by simpa using hbeq
  unfold masterNodeID
  rw [hfound]
  apply (h.role_cases (List.mem_of_find?_eq_some hfound)).elim
  · exact fun hmaster ↦ hmaster.2
  · intro hslave
    rw [hslave.1] at hfoundRole
    cases hfoundRole

/-- Every slave follows the master already. -/
theorem followMaster_eq (h : Agreed content instance_ index nodes shard) (hnode : node ∈ nodes) :
    ¬ (node.nodeId ≠ masterID shard.nodes ∧ node.master ≠ masterID shard.nodes) := by
  apply (h.role_cases hnode).elim
  · exact fun hmaster hneither ↦ hneither.1 hmaster.2
  · exact fun hslave hneither ↦ hneither.2 hslave.2

end Agreed

/-! ## Records that have been read back -/

/-- The slots of a node are slots. -/
structure Legible (node : Kvrocks.Node) : Prop where
  slots : ∀ slot ∈ node.slots, Kvrocks.IsSlot slot
  migrate : ∀ entry ∈ node.migrate, ∀ slot ∈ entry.slots, Kvrocks.IsSlot slot

theorem slotsToString_recodeSlots {slots : List ℤ} (h : ∀ slot ∈ slots, Kvrocks.IsSlot slot) :
    Kvrocks.slotsToString (recodeSlots slots) = Kvrocks.slotsToString slots := by
  unfold recodeSlots
  rw [Kvrocks.slotsToInt_slotsToString h]
  exact Kvrocks.slotsToString_congr (Kvrocks.sortInts_sortInts slots)

/-- What is recorded of a node, apart from the name of its pod. -/
def record (node : Kvrocks.Node) : KVRocksTopology := topologyOf "" 0 node

/-- Reading back loses nothing that is recorded. -/
theorem record_recode {node : Kvrocks.Node} (h : Legible node) : record (recode node) = record node := by
  have hmigrate : (recode node).migrate.map (fun entry ↦
      ({ shard := entry.shard, slots := Kvrocks.slotsToString entry.slots } : MigrateMsg)) =
        node.migrate.map fun entry ↦ { shard := entry.shard, slots := Kvrocks.slotsToString entry.slots } := by
    unfold recode
    rw [List.map_map]
    apply List.map_congr_left
    intro entry hentry
    rw [Function.comp_apply, slotsToString_recodeSlots (h.migrate entry hentry)]
  unfold record topologyOf
  rw [hmigrate]
  simp only [recode, slotsToString_recodeSlots h.slots]

/-- The controller says the same of a node whose record has been read back. -/
theorem record_identify_recode {shard : ShardData} {node : Kvrocks.Node} (hlegible : Legible node)
    (hsame : identify shard node = node) : record (identify shard (recode node)) = record node := by
  have hip : (recode node).ip = node.ip := rfl
  cases hfind : shard.nodes.find? fun other ↦ simplyIp other.addr == node.ip with
  | none =>
    have hrecode : identify shard (recode node) = recode node := by
      unfold identify
      rw [hip, hfind]
    rw [hrecode, record_recode hlegible]
  | some found =>
    have hnode : identify shard (recode node) = { recode node with
        nodeId := (identify shard node).nodeId
        role := (identify shard node).role
        master := (identify shard node).master
        slots := (identify shard node).slots } := by
      unfold identify
      by_cases hrole : found.role = .master <;> simp only [hip, hfind, hrole, if_true, if_false]
    have hrecode := record_recode hlegible
    unfold record topologyOf at hrecode ⊢
    rw [hnode, hsame]
    simp only [recode, KVRocksTopology.mk.injEq, true_and, and_true] at hrecode ⊢
    exact hrecode.2

/-- The topology is that of the records. -/
theorem statusTopo_congr (instanceName : String) {matrix matrix' : Matrix}
    (h : matrix.map (·.map record) = matrix'.map (·.map record)) :
    statusTopo instanceName (matrix.map (·.map some)) = statusTopo instanceName (matrix'.map (·.map some)) := by
  have hrecords (matrix : Matrix) : statusTopo instanceName (matrix.map (·.map some)) =
      (matrix.map (·.map record)).zipIdx.filterMap fun entry ↦
        if entry.1 = [] then none
        else some
          { partitionName := getStatefulSetName instanceName entry.2
            shard := entry.2
            topology := entry.1.zipIdx.map fun topo ↦
              { topo.1 with pod := podName (getStatefulSetName instanceName entry.2) topo.2 } } := by
    unfold statusTopo
    rw [List.zipIdx_map, List.zipIdx_map, List.filterMap_map, List.filterMap_map]
    congr 1
    funext ⟨nodes, index⟩
    simp only [Function.comp_apply, Prod.map_apply, id_eq, List.map_eq_nil_iff, partitionOf, shardTopology_some,
      List.zipIdx_map, List.map_map]
    rfl
  rw [hrecords, hrecords, h]

theorem shardChanged_shardTopology (partitionName : String) (nodes : List Kvrocks.Node) (start : ℕ) :
    shardChanged ((nodes.zipIdx start).map fun entry ↦ topologyOf partitionName entry.2 entry.1) nodes = false := by
  induction nodes generalizing start with
  | nil => rfl
  | cons node nodes ih =>
    rw [List.zipIdx_cons, List.map_cons, shardChanged, ih (start + 1)]
    simp [topologyOf]

/-- A matrix has not changed from its own records. -/
theorem topoChanged_statusTopoFrom (instanceName : String) {matrix : Matrix} (hfilled : [] ∉ matrix)
    (start : ℕ) : topoChanged (statusTopoFrom instanceName start (matrix.map (·.map some))) matrix = false := by
  induction matrix generalizing start with
  | nil => rfl
  | cons nodes matrix ih =>
    rw [List.mem_cons, not_or] at hfilled
    have hne : nodes.map some ≠ [] := fun hnil ↦ hfilled.1 (List.map_eq_nil_iff.mp hnil).symm
    have hshard : shardChanged (partitionOf instanceName start (nodes.map some)).topology nodes = false := by
      unfold partitionOf
      rw [shardTopology_some]
      exact shardChanged_shardTopology _ nodes 0
    rw [List.map_cons, statusTopoFrom_cons, if_neg hne, topoChanged, hshard, ih hfilled.2 (start + 1)]
    rfl

/-- A matrix is no change against its own topology. -/
theorem topoChanged_statusTopo (instanceName : String) {matrix : Matrix} (hfilled : [] ∉ matrix) :
    topoChanged (statusTopo instanceName (matrix.map (·.map some))) matrix = false :=
  topoChanged_statusTopoFrom instanceName hfilled 0

/-! ## Nodes that agree with the controller -/

variable {client : Client}

section Status

variable {S : Setting} {world : World} {instance_ : KVRocks} {index : ℕ} {nodes : List Kvrocks.Node} {shard : ShardData}

/-- A pod that has its label is left alone. -/
theorem labelNode_rests {node : Kvrocks.Node}
    (hlabel : world.content.roleLabel (podKey instance_ index node) = node.role.text) :
    Reads S (labelNode instance_ index node) node world := by
  have hupdate : Idle S (updatePodLabels (podKey instance_ index node) node.role) world := by
    apply (getPod_rests _).bind
    rintro pod world ⟨hlabels, rfl⟩
    rw [if_neg]
    · exact ends_pure rfl
    · rw [hlabels, not_not]
      exact hlabel
  exact labelNode_yields_of hupdate

theorem masterNodeID_recode (nodes : List Kvrocks.Node) : masterNodeID (nodes.map recode) = masterNodeID nodes := by
  have hrole : (fun node : Kvrocks.Node ↦ node.role == .master) ∘ recode = fun node ↦ node.role == .master := rfl
  unfold masterNodeID
  rw [List.find?_map, hrole]
  cases nodes.find? fun node ↦ node.role == .master <;> rfl

/-- A shard with its master is left alone. -/
theorem replicateShard_rests (h : Agreed world.content instance_ index nodes shard) :
    Reads S (replicateShard instance_ index (nodes.map recode)) (nodes.map recode) world := by
  have hmaster : masterNodeID (nodes.map recode) = masterID shard.nodes := by
    rw [masterNodeID_recode, h.masterNodeID_eq]
  have hbody : ∀ node ∈ nodes.map recode,
      Reads S (labelNode instance_ index (followMaster (masterID shard.nodes) node)) (id node) world := by
    intro node hnode
    obtain ⟨recorded, hrecorded, rfl⟩ := List.mem_map.mp hnode
    have hfollows : followMaster (masterID shard.nodes) (recode recorded) = recode recorded :=
      if_neg (h.followMaster_eq hrecorded)
    rw [hfollows]
    exact labelNode_rests (h.labelled recorded hrecorded)
  unfold replicateShard
  rw [hmaster, if_neg h.named]
  have hloop := yields_mapEach_eq id hbody
  rwa [List.map_id] at hloop

/-- Requests to a controller that change none of its shards. -/
theorem http_rests {α : Type} {function : Go α} {post : α → Store → Prop} (hmakes : Makes [.http] function)
    (h : function.Yields served (fun _ ↦ False) post world.store)
    (hshards : ∀ value store, post value store → store.shards = world.store.shards) :
    Rests S function (fun value final ↦ post value final.store ∧ Still world final) world := by
  have hhttp : ∀ request, OfKind [.http] request → ∀ before reply after, Reliable S request before reply after →
      Controller.answers request before.store reply after.store ∧ after = { before with store := after.store } := by
    intro request hkind before reply after hanswer
    cases request with
    | http endPoint request => exact ⟨hanswer.1, hanswer.2.2⟩
    | _ => exact absurd hkind (by simp [OfKind, Call.kind])
  have hview : Rests S function (fun value final ↦ post value final.store) world :=
    Program.Ensures.view_of World.store
      (fun request hkind before reply after hanswer ↦ (hhttp request hkind before reply after hanswer).1) hmakes h
  have hframe : ∀ request, OfKind [.http] request → ∀ before reply after, Reliable S request before reply after →
      before = { world with store := before.store } → after = { world with store := after.store } := by
    intro request hkind before reply after hanswer hbefore
    rw [(hhttp request hkind before reply after hanswer).2, hbefore]
  apply (hview.keeps hmakes hframe rfl).imp
  intro value final hfinal
  refine ⟨hfinal.1, ?_⟩
  rw [hfinal.2]
  exact Still.withStore (hshards value final.store hfinal.1)

theorem getNodes_rests (hshard : (world.store.shards client.clusterKey)[index]? = some shard) :
    Rests S (getNodes client index) (fun result final ↦ result = some shard ∧ Still world final) world := by
  have hread : (getNodes client index).Yields served (fun _ ↦ False) (fun result store ↦
      result = some shard ∧ store.shards = world.store.shards) world.store := by
    apply (Controller.getNodes_yields client index).imp
    rintro result store ⟨rfl, rfl⟩
    exact ⟨hshard, rfl⟩
  apply (http_rests (getNodes_makes client index) hread fun _ _ hpost ↦ hpost.2).imp
  exact fun result final hfinal ↦ ⟨hfinal.1.1, hfinal.2⟩

/-- Nothing is removed or added. -/
theorem updateCluster_rests (password : String) {stsNodes : Matrix}
    (hkept : WellKept (world.store.shards client.clusterKey))
    (hconverged : Converged stsNodes (world.store.shards client.clusterKey)) :
    Rests S (updateCluster client password stsNodes) (fun _ final ↦ Still world final) world := by
  apply (http_rests (updateCluster_makes client password stsNodes)
    (updateCluster_unchanged client password hkept hconverged) fun _ _ hpost ↦ hpost.1).imp
  exact fun _ final hfinal ↦ hfinal.2

theorem identify_recode_role (shard : ShardData) (node : Kvrocks.Node) :
    (identify shard (recode node)).role = (identify shard node).role :=
  identify_role_congr rfl rfl rfl

theorem identifyShard_rests (hagreed : Agreed world.content instance_ index nodes shard)
    (hshard : (world.store.shards client.clusterKey)[index]? = some shard) :
    Rests S (identifyShard client instance_ (nodes.map recode, index)) (fun result final ↦
      result = (nodes.map recode).map (identify shard) ∧ Still world final) world := by
  apply identifyShard_yields_of (getNodes_rests hshard) hagreed.named
  intro node hnode later hstill
  obtain ⟨recorded, hrecorded, rfl⟩ := List.mem_map.mp hnode
  have hstub : stub (identify shard (recode recorded)) = stub recorded := stub_identify shard (recode recorded)
  have hlabel : later.content.roleLabel (podKey instance_ index (identify shard (recode recorded))) =
      (identify shard (recode recorded)).role.text := by
    rw [hstill.content, Agreement.podKey_of_stub_eq instance_ index hstub, hagreed.labelled recorded hrecorded,
      identify_recode_role, hagreed.identified recorded hrecorded]
  apply (labelNode_rests hlabel).imp
  rintro result final ⟨hresult, rfl⟩
  exact ⟨hresult, hstill⟩

end Status

/-! ## At rest -/

/-- The sentinel that monitors the instance exists and has a readable count. -/
def Heard (object : KVRocks) (world : World) : Prop :=
  ∀ name, object.labels.lookup monitoredBy = some name →
    ∃ sentinel number, world.instances.find ⟨object.ns, name⟩ = some sentinel ∧
      Text.atoi ((sentinel.annotations.lookup "change-count").getD "0") = (number, none)

/-- A handler as `cleanPersistentVolumeClaim` looks at it. -/
def sweeper (object : KVRocks) (matrix : Matrix) : Handler :=
  { newKVRocksClusterHandler object.key object newClient with stsNodes := matrix }

/-- What each phase of `Handle` looks for is in place, with the matrix that is recorded in the status. -/
structure Rested (S : Setting) (cluster : ClusterKey) (object : KVRocks) (matrix : Matrix)
    (content : Content) : Prop where
  up : S.Up object.ns
  running : object.status.status = .running
  shrink : object.status.shrink = none
  provided : Provided S object content.sets (matrix.map (·.map stub))
  inhabited : matrix ≠ []
  filled : [] ∉ matrix
  topo : object.status.topo = statusTopo object.name (matrix.map (·.map some))
  legible : ∀ nodes ∈ matrix, ∀ node ∈ nodes, Legible node
  wellKept : WellKept (content.shards cluster)
  converged : Converged matrix (content.shards cluster)
  agreed : ∀ (index : ℕ) nodes shard, matrix[index]? = some nodes → (content.shards cluster)[index]? = some shard →
    Agreed content object index nodes shard
  settled : ∀ nodes ∈ matrix, ∀ node ∈ nodes, node.role = .master → node.migrate = []
  steady : object.status.rebalance = true ∨
    matrix.length ≤ object.spec.master ∧ ∀ nodes ∈ matrix, (nodes.length : ℤ) ≤ object.spec.replicas
  finalizer : kvrocksFinalizer ∈ object.finalizers
  swept : ∀ claim ∈ listClaims content.claims object.ns (selectorLabels object),
    claimIsStale (sweeper object matrix) claim.name = some false

section Rested

variable {S : Setting} {cluster : ClusterKey} {object : KVRocks} {matrix : Matrix} {content : Content}

/-- The shard of the controller at a position. -/
def dataAt (shards : List ShardData) (index : ℕ) : ShardData := shards.getD index ⟨[], []⟩

/-- The controller has a shard for each shard of the matrix. -/
theorem Rested.shard (h : Rested S cluster object matrix content) {index : ℕ} {nodes : List Kvrocks.Node}
    (hnodes : matrix[index]? = some nodes) :
    (content.shards cluster)[index]? = some (dataAt (content.shards cluster) index) ∧
      Agreed content object index nodes (dataAt (content.shards cluster) index) := by
  have hlt : index < (content.shards cluster).length := by
    rw [h.converged.1]
    exact (List.getElem?_eq_some_iff.mp hnodes).1
  have hshard : (content.shards cluster)[index]? = some (dataAt (content.shards cluster) index) := by
    rw [dataAt, List.getD_eq_getElem _ _ hlt, List.getElem?_eq_getElem hlt]
  exact ⟨hshard, h.agreed index nodes _ hnodes hshard⟩

/-- The matrix of a pass after it has been read back and identified. -/
def renewed (shards : List ShardData) (matrix : Matrix) : Matrix :=
  identifyAll (dataAt shards) (matrix.map (·.map recode))

theorem getElem?_renewed (shards : List ShardData) (matrix : Matrix) (index : ℕ) : (renewed shards matrix)[index]? =
      matrix[index]?.map (·.map fun node ↦ identify (dataAt shards index) (recode node)) := by
  unfold renewed
  rw [getElem?_identifyAll, List.getElem?_map, Option.map_map]
  congr 1
  funext nodes
  exact List.map_map

/-- What holds of each node of a shard that has been read back, if it holds for each shard of the matrix. -/
theorem map_renewed {β : Type} {shards : List ShardData} {image : Kvrocks.Node → β}
    (h : ∀ (index : ℕ) nodes, matrix[index]? = some nodes → ∀ node ∈ nodes,
      image (identify (dataAt shards index) (recode node)) = image node) :
    (renewed shards matrix).map (·.map image) = matrix.map (·.map image) := by
  apply List.ext_getElem?
  intro index
  rw [List.getElem?_map, List.getElem?_map, getElem?_renewed, Option.map_map]
  cases hnodes : matrix[index]? with
  | none => rfl
  | some nodes =>
    rw [Option.map_some, Option.map_some, Function.comp_apply, List.map_map]
    congr 1
    exact List.map_congr_left (h index nodes hnodes)

theorem stub_renewed (shards : List ShardData) (matrix : Matrix) :
    (renewed shards matrix).map (·.map stub) = matrix.map (·.map stub) :=
  map_renewed fun _ _ _ node _ ↦ stub_identify _ (recode node)

/-- The renewed matrix has the same records. -/
theorem Rested.record_renewed (h : Rested S cluster object matrix content) :
    (renewed (content.shards cluster) matrix).map (·.map record) = matrix.map (·.map record) := by
  apply map_renewed
  intro index nodes hnodes node hnode
  have hlegible := h.legible nodes (List.mem_of_getElem? hnodes) node hnode
  exact record_identify_recode hlegible ((h.shard hnodes).2.identified node hnode)

theorem Rested.filled_renewed (h : Rested S cluster object matrix content) (shards : List ShardData) :
    [] ∉ renewed shards matrix := by
  intro hnil
  have hstub : [] ∈ (renewed shards matrix).map (·.map stub) := List.mem_map.mpr ⟨[], hnil, rfl⟩
  rw [stub_renewed] at hstub
  obtain ⟨nodes, hnodes, hempty⟩ := List.mem_map.mp hstub
  rw [List.map_eq_nil_iff.mp hempty] at hnodes
  exact h.filled hnodes

/-- The renewed matrix migrates nothing. -/
theorem Rested.settled_renewed (h : Rested S cluster object matrix content) :
    ∀ nodes ∈ renewed (content.shards cluster) matrix, ∀ node ∈ nodes, node.role = .master → node.migrate = [] := by
  intro nodes hnodes node hnode hrole
  obtain ⟨index, hindex⟩ := List.mem_iff_getElem?.mp hnodes
  rw [getElem?_renewed, Option.map_eq_some_iff] at hindex
  obtain ⟨recorded, hrecorded, rfl⟩ := hindex
  obtain ⟨member, hmember, rfl⟩ := List.mem_map.mp hnode
  rw [identify_recode_role, (h.shard hrecorded).2.identified member hmember] at hrole
  rw [identify_migrate, recode, h.settled recorded (List.mem_of_getElem? hrecorded) member hmember hrole, List.map_nil]

end Rested

/-! ## The phases of a pass at rest -/

/-- A pass that has found nothing to do so far. -/
structure AtRest (S : Setting) (cluster : ClusterKey) (matrix : Matrix) (h : Handler) (world : World) : Prop where
  rested : Rested S cluster (bare h.instance_) matrix world.content
  heard : Heard (bare h.instance_) world
  synced : world.instances.find h.key = some h.instance_
  reached : h.controllerClient.clusterKey = cluster
  version : h.version = h.instance_.status.version
  going : h.requeue = false

variable {object : KVRocks}

section Phases

variable {S : Setting} {cluster : ClusterKey} {matrix : Matrix} {h : Handler} {world final : World}

theorem Provided.of_bare {sets : Table StatefulSet.key} {pods : Matrix}
    (h : Provided S (bare object) sets pods) : Provided S object sets pods :=
  ⟨h.images, h.listed, h.enough, h.ready⟩

theorem Agreed.of_bare {content : Content} {index : ℕ} {nodes : List Kvrocks.Node} {shard : ShardData}
    (h : Agreed content (bare object) index nodes shard) : Agreed content object index nodes shard :=
  ⟨h.one, h.named, h.ips, h.identified, h.labelled⟩

theorem Heard.of_still (h : Heard object world) (hstill : Still world final) : Heard object final := by
  unfold Heard
  rw [hstill.instances]
  exact h

/-- A world that stands still stays at rest. -/
theorem AtRest.of_still (hrest : AtRest S cluster matrix h world) (hstill : Still world final) :
    AtRest S cluster matrix h final where
  rested := hstill.content ▸ hrest.rested
  heard := hrest.heard.of_still hstill
  synced := hstill.instances ▸ hrest.synced
  reached := hrest.reached
  version := hrest.version
  going := hrest.going

theorem key_of_bare {changed : KVRocks} (h : bare changed = bare object) : changed.key = object.key := by
  have hkey : (bare changed).key = (bare object).key := by rw [h]
  exact hkey

/-- The same object is written with another resource version. -/
theorem content_save {key : NamespacedName} (hstored : world.instances.find key = some object) {changed : KVRocks}
    (hbare : bare changed = bare object) : (world.save changed).content = world.content := by
  have hkey := key_of_bare hbare
  have hlooks : ∀ old, world.instances.find changed.key = some old → bare old = bare changed := by
    intro old hold
    rw [hkey, (Table.find_eq_some_iff.mp hstored).2, hstored] at hold
    rw [← Option.some.inj hold, hbare]
  unfold World.content
  rw [show (world.save changed).instances.rows.map bare = world.instances.rows.map bare from Table.map_replace hlooks]
  rfl

/-- An object is found after a write as one with the same content and, if the annotations were left alone, with the
same annotations. -/
theorem heard_save {stored changed : KVRocks} {key : NamespacedName}
    (hstored : world.instances.find key = some stored) (hbare : bare changed = bare stored)
    (hcount : ∀ number, Text.atoi ((stored.annotations.lookup "change-count").getD "0") = (number, none) →
      ∃ number', Text.atoi ((changed.annotations.lookup "change-count").getD "0") = (number', none))
    (hheard : Heard object world) : Heard object (world.save changed) := by
  intro name hname
  obtain ⟨sentinel, number, hfind, hnumber⟩ := hheard name hname
  have hkey : changed.key = key := (key_of_bare hbare).trans (Table.find_eq_some_iff.mp hstored).2
  by_cases hown : (⟨object.ns, name⟩ : NamespacedName) = key
  · rw [hown, hstored] at hfind
    obtain rfl := Option.some.inj hfind
    obtain ⟨number', hnumber'⟩ := hcount number hnumber
    refine ⟨changed, number', ?_, hnumber'⟩
    rw [← hkey] at hstored
    rw [hown, ← hkey]
    exact Table.find_replace_self hstored
  · refine ⟨sentinel, number, ?_, hnumber⟩
    rw [← hkey] at hown
    exact (Table.find_replace_of_ne hown).trans hfind

/-- The handler writes its copy as it is. -/
theorem AtRest.updates (hrest : AtRest S cluster matrix h world) {post : KVRocks → World → Prop}
    (hpost : ∀ number later final, AtRest S cluster matrix later final → final.content = world.content →
      later = { h with instance_ := { h.instance_ with resourceVersion := number } } → post later.instance_ final) :
    Updates (steady S) (fun _ ↦ False) h.instance_ post world := by
  have hkey : h.instance_.key = h.key := (Table.find_eq_some_iff.mp hrest.synced).2
  apply updates_rests (by rw [hkey]; exact hrest.synced) rfl
  intro number
  have hcontent := content_save hrest.synced
    (show bare { h.instance_ with resourceVersion := number } = bare h.instance_ from rfl)
  apply hpost number { h with instance_ := { h.instance_ with resourceVersion := number } } _ _ hcontent rfl
  constructor
  · rw [hcontent]
    exact hrest.rested
  · exact heard_save hrest.synced rfl (fun number hnumber ↦ ⟨number, hnumber⟩) hrest.heard
  · have hstored := hrest.synced
    rw [← hkey] at hstored ⊢
    exact @Table.find_replace_self _ _ _ _ _ { h.instance_ with resourceVersion := number } _ hstored
  · exact hrest.reached
  · exact hrest.version
  · exact hrest.going

/-- A pass goes on with the next phase. -/
theorem thenUnlessRequeue_rests {phase : HandlerM Unit} {next : HandlerM Bool} {mid : Handler → World → Prop}
    {post : Bool → Handler → World → Prop} (hphase : RestsAt S phase (fun _ later final ↦ mid later final) h world)
    (hnext : ∀ later final, mid later final → later.requeue = false ∧ RestsAt S next post later final) :
    RestsAt S (thenUnlessRequeue phase next) post h world := by
  apply hphase.bind
  intro _ later final hmid
  obtain ⟨hgoing, hrest⟩ := hnext later final hmid
  apply ends_get_bind
  rw [hgoing, if_neg Bool.false_ne_true]
  exact hrest

theorem ensureReplication_rests (hrest : AtRest S cluster matrix h world)
    (hmatrix : h.stsNodes = matrix.map (·.map recode)) : IdleAt S ensureReplication h world := by
  have hloop : Reads S (mapEach (fun (shard : List Kvrocks.Node × ℕ) ↦ replicateShard h.instance_ shard.2 shard.1)
      h.stsNodes.zipIdx) (h.stsNodes.zipIdx.map Prod.fst) world := by
    apply yields_mapEach_eq
    intro shard hshard
    obtain ⟨nodes, index⟩ := shard
    have hnodes := List.mem_zipIdx_iff_getElem?.mp hshard
    rw [hmatrix, List.getElem?_map, Option.map_eq_some_iff] at hnodes
    obtain ⟨recorded, hrecorded, rfl⟩ := hnodes
    exact replicateShard_rests (hrest.rested.shard hrecorded).2.of_bare
  rw [List.zipIdx_map_fst] at hloop
  apply ends_get_bind
  apply ends_lift_bind hloop
  rintro _ world ⟨rfl, rfl⟩
  exact ends_modify ⟨rfl, rfl⟩

theorem registerCluster_rests (hrest : AtRest S cluster matrix h world)
    (hmatrix : h.stsNodes = matrix.map (·.map recode)) :
    RestsAt S registerCluster (fun _ later final ↦ later = h ∧ Still world final) h world := by
  have hrunning : h.instance_.status.status = .running := hrest.rested.running
  have hconverged : Converged h.stsNodes (world.content.shards cluster) := by
    refine ⟨?_, fun index shard nodes hshard hnodes ip ↦ ?_⟩
    · rw [hmatrix, List.length_map]
      exact hrest.rested.converged.1
    · rw [hmatrix, List.getElem?_map, Option.map_eq_some_iff] at hnodes
      obtain ⟨recorded, hrecorded, rfl⟩ := hnodes
      have hips : wantedIps (recorded.map recode) = wantedIps recorded := List.map_map
      rw [hips]
      exact hrest.rested.converged.2 index shard recorded hshard hrecorded ip
  apply ends_get_bind
  rw [if_neg (by rw [hrunning]; decide)]
  apply Method.ends_lift
  apply (updateCluster_rests h.password (hrest.reached ▸ hrest.rested.wellKept) (hrest.reached ▸ hconverged)).imp
  exact fun _ _ hstill ↦ ⟨rfl, hstill⟩

/-- The matrix is renewed. -/
theorem ensureSetNodeID_rests (hrest : AtRest S cluster matrix h world)
    (hmatrix : h.stsNodes = matrix.map (·.map recode)) :
    RestsAt S ensureSetNodeID (fun _ later final ↦
      later = { h with
        stsNodes := renewed (world.content.shards cluster) matrix } ∧
      Still world final) h world := by
  have hnodes : identifyAll (dataAt (world.content.shards cluster)) h.stsNodes =
      renewed (world.content.shards cluster) matrix := by rw [hmatrix]; rfl
  rw [← hnodes]
  apply ensureSetNodeID_yields_of (Still world) (Still.refl world)
  intro index nodes hnodes current hstill
  rw [hmatrix, List.getElem?_map, Option.map_eq_some_iff] at hnodes
  obtain ⟨recorded, hrecorded, rfl⟩ := hnodes
  obtain ⟨hshard, hagreed⟩ := hrest.rested.shard hrecorded
  rw [← hstill.content] at hshard hagreed ⊢
  apply (identifyShard_rests hagreed.of_bare (hrest.reached ▸ hshard)).imp
  exact fun result final hfinal ↦ ⟨hfinal.1, hstill.trans hfinal.2⟩

end Phases

section Records

variable {S : Setting} {cluster : ClusterKey} {matrix : Matrix} {h : Handler} {world : World}

/-- Rest does not depend on the matrix of the handler. -/
theorem AtRest.withNodes (hrest : AtRest S cluster matrix h world) (stsNodes : Matrix) :
    AtRest S cluster matrix { h with stsNodes := stsNodes } world :=
  ⟨hrest.rested, hrest.heard, hrest.synced, hrest.reached, hrest.version, hrest.going⟩

/-- The controller is left as it is. -/
theorem ensureCluster_rests (hrest : AtRest S cluster matrix h world)
    (hmatrix : h.stsNodes = matrix.map (·.map recode)) :
    RestsAt S ensureCluster (fun _ later final ↦
      AtRest S cluster matrix later final ∧ final.content = world.content ∧ later.key = h.key ∧
        later.stsNodes = renewed (world.content.shards cluster) matrix) h world := by
  apply (registerCluster_rests hrest hmatrix).bind
  rintro _ h registered ⟨rfl, hregistered⟩
  apply (ensureSetNodeID_rests (hrest.of_still hregistered) hmatrix).bind
  rintro _ _ identified ⟨rfl, hidentified⟩
  rw [hregistered.content]
  have hstill := hregistered.trans hidentified
  have hrunning : { h.instance_ with status := { h.instance_.status with status := .running } } = h.instance_ := by
    rw [← show h.instance_.status.status = .running from hrest.rested.running]
  apply ends_modify_bind
  rw [hrunning]
  apply saveInstanceOrRequeue_yields
  apply ((hrest.of_still hstill).withNodes _).updates
  rintro number _ final hlater hcontent rfl
  exact ⟨hlater, hcontent.trans hstill.content, rfl, rfl⟩

/-- The topology that is recorded is that of the matrix. -/
theorem ensureStatusTopoMsg_rests (hrest : AtRest S cluster matrix h world)
    (htopo : h.instance_.status.topo = statusTopo h.instance_.name (h.stsNodes.map (·.map some))) :
    RestsAt S ensureStatusTopoMsg (fun _ later final ↦
      AtRest S cluster matrix later final ∧ final.content = world.content ∧ later.key = h.key ∧
        later.stsNodes = h.stsNodes.map (·.map sortSlots)) h world := by
  have hsame : withTopo h.instance_ (h.stsNodes.map (·.map some)) h.version = h.instance_ := by
    unfold withTopo
    rw [← htopo, hrest.version]
  apply ensureStatusTopoMsg_yields
  rw [hsame]
  apply hrest.updates
  rintro number _ final hlater hcontent rfl
  exact ⟨hlater.withNodes _, hcontent, rfl, rfl⟩

/-- The status is written as it is: its version counts no change, and its topology is the recorded one. -/
theorem ensureKVRocksStatus_rests (hrest : AtRest S cluster matrix h world)
    (hmatrix : h.stsNodes = matrix.map (·.map recode)) :
    RestsAt S ensureKVRocksStatus (fun _ later final ↦
      AtRest S cluster matrix later final ∧ final.content = world.content ∧ later.key = h.key ∧ later.stsNodes =
        (renewed (world.content.shards cluster) matrix).map (·.map sortSlots))
      h world := by
  have hrunning : h.instance_.status.status = .running := hrest.rested.running
  apply ensureKVRocksConfig_rests.bind
  rintro _ _ world ⟨rfl, rfl⟩
  have hconfigured : AtRest S cluster matrix { h with password := h.instance_.spec.password } world :=
    ⟨hrest.rested, hrest.heard, hrest.synced, hrest.reached, hrest.version, hrest.going⟩
  apply ends_get_bind
  rw [if_neg (by rw [hrunning]; decide)]
  apply (ensureReplication_rests hconfigured hmatrix).bind
  rintro _ _ world ⟨rfl, rfl⟩
  apply (ensureCluster_rests hconfigured hmatrix).bind
  rintro _ later registered ⟨hlater, hcontent, hkey, hnodes⟩
  have hfilled : [] ∉ later.stsNodes := hnodes ▸ hrest.rested.filled_renewed _
  have htopo : later.instance_.status.topo = statusTopo later.instance_.name (later.stsNodes.map (·.map some)) := by
    rw [hnodes]
    exact hlater.rested.topo.trans (statusTopo_congr _ hrest.rested.record_renewed).symm
  have hwritten : later.instance_.status.topo ≠ [] := by
    rw [htopo, ← List.length_pos_iff, length_statusTopo _ hfilled, List.length_pos_iff, hnodes]
    intro hnil
    have hstubs := stub_renewed (world.content.shards cluster) matrix
    rw [hnil, List.map_nil, eq_comm, List.map_eq_nil_iff] at hstubs
    exact hrest.rested.inhabited hstubs
  have hunchanged : topoChanged later.instance_.status.topo later.stsNodes = false := by
    rw [htopo]
    exact topoChanged_statusTopo _ hfilled
  have hversion : RestsAt S ensureVersion (fun _ last final ↦ last = later ∧ final = registered) later registered := by
    apply ends_modify
    rw [hunchanged, if_neg (by simp [hwritten])]
    exact ⟨rfl, rfl⟩
  apply hversion.bind
  rintro _ later registered ⟨rfl, rfl⟩
  apply (ensureStatusTopoMsg_rests hlater htopo).bind
  rintro _ last final ⟨hlast, hsame, hlastKey, hsorted⟩
  apply ends_modify
  refine ⟨⟨hlast.rested, hlast.heard, hlast.synced, hlast.reached, rfl, hlast.going⟩, hsame.trans hcontent,
    hlastKey.trans hkey, ?_⟩
  change last.stsNodes = _
  rw [hsorted, hnodes]

/-- Nothing is migrated. -/
theorem ensureMigrate_rests (hrest : AtRest S cluster matrix h world)
    (hsettled : ∀ nodes ∈ h.stsNodes, ∀ node ∈ nodes, node.role = .master → node.migrate = [])
    (htopo : h.instance_.status.topo = statusTopo h.instance_.name (h.stsNodes.map (·.map some))) :
    RestsAt S ensureMigrate (fun _ later final ↦
      AtRest S cluster matrix later final ∧ final.content = world.content ∧ later.key = h.key ∧
        later.stsNodes = h.stsNodes.map (·.map sortSlots)) h world := by
  apply ends_get_bind
  split
  · next node shard index source hfound =>
    obtain ⟨hat, hrole⟩ := Migration.mem_masters.mp (List.fst_mem_of_mem_zipIdx (List.mem_of_find?_eq_some hfound))
    obtain ⟨nodes, hnodes, hnode⟩ := Option.bind_eq_some_iff.mp hat
    have hdone := hsettled nodes (List.mem_of_getElem? hnodes) node (List.mem_of_getElem? hnode) hrole
    have hleft := List.find?_some hfound
    simp [hdone] at hleft
  · exact ensureStatusTopoMsg_rests hrest htopo

end Records

/-! ## The rest of the pass -/

/-- No shard has a node too many. -/
theorem shrinkShards_of_small (instance_ : KVRocks) {shards : Matrix}
    (h : ∀ nodes ∈ shards, (nodes.length : ℤ) ≤ instance_.spec.replicas) (index : ℕ) :
    shrinkShards instance_ index shards = some ([], shards.map (·.map some)) := by
  induction shards generalizing index with
  | nil => rfl
  | cons nodes shards ih =>
    obtain ⟨hnodes, hshards⟩ := List.forall_mem_cons.mp h
    have hdelta : ¬ (nodes.length : ℤ) - instance_.spec.replicas > 0 := by omega
    simp only [shrinkShards, getReserveIndex, hdelta, if_false, ih hshards (index + 1), Option.bind_eq_bind,
      Option.bind_some, List.map_cons]

/-- Whether a claim is stale depends on the pods of the matrix. -/
theorem claimIsStale_stub (h : Handler) (name : String) :
    claimIsStale { h with stsNodes := h.stsNodes.map (·.map stub) } name = claimIsStale h name := by
  have hfind (nodes : List Kvrocks.Node) (podIdx : ℤ) :
      ((nodes.map stub).find? fun node ↦ decide ((node.podIndex : ℤ) ≥ podIdx)) =
        (nodes.find? fun node ↦ decide ((node.podIndex : ℤ) ≥ podIdx)).map stub := List.find?_map
  unfold claimIsStale
  dsimp only
  split
  · rw [List.getElem?_map]
    cases h.stsNodes[(_ : ℕ)]? with
    | none => rfl
    | some nodes =>
      simp only [Option.map_some, Option.bind_eq_bind, Option.bind_some, hfind]
      cases nodes.find? _ <;> rfl
  · rfl

section Ending

variable {S : Setting} {cluster : ClusterKey} {matrix : Matrix} {h : Handler} {world : World}

/-- There is no shard and no node to give up, or giving up is put off. -/
theorem ensureShrink_rests (hrest : AtRest S cluster matrix h world)
    (hlengths : h.stsNodes.map List.length = matrix.map List.length) : IdleAt S ensureShrink h world := by
  have hsteady : h.instance_.status.rebalance = true ∨ matrix.length ≤ h.instance_.spec.master ∧
      ∀ nodes ∈ matrix, (nodes.length : ℤ) ≤ h.instance_.spec.replicas := hrest.rested.steady
  have henough : h.instance_.spec.master ≤ matrix.length := by
    have henough := hrest.rested.provided.enough
    rwa [List.length_map] at henough
  have hlength : h.stsNodes.length = matrix.length := by
    simpa using congrArg List.length hlengths
  have henter : Idle S (Fallible.lift (ask (.enter (.ensureShrink h.instance_ h.stsNodes))) : Go Unit) world := by
    apply ends_lift
    exact fun _ _ hanswer ↦ hanswer
  apply ends_get_bind
  apply ends_lift_bind henter
  rintro _ world rfl
  split
  · exact Method.ends_pure ⟨rfl, rfl⟩
  · rename_i hrebalance
    obtain ⟨hfew, hsmall⟩ := hsteady.resolve_left hrebalance
    have hindex : shrinkIndex h = [] := by
      unfold shrinkIndex
      rw [List.drop_eq_nil_iff, List.length_range, hlength]
      exact hfew
    have hkept : ∀ nodes ∈ h.stsNodes.take h.instance_.spec.master, (nodes.length : ℤ) ≤ h.instance_.spec.replicas := by
      intro nodes hnodes
      have hmember : nodes.length ∈ matrix.map List.length := by
        rw [← hlengths]
        exact List.mem_map_of_mem (List.mem_of_mem_take hnodes)
      obtain ⟨recorded, hrecorded, hsame⟩ := List.mem_map.mp hmember
      rw [← hsame]
      exact hsmall recorded hrecorded
    rw [hindex]
    apply (Method.ends_pure ⟨rfl, rfl⟩ : (pure () : HandlerM Unit).Yields _ _
      (fun _ later final ↦ later = h ∧ final = world) h world).bind
    rintro _ h world ⟨rfl, rfl⟩
    apply ends_get_bind
    have hplan : Rests S (Fallible.ofOption
        (shrinkShards h.instance_ 0 (h.stsNodes.take h.instance_.spec.master)) : Go _)
        (fun plan final ↦ plan.1 = [] ∧ final = world) world := by
      rw [shrinkShards_of_small h.instance_ hkept]
      exact ends_pure ⟨rfl, rfl⟩
    rw [if_neg (by omega)]
    apply ends_lift_bind hplan
    rintro plan world ⟨hreserves, rfl⟩
    change (if shrinkIndex h = [] ∧ plan.1 = [] then pure () else _ : HandlerM Unit).Yields _ _ _ _ _
    rw [if_pos ⟨hindex, hreserves⟩]
    exact Method.ends_pure ⟨rfl, rfl⟩

/-- The count that is written to a sentinel can be read again. -/
theorem updateSentinelAnnotationCount_rests {sentinel : KVRocks} {name : String} {number : ℤ}
    (hheard : Heard object world) (hfind : world.instances.find ⟨object.ns, name⟩ = some sentinel)
    (hnumber : Text.atoi ((sentinel.annotations.lookup "change-count").getD "0") = (number, none)) :
    Rests S (Common.updateSentinelAnnotationCount object.ns name)
      (fun _ final ↦ final.content = world.content ∧ Heard object final) world := by
  have hkey := (Table.find_eq_some_iff.mp hfind).2
  have hupdate : Updates (steady S) (fun _ ↦ False) { sentinel with
      annotations := sentinel.annotations.set "change-count" (Text.itoa (Kvrocks.wrapInt (number + 1))) }
      (fun _ final ↦ final.content = world.content ∧ Heard object final) world := by
    have hstored := hfind
    rw [← hkey] at hstored
    apply updates_rests
    · exact hstored
    · rfl
    · intro version
      refine ⟨content_save hfind rfl, heard_save hfind rfl (fun _ _ ↦ ⟨Kvrocks.wrapInt (number + 1), ?_⟩) hheard⟩
      rw [Agreement.lookup_set, Option.getD_some]
      exact Text.atoi_itoa_int (Kvrocks.isInt_wrapInt _).1 (Kvrocks.isInt_wrapInt _).2
  apply (getKVRocks_rests hfind).bind
  rintro _ world ⟨rfl, rfl⟩
  simp only [hnumber]
  apply (updateKVRocks_yields hupdate).bind
  exact fun _ final hfinal ↦ ends_pure hfinal

/-- The sentinel is told, and nothing else changes. -/
theorem ensureSentinel_rests (hrest : AtRest S cluster matrix h world) : RestsAt S ensureSentinel (fun _ later final ↦
      later = h ∧ final.content = world.content ∧ Heard (bare h.instance_) final) h world := by
  have hshrink : h.instance_.status.shrink = none := hrest.rested.shrink
  have hfinalizer : kvrocksFinalizer ∈ h.instance_.finalizers := hrest.rested.finalizer
  apply ends_get_bind
  rw [if_neg (by rw [hshrink]; decide), if_pos hfinalizer]
  apply Method.ends_lift
  unfold notifySentinel
  cases hname : h.instance_.labels.lookup monitoredBy with
  | none => exact ends_pure ⟨rfl, rfl, hrest.heard⟩
  | some name =>
    obtain ⟨sentinel, number, hfind, hnumber⟩ := hrest.heard name hname
    apply (updateSentinelAnnotationCount_rests (S := S) hrest.heard hfind hnumber).imp
    exact fun _ final hfinal ↦ ⟨rfl, hfinal⟩

/-- No claim is stale. -/
theorem cleanPersistentVolumeClaim_rests (hshrink : h.instance_.status.shrink = none)
    (hswept : ∀ claim ∈ listClaims world.claims h.instance_.ns (selectorLabels h.instance_),
      claimIsStale h claim.name = some false) :
    IdleAt S cleanPersistentVolumeClaim h world := by
  have hloop : Idle S (forEach (cleanClaim h) (listClaims world.claims h.instance_.ns (selectorLabels h.instance_)) :
      Go Unit) world :=
    idle_forEach fun claim hclaim ↦ by
      unfold cleanClaim
      rw [hswept claim hclaim]
      exact ends_pure rfl
  apply ends_get_bind
  rw [if_neg (by rw [hshrink]; decide)]
  apply ends_lift_bind (listPVC_rests _ _)
  rintro _ world ⟨rfl, rfl⟩
  apply Method.ends_lift
  apply hloop.imp
  exact fun _ _ hfinal ↦ ⟨rfl, hfinal⟩

end Ending

/-! ## The pass -/

section Pass

variable {S : Setting} {cluster : ClusterKey} {matrix : Matrix} {object : KVRocks} {world : World}

/-- What `sortSlots` leaves alone may be read off the matrix before. -/
theorem map_sortSlots {β : Type} {image : Kvrocks.Node → β} (h : ∀ node, image (sortSlots node) = image node)
    (stsNodes : Matrix) :
    (stsNodes.map (·.map sortSlots)).map (·.map image) = stsNodes.map (·.map image) := by
  simp only [List.map_map, Function.comp_def, h]

theorem settled_sortSlots {stsNodes : Matrix}
    (h : ∀ nodes ∈ stsNodes, ∀ node ∈ nodes, node.role = .master → node.migrate = []) :
    ∀ nodes ∈ stsNodes.map (·.map sortSlots), ∀ node ∈ nodes, node.role = .master → node.migrate = [] := by
  simp only [List.forall_mem_map]
  intro nodes hnodes node hnode hrole
  rw [sortSlots, h nodes hnodes node hnode hrole, List.map_nil]

/-- The object that is stored under a key is at rest. -/
structure Resting (S : Setting) (cluster : ClusterKey) (matrix : Matrix) (key : NamespacedName)
    (object : KVRocks) (world : World) : Prop where
  found : world.instances.find key = some object
  rested : Rested S cluster (bare object) matrix world.content
  heard : Heard (bare object) world

/-- There is no message to carry out. -/
theorem cleanStatefulSetIfShrinking_rests {h : Handler} (hshrink : h.instance_.status.shrink = none) :
    IdleAt S cleanStatefulSetIfShrinking h world := by
  apply ends_get_bind
  rw [hshrink]
  exact Method.ends_pure ⟨rfl, rfl⟩

/-- An object is found again, up to its annotations and its resource version. -/
theorem exists_find_of_content {final : World} {key : NamespacedName} (hcontent : final.content = world.content)
    (hfind : world.instances.find key = some object) :
    ∃ stored, final.instances.find key = some stored ∧ bare stored = bare object := by
  obtain ⟨hmember, hkey⟩ := Table.find_eq_some_iff.mp hfind
  have hrows : final.instances.rows.map bare = world.instances.rows.map bare := congrArg Content.instances hcontent
  have hbare : bare object ∈ final.instances.rows.map bare := by
    rw [hrows]
    exact List.mem_map_of_mem hmember
  obtain ⟨stored, hstored, hsame⟩ := List.mem_map.mp hbare
  exact ⟨stored, Table.find_eq_some_iff.mpr ⟨hstored, (key_of_bare hsame).trans hkey⟩, hsame⟩

/-- What the phases after `ensureFailover` do to an instance at rest. -/
theorem handle_rests_after {h : Handler} (hrest : AtRest S cluster matrix h world)
    (hmatrix : h.stsNodes = matrix.map (·.map recode)) :
    (thenUnlessRequeue ensureKVRocksStatus <| thenUnlessRequeue ensureMigrate <| thenUnlessRequeue ensureShrink <|
      thenUnlessRequeue ensureSentinel <| thenUnlessRequeue cleanPersistentVolumeClaim <| pure true).Yields
      (steady S) (fun _ ↦ False) (fun finished later final ↦ finished = true ∧ later.requeue = false ∧
        final.content = world.content ∧ ∃ stored, Resting S cluster matrix h.key stored final) h world := by
  apply thenUnlessRequeue_rests (ensureKVRocksStatus_rests hrest hmatrix)
  rintro recorded written ⟨hrecorded, hwritten, hkey, hnodes⟩
  have htopo : recorded.instance_.status.topo =
      statusTopo recorded.instance_.name (recorded.stsNodes.map (·.map some)) := by
    rw [hnodes, Migration.statusTopo_sortSlots]
    exact hrecorded.rested.topo.trans (statusTopo_congr _ hrest.rested.record_renewed).symm
  have hsettled : ∀ nodes ∈ recorded.stsNodes, ∀ node ∈ nodes, node.role = .master → node.migrate = [] := by
    rw [hnodes]
    exact settled_sortSlots hrest.rested.settled_renewed
  have hstubs : recorded.stsNodes.map (·.map stub) = matrix.map (·.map stub) := by
    rw [hnodes, map_sortSlots fun _ ↦ rfl, stub_renewed]
  refine ⟨hrecorded.going, thenUnlessRequeue_rests (ensureMigrate_rests hrecorded hsettled htopo) ?_⟩
  rintro migrated rewritten ⟨hmigrated, hrewritten, hmigratedKey, hsorted⟩
  have hsame : migrated.stsNodes.map (·.map stub) = matrix.map (·.map stub) := by
    rw [hsorted, map_sortSlots fun _ ↦ rfl, hstubs]
  have hlengths : migrated.stsNodes.map List.length = matrix.map List.length := by
    simpa [Function.comp_def] using congrArg (List.map List.length) hsame
  refine ⟨hmigrated.going, thenUnlessRequeue_rests (ensureShrink_rests hmigrated hlengths) ?_⟩
  rintro migrated rewritten ⟨rfl, rfl⟩
  refine ⟨hmigrated.going, thenUnlessRequeue_rests (ensureSentinel_rests hmigrated) ?_⟩
  rintro migrated heard ⟨rfl, hheard, hsentinel⟩
  have hrested := hmigrated.rested
  rw [← hheard] at hrested
  have hswept : ∀ claim ∈ listClaims heard.claims migrated.instance_.ns (selectorLabels migrated.instance_),
      claimIsStale migrated claim.name = some false := by
    intro claim hclaim
    have hstale := hrested.swept claim hclaim
    rw [← claimIsStale_stub] at hstale ⊢
    rw [hsame]
    exact hstale
  refine ⟨hmigrated.going, thenUnlessRequeue_rests (cleanPersistentVolumeClaim_rests hrested.shrink hswept) ?_⟩
  rintro migrated heard ⟨rfl, rfl⟩
  obtain ⟨stored, hstored, hbare⟩ := exists_find_of_content hheard hmigrated.synced
  rw [← hbare] at hrested hsentinel
  rw [hmigratedKey, hkey] at hstored
  exact ⟨hmigrated.going, Method.ends_pure ⟨rfl, hmigrated.going, hheard.trans (hrewritten.trans hwritten), stored,
    hstored, hrested, hsentinel⟩⟩

/-- A pass over an instance at rest is finished, leaves everything as it was, and leaves the instance at rest. -/
theorem handle_rests {key : NamespacedName} (h : Resting S cluster matrix key object world)
    (hreach : (S.reach client object.ns).clusterKey = cluster) :
    RestsAt S handle (fun finished later final ↦ finished = true ∧ later.requeue = false ∧
      final.content = world.content ∧ ∃ stored, Resting S cluster matrix key stored final)
      (newKVRocksClusterHandler key object client) world := by
  have hrested := h.rested
  have hrestored : restoreTopo object.status.topo (matrix.map (·.map stub)) = some (matrix.map (·.map recode)) := by
    have htopo : object.status.topo = statusTopo object.name (matrix.map (·.map some)) := hrested.topo
    rw [htopo]
    exact restoreTopo_statusTopo _ hrested.filled
  apply thenUnlessRequeue_rests (ensureController_rests hrested.up)
  rintro connected awake ⟨hconnected, hawake⟩
  rw [← hawake.content] at hrested
  have hsynced : awake.instances.find connected.key = some connected.instance_ := by
    rw [hawake.instances, hconnected]
    exact h.found
  have hprovided : Provided S connected.instance_ awake.sets (matrix.map (·.map stub)) := by
    rw [hconnected]
    exact hrested.provided.of_bare
  refine ⟨by rw [hconnected]; rfl, ?_⟩
  apply thenUnlessRequeue_rests (cleanStatefulSetIfShrinking_rests (by rw [hconnected]; exact hrested.shrink))
  rintro connected awake ⟨rfl, rfl⟩
  refine ⟨by rw [hconnected]; rfl, ?_⟩
  apply thenUnlessRequeue_rests (ensureKubernetes_rests hsynced hprovided (by rw [hconnected]; exact hrestored))
  rintro fixed awake ⟨⟨password, hfixed⟩, rfl⟩
  have hmatrix : fixed.stsNodes = matrix.map (·.map recode) := by rw [hfixed]
  have hunflagged : Encoding.Unflagged fixed := by
    unfold Encoding.Unflagged
    rw [hmatrix]
    simp only [List.forall_mem_map]
    exact fun _ _ _ _ ↦ rfl
  have hrest : AtRest S cluster matrix fixed awake := by
    rw [hconnected] at hsynced hfixed
    rw [hfixed]
    exact ⟨hrested, h.heard.of_still hawake, hsynced, hreach, rfl, rfl⟩
  refine ⟨hrest.going, thenUnlessRequeue_rests (ensureFailover_rests hunflagged) ?_⟩
  rintro fixed awake ⟨rfl, rfl⟩
  refine ⟨hrest.going, (handle_rests_after hrest hmatrix).imp ?_⟩
  intro finished _ final hfinal
  have hkey : fixed.key = key := by rw [hfixed, hconnected]; rfl
  rw [hkey, hawake.content] at hfinal
  exact hfinal

end Pass

end KvrocksOperator.Cluster.Rest
