import KvrocksOperator.Cluster.Agreement

/-!
# The master that `ensureReplication` leaves

`ensureReplication` looks for the first node recorded as master, takes the first node if there is none, and makes the
other nodes follow it.  Whether a node has to be changed is decided by ids alone: a node whose own id or whose master
is already the id of the master is left as it is, whatever its role.  Nodes without ids are all alike in this respect,
so the nodes of a new shard keep the role they have, which is none.
-/

namespace KvrocksOperator.Cluster

open Interaction Controller Resources Sequences

namespace Election

open Agreement

/-! ## The nodes of one shard -/

/-- The position of the first node recorded as master, or the first position if there is none. -/
def electedIndex (nodes : List Kvrocks.Node) : ℕ := (nodes.findIdx? (·.role == .master)).getD 0

/-- One node is the master, the one that the records have elected, and the others are its slaves. -/
def Elected (nodes after : List Kvrocks.Node) : Prop :=
  ∃ leader, after[electedIndex nodes]? = some leader ∧ leader.role = .master ∧
    ∀ index, index ≠ electedIndex nodes → ∀ node, after[index]? = some node →
      node.role = .slave ∧ node.master = leader.nodeId

/-- The elected node is the first one or has an id, and each other node is a slave of it already or has neither its id
nor its id as master. -/
def Electable (nodes : List Kvrocks.Node) : Prop :=
  ∃ leader, nodes[electedIndex nodes]? = some leader ∧ (electedIndex nodes = 0 ∨ leader.nodeId ≠ "") ∧
    ∀ index, index ≠ electedIndex nodes → ∀ node, nodes[index]? = some node →
      node.role = .slave ∧ node.master = leader.nodeId ∨ node.nodeId ≠ leader.nodeId ∧ node.master ≠ leader.nodeId

section Shard

variable {nodes : List Kvrocks.Node}

theorem exists_elected (hne : nodes ≠ []) : ∃ leader, nodes[electedIndex nodes]? = some leader := by
  unfold electedIndex
  cases hfind : nodes.findIdx? (·.role == .master) with
  | none =>
    obtain ⟨first, rest, rfl⟩ := List.exists_cons_of_ne_nil hne
    exact ⟨first, rfl⟩
  | some index =>
    obtain ⟨hlt, -⟩ := List.findIdx?_eq_some_iff_getElem.mp hfind
    exact ⟨nodes[index], List.getElem?_eq_getElem hlt⟩

variable {leader : Kvrocks.Node}

/-- The search for the master's id finds the elected node, unless no node is recorded as master. -/
theorem masterNodeID_cases (hleader : nodes[electedIndex nodes]? = some leader) :
    leader.role = .master ∧ masterNodeID nodes = leader.nodeId ∨ electedIndex nodes = 0 ∧ masterNodeID nodes = "" := by
  have hsearch : nodes.find? (·.role == .master) =
      (nodes.findIdx? (·.role == .master)).bind fun index ↦ nodes[index]? :=
    List.find?_eq_bind_findIdx?_getElem?
  unfold masterNodeID electedIndex at *
  rw [hsearch]
  cases hfind : nodes.findIdx? (·.role == .master) with
  | none => exact Or.inr ⟨rfl, rfl⟩
  | some index =>
    rw [hfind, Option.getD_some] at hleader
    obtain ⟨hlt, hmaster, -⟩ := List.findIdx?_eq_some_iff_getElem.mp hfind
    rw [List.getElem?_eq_getElem hlt, Option.some.injEq] at hleader
    rw [hleader, beq_iff_eq] at hmaster
    refine Or.inl ⟨hmaster, ?_⟩
    rw [Option.bind_some, List.getElem?_eq_getElem hlt, hleader]

theorem elected_getElem? (index : ℕ) :
    (elected nodes)[index]? = (nominated nodes)[index]?.map (followMaster (leaderID nodes)) := by
  rw [elected, List.getElem?_map]

/-- A node that is not changed, or is changed to a slave. -/
theorem followMaster_slave_iff {masterID : String} {node : Kvrocks.Node} :
    (followMaster masterID node).role = .slave ∧ (followMaster masterID node).master = masterID ↔
      node.role = .slave ∧ node.master = masterID ∨ node.nodeId ≠ masterID ∧ node.master ≠ masterID := by
  unfold followMaster
  split_ifs with hchange
  · simp [hchange]
  · simp [hchange]

theorem followMaster_self (node : Kvrocks.Node) : followMaster node.nodeId node = node :=
  if_neg fun hchange ↦ hchange.1 rfl

/-- Where the records elect the first node or one with an id, this is the node that is made the master. -/
theorem nominated_of_electable (hleader : nodes[electedIndex nodes]? = some leader)
    (hid : electedIndex nodes = 0 ∨ leader.nodeId ≠ "") :
    leaderID nodes = leader.nodeId ∧ (nominated nodes)[electedIndex nodes]? = some { leader with role := .master } ∧
      ∀ index, index ≠ electedIndex nodes → (nominated nodes)[index]? = nodes[index]? := by
  unfold leaderID nominated
  by_cases hempty : masterNodeID nodes = ""
  · have hfirst : electedIndex nodes = 0 := by
      rcases masterNodeID_cases hleader with ⟨-, hmaster⟩ | ⟨hfirst, -⟩
      · exact hid.resolve_right fun hne ↦ hne (hmaster ▸ hempty)
      · exact hfirst
    rw [hfirst] at hleader
    rw [if_pos hempty, if_pos hempty, hfirst, List.head?_eq_getElem?, hleader]
    refine ⟨rfl, ?_, fun index hindex ↦ ?_⟩
    · rw [List.getElem?_modifyHead, if_pos rfl, hleader]
      rfl
    · rw [List.getElem?_modifyHead, if_neg hindex]
  · rw [if_neg hempty, if_neg hempty]
    rcases masterNodeID_cases hleader with ⟨hrole, hmaster⟩ | ⟨-, habsurd⟩
    · refine ⟨hmaster, ?_, fun _ _ ↦ rfl⟩
      rw [hleader, ← hrole]
    · exact absurd habsurd hempty

/-- A node recorded as master without an id is passed over, and the first node is made the master instead. -/
theorem first_nominated (hleader : nodes[electedIndex nodes]? = some leader) (hfirst : electedIndex nodes ≠ 0)
    (hid : leader.nodeId = "") : ∃ node, (elected nodes)[0]? = some node ∧ node.role = .master := by
  have hempty : masterNodeID nodes = "" := by
    rcases masterNodeID_cases hleader with ⟨-, hmaster⟩ | ⟨-, hempty⟩
    · rw [hmaster, hid]
    · exact hempty
  cases nodes with
  | nil => simp at hleader
  | cons first rest =>
    refine ⟨{ first with role := .master }, ?_, rfl⟩
    rw [elected_getElem?]
    unfold nominated leaderID
    rw [if_pos hempty, if_pos hempty]
    exact congrArg some (followMaster_self { first with role := .master })

/-- One node becomes the master and the others its slaves just if the records allow it. -/
theorem elected_iff (hne : nodes ≠ []) : Elected nodes (elected nodes) ↔ Electable nodes := by
  obtain ⟨leader, hleader⟩ := exists_elected hne
  by_cases hid : electedIndex nodes = 0 ∨ leader.nodeId ≠ ""
  · obtain ⟨hmasterID, hmaster, hothers⟩ := nominated_of_electable hleader hid
    have hafter : (elected nodes)[electedIndex nodes]? = some { leader with role := .master } := by
      rw [elected_getElem?, hmaster, hmasterID]
      exact congrArg some (followMaster_self { leader with role := .master })
    have hother (index : ℕ) (hindex : index ≠ electedIndex nodes) :
        (∀ node, (elected nodes)[index]? = some node → node.role = .slave ∧ node.master = leader.nodeId) ↔
          ∀ node, nodes[index]? = some node → node.role = .slave ∧ node.master = leader.nodeId ∨
            node.nodeId ≠ leader.nodeId ∧ node.master ≠ leader.nodeId := by
      rw [elected_getElem?, hothers index hindex, hmasterID]
      cases nodes[index]? with
      | none => simp
      | some node => simp [followMaster_slave_iff]
    constructor
    · rintro ⟨found, hfound, -, hslaves⟩
      rw [hafter, Option.some.injEq] at hfound
      rw [← hfound] at hslaves
      exact ⟨leader, hleader, hid, fun index hindex ↦ (hother index hindex).mp (hslaves index hindex)⟩
    · rintro ⟨found, hfound, -, hrecords⟩
      rw [hleader, Option.some.injEq] at hfound
      rw [← hfound] at hrecords
      exact ⟨_, hafter, rfl, fun index hindex ↦ (hother index hindex).mpr (hrecords index hindex)⟩
  · obtain ⟨hfirst, hempty⟩ := not_or.mp hid
    obtain ⟨node, hnode, hrole⟩ := first_nominated hleader hfirst (not_not.mp hempty)
    constructor
    · rintro ⟨found, -, -, hslaves⟩
      have hslave := (hslaves 0 (Ne.symm hfirst) node hnode).1
      rw [hrole] at hslave
      cases hslave
    · rintro ⟨found, hfound, hfoundId, -⟩
      rw [hleader, Option.some.injEq] at hfound
      exact absurd (hfound ▸ hfoundId) hid

end Shard

/-! ## The whole matrix -/

/-- The first shards have been replicated and labelled. -/
structure ElectedUpTo (h : Handler) (images : Matrix) (final : World) : Prop where
  taken : images = (h.stsNodes.take images.length).map elected
  filled : [] ∉ h.stsNodes.take images.length
  labelled : ∀ shard nodes, images[shard]? = some nodes → ∀ node ∈ nodes,
    final.roleLabel (podKey h.instance_ shard node) = node.role.text

theorem ElectedUpTo.next {h : Handler} {images : Matrix} {later final : World}
    {nodes : List Kvrocks.Node} (hup : ElectedUpTo h images later) (hnodes : h.stsNodes[images.length]? = some nodes)
    (hne : nodes ≠ [])
    (hlabels : ∀ node ∈ elected nodes, final.roleLabel (podKey h.instance_ images.length node) = node.role.text)
    (hframe : Relabelled (podsOf h.instance_ images.length) later final) :
    ElectedUpTo h (images ++ [elected nodes]) final := by
  have htake : h.stsNodes.take (images ++ [elected nodes]).length = h.stsNodes.take images.length ++ [nodes] := by
    rw [List.length_append, List.length_singleton, List.take_add_one, hnodes]
    rfl
  constructor
  · rw [htake, List.map_append, ← hup.taken, List.map_singleton]
  · rw [htake, List.mem_append, List.mem_singleton, not_or]
    exact ⟨hup.filled, fun hnil ↦ hne hnil.symm⟩
  · intro shard image himage node hnode
    by_cases hlast : shard = images.length
    · rw [hlast, List.getElem?_concat_length, Option.some.injEq] at himage
      rw [← himage] at hnode
      rw [hlast]
      exact hlabels node hnode
    · have hlt : shard < images.length := by
        have hbound := (List.getElem?_eq_some_iff.mp himage).1
        rw [List.length_append, List.length_singleton] at hbound
        omega
      rw [List.getElem?_append_left hlt] at himage
      have huntouched : ¬ podsOf h.instance_ images.length (podKey h.instance_ shard node) := by
        rintro ⟨other, hsame⟩
        exact hlast (podKey_inj hsame).1
      rw [hframe.roleLabel huntouched]
      exact hup.labelled shard image himage node hnode

/-- The matrix that `ensureReplication` leaves, and the labels of its pods. -/
theorem ensureReplication_elects {h : Handler} (hordinals : Ordinals h.stsNodes) (world : World) :
    ensureReplication.Yields around anyFailure (fun _ later final ↦
      later = { h with stsNodes := h.stsNodes.map elected } ∧ [] ∉ h.stsNodes ∧
        ElectedUpTo h later.stsNodes final) h world := by
  have hloop : (mapEach (fun (nodes, partition) ↦ replicateShard h.instance_ partition nodes)
      h.stsNodes.zipIdx).Yields around anyFailure (fun stsNodes final ↦
        stsNodes.length = h.stsNodes.zipIdx.length ∧ ElectedUpTo h stsNodes final) world := by
    apply yields_mapEach_index (ElectedUpTo h)
    · exact ⟨rfl, List.not_mem_nil, by simp⟩
    · intro images shard hshard later hlater
      obtain ⟨hnodes, hindex⟩ := getElem?_of_zipIdx hshard
      have hmem := hordinals shard.1 (List.mem_of_getElem? hnodes)
      apply (replicateShard_elects h.instance_ shard.2 hmem later).imp
      intro replicated final hfinal
      obtain ⟨⟨hreplicated, hne⟩, hlabels, hframe⟩ := hfinal
      rw [hindex] at hlabels hframe
      rw [hreplicated]
      exact hlater.next hnodes hne hlabels hframe
  apply ends_get_bind
  apply ends_lift_bind hloop
  intro stsNodes final hfinal
  apply ends_modify
  have htake : h.stsNodes.take stsNodes.length = h.stsNodes := by
    rw [hfinal.1, List.length_zipIdx, List.take_length]
  have htaken := hfinal.2.taken
  have hfilled := hfinal.2.filled
  rw [htake] at htaken hfilled
  refine ⟨?_, hfilled, hfinal.2⟩
  rw [← htaken]

/-! ## The nodes that are added to the controller -/

/-- A node that is added to a shard of the controller is one of the nodes of the shard, with its role. -/
def AddsMember (stsNodes : Matrix) : Call → Prop
  | .http _ (.addNode _ _ shardIndex option) => ∃ (shard : ℕ) (nodes : List Kvrocks.Node), shardIndex = shard ∧
    stsNodes[shard]? = some nodes ∧ ∃ node ∈ nodes, option.addr = nodeAddr node ∧ option.role = node.role
  | _ => True

theorem sendExpecting_returns {allowed : Call → Prop} (client : Controller.Client) {request : Request} (expected : ℕ)
    (h : allowed (.http client.endPoint request)) :
    (sendExpecting client request expected).Returns allowed fun _ ↦ True := by
  apply Fallible.Ends.bind (send_returns client h)
  intro response _ _
  split
  · exact ends_throw _ trivial
  · exact ends_pure trivial

theorem removeStaleNodes_addsMembers (client : Controller.Client) (password : String)
    (stsNodes : Matrix) (shard : List Kvrocks.Node × ℕ) :
    (removeStaleNodes client password shard).Returns (AddsMember stsNodes) fun _ ↦ True := by
  apply Fallible.Ends.bind (getNodes_returns client shard.2 trivial)
  intro found _ _
  cases found with
  | none => exact sendExpecting_returns client statusCreated trivial
  | some shardData =>
    refine ends_forEach_const (fun _ ↦ True) trivial fun node _ _ _ ↦ ?_
    split
    · exact ends_pure trivial
    · exact sendExpecting_returns client statusOK trivial

theorem addMissingNodes_addsMembers (client : Controller.Client) (password : String)
    {stsNodes : Matrix} {nodes : List Kvrocks.Node} {index : ℕ}
    (hnodes : stsNodes[index]? = some nodes) :
    (addMissingNodes client password (nodes, index)).Returns (AddsMember stsNodes) fun _ ↦ True := by
  apply Fallible.Ends.bind (getNodes_returns client index trivial)
  intro found _ _
  cases found with
  | none =>
    simp only
    split
    · exact ends_pure trivial
    · exact ends_panic trivial
  | some shardData =>
    refine ends_forEach_const (fun _ ↦ True) trivial fun node hnode _ _ ↦ ?_
    split
    · exact ends_pure trivial
    · exact sendExpecting_returns client statusCreated ⟨index, nodes, rfl, hnodes, node, hnode, rfl, rfl⟩

/-- `updateCluster` adds nodes of the matrix with the roles that they have there. -/
theorem updateCluster_addsMembers (client : Controller.Client) (password : String) (stsNodes : Matrix) :
    (updateCluster client password stsNodes).Returns (AddsMember stsNodes) fun _ ↦ True := by
  have hremove : (forEach (removeStaleNodes client password) stsNodes.zipIdx : Go Unit).Returns (AddsMember stsNodes)
      fun _ ↦ True :=
    ends_forEach_const (fun _ ↦ True) trivial
      fun shard _ _ _ ↦ removeStaleNodes_addsMembers client password stsNodes shard
  have hadd : (forEach (addMissingNodes client password) stsNodes.zipIdx : Go Unit).Returns (AddsMember stsNodes)
      fun _ ↦ True := by
    refine ends_forEach_const (fun _ ↦ True) trivial fun shard hshard _ _ ↦ ?_
    exact addMissingNodes_addsMembers client password (List.mk_mem_zipIdx_iff_getElem?.mp hshard)
  have hshards : (Controller.getShards client).Returns (AddsMember stsNodes) fun _ ↦ True := by
    apply Fallible.Ends.bind (send_returns client trivial)
    intro response _ _
    split
    · exact ends_pure trivial
    · split
      · exact ends_throw _ trivial
      · exact ends_throw _ trivial
      · exact ends_pure trivial
  apply Fallible.Ends.bind hremove
  intro _ _ _
  apply Fallible.Ends.bind hadd
  intro _ _ _
  apply Fallible.Ends.bind hshards
  intro shards _ _
  exact ends_forEach_const (fun _ ↦ True) trivial fun index _ _ _ ↦ sendExpecting_returns client statusOK trivial

/-! ## One master -/

/-- An `ensureReplication` that returns nil leaves a shard with one master, the recorded one, just if the records
allow it; the pods are labelled with the roles of their nodes, and those are the roles with which `updateCluster` adds
nodes. -/
theorem ensureReplication_one_master_iff {h later : Handler} {world final : World} (hordinals : Ordinals h.stsNodes)
    (hexec : Exec Answers (ensureReplication.on h) world (.ok (), later) final) :
    later.stsNodes.length = h.stsNodes.length ∧
      (∀ shard nodes, h.stsNodes[shard]? = some nodes → ∃ after, later.stsNodes[shard]? = some after ∧
        (Elected nodes after ↔ Electable nodes) ∧
        ∀ node ∈ after, final.roleLabel (podKey h.instance_ shard node) = node.role.text) ∧
      ∀ client password,
        (updateCluster client password later.stsNodes).Returns (AddsMember later.stsNodes) fun _ ↦ True := by
  obtain ⟨hlater, hfilled, hup⟩ := (ensureReplication_elects hordinals world).exec hexec
  have hmatrix : later.stsNodes = h.stsNodes.map elected := congrArg Handler.stsNodes hlater
  refine ⟨by rw [hmatrix, List.length_map], fun shard nodes hnodes ↦ ?_,
    fun client password ↦ updateCluster_addsMembers client password later.stsNodes⟩
  have hafter : later.stsNodes[shard]? = some (elected nodes) := by
    rw [hmatrix, List.getElem?_map, hnodes, Option.map_some]
  have hne : nodes ≠ [] := by
    intro hnil
    exact hfilled (hnil ▸ List.mem_of_getElem? hnodes)
  exact ⟨elected nodes, hafter, elected_iff hne, hup.labelled shard _ hafter⟩

/-- A shard of which one node is new. -/
def grownShard : List Kvrocks.Node :=
  [{ Kvrocks.Node.fresh "10.0.0.1" 0 with role := .slave, nodeId := "a", master := "b" },
    { Kvrocks.Node.fresh "10.0.0.2" 1 with role := .master, nodeId := "b" }, Kvrocks.Node.fresh "10.0.0.3" 2]

def grown : Handler := { outdated with stsNodes := [grownShard] }

theorem grownShard_electable : Electable grownShard := by
  refine ⟨{ Kvrocks.Node.fresh "10.0.0.2" 1 with role := .master, nodeId := "b" }, rfl, .inr (by decide), ?_⟩
  rintro (_ | _ | _ | index) hother node hnode
  · cases hnode
    exact .inl ⟨rfl, rfl⟩
  · exact absurd rfl hother
  · cases hnode
    exact .inr ⟨by decide, by decide⟩
  · cases hnode

/-- The second node becomes the master of the first and the third one, and the pods are labelled so. -/
theorem grown_shard_one_master : ∃ later final after,
    Exec Answers (ensureReplication.on grown) leftover (.ok (), later) final ∧
      later.stsNodes[0]? = some after ∧ Elected grownShard after ∧
      ∀ node ∈ after, final.roleLabel (podKey grown.instance_ 0 node) = node.role.text := by
  have hordinals : Ordinals grown.stsNodes := by
    unfold Ordinals
    decide
  have hrun : ((ensureReplication.on grown).tryRun serve leftover).map (fun result ↦ result.1.1) = some (.ok ()) := by
    decide
  obtain ⟨⟨⟨outcome, later⟩, final⟩, hresult, rfl⟩ := Option.map_eq_some_iff.mp hrun
  have hexec := exec_tryRun serve_answers hresult
  obtain ⟨-, hshards, -⟩ := ensureReplication_one_master_iff hordinals hexec
  obtain ⟨after, hafter, helected, hlabels⟩ := hshards 0 grownShard rfl
  exact ⟨later, final, after, hexec, hafter, helected.mpr grownShard_electable, hlabels⟩

/-- A shard that has just been made: nothing is recorded of its nodes. -/
def unrecorded : Handler :=
  { outdated with stsNodes := [[Kvrocks.Node.fresh "10.0.0.1" 0, Kvrocks.Node.fresh "10.0.0.2" 1]] }

/-- A failed master that the controller no longer lists keeps its record, and the new master still names it as its own
master. -/
def unlisted : Handler :=
  { outdated with
    stsNodes := [[{ Kvrocks.Node.fresh "10.0.0.1" 0 with role := .master, nodeId := "a" },
      { Kvrocks.Node.fresh "10.0.0.2" 1 with role := .master, nodeId := "b", master := "a" }]] }

/-- The roles that `ensureReplication` leaves against the server, and the label of the second pod. -/
def rolesAfter (h : Handler) : Option (List (List Role) × String) :=
  ((ensureReplication.on h).tryRun serve leftover).bind fun result ↦
    match result.1.1 with
    | .ok _ => some (result.1.2.stsNodes.map (·.map (·.role)), result.2.roleLabel (podKey h.instance_ 0 (.fresh "" 1)))
    | _ => none

theorem exec_of_rolesAfter {h : Handler} {roles : List (List Role)} {label : String}
    (hroles : rolesAfter h = some (roles, label)) :
    ∃ later final, Exec Answers (ensureReplication.on h) leftover (.ok (), later) final ∧
      later.stsNodes.map (·.map (·.role)) = roles ∧ final.roleLabel (podKey h.instance_ 0 (.fresh "" 1)) = label := by
  obtain ⟨⟨⟨outcome, later⟩, final⟩, hresult, hfinal⟩ := Option.bind_eq_some_iff.mp hroles
  have hexec := exec_tryRun serve_answers hresult
  cases outcome with
  | ok value =>
    obtain ⟨hmatrix, hlabel⟩ := Prod.mk.inj (Option.some.inj hfinal)
    exact ⟨later, final, hexec, hmatrix, hlabel⟩
  | err error => cases hfinal
  | panic => cases hfinal

/-- The second node of a new shard stays without a role, and so does its pod; and two masters stay two. -/
theorem roles_left_alone :
    (restoreTopo unrecorded.instance_.status.topo unrecorded.stsNodes = some unrecorded.stsNodes ∧
      ∃ later final, Exec Answers (ensureReplication.on unrecorded) leftover (.ok (), later) final ∧
        later.stsNodes.map (·.map (·.role)) = [[.master, .empty]] ∧
        final.roleLabel (podKey unrecorded.instance_ 0 (.fresh "" 1)) = "") ∧
    ∃ later final, Exec Answers (ensureReplication.on unlisted) leftover (.ok (), later) final ∧
      later.stsNodes.map (·.map (·.role)) = [[.master, .master]] ∧
      final.roleLabel (podKey unlisted.instance_ 0 (.fresh "" 1)) = "master" :=
  ⟨⟨rfl, exec_of_rolesAfter (by decide)⟩, exec_of_rolesAfter (by decide)⟩

end Election

end KvrocksOperator.Cluster
