import KvrocksOperator.Cluster.Agreement
import KvrocksOperator.Controllers.Footprint

/-!
# The replication of a standard instance

`ensureKVRocksReplication` makes the nodes of a standard instance a star: one master, and every other node a direct
slave of it, whatever the replication was before.  Outside of the creation it takes the one node that reports itself
as master, and touches nothing if there is none or more than one.  The address of the master is kept in a text that is
empty until one has been found, so that nodes without an address are not told apart from a missing master.
-/

namespace KvrocksOperator.Standard

open Interaction Text Resources

namespace Replication

open Cluster.Agreement (Relabelled)

/-! ## Nodes and pods -/

/-- The nodes beside the pods: `masterOf` gives the address that a node replicates from, empty for a master. -/
structure World extends Cluster.Agreement.World where
  masterOf : String → String

/-- What `SLAVEOF` makes of a node. -/
def World.follow (world : World) (ip host port : String) : World :=
  { world with
    masterOf := Function.update world.masterOf ip (if host = "NO" ∧ port = "ONE" then "" else host) }

/-- Nodes answer what they replicate from and do as they are told; a command that fails may have had its effect.  The
other calls are answered as they are for a pass over a cluster instance. -/
def Answers : Program.Answers operator World
  | .replication ip _ .masterHost, before, reply, after =>
    after = before ∧ ∀ host, reply = .ok host → host = before.masterOf ip
  | .replication ip _ (.slaveOf host port), before, reply, after =>
    after = before.follow ip host port ∨ reply ≠ .ok () ∧ after = before
  | request, before, reply, after =>
    Cluster.Agreement.Answers request before.toWorld reply after.toWorld ∧ after.masterOf = before.masterOf

/-- The world as a meaning of programs. -/
abbrev around : Meaning operator World := Meaning.sequential Answers

/-- No failure is excluded. -/
abbrev anyFailure : World → Prop := fun _ ↦ True

theorem answers_view (request : Call) (before : World) (reply : request.Reply) (after : World)
    (h : Answers request before reply after) :
    Cluster.Agreement.Answers request before.toWorld reply after.toWorld := by
  cases request with
  | replication ip password command =>
    cases command with
    | masterHost =>
      rw [h.1]
      rfl
    | slaveOf host port =>
      rcases h with rfl | ⟨-, rfl⟩
      · rfl
      · rfl
  | _ => exact h.1

/-- Calls to the API server do not change the nodes. -/
theorem masterOf_kept {kinds : List CallKind} (hkinds : .replication ∉ kinds) (request : Call)
    (hkind : OfKind kinds request) (before : World) (reply : request.Reply) (after : World)
    (h : Answers request before reply after) : after.masterOf = before.masterOf := by
  cases request with
  | replication ip password command => exact absurd hkind hkinds
  | _ => exact h.2

/-- The key of the pod of a node. -/
def podKey (instance_ : KVRocks) (node : Node) : NamespacedName := ⟨instance_.ns, podName instance_.name node.podIndex⟩

theorem updateKVRocksRole_yields (instance_ : KVRocks) (node : Node) (role : Role) (world : World) :
    (updateKVRocksRole instance_ node.podIndex role).Yields around anyFailure (fun _ final ↦
      (final.roleLabel (podKey instance_ node) = role.text ∧
        Relabelled (· = podKey instance_ node) world.toWorld final.toWorld) ∧
      final.masterOf = world.masterOf) world := by
  have hlabel : (updateKVRocksRole instance_ node.podIndex role).Yields around anyFailure (fun _ final ↦
      final.roleLabel (podKey instance_ node) = role.text ∧
        Relabelled (· = podKey instance_ node) world.toWorld final.toWorld) world :=
    Fallible.Yields.view World.toWorld answers_view (Cluster.Agreement.updatePodLabels_yields _ role world.toWorld)
  apply hlabel.keeps (Cluster.updatePodLabels_makes _ role)
  · intro request hkind before reply after hanswer hbefore
    exact (masterOf_kept (by decide) request hkind before reply after hanswer).trans hbefore
  · rfl

/-! ## One node -/

/-- What the pass makes of a node. -/
def settle (masterIP : String) (node : Node) : Node :=
  if node.ip = masterIP then node else { node with role := .slave }

/-- The role that a node has in the star. -/
def starRole (masterIP : String) (node : Node) : Role := if node.ip = masterIP then .master else .slave

variable {masterIP : String}

theorem settle_eq {node : Node} (hmaster : node.ip = masterIP → node.role = .master) :
    settle masterIP node = { node with role := starRole masterIP node } := by
  unfold settle starRole
  split_ifs with hsame
  · rw [← hmaster hsame]
  · rfl

/-- A node has its place in the star, its pod is labelled, and nothing else has changed. -/
structure Placed (instance_ : KVRocks) (masterIP : String) (node : Node) (world final : World) : Prop where
  masterOf : final.masterOf =
    if node.ip = masterIP then world.masterOf else Function.update world.masterOf node.ip masterIP
  label : final.roleLabel (podKey instance_ node) = (starRole masterIP node).text
  frame : Relabelled (· = podKey instance_ node) world.toWorld final.toWorld

/-- A node is made to follow the master, unless it does. -/
theorem follow_yields (ip masterIP password : String) (world : World) :
    (Kvrocks.getMaster ip password >>= fun curMasterIP ↦
      if curMasterIP ≠ masterIP then Kvrocks.slaveOf ip masterIP password else pure ()).Yields around anyFailure
      (fun _ final ↦ final.toWorld = world.toWorld ∧
        final.masterOf = Function.update world.masterOf ip masterIP) world := by
  have hget : (Kvrocks.getMaster ip password).Yields around anyFailure
      (fun host final ↦ final = world ∧ host = world.masterOf ip) world := by
    apply ends_attempt
    intro reply after hanswer
    cases reply with
    | ok host => exact ⟨hanswer.1, hanswer.2 host rfl⟩
    | error error => trivial
  apply hget.bind
  intro host later hhost
  rw [hhost.1, hhost.2]
  by_cases hsame : world.masterOf ip = masterIP
  · rw [if_neg (not_not.mpr hsame)]
    refine ends_pure ⟨rfl, ?_⟩
    rw [← hsame, Function.update_eq_self]
  · rw [if_pos hsame]
    apply ends_attempt
    intro reply after hanswer
    cases reply with
    | ok _ =>
      have hafter := hanswer.resolve_right fun hrefused ↦ hrefused.1 rfl
      have hport : ¬ (masterIP = "NO" ∧ itoa Kvrocks.kvrocksPort = "ONE") := fun hno ↦ absurd hno.2 (by decide)
      rw [hafter]
      refine ⟨rfl, ?_⟩
      rw [World.follow, if_neg hport]
    | error error => trivial

theorem slaveOfMaster_yields (instance_ : KVRocks) (password : String) {node : Node}
    (hnode : node.ip ≠ masterIP) (world : World) :
    (slaveOfMaster instance_ password masterIP node).Yields around anyFailure (fun result final ↦
      result = settle masterIP node ∧ Placed instance_ masterIP node world final) world := by
  have hfollow := follow_yields node.ip masterIP password world
  have hsplit : slaveOfMaster instance_ password masterIP node =
      (Kvrocks.getMaster node.ip password >>= fun curMasterIP ↦
        if curMasterIP ≠ masterIP then Kvrocks.slaveOf node.ip masterIP password else pure ()) >>= fun _ ↦
      updateKVRocksRole instance_ node.podIndex .slave >>= fun _ ↦ pure { node with role := .slave } := by
    rw [Fallible.bind_assoc]
    unfold slaveOfMaster
    congr 1
    funext curMasterIP
    split <;> rfl
  rw [hsplit]
  apply hfollow.bind
  intro _ later hlater
  apply (updateKVRocksRole_yields instance_ node .slave later).bind
  intro _ final hfinal
  refine ends_pure ⟨?_, ?_, ?_, ?_⟩
  · rw [settle, if_neg hnode]
  · rw [hfinal.2, hlater.2, if_neg hnode]
  · rw [hfinal.1.1, starRole, if_neg hnode]
  · rw [← hlater.1]
    exact hfinal.1.2

theorem followOnlyMaster_yields (instance_ : KVRocks) (password : String) (node : Node) (world : World) :
    (followOnlyMaster instance_ password masterIP node).Yields around anyFailure (fun result final ↦
      result = settle masterIP node ∧ Placed instance_ masterIP node world final) world := by
  unfold followOnlyMaster
  by_cases hsame : node.ip = masterIP
  · rw [if_neg (not_not.mpr hsame)]
    apply (updateKVRocksRole_yields instance_ node .master world).bind
    intro _ final hfinal
    refine ends_pure ⟨?_, ?_, ?_, hfinal.1.2⟩
    · rw [settle, if_pos hsame]
    · rw [hfinal.2, if_pos hsame]
    · rw [hfinal.1.1, starRole, if_pos hsame]
  · rw [if_pos hsame]
    exact slaveOfMaster_yields instance_ password hsame world

/-! ## All nodes -/

/-- The nodes have their places in the star, and nothing else has changed. -/
structure AllPlaced (instance_ : KVRocks) (masterIP : String) (nodes : List Node) (world final : World) : Prop where
  slaves : ∀ node ∈ nodes, node.ip ≠ masterIP → final.masterOf node.ip = masterIP
  others : ∀ ip, (∀ node ∈ nodes, node.ip = ip → ip = masterIP) → final.masterOf ip = world.masterOf ip
  labels : ∀ node ∈ nodes, final.roleLabel (podKey instance_ node) = (starRole masterIP node).text
  frame : Relabelled (fun key ↦ ∃ node ∈ nodes, key = podKey instance_ node) world.toWorld final.toWorld

theorem AllPlaced.cons {instance_ : KVRocks} {node : Node} {nodes : List Node}
    {world later final : World} (hips : node.ip ∉ nodes.map (·.ip))
    (hordinals : node.podIndex ∉ nodes.map (·.podIndex)) (hnode : Placed instance_ masterIP node world later)
    (hnodes : AllPlaced instance_ masterIP nodes later final) :
    AllPlaced instance_ masterIP (node :: nodes) world final := by
  have hlater (ip : String) (hip : node.ip = ip → ip = masterIP) : later.masterOf ip = world.masterOf ip := by
    rw [hnode.masterOf]
    split_ifs with hsame
    · rfl
    · exact Function.update_of_ne (fun heq ↦ hsame (heq.symm.trans (hip heq.symm))) _ _
  constructor
  · refine List.forall_mem_cons.mpr ⟨fun hslave ↦ ?_, hnodes.slaves⟩
    rw [hnodes.others node.ip fun other hother heq ↦ absurd (heq ▸ List.mem_map_of_mem hother) hips,
      hnode.masterOf, if_neg hslave, Function.update_self]
  · intro ip hip
    rw [hnodes.others ip fun other hother ↦ hip other (List.mem_cons_of_mem node hother)]
    exact hlater ip (hip node List.mem_cons_self)
  · refine List.forall_mem_cons.mpr ⟨?_, hnodes.labels⟩
    have huntouched : ¬ ∃ other ∈ nodes, podKey instance_ node = podKey instance_ other := by
      rintro ⟨other, hother, hkey⟩
      have hordinal := podName_injective instance_.name (congrArg NamespacedName.name hkey)
      exact hordinals (hordinal ▸ List.mem_map_of_mem hother)
    exact (hnodes.frame.roleLabel huntouched).trans hnode.label
  · have hfirst := hnode.frame.mono fun key hkey ↦ (⟨node, List.mem_cons_self, hkey⟩ :
      ∃ other ∈ node :: nodes, key = podKey instance_ other)
    apply hfirst.trans
    apply hnodes.frame.mono
    rintro key ⟨other, hother, hkey⟩
    exact ⟨other, List.mem_cons_of_mem node hother, hkey⟩

/-- The loop over the nodes. -/
theorem followAll_yields (instance_ : KVRocks) (password : String) {nodes : List Node}
    (hips : (nodes.map (·.ip)).Nodup) (hordinals : (nodes.map (·.podIndex)).Nodup) (world : World) :
    (mapEach (followOnlyMaster instance_ password masterIP) nodes).Yields around anyFailure (fun results final ↦
      results = nodes.map (settle masterIP) ∧ AllPlaced instance_ masterIP nodes world final) world := by
  induction nodes generalizing world with
  | nil =>
    refine ends_pure ⟨rfl, by simp, fun _ _ ↦ rfl, by simp, Relabelled.refl _ _⟩
  | cons node nodes ih =>
    rw [List.map_cons, List.nodup_cons] at hips hordinals
    rw [mapEach_cons]
    apply (followOnlyMaster_yields instance_ password node world).bind
    intro result later hresult
    apply (ih hips.2 hordinals.2 later).bind
    intro results final hresults
    refine ends_pure ⟨?_, hresults.2.cons hips.1 hordinals.1 hresult.2⟩
    rw [hresult.1, hresults.1, List.map_cons]

/-! ## The master -/

/-- If the search for the master succeeds, all masters have the address that it gives. -/
theorem onlyMaster_ok {found : String} {nodes : List Node}
    (haddressed : ∀ node ∈ nodes, node.role = .master → node.ip ≠ "") (h : onlyMaster masterIP nodes = .ok found) :
    (∀ node ∈ nodes, node.role = .master → node.ip = found) ∧ (masterIP ≠ "" → found = masterIP) ∧
      (masterIP = "" → found ≠ "" → ∃ node ∈ nodes, node.role = .master ∧ node.ip = found) := by
  induction nodes generalizing masterIP with
  | nil =>
    obtain rfl := Except.ok.inj h
    exact ⟨by simp, fun _ ↦ rfl, fun hempty hfound ↦ absurd hempty hfound⟩
  | cons node nodes ih =>
    obtain ⟨hnode, hnodes⟩ := List.forall_mem_cons.mp haddressed
    unfold onlyMaster at h
    by_cases hrole : node.role = .master
    · rw [if_pos hrole] at h
      by_cases hempty : masterIP = ""
      · rw [if_pos hempty] at h
        obtain ⟨hall, hkept, -⟩ := ih hnodes h
        have hfound := hkept (hnode hrole)
        exact ⟨List.forall_mem_cons.mpr ⟨fun _ ↦ hfound.symm, hall⟩, fun hne ↦ absurd hempty hne,
          fun _ _ ↦ ⟨node, List.mem_cons_self, hrole, hfound.symm⟩⟩
      · rw [if_neg hempty] at h
        by_cases hsame : masterIP = node.ip
        · rw [if_neg (not_not.mpr hsame)] at h
          obtain ⟨hall, hkept, -⟩ := ih hnodes h
          have hfound := hkept hempty
          exact ⟨List.forall_mem_cons.mpr ⟨fun _ ↦ (hfound.trans hsame).symm, hall⟩, fun _ ↦ hfound,
            fun habsurd ↦ absurd habsurd hempty⟩
        · rw [if_pos hsame] at h
          cases h
    · rw [if_neg hrole] at h
      obtain ⟨hall, hkept, hexists⟩ := ih hnodes h
      refine ⟨List.forall_mem_cons.mpr ⟨fun habsurd ↦ absurd habsurd hrole, hall⟩, hkept, fun hempty hfound ↦ ?_⟩
      obtain ⟨other, hother, hmaster⟩ := hexists hempty hfound
      exact ⟨other, List.mem_cons_of_mem node hother, hmaster⟩

/-! ## The star -/

/-- One node is the master, the others replicate from it, and the labels of the pods say so. -/
structure Wired (h : KVRocksStandardHandler) (leader : Node) (world : World) : Prop where
  master : world.masterOf leader.ip = ""
  slaves : ∀ node ∈ h.stsNodes, node.ip ≠ leader.ip → world.masterOf node.ip = leader.ip
  labels : ∀ node ∈ h.stsNodes, world.roleLabel (podKey h.instance_ node) = (starRole leader.ip node).text

variable {h : KVRocksStandardHandler} {leader : Node}

theorem AllPlaced.wired {world final : World} (hplaced : AllPlaced h.instance_ leader.ip h.stsNodes world final)
    (hmaster : world.masterOf leader.ip = "") :
    Wired h leader final where
  master := (hplaced.others leader.ip fun _ _ _ ↦ rfl).trans hmaster
  slaves := hplaced.slaves
  labels := hplaced.labels

/-- The nodes with the roles that they have in the star. -/
def starNodes (h : KVRocksStandardHandler) (leader : Node) : List Node :=
  h.stsNodes.map fun node ↦ { node with role := starRole leader.ip node }

/-- The star on the nodes, in the labels and in the handler. -/
def Star (h later : KVRocksStandardHandler) (leader : Node) (final : World) : Prop :=
  later.stsNodes = starNodes h leader ∧ Wired h leader final

/-- The writes that end a pass touch neither nodes nor pods. -/
theorem wired_kept (request : Call) (hkind : OfKind [.getKVRocks, .updateKVRocks] request) (before : World)
    (reply : request.Reply) (after : World) (hanswer : Answers request before reply after)
    (hwired : Wired h leader before) : Wired h leader after := by
  have hmasterOf := masterOf_kept (by decide) request hkind before reply after hanswer
  have hlabels : after.labels = before.labels := by
    cases request with
    | getKVRocks key => exact congrArg Cluster.Agreement.World.labels hanswer.1
    | updateKVRocks instance_ =>
      have hsaved := hanswer.1
      cases reply with
      | ok version =>
        have hafter : after.toWorld = before.toWorld.save { instance_ with resourceVersion := version } := hsaved
        rw [hafter]
        rfl
      | error error =>
        have hafter : after.toWorld = before.toWorld := hsaved
        rw [hafter]
    | _ => simp [OfKind, Call.kind] at hkind
  have hlabel (key : NamespacedName) : after.roleLabel key = before.roleLabel key := by
    unfold Cluster.Agreement.World.roleLabel
    rw [hlabels]
  constructor
  · rw [hmasterOf]
    exact hwired.master
  · rw [hmasterOf]
    exact hwired.slaves
  · intro node hnode
    rw [hlabel]
    exact hwired.labels node hnode

/-- What a method that ends the pass leaves of a star. -/
theorem finish_yields {method : HandlerM Unit}
    (hleaves : Leaves [.getKVRocks, .updateKVRocks] (fun h : KVRocksStandardHandler ↦ h.stsNodes) method)
    {state : KVRocksStandardHandler} {world : World} (hstar : Star h state leader world) :
    method.Yields around anyFailure (fun _ later final ↦ Star h later leader final) state world := by
  have hkept : method.Yields around (Wired h leader) (fun _ later final ↦
      later.stsNodes = state.stsNodes ∧ Wired h leader final) state world :=
    hleaves.keeps wired_kept hstar.2
  apply hkept.mono (fun _ _ ↦ trivial)
  intro _ later final hfinal
  exact ⟨hfinal.1.trans hstar.1, hfinal.2⟩

theorem initReplication_yields {first : Node} {rest : List Node} (hnodes : h.stsNodes = first :: rest)
    (hips : (h.stsNodes.map (·.ip)).Nodup) (hordinals : (h.stsNodes.map (·.podIndex)).Nodup) (world : World) :
    (initReplication h.instance_ h.password h.stsNodes).Yields around anyFailure (fun results final ↦
      results = starNodes h first ∧ Wired h first final) world := by
  rw [hnodes, List.map_cons, List.nodup_cons] at hips hordinals
  have hslave (node : Node) (hnode : node ∈ rest) : node.ip ≠ first.ip := by
    intro hsame
    exact hips.1 (hsame ▸ List.mem_map_of_mem hnode)
  have hpromote : (Kvrocks.changeMyselfToMaster first.ip h.password).Yields around anyFailure
      (fun _ final ↦ final = world.follow first.ip "NO" "ONE") world := by
    apply ends_attempt
    intro reply after hanswer
    cases reply with
    | ok _ => exact hanswer.resolve_right fun hrefused ↦ hrefused.1 rfl
    | error error => trivial
  have hloop : mapEach (slaveOfMaster h.instance_ h.password first.ip) rest =
      mapEach (followOnlyMaster h.instance_ h.password first.ip) rest := by
    apply mapEach_congr
    intro node hnode
    rw [followOnlyMaster, if_pos (hslave node hnode)]
  rw [hnodes, initReplication, hloop]
  apply hpromote.bind
  intro _ promoted hpromoted
  apply (updateKVRocksRole_yields h.instance_ first .master promoted).bind
  intro _ labelled hlabelled
  have hfirst : Placed h.instance_ first.ip first promoted labelled := by
    refine ⟨?_, ?_, hlabelled.1.2⟩
    · rw [hlabelled.2, if_pos rfl]
    · rw [hlabelled.1.1, starRole, if_pos rfl]
  apply (followAll_yields h.instance_ h.password hips.2 hordinals.2 labelled).bind
  intro results final hresults
  have hplaced : AllPlaced h.instance_ first.ip h.stsNodes promoted final := by
    rw [hnodes]
    exact hresults.2.cons hips.1 hordinals.1 hfirst
  refine ends_pure ⟨?_, hplaced.wired ?_⟩
  · rw [starNodes, hnodes, List.map_cons, hresults.1, starRole, if_pos rfl]
    congr 1
    apply List.map_congr_left
    intro node hnode
    rw [settle, starRole, if_neg (hslave node hnode), if_neg (hslave node hnode)]
  · rw [hpromoted]
    simp [World.follow]

/-- The node that is to be the master: the first one of a new instance, otherwise the only one that reports itself as
master. -/
def Leads (h : KVRocksStandardHandler) (index : ℕ) : Prop :=
  if h.instance_.status.status = .creating then index = 0
  else ∀ position node, h.stsNodes[position]? = some node → (node.role = .master ↔ position = index)

/-- A new instance has a first node, and that has an address; later the nodes that report themselves as masters have
addresses. -/
def Addressed (h : KVRocksStandardHandler) : Prop :=
  if h.instance_.status.status = .creating then ∃ first ∈ h.stsNodes.head?, first.ip ≠ ""
  else ∀ node ∈ h.stsNodes, node.role = .master → node.ip ≠ ""

/-- No node reports itself as master, or two with different addresses do. -/
def Headless (nodes : List Node) : Prop :=
  (∀ node ∈ nodes, node.role ≠ .master) ∨
    ∃ first ∈ nodes, ∃ second ∈ nodes, first.role = .master ∧ second.role = .master ∧ first.ip ≠ second.ip

/-- The call changes what a node replicates from, or a pod. -/
def Rewires : Call → Prop
  | .replication _ _ (.slaveOf _ _) => True
  | .updatePod _ => True
  | _ => False

theorem onlyMaster_headless {nodes : List Node}
    (haddressed : ∀ node ∈ nodes, node.role = .master → node.ip ≠ "") (hheadless : Headless nodes) {found : String}
    (h : onlyMaster "" nodes = .ok found) : found = "" := by
  obtain ⟨hall, -, hexists⟩ := onlyMaster_ok haddressed h
  by_contra hfound
  obtain ⟨node, hnode, hmaster, -⟩ := hexists rfl hfound
  rcases hheadless with hnone | ⟨first, hfirst, second, hsecond, hfirstMaster, hsecondMaster, hne⟩
  · exact hnone node hnode hmaster
  · exact hne ((hall first hfirst hfirstMaster).trans (hall second hsecond hsecondMaster).symm)

/-- The node that the search has found. -/
theorem leader_of_onlyMaster (hips : (h.stsNodes.map (·.ip)).Nodup) (hstatus : h.instance_.status.status ≠ .creating)
    (haddressed : ∀ node ∈ h.stsNodes, node.role = .master → node.ip ≠ "") {found : String}
    (hfound : onlyMaster "" h.stsNodes = .ok found) (hne : found ≠ "") :
    ∃ index leader, h.stsNodes[index]? = some leader ∧ Leads h index ∧ leader.role = .master ∧ leader.ip = found := by
  obtain ⟨hall, -, hexists⟩ := onlyMaster_ok haddressed hfound
  obtain ⟨leader, hleader, hmaster, hip⟩ := hexists rfl hne
  obtain ⟨index, hindex⟩ := List.mem_iff_getElem?.mp hleader
  refine ⟨index, leader, hindex, ?_, hmaster, hip⟩
  rw [Leads, if_neg hstatus]
  intro position node hnode
  constructor
  · intro hrole
    have hlt : position < (h.stsNodes.map (·.ip)).length := by
      rw [List.length_map]
      exact (List.getElem?_eq_some_iff.mp hnode).1
    apply (List.getElem?_inj hlt hips).mp
    rw [List.getElem?_map, List.getElem?_map, hnode, hindex, Option.map_some, Option.map_some, hip,
      hall node (List.mem_of_getElem? hnode) hrole]
  · intro hsame
    rw [hsame, hindex] at hnode
    exact Option.some.inj hnode ▸ hmaster

/-- A replication that returns nil and does not ask for another pass has made the nodes a star, whatever they
replicated from before; without a single master, nothing is touched. -/
theorem ensureKVRocksReplication_star {h : KVRocksStandardHandler} {world : World}
    (hips : (h.stsNodes.map (·.ip)).Nodup) (hordinals : (h.stsNodes.map (·.podIndex)).Nodup)
    (hroles : ∀ node ∈ h.stsNodes, node.role = .master ↔ world.masterOf node.ip = "") (haddressed : Addressed h) :
    (∀ later final, Exec Answers (ensureKVRocksReplication.on h) world (.ok (), later) final → later.requeue = false →
        ∃ index leader, h.stsNodes[index]? = some leader ∧ Leads h index ∧ leader.ip ≠ "" ∧ Star h later leader final) ∧
    (h.instance_.status.status ≠ .creating → Headless h.stsNodes →
      (ensureKVRocksReplication.on h).All (fun request ↦ ¬ Rewires request) fun _ ↦ True) := by
  constructor
  · intro later final hexec hdone
    have hyields : ensureKVRocksReplication.Yields around anyFailure (fun _ later final ↦ later.requeue = false →
        ∃ index leader, h.stsNodes[index]? = some leader ∧ Leads h index ∧ leader.ip ≠ "" ∧
          Star h later leader final) h world := by
      apply ends_get_bind
      by_cases hstatus : h.instance_.status.status = .creating
      · rw [if_pos hstatus]
        rw [Addressed, if_pos hstatus] at haddressed
        obtain ⟨first, hfirst, hip⟩ := haddressed
        obtain ⟨rest, hnodes⟩ := List.head?_eq_some_iff.mp hfirst
        apply ends_lift_bind (initReplication_yields hnodes hips hordinals world)
        intro nodes wired hwired
        apply ends_modify_bind
        have hstar : Star h { h with
            stsNodes := nodes
            instance_ := { h.instance_ with status := { h.instance_.status with status := .running } } } first wired :=
          hwired
        apply (finish_yields saveInstance_leaves hstar).imp
        intro _ later final hstar _
        refine ⟨0, first, ?_, ?_, hip, hstar⟩
        · rw [hnodes]
          rfl
        · rw [Leads, if_pos hstatus]
      · rw [if_neg hstatus]
        rw [Addressed, if_neg hstatus] at haddressed
        cases hfound : onlyMaster "" h.stsNodes with
        | error error => exact Method.ends_throw error trivial
        | ok masterIP =>
          by_cases hmissing : masterIP = ""
          · simp only [if_pos hmissing]
            apply ends_modify
            intro hdone
            cases hdone
          · obtain ⟨index, leader, hindex, hleads, hmaster, rfl⟩ :=
              leader_of_onlyMaster hips hstatus haddressed hfound hmissing
            simp only [if_neg hmissing]
            have hown := (hroles leader (List.mem_of_getElem? hindex)).mp hmaster
            apply ends_lift_bind (followAll_yields h.instance_ h.password hips hordinals world)
            intro nodes wired hwired
            apply ends_modify_bind
            have hnodes : nodes = starNodes h leader := by
              rw [hwired.1, starNodes]
              apply List.map_congr_left
              intro node hnode
              apply settle_eq
              intro hip
              exact List.inj_on_of_nodup_map hips hnode (List.mem_of_getElem? hindex) hip ▸ hmaster
            apply (finish_yields finishReplication_leaves ⟨hnodes, hwired.2.wired hown⟩).imp
            intro _ later final hstar _
            exact ⟨index, leader, hindex, hleads, hmissing, hstar⟩
    exact hyields.exec hexec hdone
  · intro hstatus hheadless
    rw [Addressed, if_neg hstatus] at haddressed
    have hquiet : ensureKVRocksReplication.Yields (.arbitrary fun request ↦ ¬ Rewires request) (fun _ ↦ True)
        (fun _ _ _ ↦ True) h () := by
      apply ends_get_bind
      rw [if_neg hstatus]
      cases hfound : onlyMaster "" h.stsNodes with
      | error error => exact Method.ends_throw error trivial
      | ok masterIP =>
        simp only [if_pos (onlyMaster_headless haddressed hheadless hfound)]
        exact ends_modify trivial
    exact Program.All.mono hquiet (fun _ h ↦ h) fun _ _ ↦ trivial

/-! ## Runs -/

/-- A server for the calls of this phase. -/
def serve : (request : Call) → World → Option (request.Reply × World)
  | .replication ip _ .masterHost, world => some (.ok (world.masterOf ip), world)
  | .replication ip _ (.slaveOf host port), world => some (.ok (), world.follow ip host port)
  | request, world => (Cluster.Agreement.serve request world.toWorld).map fun answer ↦
    (answer.1, { world with toWorld := answer.2 })

theorem serve_answers (request : Call) (world : World) (answer : request.Reply × World)
    (h : serve request world = some answer) : Answers request world answer.1 answer.2 := by
  cases request with
  | replication ip password command =>
    cases command with
    | masterHost =>
      cases h
      exact ⟨rfl, fun host hhost ↦ (Except.ok.inj hhost).symm⟩
    | slaveOf host port =>
      cases h
      exact .inl rfl
  | _ =>
    simp only [serve, Option.map_eq_some_iff] at h
    obtain ⟨inner, hinner, rfl⟩ := h
    exact ⟨Cluster.Agreement.serve_answers _ _ _ hinner, rfl⟩

/-- The handler of a standard instance with the given nodes. -/
def handlerOf (status : KVRocksStatusType) (nodes : List Node) : KVRocksStandardHandler :=
  { newKVRocksStandardHandler ⟨"default", "kvrocks-standard-1-demo"⟩
      { KVRocks.created ⟨"default", "kvrocks-standard-1-demo"⟩
          { image := "", type := .standard, kvrocksConfig := [], replicas := 2, master := 1, password := "secret",
            resources := true } with
        status :=
          { status := status, reason := "", version := 0, rebalance := false, topo := [], shrink := none } } with
    password := "secret"
    stsNodes := nodes }

/-- Nodes that replicate as the list says, and pods without labels. -/
def worldOf (masters : List (String × String)) : World :=
  { Cluster.Agreement.leftover with masterOf := fun ip ↦ (masters.lookup ip).getD "" }

/-- Against the server the phase returns nil without a requeue; what the nodes replicate from afterwards, and the
labels of their pods. -/
def wiring (h : KVRocksStandardHandler) (world : World) : Option (List String × List String) :=
  ((ensureKVRocksReplication.on h).tryRun serve world).bind fun result ↦
    match result.1.1, result.1.2.requeue with
    | .ok _, false => some (h.stsNodes.map fun node ↦ result.2.masterOf node.ip,
        h.stsNodes.map fun node ↦ result.2.roleLabel (podKey h.instance_ node))
    | _, _ => none

theorem exec_of_wiring {world : World} {masters labels : List String}
    (hwiring : wiring h world = some (masters, labels)) :
    ∃ later final, Exec Answers (ensureKVRocksReplication.on h) world (.ok (), later) final ∧
      later.requeue = false ∧ h.stsNodes.map (fun node ↦ final.masterOf node.ip) = masters ∧
      h.stsNodes.map (fun node ↦ final.roleLabel (podKey h.instance_ node)) = labels := by
  obtain ⟨⟨⟨outcome, later⟩, final⟩, hresult, hfinal⟩ := Option.bind_eq_some_iff.mp hwiring
  have hexec := exec_tryRun serve_answers hresult
  cases outcome with
  | err error => cases hfinal
  | panic => cases hfinal
  | ok value =>
    cases hrequeue : later.requeue with
    | true => simp [hrequeue] at hfinal
    | false =>
      simp only [hrequeue, Option.some.injEq, Prod.mk.injEq] at hfinal
      exact ⟨later, final, hexec, hrequeue, hfinal.1, hfinal.2⟩

/-- A slave of a dead node, the master, and a slave of the first. -/
def chain : KVRocksStandardHandler :=
  handlerOf .running
    [{ Kvrocks.Node.fresh "10.0.0.1" 0 with role := .slave }, { Kvrocks.Node.fresh "10.0.0.2" 1 with role := .master },
      { Kvrocks.Node.fresh "10.0.0.3" 2 with role := .slave }]

/-- Two slaves that follow other nodes are put under the only master. -/
theorem chain_becomes_star : ∃ later final, Exec Answers (ensureKVRocksReplication.on chain)
        (worldOf [("10.0.0.1", "10.0.0.9"), ("10.0.0.3", "10.0.0.1")]) (.ok (), later) final ∧
      ∃ index leader, chain.stsNodes[index]? = some leader ∧ Leads chain index ∧ leader.ip ≠ "" ∧
        Star chain later leader final := by
  obtain ⟨later, final, hexec, hrequeue, -⟩ : ∃ later final, Exec Answers (ensureKVRocksReplication.on chain)
      (worldOf [("10.0.0.1", "10.0.0.9"), ("10.0.0.3", "10.0.0.1")]) (.ok (), later) final ∧ later.requeue = false ∧
        chain.stsNodes.map (fun node ↦ final.masterOf node.ip) = ["10.0.0.2", "", "10.0.0.2"] ∧
        chain.stsNodes.map (fun node ↦ final.roleLabel (podKey chain.instance_ node)) = ["slave", "master", "slave"] :=
    exec_of_wiring (by decide)
  have hroles : ∀ node ∈ chain.stsNodes, node.role = .master ↔
      (worldOf [("10.0.0.1", "10.0.0.9"), ("10.0.0.3", "10.0.0.1")]).masterOf node.ip = "" := by decide
  have haddressed : Addressed chain := by
    rw [Addressed, if_neg (by decide)]
    decide
  exact ⟨later, final, hexec,
    (ensureKVRocksReplication_star (by decide) (by decide) hroles haddressed).1 later final hexec hrequeue⟩

/-- A new instance whose first node has no address. -/
def unaddressed : KVRocksStandardHandler :=
  handlerOf .creating [Kvrocks.Node.fresh "" 0, { Kvrocks.Node.fresh "10.0.0.2" 1 with role := .master }]

/-- Two masters, of which the first has no address. -/
def divided : KVRocksStandardHandler :=
  handlerOf .running
    [{ Kvrocks.Node.fresh "" 0 with role := .master }, { Kvrocks.Node.fresh "10.0.0.2" 1 with role := .master }]

/-- A master and its slave in one pod. -/
def merged : KVRocksStandardHandler :=
  handlerOf .running
    [{ Kvrocks.Node.fresh "10.0.0.1" 0 with role := .master }, { Kvrocks.Node.fresh "10.0.0.2" 0 with role := .slave }]

/-- A new instance without nodes gets no master; next to a first node without address another master stays a master; a
master without address does not count and is made a slave of another one; and two nodes of one pod cannot both have
their labels. -/
theorem not_always_a_star :
    (∃ later final, Exec Answers (ensureKVRocksReplication.on (handlerOf .creating [])) (worldOf [])
        (.ok (), later) final ∧ later.requeue = false) ∧
    (∃ later final, Exec Answers (ensureKVRocksReplication.on unaddressed) (worldOf [("", "10.0.0.9")])
        (.ok (), later) final ∧ later.requeue = false ∧
      unaddressed.stsNodes.map (fun node ↦ final.masterOf node.ip) = ["", ""]) ∧
    (Headless divided.stsNodes ∧
      ∃ later final, Exec Answers (ensureKVRocksReplication.on divided) (worldOf []) (.ok (), later) final ∧
        later.requeue = false ∧ divided.stsNodes.map (fun node ↦ final.masterOf node.ip) = ["10.0.0.2", ""]) ∧
    ∃ later final, Exec Answers (ensureKVRocksReplication.on merged) (worldOf [("10.0.0.2", "10.0.0.1")])
        (.ok (), later) final ∧ later.requeue = false ∧
      merged.stsNodes.map (fun node ↦ final.roleLabel (podKey merged.instance_ node)) = ["slave", "slave"] := by
  have hempty : wiring (handlerOf .creating []) (worldOf []) = some ([], []) := by decide
  have hunaddressed : wiring unaddressed (worldOf [("", "10.0.0.9")]) = some (["", ""], ["master", "slave"]) := by
    decide
  have hdivided : wiring divided (worldOf []) = some (["10.0.0.2", ""], ["slave", "master"]) := by decide
  have hmerged : wiring merged (worldOf [("10.0.0.2", "10.0.0.1")]) = some (["", "10.0.0.1"], ["slave", "slave"]) := by
    decide
  have hheadless : Headless divided.stsNodes :=
    .inr ⟨_, List.mem_cons_self, _, List.mem_cons_of_mem _ List.mem_cons_self, rfl, rfl, by decide⟩
  refine ⟨?_, ?_, ⟨hheadless, ?_⟩, ?_⟩
  · obtain ⟨later, final, hexec, hrequeue, -⟩ := exec_of_wiring hempty
    exact ⟨later, final, hexec, hrequeue⟩
  · obtain ⟨later, final, hexec, hrequeue, hmasters, -⟩ := exec_of_wiring hunaddressed
    exact ⟨later, final, hexec, hrequeue, hmasters⟩
  · obtain ⟨later, final, hexec, hrequeue, hmasters, -⟩ := exec_of_wiring hdivided
    exact ⟨later, final, hexec, hrequeue, hmasters⟩
  · obtain ⟨later, final, hexec, hrequeue, -, hlabels⟩ := exec_of_wiring hmerged
    exact ⟨later, final, hexec, hrequeue, hlabels⟩

end Replication

end KvrocksOperator.Standard
