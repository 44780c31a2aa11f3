import KvrocksOperator.Client.Slots
import KvrocksOperator.Cluster.Agreement
import KvrocksOperator.Cluster.Phases
import KvrocksOperator.Cluster.Victims

/-!
# What the status keeps of the nodes

A pass knows its nodes only from the status that an earlier pass has written.  Of each node `ensureStatusTopoMsg`
writes everything but the failover flag, with the slots as ranges, and `ensureKubernetes` reads it back over the pods
in the order of their ordinals.  What comes back is what was there up to the order of the slots; and the flag, which
is read but not written, is never set when the status is written.
-/

namespace KvrocksOperator.Cluster

open Interaction Resources Sequences

namespace Encoding

/-! ## The round trip -/

/-- The encoding reads back as it was, and reading it ends. -/
def Writable (slots : List ℤ) : Prop := ∀ slot ∈ slots, 0 ≤ slot ∧ slot < Text.maxInt

/-- A node of which the status loses nothing. -/
structure Encodable (node : Node) : Prop where
  slots : Writable node.slots
  migrate : ∀ entry ∈ node.migrate, Writable entry.slots
  failover : node.failover = false

theorem recodeSlots_eq {slots : List ℤ} (h : Writable slots) : recodeSlots slots = Kvrocks.sortInts slots :=
  Kvrocks.slotsToInt_slotsToString fun slot hslot ↦ ⟨(h slot hslot).1, (h slot hslot).2.le⟩

/-- Reading back an encodable node sorts its slots. -/
theorem recode_eq {node : Node} (h : Encodable node) : recode node = sortSlots node := by
  have hmigrate : node.migrate.map (fun entry ↦ { entry with slots := recodeSlots entry.slots }) =
      node.migrate.map fun entry ↦ { entry with slots := Kvrocks.sortInts entry.slots } := by
    apply List.map_congr_left
    intro entry hentry
    rw [recodeSlots_eq (h.migrate entry hentry)]
  unfold recode sortSlots
  rw [recodeSlots_eq h.slots, hmigrate, ← h.failover]

/-- The decoder returns on every list of slots of a record. -/
def Decodable (topo : KVRocksTopology) : Prop :=
  Kvrocks.Terminates topo.slots ∧ ∀ entry ∈ topo.migrate, Kvrocks.Terminates entry.slots

theorem terminates_of_writable {slots : List ℤ} (h : Writable slots) :
    Kvrocks.Terminates (Kvrocks.slotsToString slots) :=
  ⟨_, _, Kvrocks.slotsToIntWithin_of_bounded (Kvrocks.bounded_of_mem_slotsToString h) (Nat.lt_succ_self _)⟩

/-- What is written can be read. -/
theorem decodable_topologyOf {node : Node} (h : Encodable node) (partitionName : String) (index : ℕ) :
    Decodable (topologyOf partitionName index node) := by
  refine ⟨terminates_of_writable h.slots, List.forall_mem_map.mpr ?_⟩
  intro entry hentry
  exact terminates_of_writable (h.migrate entry hentry)

/-! ## The same pods -/

/-- What a node takes from its pod: the ordinal that is read from the name, and the address. -/
def podOf (node : Node) : Except Text.NumError ℕ × String := (.ok node.podIndex, node.ip)

/-- The pods of a listing, in any order, are those of the nodes. -/
def SamePods (nodes : List Node) (pods : List Pod) : Prop :=
  (pods.map fun pod ↦ (getPVCOrPodIndex pod.name, pod.ip)).Perm (nodes.map podOf)

/-- The node of a pod. -/
def ofPod : Except Text.NumError ℕ × String → Node
  | (.ok index, ip) => .fresh ip index
  | (.error _, ip) => .fresh ip 0

/-- A node for every pod. -/
theorem podNodes_eq {pods : List Pod} {nodes : List Node} (h : podNodes pods = .ok (some nodes)) :
    nodes = pods.map fun pod ↦ ofPod (getPVCOrPodIndex pod.name, pod.ip) := by
  fun_induction podNodes pods generalizing nodes with
  | case1 =>
    cases h
    rfl
  | case4 pod pods _ index hindex rest hrest ih =>
    obtain rfl := Option.some.inj (Except.ok.inj h)
    rw [List.map_cons, ← ih hrest, hindex, ofPod]
  | _ => cases h

/-- The pods that are found again. -/
theorem perm_of_samePods {nodes found : List Node} {pods : List Pod} (hpods : SamePods nodes pods)
    (h : podNodes pods = .ok (some found)) : found.Perm (nodes.map stub) := by
  have hmapped := hpods.map ofPod
  rw [List.map_map, List.map_map] at hmapped
  rw [podNodes_eq h]
  exact hmapped

/-- Pods are found in the order of their ordinals. -/
theorem sortNodes_eq {nodes found : List Node} (hperm : found.Perm (nodes.map stub))
    (hascending : (nodes.map (·.podIndex)).Pairwise (· < ·)) : sortNodes found = nodes.map stub := by
  have hstubs : (nodes.map stub).Pairwise fun node later ↦ node.podIndex < later.podIndex :=
    List.pairwise_map.mpr (List.pairwise_map.mp hascending)
  have hdistinct : ((nodes.map stub).map (·.podIndex)).Nodup := by
    rw [List.map_map]
    exact hascending.imp fun h ↦ h.ne
  have hsorted : (sortNodes found).Pairwise fun node later ↦ node.podIndex ≤ later.podIndex :=
    List.pairwise_insertionSort _ found
  have hperm' : (sortNodes found).Perm (nodes.map stub) := (List.perm_insertionSort _ found).trans hperm
  apply hperm'.eq_of_pairwise _ hsorted (hstubs.imp fun h ↦ h.le)
  intro node other hnode hother hle hge
  exact List.inj_on_of_nodup_map hdistinct (hperm'.mem_iff.mp hnode) hother (le_antisymm hle hge)

/-- In every state there are as many StatefulSets as the matrix has shards, and the pods of each are those of the
nodes. -/
structure Relisted {W : Type} (step : Program.Answers operator W) (instance_ : KVRocks) (matrix : Matrix) : Prop where
  count : ∀ world, (K8s.listStatefulSets instance_.ns (selectorLabels instance_)).Yields (.sequential step)
    (fun _ ↦ True) (fun list _ ↦ list.length = matrix.length) world
  pods : ∀ index nodes, matrix[index]? = some nodes → ∀ world,
    (K8s.listStatefulSetPods (statefulSetKey instance_ index)).Yields (.sequential step) (fun _ ↦ True)
      (fun pods _ ↦ SamePods nodes pods) world

variable {h : Handler}

section Relisting

variable {W : Type} {step : Program.Answers operator W} {instance_ : KVRocks} {matrix : Matrix}

/-- A shard is listed again as it was. -/
theorem initShardNodes_stubs (hrelisted : Relisted step instance_ matrix) {index : ℕ} {nodes : List Node}
    (hnodes : matrix[index]? = some nodes) (hascending : (nodes.map (·.podIndex)).Pairwise (· < ·)) (world : W) :
    (initShardNodes instance_ index).Yields (.sequential step) (fun _ ↦ True)
      (fun found _ ↦ ∀ shard, found = some shard → shard = nodes.map stub) world := by
  apply Fallible.Ends.bind (free_sequential step ((K8s.getStatefulSet_makes _).mono (by decide)) world)
  intro sts world _
  split
  · exact ends_pure nofun
  · apply (hrelisted.pods index nodes hnodes world).bind
    intro pods _ hpods
    cases hfound : podNodes pods with
    | error error => exact ends_throw error trivial
    | ok found =>
      cases found with
      | none => exact ends_pure nofun
      | some found =>
        refine ends_pure fun shard hshard ↦ ?_
        rw [← Option.some.inj hshard]
        exact sortNodes_eq (perm_of_samePods hpods hfound) hascending

/-- The matrix that is read is that of the same pods. -/
theorem initStsNodes_stubs (hrelisted : Relisted step instance_ matrix)
    (hascending : ∀ nodes ∈ matrix, (nodes.map (·.podIndex)).Pairwise (· < ·)) {indices : List ℕ}
    (hindices : ∀ index ∈ indices, index < matrix.length) (world : W) :
    (initStsNodes instance_ indices).Yields (.sequential step) (fun _ ↦ True)
      (fun found _ ↦ ∀ shards, found = some shards →
        shards.map some = indices.map fun index ↦ (matrix.map (·.map stub))[index]?) world := by
  induction indices generalizing world with
  | nil =>
    refine ends_pure fun shards hshards ↦ ?_
    rw [← Option.some.inj hshards]
    rfl
  | cons index indices ih =>
    obtain ⟨hindex, hrest⟩ := List.forall_mem_cons.mp hindices
    have hnodes := List.getElem?_eq_getElem hindex
    have hshard := hascending _ (List.getElem_mem hindex)
    apply (initShardNodes_stubs hrelisted hnodes hshard world).bind
    intro found world hfound
    cases found with
    | none => exact ends_pure nofun
    | some nodes =>
      apply (ih hrest world).bind
      intro rest _ hrest
      cases rest with
      | none => exact ends_pure nofun
      | some shards =>
        refine ends_pure fun all hall ↦ ?_
        rw [← Option.some.inj hall, List.map_cons, List.map_cons, hrest shards rfl, hfound nodes rfl,
          List.getElem?_map, hnodes, Option.map_some]

/-- Reading the status of a matrix over its pods gives the matrix back. -/
theorem ensureKubernetes_restored {name : String}
    (htopo : h.instance_.status.topo = statusTopo name (matrix.map (·.map some))) (hfilled : [] ∉ matrix)
    (hascending : ∀ nodes ∈ matrix, (nodes.map (·.podIndex)).Pairwise (· < ·))
    (hencodable : ∀ nodes ∈ matrix, ∀ node ∈ nodes, Encodable node) (hrelisted : Relisted step h.instance_ matrix)
    (world : W) :
    ensureKubernetes.Yields (.sequential step) (fun _ ↦ True)
      (fun _ later _ ↦ later.requeue = false → later.stsNodes = matrix.map (·.map sortSlots)) h world := by
  have hread (count : ℕ) (world : W) (hcount : count = matrix.length) :
      (initStsNodes h.instance_ (List.range count)).Yields (.sequential step) (fun _ ↦ True)
        (fun found _ ↦ ∀ shards, found = some shards → shards = matrix.map (·.map stub)) world := by
    have hindices (index : ℕ) (hindex : index ∈ List.range count) : index < matrix.length :=
      hcount ▸ List.mem_range.mp hindex
    apply (initStsNodes_stubs hrelisted hascending hindices world).imp
    intro found _ hfound shards hshards
    apply List.map_injective_iff.mpr (Option.some_injective _)
    rw [hfound shards hshards, hcount]
    apply List.ext_getElem?
    intro index
    rw [List.getElem?_map, List.getElem?_map]
    by_cases hindex : index < matrix.length
    · rw [List.getElem?_range hindex, Option.map_some, List.getElem?_map, List.getElem?_eq_getElem hindex]
      rfl
    · rw [List.getElem?_eq_none (by simpa using hindex), List.getElem?_eq_none (by simpa using hindex)]
      rfl
  apply (ensureKubernetes_restores (free_sequential step) h hrelisted.count hread world).imp
  intro _ later _ hlater hrequeue
  obtain ⟨count, shards, -, rfl, hrestored, -⟩ := hlater hrequeue
  rw [htopo, restoreTopo_statusTopo name hfilled] at hrestored
  rw [← Option.some.inj hrestored]
  apply List.map_congr_left
  intro nodes hnodes
  apply List.map_congr_left
  intro node hnode
  exact recode_eq (hencodable nodes hnodes node hnode)

end Relisting

/-! ## The failover flag -/

/-- `ensureStatusTopoMsg`, with its last part as a parameter. -/
def ensureStatusTopoMsgWith (persist : List (List (Option Node)) → HandlerM Unit) : HandlerM Unit := do
  let h ← Method.get
  Method.modify fun h ↦ { h with stsNodes := h.stsNodes.map (·.map sortSlots) }
  persist (h.stsNodes.map (·.map some))

section Phases

variable (persist : List (List (Option Node)) → HandlerM Unit)

/-- `ensureFailover` -/
def ensureFailoverWith : HandlerM Unit := do
  let h ← Method.get
  let results ← mapEach (fun (nodes, partition) ↦
      mapEach (fun (node, index) ↦ failoverNode partition index node) nodes.zipIdx)
    h.stsNodes.zipIdx
  Method.modify fun h ↦ { h with stsNodes := results.map (·.map Prod.fst) }
  if results.any (·.any Prod.snd) then do
    Method.modify fun h ↦ { h with version := Kvrocks.wrapInt (h.version + 1) }
    ensureStatusTopoMsgWith persist
  else pure ()

/-- `ensureKVRocksStatus` -/
def ensureKVRocksStatusWith : HandlerM Unit := do
  ensureKVRocksConfig
  let h ← Method.get
  if h.instance_.status.status = .creating then initCluster else ensureReplication
  ensureCluster
  ensureVersion
  ensureStatusTopoMsgWith persist
  Method.modify fun h ↦ { h with version := h.instance_.status.version }

/-- One turn of `ensureReBalanceTopo`. -/
def reBalanceEntryWith (src : ℤ) (shard index : ℕ) : HandlerM Unit := do
  let h ← Method.get
  let migrate ← Method.lift (Fallible.ofOption ((h.stsNodes[shard]?.bind (·[index]?)).bind (·.migrate.head?)))
  Method.lift (forEach (fun slot ↦ moveSlot h.controllerClient src migrate.shard slot slotRetries) migrate.slots)
  dropEntry shard index migrate.slots.length
  ensureStatusTopoMsgWith persist

/-- `ensureMigrate` -/
def ensureMigrateWith : HandlerM Unit := do
  let h ← Method.get
  match (masters h.stsNodes).zipIdx.find? fun ((node, _, _), _) ↦ node.migrate ≠ [] with
  | some ((node, shard, index), src) => do
    setRequeue
    forEach (fun _ ↦ reBalanceEntryWith persist src shard index) node.migrate
  | none => ensureStatusTopoMsgWith persist

/-- The rest of `ensureShrink`, after the monitors are removed. -/
def planShrinkWith : HandlerM Unit := do
  let h ← Method.get
  if h.stsNodes.length < h.instance_.spec.master then Method.lift Fallible.panic
  else do
    let (reserves, kept) ← Method.lift (Fallible.ofOption
      (shrinkShards h.instance_ 0 (h.stsNodes.take h.instance_.spec.master)))
    if shrinkIndex h = [] ∧ reserves = [] then pure ()
    else do
      Method.modify fun h ↦
        { h with instance_ :=
            { h.instance_ with status :=
                { h.instance_.status with
                  shrink := some { partition := shrinkIndex h, reserveMsg := reserves } } } }
      persist kept

/-- `ensureShrink` -/
def ensureShrinkWith : HandlerM Unit := do
  let h ← Method.get
  Method.lift (Fallible.lift (ask (.enter (.ensureShrink h.instance_ h.stsNodes))))
  if h.instance_.status.rebalance then pure ()
  else do
    forEach removeShardMonitor (shrinkIndex h)
    planShrinkWith persist

/-- `Handle`, with what `ensureStatusTopoMsg` does with the nodes as a parameter. -/
def handleWith : HandlerM Bool :=
  thenUnlessRequeue ensureController <|
  thenUnlessRequeue cleanStatefulSetIfShrinking <|
  thenUnlessRequeue ensureKubernetes <|
  thenUnlessRequeue (ensureFailoverWith persist) <|
  thenUnlessRequeue (ensureKVRocksStatusWith persist) <|
  thenUnlessRequeue (ensureMigrateWith persist) <|
  thenUnlessRequeue (ensureShrinkWith persist) <|
  thenUnlessRequeue ensureSentinel <|
  thenUnlessRequeue cleanPersistentVolumeClaim <|
  pure true

end Phases

/-- With the code's own write it is the code's `Handle`. -/
theorem handleWith_persistTopo : handleWith persistTopo = handle := rfl

/-- A node with its flag set, among the nodes that are to be written. -/
def Flagged (shards : List (List (Option Node))) : Prop :=
  ∃ nodes ∈ shards, ∃ node, some node ∈ nodes ∧ node.failover = true

instance (shards : List (List (Option Node))) : Decidable (Flagged shards) :=
  decidable_of_iff (∃ nodes ∈ shards, ∃ entry ∈ nodes, ∃ node ∈ entry, node.failover = true) (by
    unfold Flagged
    simp [Option.mem_def])

/-- A check in front of every write: a flag that is set ends the program. -/
def persistChecked (shards : List (List (Option Node))) : HandlerM Unit :=
  if Flagged shards then Method.lift Fallible.panic else persistTopo shards

/-- No node has its flag set. -/
def Unflagged (h : Handler) : Prop := ∀ nodes ∈ h.stsNodes, ∀ node ∈ nodes, node.failover = false

theorem unflagged_of_bodies {later : Handler} (hsame : bodies later = bodies h) (hunflagged : Unflagged h) :
    Unflagged later := by
  have hstill (h : Handler) : Unflagged h ↔ ∀ nodes ∈ (bodies h).2, ∀ body ∈ nodes, body.2 = false := by
    simp only [Unflagged, bodies, List.forall_mem_map, still]
  rw [hstill, hsame, ← hstill]
  exact hunflagged

/-- Phases that leave the nodes alone set no flag. -/
theorem preserves_unflagged {α : Type} {method : HandlerM α} (hleaves : Leaves passKinds bodies method) :
    method.Preserves (.arbitrary (OfKind passKinds)) fun h _ ↦ Unflagged h := by
  intro h _ hunflagged
  apply (hleaves h).imp
  intro _ later _ hsame
  exact unflagged_of_bodies hsame hunflagged

theorem persistChecked_eq {shards : List (List (Option Node))} (h : ¬ Flagged shards) :
    persistChecked shards = persistTopo shards := if_neg h

theorem not_flagged_of_unflagged (hunflagged : Unflagged h) : ¬ Flagged (h.stsNodes.map (·.map some)) := by
  rintro ⟨entries, hentries, node, hnode, hflag⟩
  obtain ⟨nodes, hnodes, rfl⟩ := List.mem_map.mp hentries
  have hmem : node ∈ nodes := by simpa using hnode
  rw [hunflagged nodes hnodes node hmem] at hflag
  cases hflag

/-- The check finds nothing. -/
theorem ensureStatusTopoMsg_agrees :
    AgreeOn Unflagged (ensureStatusTopoMsgWith persistChecked) ensureStatusTopoMsg := by
  intro h hunflagged
  unfold ensureStatusTopoMsgWith ensureStatusTopoMsg
  rw [on_get_bind, on_get_bind, persistChecked_eq (not_flagged_of_unflagged hunflagged)]

/-- A node has no flag once `ensureFailover` is done with it. -/
theorem failoverNode_unflagged (partition index : ℕ) (node : Node) (h : Handler) :
    (failoverNode partition index node).Yields (.arbitrary (OfKind passKinds)) (fun _ ↦ True)
      (fun result _ _ ↦ result.1.failover = false) h () := by
  have hping := free_arbitrary ((Kvrocks.ping_makes node.ip h.password).mono (by decide)) ()
  apply ends_get_bind
  split
  · apply ends_modify_bind
    apply ends_lift_bind hping
    intro alive _ _
    split
    · exact Method.ends_pure rfl
    · apply ends_lift_bind (free_arbitrary ((K8s.deletePVCByPod_makes _ _).mono (by decide)) ())
      intro _ _ _
      apply ends_lift_bind (free_arbitrary ((K8s.deletePodImmediately_makes _ _).mono (by decide)) ())
      intro _ _ _
      exact Method.ends_pure rfl
  · rename_i hflag
    have hfalse : node.failover = false := by simpa using hflag
    apply ends_lift_bind hping
    intro alive _ _
    split
    · exact Method.ends_pure hfalse
    · have hsend : Makes passKinds (sendFailoverMsg node.ip h.key partition) :=
        makes_lift (all_ask (by simp [passKinds, quietKinds, Call.kind]))
      apply ends_modify_bind
      apply ends_lift_bind (free_arbitrary hsend ())
      intro _ _ _
      exact Method.ends_pure hfalse

/-- No node is flagged after `ensureFailover`. -/
theorem failoverNodes_unflagged (h : Handler) : (mapEach (fun shard : List Node × ℕ ↦
        mapEach (fun entry : Node × ℕ ↦ failoverNode shard.2 entry.2 entry.1) shard.1.zipIdx)
      h.stsNodes.zipIdx).Yields (.arbitrary (OfKind passKinds)) (fun _ ↦ True)
      (fun results _ _ ↦ ∀ image ∈ results, ∀ result ∈ image, result.1.failover = false) h () := by
  have hshard (shard : List Node × ℕ) (h : Handler) :
      (mapEach (fun entry : Node × ℕ ↦ failoverNode shard.2 entry.2 entry.1) shard.1.zipIdx).Yields
        (.arbitrary (OfKind passKinds)) (fun _ ↦ True)
        (fun image _ _ ↦ (∀ result ∈ image, result.1.failover = false) ∧ True) h () := by
    apply (Method.yields_mapEach trivial fun entry _ state _ _ ↦
      (failoverNode_unflagged shard.2 entry.2 entry.1 state).imp fun _ _ _ hresult ↦ ⟨hresult, trivial⟩).imp
    intro image _ _ himage
    exact ⟨forall_mem_of_forall₂ himage.1, trivial⟩
  apply (Method.yields_mapEach trivial fun shard _ state _ _ ↦ hshard shard state).imp
  intro results _ _ hresults
  exact forall_mem_of_forall₂ hresults.1

theorem unflagged_of_results {results : List (List (Node × Bool))}
    (hresults : ∀ image ∈ results, ∀ result ∈ image, result.1.failover = false) (version : ℤ) :
    Unflagged { h with stsNodes := results.map (·.map Prod.fst), version := version } := by
  refine List.forall_mem_map.mpr fun image himage ↦ List.forall_mem_map.mpr fun result hresult ↦ ?_
  exact hresults image himage result hresult

/-- The check finds nothing after a failover. -/
theorem ensureFailover_agrees (h : Handler) : (ensureFailoverWith persistChecked).on h = ensureFailover.on h := by
  unfold ensureFailoverWith ensureFailover
  rw [on_get_bind, on_get_bind]
  apply Method.on_bind_congr (failoverNodes_unflagged h)
  intro results later hresults
  rw [on_modify_bind, on_modify_bind]
  split
  · rw [on_modify_bind, on_modify_bind]
    exact ensureStatusTopoMsg_agrees _ (unflagged_of_results hresults _)
  · rfl

/-- Whatever the replies are, no flag is left by `ensureFailover`. -/
theorem ensureFailover_unflags (h : Handler) :
    ensureFailover.Yields (.arbitrary (OfKind passKinds)) (fun _ ↦ True) (fun _ later _ ↦ Unflagged later) h () := by
  apply ends_get_bind
  apply (failoverNodes_unflagged h).bind
  intro results later _ hresults
  apply ends_modify_bind
  split
  · apply ends_modify_bind
    exact preserves_unflagged ensureStatusTopoMsg_leaves _ () (unflagged_of_results hresults _)
  · exact Method.ends_pure (unflagged_of_results hresults _)

theorem ensureKVRocksStatus_agrees :
    AgreeOn Unflagged (ensureKVRocksStatusWith persistChecked) ensureKVRocksStatus := by
  have hconfig : Leaves passKinds bodies ensureKVRocksConfig :=
    (ensureKVRocksConfig_leaves.mono (by decide)).of_part fun state later hsame ↦ by simp_all [bodies]
  have hrest : AgreeOn Unflagged
      (do ensureCluster; ensureVersion; ensureStatusTopoMsgWith persistChecked
          Method.modify fun h ↦ { h with version := h.instance_.status.version } : HandlerM Unit)
      (do ensureCluster; ensureVersion; ensureStatusTopoMsg
          Method.modify fun h ↦ { h with version := h.instance_.status.version }) := by
    apply (Method.AgreeOn.refl ensureCluster).bind (preserves_unflagged ensureCluster_leaves)
    intro _
    apply (Method.AgreeOn.refl ensureVersion).bind (preserves_unflagged ensureVersion_leaves)
    intro _ h hunflagged
    rw [Method.on_bind, Method.on_bind, ensureStatusTopoMsg_agrees h hunflagged]
  apply (Method.AgreeOn.refl ensureKVRocksConfig).bind (preserves_unflagged hconfig)
  intro _ h hunflagged
  rw [on_get_bind, on_get_bind]
  split
  · exact (Method.AgreeOn.refl initCluster).bind (preserves_unflagged initCluster_leaves_bodies) (fun _ ↦ hrest)
      h hunflagged
  · exact (Method.AgreeOn.refl ensureReplication).bind (preserves_unflagged ensureReplication_leaves_bodies)
      (fun _ ↦ hrest) h hunflagged

theorem dropEntry_leaves (shard index moved : ℕ) : Leaves passKinds bodies (dropEntry shard index moved) := by
  apply Leaves.get.bind
  intro h
  apply (Leaves.lift (makes_ofOption _)).bind
  intro node
  split
  · exact Leaves.lift makes_panic
  · apply Leaves.modify
    intro state
    exact Prod.ext rfl (modifyNode_still shard index _ state.stsNodes)

theorem reBalanceEntry_agrees (src : ℤ) (shard index : ℕ) :
    AgreeOn Unflagged (reBalanceEntryWith persistChecked src shard index) (reBalanceEntry src shard index) := by
  apply (Method.AgreeOn.refl Method.get).bind (preserves_unflagged Leaves.get)
  intro h
  apply (Method.AgreeOn.refl _).bind (preserves_unflagged (Leaves.lift (makes_ofOption _)))
  intro migrate
  have hmoves : Makes passKinds (forEach
      (fun slot ↦ moveSlot h.controllerClient src migrate.shard slot slotRetries) migrate.slots) :=
    (makes_forEach fun slot _ ↦ moveSlot_makes _ _ _ slot _).mono (by decide)
  apply (Method.AgreeOn.refl _).bind (preserves_unflagged (Leaves.lift hmoves))
  intro _
  apply (Method.AgreeOn.refl _).bind (preserves_unflagged (dropEntry_leaves shard index _))
  intro _
  exact ensureStatusTopoMsg_agrees

theorem ensureMigrate_agrees : AgreeOn Unflagged (ensureMigrateWith persistChecked) ensureMigrate := by
  apply (Method.AgreeOn.refl Method.get).bind (preserves_unflagged Leaves.get)
  intro h
  generalize List.find? _ (masters h.stsNodes).zipIdx = found
  cases found with
  | none => exact ensureStatusTopoMsg_agrees
  | some entry =>
    apply (Method.AgreeOn.refl setRequeue).bind (preserves_unflagged (Leaves.modify fun _ ↦ rfl))
    intro _
    exact Method.agreeOn_forEach (fun _ ↦ reBalanceEntry_agrees _ _ _)
      (fun _ ↦ preserves_unflagged (reBalanceEntry_leaves _ _ _)) _

/-- The nodes that a shrink keeps have no flag if none has. -/
theorem not_flagged_of_shrink (hunflagged : Unflagged h) {reserves : List (String × List ℕ)}
    {kept : List (List (Option Node))}
    (hshrink : shrinkShards h.instance_ 0 (h.stsNodes.take h.instance_.spec.master) = some (reserves, kept)) :
    ¬ Flagged kept := by
  rintro ⟨rest, hrest, node, hnode, hflag⟩
  obtain ⟨position, hposition⟩ := List.mem_iff_get.mp hrest
  obtain ⟨hlength, hall⟩ := List.forall₂_iff_get.mp (forall₂_shrinkShards hshrink)
  obtain ⟨ids, hids⟩ := hall position (by rw [hlength]; exact position.2) position.2
  have hmem := mem_of_mem_getReserveIndex hids (hposition ▸ hnode)
  rw [hunflagged _ (List.mem_of_mem_take (List.get_mem _ _)) node hmem] at hflag
  cases hflag

theorem planShrink_agrees : AgreeOn Unflagged (planShrinkWith persistChecked) planShrink := by
  intro h hunflagged
  unfold planShrinkWith planShrink
  rw [on_get_bind, on_get_bind]
  split
  · rfl
  · have hplan : (Method.lift (Fallible.ofOption
          (shrinkShards h.instance_ 0 (h.stsNodes.take h.instance_.spec.master))) : HandlerM _).Yields
        (.arbitrary (OfKind passKinds)) (fun _ ↦ True) (fun plan _ _ ↦
          shrinkShards h.instance_ 0 (h.stsNodes.take h.instance_.spec.master) = some plan) h () :=
      Method.ends_lift (yields_ofOption (fun _ hplan ↦ hplan) fun _ ↦ trivial)
    apply Method.on_bind_congr hplan
    intro plan later hshrink
    obtain ⟨reserves, kept⟩ := plan
    simp only [persistChecked_eq (not_flagged_of_shrink hunflagged hshrink)]

theorem ensureShrink_agrees : AgreeOn Unflagged (ensureShrinkWith persistChecked) ensureShrink := by
  have hmonitors (indices : List ℕ) : Leaves passKinds bodies (forEach removeShardMonitor indices) :=
    Leaves.forEach (fun index ↦ ((removeShardMonitor_leaves index).mono (by decide)).of_part
      fun state later hsame ↦ by simp_all [bodies]) indices
  apply (Method.AgreeOn.refl Method.get).bind (preserves_unflagged Leaves.get)
  intro h
  apply (Method.AgreeOn.refl _).bind (preserves_unflagged (Leaves.lift (makes_lift (all_ask
    (by simp [passKinds, quietKinds, Call.kind])))))
  intro _
  split
  · exact Method.AgreeOn.refl _
  · exact (Method.AgreeOn.refl _).bind (preserves_unflagged (hmonitors _)) fun _ ↦ planShrink_agrees

/-- A check of the flags in front of every write of the topology changes nothing in a pass. -/
theorem handleWith_persistChecked (h : Handler) : (handleWith persistChecked).on h = handle.on h := by
  have hany {phase : HandlerM Unit} (hmakes : MethodMakes passKinds phase) (h : Handler) :
      phase.Yields (.arbitrary (OfKind passKinds)) (fun _ ↦ True) (fun _ _ _ ↦ True) h () :=
    (hmakes h).imp fun _ _ _ _ ↦ trivial
  have hkeep {phase : HandlerM Unit} (hleaves : Leaves passKinds bodies phase) (h : Handler)
      (hunflagged : Unflagged h) :
      phase.Yields (.arbitrary (OfKind passKinds)) (fun _ ↦ True) (fun _ later _ ↦ Unflagged later) h () :=
    preserves_unflagged hleaves h () hunflagged
  have hcontroller : MethodMakes passKinds ensureController := (ensureController_leaves.mono (by decide)).makes
  have hkubernetes : MethodMakes passKinds ensureKubernetes := (ensureKubernetes_leaves.mono (by decide)).makes
  have hpass : AgreeOn (fun _ ↦ True) (handleWith persistChecked) handle := by
    refine (Method.AgreeOn.refl ensureController).thenUnless (fun h _ ↦ hany hcontroller h) ?_
    refine (Method.AgreeOn.refl _).thenUnless (fun h _ ↦ hany cleanStatefulSetIfShrinking_makes h) ?_
    refine (Method.AgreeOn.refl _).thenUnless (fun h _ ↦ hany hkubernetes h) ?_
    refine Method.AgreeOn.thenUnless (fun h _ ↦ ensureFailover_agrees h) (fun h _ ↦ ensureFailover_unflags h) ?_
    refine ensureKVRocksStatus_agrees.thenUnless (hkeep ensureKVRocksStatus_leaves) ?_
    refine ensureMigrate_agrees.thenUnless (hkeep ensureMigrate_leaves) ?_
    refine ensureShrink_agrees.thenUnless (hkeep ensureShrink_leaves) ?_
    exact Method.AgreeOn.refl _
  exact hpass h trivial

/-! ## Nothing is lost -/

/-- The topology of the matrix is persisted. -/
theorem ensureStatusTopoMsg_persists (h : Handler) (world : Agreement.World) :
    ensureStatusTopoMsg.Yields Agreement.around Agreement.anyFailure (fun _ _ final ↦
      final.persisted.status.topo = statusTopo h.instance_.name (h.stsNodes.map (·.map some))) h world := by
  apply ensureStatusTopoMsg_yields
  apply Agreement.updates
  exact fun _ ↦ rfl

/-- Everything that is persisted can be read. -/
theorem decodable_statusTopo {matrix : Matrix}
    (hencodable : ∀ nodes ∈ matrix, ∀ node ∈ nodes, Encodable node) (hfilled : [] ∉ matrix) (name : String) :
    ∀ partition ∈ statusTopo name (matrix.map (·.map some)), ∀ topo ∈ partition.topology, Decodable topo := by
  intro partition hpartition topo htopo
  obtain ⟨index, hindex⟩ := List.mem_iff_getElem?.mp hpartition
  rw [getElem?_statusTopo name hfilled] at hindex
  obtain ⟨nodes, hnodes, rfl⟩ := Option.map_eq_some_iff.mp hindex
  rw [partitionOf, shardTopology_some] at htopo
  obtain ⟨entry, hentry, rfl⟩ := List.mem_map.mp htopo
  exact decodable_topologyOf
    (hencodable nodes (List.mem_of_getElem? hnodes) entry.1 (List.fst_mem_of_mem_zipIdx hentry)) _ _

/-- A status that has been written reads back, over the same pods, as the nodes it was written for with their slots in
order; and no pass ever writes it while a node has its flag set. -/
theorem status_loses_nothing {h : Handler} (hfilled : [] ∉ h.stsNodes)
    (hascending : ∀ nodes ∈ h.stsNodes, (nodes.map (·.podIndex)).Pairwise (· < ·))
    (hencodable : ∀ nodes ∈ h.stsNodes, ∀ node ∈ nodes, Encodable node) :
    (∀ world saved final, Exec Agreement.Answers (ensureStatusTopoMsg.on h) world (.ok (), saved) final →
        (∀ partition ∈ final.persisted.status.topo, ∀ topo ∈ partition.topology, Decodable topo) ∧
        ∀ (W : Type) (step : Program.Answers operator W) (later : Handler), later.instance_ = final.persisted →
          Relisted step later.instance_ h.stsNodes → ∀ before restored after,
            Exec step (ensureKubernetes.on later) before (.ok (), restored) after →
              restored.requeue = false → restored.stsNodes = h.stsNodes.map (·.map sortSlots)) ∧
    ∀ pass : Handler, (handleWith persistChecked).on pass = handle.on pass := by
  refine ⟨fun world saved final hexec ↦ ?_, handleWith_persistChecked⟩
  have htopo := (ensureStatusTopoMsg_persists h world).exec hexec
  constructor
  · rw [htopo]
    exact decodable_statusTopo hencodable hfilled _
  · intro W step later hinstance hrelisted before restored after hrestore
    rw [← hinstance] at htopo
    exact (ensureKubernetes_restored htopo hfilled hascending hencodable hrelisted before).exec hrestore

/-! ## Runs -/

/-- The handler of a cluster instance with one shard of two pods. -/
def handlerOf (nodes : List Node) : Handler := { Agreement.outdated with stsNodes := [nodes] }

/-- A server that finds the two pods, the younger one first. -/
def serve (instance_ : KVRocks) : (request : Call) → Unit → Option (request.Reply × Unit)
  | .getStatefulSet _, _ => some (.ok { newClusterStatefulSet instance_ 0 with readyReplicas := 2 }, ())
  | .listStatefulSets _ _, _ => some (.ok [newClusterStatefulSet instance_ 0], ())
  | .listPods ns _, _ => some (.ok [⟨ns, podName (getStatefulSetName instance_.name 0) 1, "10.0.0.2", [], false⟩,
      ⟨ns, podName (getStatefulSetName instance_.name 0) 0, "10.0.0.1", [], false⟩], ())
  | .getConfigMap _, _ => some (.ok (newKVRocksConfigMap instance_), ())
  | .getKVRocks _, _ => some (.ok instance_, ())
  | .createConfigMap _, _ => some (.ok (), ())
  | .createObject _ _, _ => some (.ok (), ())
  | _, _ => none

/-- The answers of the server. -/
def served (instance_ : KVRocks) : Program.Answers operator Unit :=
  fun request world reply after ↦ serve instance_ request world = some (reply, after)

theorem serve_served (instance_ : KVRocks) (request : Call) (world : Unit) (answer : request.Reply × Unit)
    (h : serve instance_ request world = some answer) : served instance_ request world answer.1 answer.2 := h

theorem relisted_served (instance_ : KVRocks) {first second : Node}
    (hpods : [podOf first, podOf second].Perm [(.ok 0, "10.0.0.1"), (.ok 1, "10.0.0.2")]) :
    Relisted (served instance_) instance_ [[first, second]] := by
  constructor
  · intro world
    apply ends_attempt
    intro reply after hanswer
    obtain ⟨rfl, -⟩ := Prod.mk.inj (Option.some.inj hanswer)
    rfl
  · intro index nodes hnodes world
    have hread := free_sequential (served instance_)
      ((K8s.getStatefulSet_makes (statefulSetKey instance_ index)).mono (by decide)) world
    apply hread.bind
    intro sts world _
    apply ends_attempt
    intro reply after hanswer
    obtain ⟨rfl, -⟩ := Prod.mk.inj (Option.some.inj hanswer)
    have hshard : [first, second] = nodes := by
      cases index with
      | zero => exact Option.some.inj hnodes
      | succ index => cases hnodes
    have hnames (ordinal : ℕ) (hordinal : ordinal < 2 ^ 63) :
        getPVCOrPodIndex (podName (getStatefulSetName instance_.name 0) ordinal) = .ok ordinal :=
      getPVCOrPodIndex_podName _ hordinal
    change (List.map _ [_, _]).Perm _
    rw [← hshard, List.map_cons, List.map_cons, List.map_nil, hnames 1 (by decide), hnames 0 (by decide)]
    exact (List.Perm.swap _ _ []).trans hpods.symm

/-- A master with entries to migrate, and its slave. -/
def migrating : Handler :=
  handlerOf
    [{ Kvrocks.Node.fresh "10.0.0.1" 0 with
        nodeId := "a", role := .master, slots := [2, 0, 1], migrate := [⟨1, [1, 0]⟩] },
      { Kvrocks.Node.fresh "10.0.0.2" 1 with nodeId := "b", role := .slave, master := "a" }]

/-- What is written for a handler and read back in the next pass. -/
def readBack (h : Handler) : Option Matrix :=
  ((ensureStatusTopoMsg.on h).tryRun Agreement.serve Agreement.leftover).bind fun written ↦
    match written.1.1 with
    | .ok _ =>
      ((ensureKubernetes.on (newKVRocksClusterHandler h.key written.2.persisted Controller.newClient)).tryRun
        (serve written.2.persisted) ()).bind fun read ↦
        match read.1.1, read.1.2.requeue with
        | .ok _, false => some read.1.2.stsNodes
        | _, _ => none
    | _ => none

/-- A run of the two phases. -/
theorem exec_of_readBack {matrix : Matrix} (hread : readBack h = some matrix) :
    ∃ saved final, Exec Agreement.Answers (ensureStatusTopoMsg.on h) Agreement.leftover (.ok (), saved) final ∧
      ∃ restored, Exec (served final.persisted)
          (ensureKubernetes.on (newKVRocksClusterHandler h.key final.persisted Controller.newClient)) ()
          (.ok (), restored) () ∧
        restored.requeue = false ∧ restored.stsNodes = matrix := by
  obtain ⟨⟨⟨outcome, saved⟩, final⟩, hwritten, hrest⟩ := Option.bind_eq_some_iff.mp hread
  have hexec := exec_tryRun Agreement.serve_answers hwritten
  cases outcome with
  | err error => cases hrest
  | panic => cases hrest
  | ok value =>
    obtain ⟨⟨⟨outcome, restored⟩, world⟩, hresult, hfinal⟩ := Option.bind_eq_some_iff.mp hrest
    have hrestored := exec_tryRun (serve_served final.persisted) hresult
    cases outcome with
    | err error => cases hfinal
    | panic => cases hfinal
    | ok value =>
      cases hrequeue : restored.requeue with
      | true => simp [hrequeue] at hfinal
      | false =>
        simp only [hrequeue, Option.some.injEq] at hfinal
        exact ⟨saved, final, hexec, restored, hrestored, hrequeue, hfinal⟩

/-- A node with a migration in progress is read back. -/
theorem migrating_comes_back : ∃ saved final,
      Exec Agreement.Answers (ensureStatusTopoMsg.on migrating) Agreement.leftover (.ok (), saved) final ∧
      ∃ restored, Exec (served final.persisted)
          (ensureKubernetes.on (newKVRocksClusterHandler migrating.key final.persisted Controller.newClient)) ()
          (.ok (), restored) () ∧
        restored.stsNodes = migrating.stsNodes.map (·.map sortSlots) := by
  have hread : readBack migrating = some (migrating.stsNodes.map (·.map sortSlots)) := by decide
  obtain ⟨saved, final, hexec, restored, hrestored, hrequeue, -⟩ := exec_of_readBack hread
  have hparts : ∀ nodes ∈ migrating.stsNodes, ∀ node ∈ nodes, (∀ slot ∈ node.slots, 0 ≤ slot ∧ slot < Text.maxInt) ∧
      (∀ entry ∈ node.migrate, ∀ slot ∈ entry.slots, 0 ≤ slot ∧ slot < Text.maxInt) ∧ node.failover = false := by
    decide
  have hencodable : ∀ nodes ∈ migrating.stsNodes, ∀ node ∈ nodes, Encodable node := by
    intro nodes hnodes node hnode
    obtain ⟨hslots, hmigrate, hfailover⟩ := hparts nodes hnodes node hnode
    exact ⟨hslots, hmigrate, hfailover⟩
  have hrelisted : Relisted (served final.persisted) final.persisted migrating.stsNodes :=
    relisted_served final.persisted (List.Perm.refl _)
  have hback := ((status_loses_nothing (by decide) (by decide) hencodable).1 _ saved final hexec).2 Unit
    (served final.persisted) (newKVRocksClusterHandler migrating.key final.persisted Controller.newClient) rfl hrelisted
  exact ⟨saved, final, hexec, restored, hrestored, hback () restored () hrestored hrequeue⟩

/-- The nodes of a shard in the wrong order. -/
def swapped : Handler :=
  handlerOf [{ Kvrocks.Node.fresh "10.0.0.2" 1 with nodeId := "b", role := .slave, master := "a" },
      { Kvrocks.Node.fresh "10.0.0.1" 0 with nodeId := "a", role := .master }]

/-- Slots up to the largest integer. -/
def endless : Handler :=
  handlerOf [{ Kvrocks.Node.fresh "10.0.0.1" 0 with
    nodeId := "a", role := .master, slots := [Text.maxInt - 1, Text.maxInt] }]

/-- Nodes that are not in the order of their ordinals come back with each other's records; and the range up to the
largest integer, which is written for the slots at its end, is one that the decoder never finishes. -/
theorem records_lost : (∃ saved final,
      Exec Agreement.Answers (ensureStatusTopoMsg.on swapped) Agreement.leftover (.ok (), saved) final ∧
        Relisted (served final.persisted) final.persisted swapped.stsNodes ∧
        ∃ restored, Exec (served final.persisted)
            (ensureKubernetes.on (newKVRocksClusterHandler swapped.key final.persisted Controller.newClient)) ()
            (.ok (), restored) () ∧
          restored.requeue = false ∧
          restored.stsNodes.map (·.map fun node ↦ (node.podIndex, node.nodeId)) = [[(0, "b"), (1, "a")]]) ∧
    ∃ saved final, Exec Agreement.Answers (ensureStatusTopoMsg.on endless) Agreement.leftover (.ok (), saved) final ∧
        ∃ partition ∈ final.persisted.status.topo, ∃ topo ∈ partition.topology, ¬ Decodable topo := by
  constructor
  · have hread : (readBack swapped).map (·.map (·.map fun node ↦ (node.podIndex, node.nodeId))) =
        some [[(0, "b"), (1, "a")]] := by decide
    obtain ⟨matrix, hmatrix, hnodes⟩ := Option.map_eq_some_iff.mp hread
    obtain ⟨saved, final, hexec, restored, hrestored, hrequeue, rfl⟩ := exec_of_readBack hmatrix
    exact ⟨saved, final, hexec, relisted_served final.persisted (List.Perm.swap _ _ []), restored, hrestored, hrequeue,
      hnodes⟩
  · have hrun : ((ensureStatusTopoMsg.on endless).tryRun Agreement.serve Agreement.leftover).map
        (fun result ↦ result.1.1) = some (.ok ()) := by decide
    obtain ⟨⟨⟨outcome, saved⟩, final⟩, hresult, rfl⟩ := Option.map_eq_some_iff.mp hrun
    have hexec := exec_tryRun Agreement.serve_answers hresult
    have htopo := (ensureStatusTopoMsg_persists endless Agreement.leftover).exec hexec
    refine ⟨saved, final, hexec, ?_⟩
    rw [htopo]
    refine ⟨_, List.mem_cons_self, _, List.mem_cons_self, fun hdecodable ↦ ?_⟩
    obtain ⟨tests, ints, hints⟩ := hdecodable.1
    have hrange : "9223372036854775806-9223372036854775807" ∈
        Kvrocks.slotsToString [Text.maxInt - 1, Text.maxInt] := by decide
    have hbounded := (Kvrocks.slotsToIntWithin_some hints).1 _ hrange
    exact hbounded "9223372036854775806" "9223372036854775807" [] (by decide) (by decide)

end Encoding

end KvrocksOperator.Cluster
