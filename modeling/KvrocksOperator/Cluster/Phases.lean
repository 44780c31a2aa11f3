import KvrocksOperator.Cluster.Handle
import KvrocksOperator.Cluster.Identity
import KvrocksOperator.Cluster.Rules
import KvrocksOperator.Controllers.Copies
import KvrocksOperator.Sequences.Positions

/-!
# The node matrix through a pass

`ensureKubernetes` makes the node matrix from the StatefulSets and their pods.  The phases after it change what is
known of the nodes, but neither the nodes themselves nor the specification: whatever the replies are, the matrix has
as many shards as there are StatefulSets, at least as many as are wanted, and the nodes of each shard are in the order
of their ordinals.
-/

namespace KvrocksOperator.Cluster

open Interaction Resources Sequences

/-- The kinds of calls that a pass makes. -/
def passKinds : List CallKind := .updateKVRocks :: quietKinds

/-- What the phases after `ensureKubernetes` leave alone. -/
def shape (h : Handler) : KVRocksSpec × List (List ℕ) := (h.instance_.spec, podOrdinals h.stsNodes)

/-- The part of a node that only `ensureFailover` changes. -/
def still (node : Node) : ℕ × Bool := (node.podIndex, node.failover)

/-- What the phases after `ensureFailover` leave alone. -/
def bodies (h : Handler) : KVRocksSpec × List (List (ℕ × Bool)) := (h.instance_.spec, h.stsNodes.map (·.map still))

theorem podOrdinals_eq_still (matrix : Matrix) :
    podOrdinals matrix = (matrix.map (·.map still)).map (·.map Prod.fst) := by
  simp [podOrdinals, still, Function.comp_def]

variable {kinds : List CallKind}

theorem shape_of_bodies {α : Type} {method : HandlerM α} (h : Leaves kinds bodies method) :
    Leaves kinds shape method := by
  apply h.of_part
  intro state later hsame
  have hspec : later.instance_.spec = state.instance_.spec := congrArg Prod.fst hsame
  have hstill : later.stsNodes.map (·.map still) = state.stsNodes.map (·.map still) := congrArg Prod.snd hsame
  rw [shape, shape, hspec, podOrdinals_eq_still, podOrdinals_eq_still, hstill]

/-! ## Images of a matrix -/

/-- A function that gives the nodes of a shard back as they are but for what is known of them. -/
def Relabels (kinds : List CallKind) (nodes : List Node) (function : Go (List Node)) : Prop :=
  function.Returns (OfKind kinds) fun images ↦ images.map still = nodes.map still

/-- A loop over the shards. -/
theorem relabel_returns {body : List Node × ℕ → Go (List Node)}
    (hbody : ∀ shard, Relabels kinds shard.1 (body shard)) (matrix : Matrix) :
    (mapEach body matrix.zipIdx).Returns (OfKind kinds) fun images ↦
      images.map (·.map still) = matrix.map (·.map still) := by
  apply (Fallible.returns_mapEach fun shard _ ↦ hbody shard).mono fun _ h ↦ h
  intro images himages
  exact (map_eq_of_forall₂ himages).trans (map_zipIdx_fst (·.map still) matrix)

/-- The loop over the nodes of a shard in which they are labelled. -/
theorem labelNodes_relabels (instance_ : KVRocks) (partition : ℕ) {image : Node → Node}
    {nodes members : List Node} (himage : ∀ node, still (image node) = still node)
    (hmembers : members.map still = nodes.map still) :
    Relabels [.getPod, .updatePod] nodes (mapEach (fun node ↦ labelNode instance_ partition (image node)) members) := by
  have hnode (node : Node) : (labelNode instance_ partition (image node)).Returns
      (OfKind [.getPod, .updatePod]) fun result ↦ still result = still node := by
    apply Fallible.Ends.bind (updatePodLabels_makes _ _)
    exact fun _ _ _ ↦ ends_pure (himage node)
  apply (Fallible.returns_mapEach fun node _ ↦ hnode node).mono fun _ h ↦ h
  intro images himages
  exact (map_eq_of_forall₂ himages).trans hmembers

/-! ## The phases -/

theorem saveInstance_leaves : Leaves passKinds bodies saveInstance := by
  intro h
  apply saveInstance_yields
  refine ⟨by simp [OfKind, passKinds, Call.kind], fun reply ↦ ?_⟩
  cases reply <;> trivial

theorem persistTopo_leaves (shards : List (List (Option Node))) : Leaves passKinds bodies (persistTopo shards) := by
  intro h
  apply persistTopo_yields
  refine ⟨by simp [OfKind, passKinds, Call.kind], fun reply ↦ ?_⟩
  cases reply <;> trivial

theorem podOrdinals_sortSlots (matrix : Matrix) : podOrdinals (matrix.map (·.map sortSlots)) = podOrdinals matrix := by
  simp [podOrdinals, sortSlots, Function.comp_def]

/-- Only the slots are sorted. -/
theorem ensureStatusTopoMsg_leaves : Leaves passKinds bodies ensureStatusTopoMsg := by
  intro h
  apply ensureStatusTopoMsg_yields
  refine ⟨by simp [OfKind, passKinds, Call.kind], fun reply ↦ ?_⟩
  cases reply with
  | error error => trivial
  | ok number =>
    refine Prod.ext rfl ?_
    simp [bodies, still, sortSlots, Function.comp_def]

/-- The matrix is replaced by its image. -/
theorem relabel_leaves (hkinds : kinds ⊆ passKinds) {body : Handler → List Node × ℕ → Go (List Node)}
    (hbody : ∀ h shard, Relabels kinds shard.1 (body h shard)) :
    Leaves passKinds bodies (do
      let h ← Method.get
      let stsNodes ← Method.lift (mapEach (body h) h.stsNodes.zipIdx)
      Method.modify fun h ↦ { h with stsNodes := stsNodes }) := by
  intro h
  apply ends_get_bind
  have hloop := (relabel_returns (hbody h) h.stsNodes).mono (fun _ hkind ↦ hkinds hkind) fun _ himages ↦ himages
  apply ends_lift_bind hloop
  intro images _ himages
  exact ends_modify (Prod.ext rfl himages)

/-- Roles are no part of a body. -/
theorem initRoles_still (nodes : List Node) : (initRoles nodes).map still = nodes.map still := by
  cases nodes with
  | nil => rfl
  | cons node nodes => simp [initRoles, still, Function.comp_def]

theorem initCluster_leaves_bodies : Leaves passKinds bodies initCluster := by
  intro h
  apply ends_get_bind
  split
  · exact Method.ends_lift (ends_panic trivial)
  · have hshard (shard : List Node × ℕ) : Relabels [.getPod, .updatePod] shard.1
        (mapEach (labelNode h.instance_ shard.2) (initRoles shard.1)) :=
      labelNodes_relabels h.instance_ shard.2 (fun _ ↦ rfl) (initRoles_still shard.1)
    have hloop := (relabel_returns hshard h.stsNodes).mono (fun _ hkind ↦ (by decide : _ ⊆ passKinds) hkind)
      fun _ himages ↦ himages
    apply ends_lift_bind hloop
    intro images _ himages
    exact ends_modify (Prod.ext rfl himages)

theorem followMaster_still (masterID : String) (node : Node) : still (followMaster masterID node) = still node := by
  unfold followMaster
  split <;> rfl

/-- A shard is relabelled node by node. -/
theorem replicateShard_relabels (instance_ : KVRocks) (partition : ℕ) (nodes : List Node) :
    Relabels [.getPod, .updatePod] nodes (replicateShard instance_ partition nodes) := by
  unfold replicateShard
  split
  · cases nodes with
    | nil => exact ends_panic trivial
    | cons first rest => exact labelNodes_relabels instance_ partition (followMaster_still _) rfl
  · exact labelNodes_relabels instance_ partition (followMaster_still _) rfl

theorem ensureReplication_leaves_bodies : Leaves passKinds bodies ensureReplication :=
  relabel_leaves (by decide) fun h shard ↦ replicateShard_relabels h.instance_ shard.2 shard.1

theorem identify_still (shardData : ShardData) (node : Node) : still (identify shardData node) = still node := by
  unfold identify
  split
  · rfl
  · split <;> rfl

/-- A shard gets ids and roles, and its pods labels. -/
theorem identifyShard_relabels (client : Controller.Client) (instance_ : KVRocks) (shard : List Node × ℕ) :
    Relabels [.http, .getPod, .updatePod] shard.1 (identifyShard client instance_ shard) := by
  apply Fallible.Ends.bind ((Controller.getNodes_makes client _).mono (by decide))
  intro shardData _ _
  cases shardData with
  | none => exact ends_panic trivial
  | some shardData =>
    simp only
    split
    · exact ends_throw _ trivial
    · exact (labelNodes_relabels instance_ shard.2 (identify_still shardData) rfl).mono
        (fun _ hkind ↦ List.mem_cons_of_mem _ hkind) fun _ himages ↦ himages

theorem ensureSetNodeID_leaves_bodies : Leaves passKinds bodies ensureSetNodeID :=
  relabel_leaves (by decide) fun h shard ↦ identifyShard_relabels h.controllerClient h.instance_ shard

theorem ensureCluster_leaves : Leaves passKinds bodies ensureCluster := by
  apply ((registerCluster_leaves.mono (by decide)).of_part fun _ _ hsame ↦ by rw [hsame]).bind
  intro _
  apply ensureSetNodeID_leaves_bodies.bind
  intro _
  apply (Leaves.modify (by intro; rfl)).bind
  intro _ h
  apply saveInstanceOrRequeue_yields
  refine ⟨by simp [OfKind, passKinds, Call.kind], fun reply ↦ ?_⟩
  cases reply <;> trivial

theorem ensureVersion_leaves : Leaves passKinds bodies ensureVersion := by
  apply Leaves.modify
  intro h
  split <;> rfl

theorem ensureKVRocksStatus_leaves : Leaves passKinds bodies ensureKVRocksStatus := by
  have hrest : Leaves passKinds bodies (do
      ensureCluster
      ensureVersion
      ensureStatusTopoMsg
      Method.modify fun h ↦ { h with version := h.instance_.status.version }) := by
    apply ensureCluster_leaves.bind
    intro _
    apply ensureVersion_leaves.bind
    intro _
    apply ensureStatusTopoMsg_leaves.bind
    intro _
    exact Leaves.modify fun _ ↦ rfl
  apply ((ensureKVRocksConfig_leaves.mono (by decide)).of_part fun state later hsame ↦ by
    simp_all [bodies]).bind
  intro _
  apply Leaves.get.bind
  intro h
  simp only
  split
  · exact initCluster_leaves_bodies.bind fun _ ↦ hrest
  · exact ensureReplication_leaves_bodies.bind fun _ ↦ hrest

/-- One node of the loops of `ensureFailover`. -/
theorem failoverNode_yields (partition index : ℕ) (node : Node) {h state : Handler} (hstate : shape state = shape h) :
    (failoverNode partition index node).Yields (.arbitrary (OfKind passKinds)) (fun _ ↦ True)
      (fun image later _ ↦ image.1.podIndex = node.podIndex ∧ shape later = shape h) state () := by
  have hfree {α : Type} {kinds : List CallKind} {function : Go α} (hmakes : Makes kinds function)
      (hkinds : kinds ⊆ passKinds) :
      function.Yields (.arbitrary (OfKind passKinds)) (fun _ ↦ True) (fun _ _ ↦ True) () := hmakes.mono hkinds
  apply ends_get_bind
  split
  · apply ends_modify_bind
    apply ends_lift_bind (hfree (Kvrocks.ping_makes _ _) (by decide))
    intro alive _ _
    split
    · exact Method.ends_pure ⟨rfl, hstate⟩
    · apply ends_lift_bind (hfree (K8s.deletePVCByPod_makes _ _) (by decide))
      intro _ _ _
      apply ends_lift_bind (hfree (K8s.deletePodImmediately_makes _ _) (by decide))
      intro _ _ _
      exact Method.ends_pure ⟨rfl, hstate⟩
  · apply ends_lift_bind (hfree (Kvrocks.ping_makes _ _) (by decide))
    intro alive _ _
    split
    · exact Method.ends_pure ⟨rfl, hstate⟩
    · apply ends_modify_bind
      have hsend : Makes [.addMessage] (sendFailoverMsg node.ip state.key partition) :=
        makes_lift (all_ask (by simp [Call.kind]))
      apply ends_lift_bind (hfree hsend (by decide))
      intro _ _ _
      exact Method.ends_pure ⟨rfl, hstate⟩

/-- The loops of `ensureFailover`. -/
theorem failoverNodes_yields (h : Handler) : (mapEach (fun shard : List Node × ℕ ↦
        mapEach (fun entry : Node × ℕ ↦ failoverNode shard.2 entry.2 entry.1) shard.1.zipIdx)
      h.stsNodes.zipIdx).Yields (.arbitrary (OfKind passKinds)) (fun _ ↦ True)
      (fun results later _ ↦ podOrdinals (results.map (·.map Prod.fst)) = podOrdinals h.stsNodes ∧
        shape later = shape h) h () := by
  have hloop : (mapEach (fun shard : List Node × ℕ ↦
        mapEach (fun entry : Node × ℕ ↦ failoverNode shard.2 entry.2 entry.1) shard.1.zipIdx)
      h.stsNodes.zipIdx).Yields (.arbitrary (OfKind passKinds)) (fun _ ↦ True)
      (fun results later _ ↦ List.Forall₂ (fun shard (image : List (Node × Bool)) ↦
        (image.map fun result ↦ result.1.podIndex) = shard.1.map (·.podIndex)) h.stsNodes.zipIdx results ∧
          shape later = shape h) h () := by
    refine Method.yields_mapEach rfl fun shard _ state _ hstate ↦ ?_
    have hnodes : (mapEach (fun entry : Node × ℕ ↦ failoverNode shard.2 entry.2 entry.1)
        shard.1.zipIdx).Yields (.arbitrary (OfKind passKinds)) (fun _ ↦ True)
        (fun image later _ ↦ List.Forall₂ (fun entry (result : Node × Bool) ↦
          result.1.podIndex = entry.1.podIndex) shard.1.zipIdx image ∧ shape later = shape h) state () :=
      Method.yields_mapEach hstate fun entry _ _ _ hcurrent ↦ failoverNode_yields shard.2 entry.2 entry.1 hcurrent
    apply hnodes.imp
    intro image later _ himage
    refine ⟨?_, himage.2⟩
    exact (map_eq_of_forall₂ himage.1).trans (map_zipIdx_fst (·.podIndex) shard.1)
  apply hloop.imp
  intro results later _ hresults
  refine ⟨?_, hresults.2⟩
  calc podOrdinals (results.map (·.map Prod.fst))
    _ = results.map fun image ↦ image.map fun result ↦ result.1.podIndex := by
      simp [podOrdinals, Function.comp_def]
    _ = h.stsNodes.zipIdx.map fun shard ↦ shard.1.map (·.podIndex) := map_eq_of_forall₂ hresults.1
    _ = podOrdinals h.stsNodes := map_zipIdx_fst (fun nodes ↦ nodes.map (·.podIndex)) h.stsNodes

/-- A failover marks nodes and keeps their ordinals. -/
theorem ensureFailover_leaves : Leaves passKinds shape ensureFailover := by
  intro h
  apply ends_get_bind
  apply (failoverNodes_yields h).bind
  rintro results state _ ⟨hordinals, hstate⟩
  apply ends_modify_bind
  have hspec : state.instance_.spec = h.instance_.spec := congrArg Prod.fst hstate
  have hchanged : shape { state with stsNodes := results.map (·.map Prod.fst) } = shape h := Prod.ext hspec hordinals
  split
  · apply ends_modify_bind
    exact (shape_of_bodies ensureStatusTopoMsg_leaves _).imp fun _ _ _ hlater ↦ hlater.trans hchanged
  · exact Method.ends_pure hchanged

theorem modifyNode_still (shard index moved : ℕ) (matrix : Matrix) :
    (modifyNode shard index (withoutEntry moved) matrix).map (·.map still) = matrix.map (·.map still) := by
  have hentry (node : Node) : still (withoutEntry moved node) = still node := rfl
  exact map_modify_eq (fun nodes ↦ map_modify_eq hentry nodes index) matrix shard

/-- A migration changes slots only. -/
theorem reBalanceEntry_leaves (src : ℤ) (shard index : ℕ) :
    Leaves passKinds bodies (reBalanceEntry src shard index) := by
  apply Leaves.get.bind
  intro h
  apply (Leaves.lift (makes_ofOption _)).bind
  intro migrate
  apply (makes_forEach fun slot _ ↦ moveSlot_makes _ _ _ slot _).lift_bind (by decide)
  intro _
  have hdrop : Leaves passKinds bodies (dropEntry shard index migrate.slots.length) := by
    apply Leaves.get.bind
    intro h
    apply (Leaves.lift (makes_ofOption _)).bind
    intro node
    split
    · exact Leaves.lift makes_panic
    · apply Leaves.modify
      intro state
      exact Prod.ext rfl (modifyNode_still shard index _ state.stsNodes)
  apply hdrop.bind
  intro _
  exact ensureStatusTopoMsg_leaves

theorem ensureMigrate_leaves : Leaves passKinds bodies ensureMigrate := by
  apply Leaves.get.bind
  intro h
  split
  · apply (Leaves.modify (by intro; rfl)).bind
    intro _
    exact Leaves.forEach (fun _ ↦ reBalanceEntry_leaves _ _ _) _
  · exact ensureStatusTopoMsg_leaves

/-- A shrink is planned, not carried out. -/
theorem ensureShrink_leaves : Leaves passKinds bodies ensureShrink := by
  apply Leaves.get.bind
  intro h
  apply (Leaves.lift (makes_lift (all_ask (by simp [passKinds, quietKinds, Call.kind])))).bind
  intro _
  split
  · exact Leaves.pure ()
  · apply (Leaves.forEach (fun index ↦ ((removeShardMonitor_leaves index).mono (by decide)).of_part
      fun state later hsame ↦ by simp_all [bodies]) _).bind
    intro _
    apply Leaves.get.bind
    intro h
    split
    · exact Leaves.lift makes_panic
    · apply (Leaves.lift (makes_ofOption _)).bind
      rintro ⟨reserves, kept⟩
      simp only
      split
      · exact Leaves.pure ()
      · apply (Leaves.modify (by intro; rfl)).bind
        intro _
        exact persistTopo_leaves kept

theorem ensureSentinel_leaves : Leaves passKinds bodies ensureSentinel := by
  have hnotify (instance_ : KVRocks) : Leaves passKinds bodies (Method.lift (notifySentinel instance_)) := by
    apply Leaves.lift
    unfold notifySentinel
    cases instance_.labels.lookup monitoredBy with
    | none => exact makes_pure ()
    | some sentinelName => exact (Common.updateSentinelAnnotationCount_makes _ _).mono (by decide)
  apply Leaves.get.bind
  intro h
  split
  · exact Leaves.pure ()
  · split
    · exact hnotify _
    · apply (Leaves.modify (by intro; rfl)).bind
      intro _
      apply saveInstance_leaves.bind
      intro _
      exact hnotify _

/-! ## The matrix that `ensureKubernetes` makes -/

/-- The nodes are in the order of their ordinals, which are machine integers. -/
def Ordered (ordinals : List ℕ) : Prop := ordinals.Pairwise (· ≤ ·) ∧ ∀ ordinal ∈ ordinals, ordinal < 2 ^ 63

/-- There are at least as many shards as are wanted, and the nodes of each are in order. -/
def Fits (h : Handler) : Prop :=
  h.instance_.spec.master ≤ h.stsNodes.length ∧ ∀ ordinals ∈ podOrdinals h.stsNodes, Ordered ordinals

theorem Fits.of_shape {h later : Handler} (hfits : Fits h) (hshape : shape later = shape h) : Fits later := by
  have hspec : later.instance_.spec = h.instance_.spec := congrArg Prod.fst hshape
  have hordinals : podOrdinals later.stsNodes = podOrdinals h.stsNodes := congrArg Prod.snd hshape
  have hlength : later.stsNodes.length = h.stsNodes.length := by
    have := congrArg List.length hordinals
    rwa [podOrdinals, podOrdinals, List.length_map, List.length_map] at this
  rw [Fits, hspec, hlength, hordinals]
  exact hfits

/-- Ordinals are read as `int`. -/
theorem getPVCOrPodIndex_lt {podName : String} {index : ℕ} (h : getPVCOrPodIndex podName = .ok index) :
    index < 2 ^ 63 := by
  have hne := Text.split_ne_nil '-' podName
  have hmem : (Text.split '-' podName).getLastD "" ∈ Text.split '-' podName := by
    rw [List.getLastD_eq_getLast?, List.getLast?_eq_getLast_of_ne_nil hne]
    exact List.getLast_mem hne
  have hrange := Text.atoi_range_of_not_mem (Text.not_mem_of_mem_split hmem)
  unfold getPVCOrPodIndex lastField at h
  cases hatoi : Text.atoi ((Text.split '-' podName).getLastD "") with
  | mk value error =>
    rw [hatoi] at h hrange
    cases error with
    | some error => cases h
    | none =>
      obtain rfl : value.toNat = index := Except.ok.inj h
      have : Text.maxInt = 2 ^ 63 - 1 := rfl
      omega

theorem podNodes_lt {pods : List Pod} {nodes : List Node} (h : podNodes pods = .ok (some nodes)) :
    ∀ node ∈ nodes, node.podIndex < 2 ^ 63 := by
  induction pods generalizing nodes with
  | nil =>
    cases h
    simp
  | cons pod pods ih =>
    simp only [podNodes] at h
    split at h
    · cases h
    · cases hindex : getPVCOrPodIndex pod.name with
      | error error =>
        rw [hindex] at h
        cases h
      | ok index =>
        rw [hindex] at h
        cases hrest : podNodes pods with
        | error error =>
          rw [hrest] at h
          cases h
        | ok rest =>
          rw [hrest] at h
          cases rest with
          | none => cases h
          | some rest =>
            obtain rfl := Option.some.inj (Except.ok.inj h)
            exact List.forall_mem_cons.mpr ⟨getPVCOrPodIndex_lt hindex, ih hrest⟩

/-- Sorted nodes are in the order of their ordinals. -/
theorem ordered_sortNodes {nodes : List Node} (h : ∀ node ∈ nodes, node.podIndex < 2 ^ 63) :
    Ordered ((sortNodes nodes).map (·.podIndex)) := by
  refine ⟨List.pairwise_map.mpr (List.pairwise_insertionSort _ nodes), List.forall_mem_map.mpr fun node hnode ↦ ?_⟩
  exact h node ((List.mem_insertionSort _).mp hnode)

theorem restoreShard_podIndex {topology : List KVRocksTopology} {nodes restored : List Node}
    (h : restoreShard topology nodes = some restored) : restored.map (·.podIndex) = nodes.map (·.podIndex) := by
  apply List.ext_getElem?
  intro index
  rw [List.getElem?_map, List.getElem?_map, restoreShard_getElem? h, Option.map_map]
  congr 1
  funext node
  exact restoreAt_podIndex topology index node

/-- The records do not change the ordinals. -/
theorem restoreTopo_podOrdinals {partitions : List KVRocksTopoPartitions} {shards restored : Matrix}
    (h : restoreTopo partitions shards = some restored) : podOrdinals restored = podOrdinals shards := by
  unfold podOrdinals
  apply List.ext_getElem?
  intro index
  have hlookup := restoreTopo_getElem? h index
  rw [List.getElem?_map, List.getElem?_map]
  cases hnodes : shards[index]? with
  | none =>
    rw [hlookup, hnodes]
    rfl
  | some nodes =>
    have hsome : (restoreShard (recordsAt partitions index) nodes).isSome := by
      rw [restoreShard_isSome_iff]
      have hlength := (restoreTopo_isSome_iff partitions shards).mp (by rw [h]; rfl) index
      rwa [List.getD_eq_getElem?_getD, hnodes] at hlength
    obtain ⟨restored', hrestored⟩ := Option.isSome_iff_exists.mp hsome
    rw [hlookup, hnodes, Option.bind_some, hrestored, Option.map_some, Option.map_some, restoreShard_podIndex hrestored]

/-- The matrix before the persisted topology is put over it. -/
theorem initShardNodes_returns (instance_ : KVRocks) (index : ℕ) :
    (initShardNodes instance_ index).Returns (OfKind passKinds) fun found ↦
      ∀ nodes, found = some nodes → Ordered (nodes.map (·.podIndex)) := by
  apply Fallible.Ends.bind ((K8s.getStatefulSet_makes _).mono (by decide))
  intro sts _ _
  split
  · exact ends_pure nofun
  · apply Fallible.Ends.bind ((K8s.listStatefulSetPods_makes _).mono (by decide))
    intro pods _ _
    cases hnodes : podNodes pods with
    | error error => exact ends_throw error trivial
    | ok nodes =>
      cases nodes with
      | none => exact ends_pure nofun
      | some nodes =>
        refine ends_pure fun found hfound ↦ ?_
        exact Option.some.inj hfound ▸ ordered_sortNodes (podNodes_lt hnodes)

/-- The matrix that is built from the pods is ordered. -/
theorem initStsNodes_returns (instance_ : KVRocks) (indices : List ℕ) :
    (initStsNodes instance_ indices).Returns (OfKind passKinds) fun found ↦
      ∀ matrix, found = some matrix → matrix.length = indices.length ∧
        ∀ ordinals ∈ podOrdinals matrix, Ordered ordinals := by
  induction indices with
  | nil =>
    refine ends_pure fun matrix hmatrix ↦ ?_
    obtain rfl := Option.some.inj hmatrix
    exact ⟨rfl, by simp [podOrdinals]⟩
  | cons index indices ih =>
    apply Fallible.Ends.bind (initShardNodes_returns instance_ index)
    intro found _ hfound
    cases found with
    | none => exact ends_pure nofun
    | some nodes =>
      apply Fallible.Ends.bind ih
      intro rest _ hrest
      cases rest with
      | none => exact ends_pure nofun
      | some shards =>
        refine ends_pure fun matrix hmatrix ↦ ?_
        obtain rfl := Option.some.inj hmatrix
        obtain ⟨hlength, hordered⟩ := hrest shards rfl
        exact ⟨congrArg (· + 1) hlength, List.forall_mem_cons.mpr ⟨hfound nodes rfl, hordered⟩⟩

/-- In the meaning `M` nothing is required of the calls of a pass. -/
def Free {W : Type} (M : Meaning operator W) : Prop :=
  ∀ {α : Type} {function : Go α}, Makes passKinds function → ∀ world,
    function.Yields M (fun _ ↦ True) (fun _ _ ↦ True) world

theorem free_arbitrary : Free (.arbitrary (OfKind passKinds)) := fun hmakes _ ↦ hmakes

theorem free_sequential {W : Type} (step : Program.Answers operator W) : Free (.sequential step) := by
  intro α function _ world
  apply (Program.ensures_true function.program world).mono
  intro outcome _ _
  cases outcome <;> trivial

section Restoring

variable {W : Type} {M : Meaning operator W} {counted : ℕ → Prop} {read : ℕ → Matrix → Prop}

/-- The end of `ensureKubernetes`. -/
theorem fixTopo_restores (hfree : Free M) (h : Handler) (matrix : Matrix) (world : W) :
    (fixTopo matrix).Yields M (fun _ ↦ True) (fun _ later _ ↦ later.requeue = false →
      restoreTopo h.instance_.status.topo matrix = some later.stsNodes ∧
        later.instance_ = h.instance_ ∧ later.version = h.instance_.status.version) h world := by
  apply ends_get_bind
  apply ends_lift_bind (hfree ((K8s.getKVRocks_makes _).mono (by decide)) world)
  intro curInstance later _
  split
  · exact ends_modify fun hrequeue ↦ absurd hrequeue (by simp)
  · have hrestore : (Fallible.ofOption (restoreTopo h.instance_.status.topo matrix) : Go _).Yields M (fun _ ↦ True)
        (fun fixed _ ↦ restoreTopo h.instance_.status.topo matrix = some fixed) later :=
      yields_ofOption (fun _ hfixed ↦ hfixed) fun _ ↦ trivial
    apply ends_lift_bind hrestore
    intro fixed _ hfixed
    exact ends_modify fun _ ↦ ⟨hfixed, rfl, rfl⟩

/-- Unless it asks for a requeue, `ensureKubernetes` leaves the nodes that it has read with the persisted topology
over them, for as many shards as there are StatefulSets. -/
theorem ensureKubernetes_restores (hfree : Free M) (h : Handler)
    (hcounted : ∀ world, (K8s.listStatefulSets h.instance_.ns (selectorLabels h.instance_)).Yields M (fun _ ↦ True)
      (fun list _ ↦ counted list.length) world)
    (hread : ∀ count world, counted count → (initStsNodes h.instance_ (List.range count)).Yields M (fun _ ↦ True)
      (fun found _ ↦ ∀ matrix, found = some matrix → read count matrix) world) (world : W) :
    ensureKubernetes.Yields M (fun _ ↦ True) (fun _ later _ ↦ later.requeue = false →
      ∃ count matrix, h.instance_.spec.master ≤ count ∧ read count matrix ∧
        restoreTopo h.instance_.status.topo matrix = some later.stsNodes ∧
        later.instance_ = h.instance_ ∧ later.version = h.instance_.status.version) h world := by
  apply ends_get_bind
  apply ends_lift_bind (hfree ((K8s.createIfNotExistsConfigMap_makes _).mono (by decide)) world)
  intro _ world _
  apply ends_lift_bind (hfree ((K8s.createIfNotExistsObject_makes _ _).mono (by decide)) world)
  intro _ world _
  apply ends_lift_bind (hfree ((K8s.getConfigMap_makes _).handle.mono (by decide)) world)
  intro oldCM world _
  cases oldCM with
  | error error =>
    simp only
    split
    · exact ends_modify fun hrequeue ↦ absurd hrequeue (by simp)
    · exact Method.ends_throw error trivial
  | ok oldCM =>
    apply ends_modify_bind
    apply ends_get_bind
    apply ends_lift_bind (hfree ((makes_forEach fun index _ ↦
      K8s.createStatefulSetOrUpdateImage_makes _).mono (by decide)) world)
    intro _ world _
    apply ends_lift_bind (hcounted world)
    intro curStsList world hlist
    split
    · exact ends_modify fun hrequeue ↦ absurd hrequeue (by simp)
    · rename_i henough
      apply ends_lift_bind (hfree ((makes_forEach fun index _ ↦ scaleUp_makes _ index).mono (by decide)) world)
      intro _ world _
      apply ends_lift_bind (hread _ world hlist)
      intro found world hfound
      cases found with
      | none => exact ends_modify fun hrequeue ↦ absurd hrequeue (by simp)
      | some matrix =>
        apply (fixTopo_restores hfree _ matrix world).imp
        intro _ later _ hlater hrequeue
        exact ⟨_, matrix, not_lt.mp henough, hfound matrix rfl, hlater hrequeue⟩

end Restoring

/-- Unless it asks for a requeue, `ensureKubernetes` leaves a matrix that fits, and the version of the instance. -/
theorem ensureKubernetes_fits (h : Handler) : ensureKubernetes.Yields (.arbitrary (OfKind passKinds)) (fun _ ↦ True)
      (fun _ later _ ↦ later.requeue = false → Fits later ∧ later.version = later.instance_.status.version) h () := by
  have hlist : (K8s.listStatefulSets h.instance_.ns (selectorLabels h.instance_)).Yields
      (.arbitrary (OfKind passKinds)) (fun _ ↦ True) (fun _ _ ↦ True) () :=
    (K8s.listStatefulSets_makes _ _).mono (by decide)
  apply (@ensureKubernetes_restores _ _ (fun _ ↦ True) _ free_arbitrary h (fun _ ↦ hlist)
    (fun count _ _ ↦ initStsNodes_returns h.instance_ (List.range count)) ()).imp
  intro _ later _ hlater hrequeue
  obtain ⟨count, matrix, hcount, ⟨hlength, hordered⟩, hfixed, hinstance, hversion⟩ := hlater hrequeue
  have hsame := restoreTopo_podOrdinals hfixed
  have hlengths : later.stsNodes.length = matrix.length := by
    have := congrArg List.length hsame
    rwa [podOrdinals, podOrdinals, List.length_map, List.length_map] at this
  rw [List.length_range] at hlength
  refine ⟨⟨?_, ?_⟩, ?_⟩
  · rw [hinstance, hlengths, hlength]
    exact hcount
  · rwa [hsame]
  · rw [hversion, hinstance]

/-! ## A pass up to its last phase -/

/-- The phases of `Handle` before the last one, and what follows them. -/
def phasesBefore (last : HandlerM Bool) : HandlerM Bool :=
  thenUnlessRequeue ensureController <|
  thenUnlessRequeue cleanStatefulSetIfShrinking <|
  thenUnlessRequeue ensureKubernetes <|
  thenUnlessRequeue ensureFailover <|
  thenUnlessRequeue ensureKVRocksStatus <|
  thenUnlessRequeue ensureMigrate <|
  thenUnlessRequeue ensureShrink <|
  thenUnlessRequeue ensureSentinel last

/-- `Handle` ends with the removal of claims. -/
theorem handle_eq : handle = phasesBefore (thenUnlessRequeue cleanPersistentVolumeClaim (pure true)) := rfl

/-- Any reply. -/
def anyReply : Program.Answers operator Unit := fun _ _ _ _ ↦ True

/-- `Handle` reaches its last phase with this handler, for some replies. -/
def Reached (h : Handler) : Prop :=
  ∃ key instance_ client, Exec anyReply
    ((phasesBefore (pure true)).on (newKVRocksClusterHandler key instance_ client)) () (.ok true, h) ()

theorem cleanStatefulSetIfShrinking_makes : MethodMakes passKinds cleanStatefulSetIfShrinking := by
  apply Leaves.get.bind
  intro h
  cases h.instance_.status.shrink with
  | none => exact Leaves.pure ()
  | some shrink =>
    apply Leaves.get.bind
    intro h
    apply (makes_forEach fun index _ ↦ K8s.deleteStatefulSetIfExists_makes _).lift_bind (by decide)
    intro _
    apply (makes_forEach fun entry _ ↦ applyReserve_makes _ entry).lift_bind (by decide)
    intro _
    apply (Leaves.modify (by intro; rfl)).bind
    intro _
    exact saveInstance_leaves.makes

/-- A phase after which a pass may stop. -/
theorem thenUnlessRequeue_yields {W : Type} {M : Meaning operator W} {phase : HandlerM Unit} {next : HandlerM Bool}
    {mid : Handler → W → Prop} {post : Bool → Handler → W → Prop} {h : Handler} {world : W}
    (hphase : phase.Yields M (fun _ ↦ True) (fun _ later final ↦ mid later final) h world)
    (hstop : ∀ later final, mid later final → post false later final)
    (hnext : ∀ later final, mid later final → later.requeue = false → next.Yields M (fun _ ↦ True) post later final) :
    (thenUnlessRequeue phase next).Yields M (fun _ ↦ True) post h world := by
  apply hphase.bind
  intro _ later final hmid
  apply ends_get_bind
  split
  · exact Method.ends_pure (hstop later final hmid)
  · rename_i hrequeue
    exact hnext later final hmid (by simpa using hrequeue)

/-- The matrix fits if the pass has got so far. -/
def FitsIf (finished : Bool) (h : Handler) (_ : Unit) : Prop := finished = true → Fits h

/-- A phase that leaves the matrix alone. -/
theorem thenUnlessRequeue_fits {phase : HandlerM Unit} {next : HandlerM Bool} (hphase : Leaves passKinds shape phase)
    (hnext : ∀ h, Fits h → next.Yields (.arbitrary (OfKind passKinds)) (fun _ ↦ True) FitsIf h ()) (h : Handler)
    (hfits : Fits h) :
    (thenUnlessRequeue phase next).Yields (.arbitrary (OfKind passKinds)) (fun _ ↦ True) FitsIf h () := by
  have hkept : phase.Yields (.arbitrary (OfKind passKinds)) (fun _ ↦ True) (fun _ later _ ↦ Fits later) h () :=
    (hphase h).imp fun _ _ _ hshape ↦ hfits.of_shape hshape
  exact thenUnlessRequeue_yields hkept (fun _ _ _ ↦ nofun) fun later _ hlater _ ↦ hnext later hlater

/-- A pass that gets to the claims has a matrix that fits. -/
theorem phasesBefore_fits (h : Handler) :
    (phasesBefore (pure true)).Yields (.arbitrary (OfKind passKinds)) (fun _ ↦ True) FitsIf h () := by
  have hcontroller : MethodMakes passKinds ensureController := (ensureController_leaves.mono (by decide)).makes
  apply thenUnlessRequeue_yields (hcontroller h) (fun _ _ _ ↦ nofun)
  intro later _ _ _
  apply thenUnlessRequeue_yields (cleanStatefulSetIfShrinking_makes later) (fun _ _ _ ↦ nofun)
  intro later _ _ _
  apply thenUnlessRequeue_yields (ensureKubernetes_fits later) (fun _ _ _ ↦ nofun)
  intro later _ hlater hrequeue
  refine thenUnlessRequeue_fits ensureFailover_leaves ?_ later (hlater hrequeue).1
  refine thenUnlessRequeue_fits (shape_of_bodies ensureKVRocksStatus_leaves) ?_
  refine thenUnlessRequeue_fits (shape_of_bodies ensureMigrate_leaves) ?_
  refine thenUnlessRequeue_fits (shape_of_bodies ensureShrink_leaves) ?_
  refine thenUnlessRequeue_fits (shape_of_bodies ensureSentinel_leaves) ?_
  exact fun h hfits ↦ Method.ends_pure fun _ ↦ hfits

theorem Reached.fits {h : Handler} (hreached : Reached h) : Fits h := by
  obtain ⟨key, instance_, client, hexec⟩ := hreached
  have hall := phasesBefore_fits (newKVRocksClusterHandler key instance_ client)
  have hends := (ensures_iff_exec _ _ _).mp (Program.All.ensures hall (fun _ _ _ _ _ _ ↦ rfl) ()) _ _ hexec
  exact hends.1 rfl

end KvrocksOperator.Cluster
