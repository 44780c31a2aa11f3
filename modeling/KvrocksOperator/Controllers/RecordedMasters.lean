import KvrocksOperator.Client.StatefulSets
import KvrocksOperator.Cluster.Victims
import KvrocksOperator.Controllers.OwnedShards

/-!
# Pods of recorded masters

Three functions write the StatefulSet of a shard, each with `Spec.Replicas` of the copy that its pass holds, and none
of them looks at the roles in the persisted topology: a lower number that comes with a new image takes the pods with
the highest ordinals away at once, the recorded master's among them.  The runs here hold as long as no StatefulSet is
written by a pass over a copy that asks for fewer nodes than are recorded of the shard, and a shrink has to remove the
nodes with the highest ordinals only.  Then no ordinal is ever reserved, the records of a shard name its first pods,
and every write asks for the pod of the recorded master, whatever failovers there are.
-/

namespace KvrocksOperator.Controllers.RecordedMasters

open Interaction Resources Cluster

open OwnedShards (Starts mem_drop_range)

/-! ## Numbered records -/

/-- The records of every shard name its first pods, in their order. -/
def Numbered (topo : List KVRocksTopoPartitions) : Prop :=
  ∀ partition ∈ topo,
    partition.topology.map (·.pod) = (List.range partition.topology.length).map (podName partition.partitionName)

instance (topo : List KVRocksTopoPartitions) : Decidable (Numbered topo) :=
  inferInstanceAs (Decidable (∀ partition ∈ topo, _))

/-- A shard from whose end nodes were removed. -/
def Trimmed (nodes : List (Option Node)) : Prop :=
  ∃ (kept : List Node) (gone : ℕ), nodes = kept.map some ++ List.replicate gone none

theorem trimmed_map_some (nodes : List Node) : Trimmed (nodes.map some) := ⟨nodes, 0, by simp⟩

/-- Nodes that are gone from the end leave no record. -/
theorem shardTopology_trimmed (name : String) (kept : List Node) (gone : ℕ) :
    shardTopology name (kept.map some ++ List.replicate gone none) = shardTopology name (kept.map some) := by
  have hnone : ((List.replicate gone (none : Option Node)).zipIdx (kept.map some).length).filterMap
      (fun entry ↦ entry.1.map (topologyOf name entry.2)) = [] := by
    rw [List.filterMap_eq_nil_iff]
    intro entry hentry
    rw [List.eq_of_mem_replicate (List.fst_mem_of_mem_zipIdx hentry)]
    rfl
  unfold shardTopology
  rw [List.zipIdx_append, List.filterMap_append, Nat.zero_add]
  exact (congrArg _ hnone).trans (List.append_nil _)

/-- The pods of a shard that has only lost nodes at its end. -/
theorem pods_shardTopology {name : String} {nodes : List (Option Node)} (h : Trimmed nodes) :
    (shardTopology name nodes).map (·.pod) = (List.range (shardTopology name nodes).length).map (podName name) := by
  obtain ⟨kept, gone, rfl⟩ := h
  rw [shardTopology_trimmed, shardTopology_some, List.length_map, List.length_zipIdx, List.map_map,
    List.range_eq_range', ← List.zipIdx_map_snd 0 kept, List.map_map]
  rfl

/-- The topology of a trimmed matrix is numbered. -/
theorem numbered_statusTopo {name : String} {shards : List (List (Option Node))}
    (h : ∀ nodes ∈ shards, Trimmed nodes) : Numbered (statusTopo name shards) := by
  intro partition hpartition
  obtain ⟨⟨nodes, index⟩, hentry, hsome⟩ := List.mem_filterMap.mp hpartition
  simp only [Option.ite_none_left_eq_some, Option.some.injEq] at hsome
  rw [← hsome.2]
  exact pods_shardTopology (h nodes (List.fst_mem_of_mem_zipIdx hentry))

/-- A failover does not rename a pod. -/
theorem pod_failoverRecord (ip masterID : String) (nodes : List Controller.Node) (record : KVRocksTopology) :
    (Events.failoverRecord ip masterID nodes record).pod = record.pod := by
  have hstep (current : KVRocksTopology) : (nodes.foldl (fun current node ↦
      let current := if record.nodeId = node.id then
          { current with
            failover := false
            role := node.role
            masterId := if node.role = .slave then masterID else current.masterId }
        else current
      if record.ip = ip then { current with failover := true } else current) current).pod = current.pod := by
    induction nodes generalizing current with
    | nil => rfl
    | cons node nodes ih =>
      rw [List.foldl_cons, ih]
      split_ifs <;> rfl
  exact hstep record

/-- A failover keeps the numbers. -/
theorem numbered_updateTopology (msg : EventMessage) (masterID : String) (nodes : List Controller.Node)
    {object : KVRocks} (h : Numbered object.status.topo) :
    Numbered (Events.updateTopology msg masterID nodes object).status.topo := by
  intro partition hpartition
  obtain ⟨index, hindex⟩ := List.mem_iff_getElem?.mp hpartition
  rw [Events.updateTopology, List.getElem?_modify] at hindex
  obtain ⟨old, hold, rfl⟩ := Option.map_eq_some_iff.mp hindex
  have hnumbered := h old (List.mem_of_getElem? hold)
  split_ifs
  · have hpods : (old.topology.map (Events.failoverRecord msg.ip masterID nodes)).map (·.pod) =
        old.topology.map (·.pod) := by
      rw [List.map_map]
      exact List.map_congr_left fun record _ ↦ pod_failoverRecord msg.ip masterID nodes record
    simp only
    rw [hpods, List.length_map]
    exact hnumbered
  · exact hnumbered

/-! ## Shrinking at the end -/

/-- The shard is not shrunk, or it has a pod for every ordinal and loses slaves with the highest ones only. -/
def Level (replicas : ℤ) (nodes : List Node) : Prop :=
  (nodes.length : ℤ) ≤ replicas ∨
    nodes.map (·.podIndex) = List.range nodes.length ∧ ∀ node ∈ nodes.drop replicas.toNat, node.role ≠ .master

instance (replicas : ℤ) (nodes : List Node) : Decidable (Level replicas nodes) :=
  inferInstanceAs (Decidable (_ ∨ _ ∧ _))

/-- The victims of a shard whose surplus is all slaves. -/
theorem victims_of_slaves {nodes : List Node} {kept : ℕ} (h : ∀ node ∈ nodes.drop kept, node.role ≠ .master) :
    victims (nodes.length - kept) nodes = (nodes.drop kept).reverse := by
  have hfilter : (nodes.drop kept).reverse.filter (fun node ↦ decide (node.role ≠ .master)) =
      (nodes.drop kept).reverse := by
    rw [List.filter_eq_self]
    intro node hnode
    exact decide_eq_true (h node (List.mem_reverse.mp hnode))
  calc victims (nodes.length - kept) nodes
    _ = (((nodes.drop kept).reverse ++ (nodes.take kept).reverse).filter fun node ↦
          decide (node.role ≠ .master)).take (nodes.length - kept) := by
      rw [← List.reverse_append, List.take_append_drop]
      rfl
    _ = (nodes.drop kept).reverse := by
      rw [List.filter_append, hfilter, List.take_left']
      simp

/-- Nothing is reserved, and the nodes with the highest ordinals are removed. -/
theorem getReserveIndex_level {replicas : ℤ} {nodes : List Node} (hreplicas : 1 ≤ replicas)
    (h : Level replicas nodes) {reserve : Option (List ℕ)} {rest : List (Option Node)}
    (hreserve : getReserveIndex replicas nodes = some (reserve, rest)) :
    (∀ ids, reserve = some ids → ids = []) ∧ Trimmed rest := by
  by_cases hmore : replicas < nodes.length
  · obtain ⟨hordinals, hslaves⟩ := h.resolve_left (by omega)
    have hcount : (nodes.length - replicas).toNat = nodes.length - replicas.toNat := by omega
    have hids : ((victims (nodes.length - replicas.toNat) nodes).map (·.podIndex)).reverse =
        (List.range nodes.length).drop replicas.toNat := by
      rw [victims_of_slaves hslaves, List.map_reverse, List.reverse_reverse, List.map_drop, hordinals]
    have hmaster : (reserveLoop (nodes.length - replicas.toNat) 0 nodes.reverse).2 = 0 := by
      have hfront : ∀ node ∈ (nodes.drop replicas.toNat).reverse, node.role ≠ .master :=
        fun node hnode ↦ hslaves node (List.mem_reverse.mp hnode)
      rw [← List.take_append_drop replicas.toNat nodes, List.reverse_append, reserveLoop_snd_append _ _ hfront,
        List.take_append_drop, List.length_reverse, List.length_drop, Nat.sub_self, reserveLoop]
    rw [getReserveIndex_eq hmore, hcount] at hreserve
    simp only [hids, hmaster] at hreserve
    rw [if_pos fun id hid ↦ (mem_drop_range.mp hid).2] at hreserve
    obtain ⟨rfl, rfl⟩ := Prod.mk.inj (Option.some.inj hreserve)
    refine ⟨fun ids hsome ↦ ?_, nodes.take replicas.toNat, nodes.length - replicas.toNat, ?_⟩
    · rw [← Option.some.inj hsome, List.filter_eq_nil_iff]
      intro id hid
      have := mem_drop_range.mp hid
      simp only [decide_eq_true_eq]
      omega
    · apply List.ext_getElem?
      intro position
      simp only [getElem?_eraseAt, mem_drop_range, List.length_map]
      by_cases hkept : position < replicas.toNat
      · rw [if_neg (by omega), List.getElem?_append_left (by simp; omega)]
        simp [hkept]
      · rw [List.getElem?_append_right (by simp; omega)]
        by_cases hposition : position < nodes.length
        · rw [if_pos (by omega), List.getElem?_replicate_of_lt (by simp; omega)]
        · rw [if_neg (by omega)]
          simp only [List.getElem?_map, List.getElem?_replicate, List.length_map, List.length_take]
          rw [List.getElem?_eq_none (by omega), if_neg (by omega)]
          rfl
  · rw [getReserveIndex, if_neg (by omega)] at hreserve
    obtain ⟨rfl, rfl⟩ := Prod.mk.inj (Option.some.inj hreserve)
    exact ⟨fun ids hsome ↦ (Option.some_ne_none ids hsome.symm).elim, trimmed_map_some nodes⟩

/-- A shrink at the end of the shards reserves nothing. -/
theorem shrinkShards_level {instance_ : KVRocks} {index : ℕ} {shards : Matrix}
    (hreplicas : 1 ≤ instance_.spec.replicas) (h : ∀ nodes ∈ shards, Level instance_.spec.replicas nodes)
    {reserves : List (String × List ℕ)} {kept : List (List (Option Node))}
    (hshrink : shrinkShards instance_ index shards = some (reserves, kept)) :
    (∀ entry ∈ reserves, entry.2 = [] ∧ ∃ shard, entry.1 = getStatefulSetName instance_.name shard) ∧
      ∀ nodes ∈ kept, Trimmed nodes := by
  induction shards generalizing index reserves kept with
  | nil =>
    cases hshrink
    simp
  | cons nodes shards ih =>
    cases hreserve : getReserveIndex instance_.spec.replicas nodes with
    | none => simp [shrinkShards, hreserve] at hshrink
    | some plan =>
      obtain ⟨reserve, rest⟩ := plan
      cases hrest : shrinkShards instance_ (index + 1) shards with
      | none => simp [shrinkShards, hreserve, hrest] at hshrink
      | some later =>
        obtain ⟨hfree, htrimmed⟩ := getReserveIndex_level hreplicas (h nodes List.mem_cons_self) hreserve
        obtain ⟨hfrees, htrimmeds⟩ := ih (fun other hother ↦ h other (List.mem_cons_of_mem _ hother)) hrest
        rw [shrinkShards, hreserve] at hshrink
        simp only [hrest, Option.bind_eq_bind, Option.bind_some, Option.some.injEq] at hshrink
        cases reserve with
        | none =>
          cases hshrink
          exact ⟨hfrees, List.forall_mem_cons.mpr ⟨htrimmed, htrimmeds⟩⟩
        | some ids =>
          cases hshrink
          exact ⟨List.forall_mem_cons.mpr ⟨⟨hfree ids rfl, index, rfl⟩, hfrees⟩,
            List.forall_mem_cons.mpr ⟨htrimmed, htrimmeds⟩⟩

/-! ## The runs -/

/-- The custom resources, the StatefulSets, and the objects that each thread has read. -/
structure World where
  store : Store KVRocks
  sets : Sets
  reads : ℕ → List KVRocks

/-- A thread keeps a copy of what it reads. -/
def noted (thread : ℕ) : (request : Call) → request.Reply → (ℕ → List KVRocks) → ℕ → List KVRocks
  | .getKVRocks _, .ok found, reads => Function.update reads thread (found :: reads thread)
  | _, _, reads => reads

/-- The partitions that are recorded now for a StatefulSet. -/
def World.Records (world : World) (sts : StatefulSet) (partition : KVRocksTopoPartitions) : Prop :=
  ∃ object, world.store.current object.key = some object ∧ object.ns = sts.ns ∧
    partition ∈ object.status.topo ∧ partition.partitionName = sts.name

/-- An update of a StatefulSet asks for the pod that is recorded as the master of its shard. -/
def MasterKept : Call → World → Prop
  | .updateStatefulSet sts, world =>
    ∀ partition, world.Records sts partition → ∀ record ∈ partition.topology, record.role = .master →
      ∃ ordinal ∈ sts.ordinals, record.pod = podName sts.name ordinal
  | _, _ => True

/-- The StatefulSet belongs to a shard of the instance. -/
def Owns (object : KVRocks) (sts : StatefulSet) : Prop :=
  sts.ns = object.ns ∧ ∃ shard, sts.name = getStatefulSetName object.name shard

/-- No StatefulSet is updated by a thread whose copy of the instance asks for fewer nodes than are recorded of the
shard, and `ensureShrink` finds shards that it can shrink at their end. -/
def Covered (thread : ℕ) : Call → World → Prop
  | .updateStatefulSet sts, world =>
    ∀ copy ∈ world.reads thread, Owns copy sts →
      ∀ partition, world.Records sts partition → (partition.topology.length : ℤ) ≤ copy.spec.replicas
  | .enter (.ensureShrink instance_ stsNodes), _ =>
    instance_.status.rebalance = false →
      ∀ nodes ∈ stsNodes.take instance_.spec.master, Level instance_.spec.replicas nodes
  | _, _ => True

/-- How the calls of a thread are answered, if they meet a condition. -/
def Serves (condition : ℕ → Call → World → Prop) (thread : ℕ) : Program.Answers operator World :=
  fun request before reply after ↦
    Lifecycle.Serves request before.store reply after.store ∧ Sets.Answers request before.sets reply after.sets ∧
      after.reads = noted thread request reply before.reads ∧ condition thread request before

/-- Users create instances, edit their specifications and delete them; the StatefulSet controller reports the pods
that are ready. -/
inductive Moves : World → World → Prop where
  | edit (world : World) (object old : KVRocks) (number : ℕ)
      (hfresh : ∀ other ∈ world.store.versions, other.resourceVersion ≠ number)
      (hcurrent : world.store.current object.key = some old) (hstatus : object.status = old.status)
      (hreplicas : 1 ≤ object.spec.replicas) :
      Moves world { world with store := world.store.put object number hfresh }
  | create (world : World) (object : KVRocks) (number : ℕ)
      (hfresh : ∀ other ∈ world.store.versions, other.resourceVersion ≠ number)
      (htopo : object.status.topo = []) (hshrink : object.status.shrink = none)
      (hreplicas : 1 ≤ object.spec.replicas) :
      Moves world { world with store := world.store.put object number hfresh }
  | remove (world : World) (key : NamespacedName) : Moves world { world with store := world.store.remove key }
  | report (world : World) (sts : StatefulSet) (ready : ℤ) (number : ℕ) (hstored : world.sets sts.key = some sts) :
      Moves world { world with sets := world.sets.put { sts with readyReplicas := ready, resourceVersion := number } }

/-- All that runs for cluster instances; every pass has a thread of its own. -/
def system (condition : ℕ → Call → World → Prop) : System operator ℕ World where
  answers := Serves condition
  starts thread world program := world.reads thread = [] ∧ Starts program
  moves := Moves

/-! ## The contract of every thread -/

/-- What holds of every version of an instance. -/
structure Sound (object : KVRocks) : Prop where
  numbered : Numbered object.status.topo
  free : ∀ shrink, object.status.shrink = some shrink → ∀ entry ∈ shrink.reserveMsg,
    entry.2 = [] ∧ ∃ shard, entry.1 = getStatefulSetName object.name shard
  replicas : 1 ≤ object.spec.replicas

/-- No StatefulSet reserves an ordinal. -/
def Unreserved (sets : Sets) : Prop := ∀ ⦃key sts⦄, sets key = some sts → sts.reserveOrdinals = []

variable {sts : StatefulSet}

theorem Unreserved.put {sets : Sets} (h : Unreserved sets) (hfree : sts.reserveOrdinals = []) :
    Unreserved (sets.put sts) := by
  intro key found hfound
  by_cases hkey : key = sts.key
  · rw [hkey, Sets.put_self] at hfound
    exact Option.some.inj hfound ▸ hfree
  · rw [Sets.put_of_ne _ _ hkey] at hfound
    exact h hfound

theorem Unreserved.remove {sets : Sets} (h : Unreserved sets) (removed : NamespacedName) :
    Unreserved (sets.remove removed) := by
  intro key found hfound
  by_cases hkey : key = removed
  · rw [hkey, Sets.remove_self] at hfound
    cases hfound
  · rw [Sets.remove_of_ne _ hkey] at hfound
    exact h hfound

/-- All versions are sound, and nothing is reserved. -/
structure Inv (world : World) : Prop where
  versions : ∀ version ∈ world.store.versions, Sound version
  sets : Unreserved world.sets

/-- Threads read more and forget nothing. -/
def Later (before after : World) : Prop := ∀ thread, before.reads thread ⊆ after.reads thread

def contract (thread : ℕ) : Contract operator World where
  answers := Serves Covered thread
  inv := Inv
  rely := Later
  guarantee := Later
  guard := MasterKept
  rely_refl _ _ _ h := h
  rely_trans h h' thread _ hread := h' thread (h thread hread)

variable {world before after : World} {thread : ℕ} {request : Call}

/-- A copy of an object that the thread has read. -/
def Fits (thread : ℕ) (copy : KVRocks) (world : World) : Prop :=
  Sound copy ∧ ∃ read ∈ world.reads thread, read.key = copy.key ∧ read.spec = copy.spec

theorem Fits.later {copy : KVRocks} (h : Fits thread copy before) (hlater : Later before after) :
    Fits thread copy after := by
  obtain ⟨hsound, read, hread, hsame⟩ := h
  exact ⟨hsound, read, hlater thread hread, hsame⟩

/-- A sound change of the status fits too. -/
theorem Fits.change {copy changed : KVRocks} (h : Fits thread copy world) (hsound : Sound changed)
    (hkey : changed.key = copy.key) (hspec : changed.spec = copy.spec) : Fits thread changed world := by
  obtain ⟨-, read, hread, hname, hsame⟩ := h
  exact ⟨hsound, read, hread, hname.trans hkey.symm, hsame.trans hspec.symm⟩

/-- The world goes forward with every answer. -/
theorem later_of_answer {condition : ℕ → Call → World → Prop} {reply : request.Reply}
    (h : Serves condition thread request before reply after) : Later before after := by
  intro other object hobject
  rw [h.2.2.1]
  cases request with
  | getKVRocks key =>
    cases reply with
    | error error => exact hobject
    | ok found =>
      by_cases hthread : other = thread
      · subst hthread
        rw [noted, Function.update_self]
        exact List.mem_cons_of_mem _ hobject
      · rwa [noted, Function.update_of_ne hthread]
  | _ => exact hobject

/-- The records of a shard are asked for if there are not too many of them. -/
theorem masterKept_of_covered {instance_ : KVRocks} (hinv : Inv world) (hfits : Fits thread instance_ world)
    (howns : Owns instance_ sts) (hreplicas : sts.replicas = instance_.spec.replicas) (hfree : sts.reserveOrdinals = [])
    (hcovered : Covered thread (.updateStatefulSet sts) world) : MasterKept (.updateStatefulSet sts) world := by
  intro partition hrecords record hrecord _
  obtain ⟨-, read, hread, hkey, hspec⟩ := hfits
  have hread' : Owns read sts := by
    rw [Owns, show read.ns = instance_.ns from congrArg NamespacedName.ns hkey,
      show read.name = instance_.name from congrArg NamespacedName.name hkey]
    exact howns
  have hlength := hcovered read hread hread' partition hrecords
  rw [hspec, ← hreplicas] at hlength
  obtain ⟨object, hcurrent, -, hpartition, hname⟩ := hrecords
  have hnumbered := (hinv.versions object (world.store.stored hcurrent).1).numbered partition hpartition
  have hpod : record.pod ∈ partition.topology.map (·.pod) := List.mem_map_of_mem hrecord
  rw [hnumbered, hname] at hpod
  obtain ⟨ordinal, hordinal, hpod⟩ := List.mem_map.mp hpod
  rw [List.mem_range] at hordinal
  refine ⟨ordinal, ?_, hpod.symm⟩
  rw [StatefulSet.ordinals, hfree, Segments.mem_smallest_nil]
  omega

/-- The writes that leave the invariant alone. -/
def Harmless : Call → Prop
  | .updateKVRocks object => Sound object
  | .createStatefulSet sts => sts.reserveOrdinals = []
  | .updateStatefulSet sts => sts.reserveOrdinals = []
  | _ => True

/-- The StatefulSets after a harmless call. -/
theorem Unreserved.of_answer (hrequest : Harmless request) {before after : Sets} {reply : request.Reply}
    (h : Unreserved before) (hanswer : Sets.Answers request before reply after) : Unreserved after := by
  cases request with
  | createStatefulSet desired =>
    rcases hanswer with ⟨-, number, rfl⟩ | ⟨rfl, -⟩
    · exact h.put hrequest
    · exact h
  | updateStatefulSet desired =>
    rcases hanswer with ⟨-, -, -, number, rfl⟩ | ⟨rfl, -⟩
    · exact h.put hrequest
    · exact h
  | deleteStatefulSet removed =>
    rcases hanswer with rfl | ⟨rfl, -⟩
    · exact h.remove removed
    · exact h
  | getStatefulSet key => exact hanswer.1 ▸ h
  | _ => exact hanswer ▸ h

/-- The versions of the instances after a harmless call. -/
theorem Inv.versions_after (hrequest : Harmless request) {reply : request.Reply} {after : Store KVRocks}
    (hinv : Inv before) (hanswer : Lifecycle.Serves request before.store reply after) :
    ∀ version ∈ after.versions, Sound version := by
  cases request with
  | updateKVRocks object =>
    rcases hanswer with ⟨number, ⟨-, hfresh, rfl⟩, -⟩ | ⟨rfl, -⟩
    · exact List.forall_mem_cons.mpr ⟨⟨hrequest.numbered, hrequest.free, hrequest.replicas⟩, hinv.versions⟩
    · exact hinv.versions
  | getKVRocks key => exact hanswer.1 ▸ hinv.versions
  | _ => exact hanswer ▸ hinv.versions

/-- A harmless call keeps the invariant. -/
theorem inv_of_answer (h : Harmless request) {reply : request.Reply} (hinv : Inv before)
    (hanswer : Serves Covered thread request before reply after) : Inv after :=
  ⟨hinv.versions_after h hanswer.1, hinv.sets.of_answer h hanswer.2.1⟩

/-- Every other kind of call but the writes. -/
def harmlessKinds : List CallKind := CallKind.deleteStatefulSet :: .listPVC :: .enter :: queueKinds ++ calmKinds

theorem harmless_of_kind (h : OfKind harmlessKinds request) (world : World) :
    Harmless request ∧ MasterKept request world := by
  cases request with
  | updateKVRocks object => simp [OfKind, harmlessKinds, queueKinds, calmKinds, Call.kind] at h
  | createStatefulSet sts => simp [OfKind, harmlessKinds, queueKinds, calmKinds, Call.kind] at h
  | updateStatefulSet sts => simp [OfKind, harmlessKinds, queueKinds, calmKinds, Call.kind] at h
  | _ => exact ⟨trivial, trivial⟩

/-- What is stable is kept by programs that make harmless calls only. -/
theorem stays {P : World → Prop} (hP : ∀ {before after : World}, Later before after → P before → P after) :
    Stays (contract thread).meaning (OfKind harmlessKinds) P := by
  intro α program post world hall hworld
  refine Contract.safe_of_stable (fun _ _ ↦ hP) ?_ hall hworld
  intro request hkind before reply after hinv hbefore hanswer
  have hharmless := harmless_of_kind hkind before
  have hlater := later_of_answer hanswer
  exact ⟨hharmless.2, inv_of_answer hharmless.1 hinv hanswer, hlater, hP hlater hbefore⟩

theorem holds_later {copies : List KVRocks} (hlater : Later before after)
    (h : Holds (fun _ ↦ True) (Fits thread) copies before) : Holds (fun _ ↦ True) (Fits thread) copies after :=
  ⟨trivial, fun copy hcopy ↦ (h.2 copy hcopy).later hlater⟩

/-- A copy that has been written fits. -/
theorem rewrites : Rewrites (contract thread).meaning (fun _ ↦ True) (Fits thread) := by
  intro object copies world hholds before hrely hinv reply after hanswer
  have hobject : Fits thread object world := hholds.2 object List.mem_cons_self
  have hlater := later_of_answer hanswer
  have hafter := holds_later hlater (holds_later hrely hholds)
  refine ⟨trivial, inv_of_answer (show Harmless (.updateKVRocks object) from hobject.1) hinv hanswer, hlater, ?_⟩
  cases reply with
  | error error => exact hafter.tail
  | ok number =>
    refine hafter.replace fun hfits ↦ hfits.change ?_ rfl rfl
    exact ⟨hfits.1.numbered, hfits.1.free, hfits.1.replicas⟩

theorem tracks : Tracks (contract thread).meaning (fun _ ↦ True) (Fits thread) where
  alike h halike := by
    refine h.change ⟨halike.topo ▸ h.1.numbered, ?_, halike.spec ▸ h.1.replicas⟩ halike.key halike.spec
    intro shrink hshrink
    have hname := congrArg NamespacedName.name halike.key
    simp only [KVRocks.key] at hname
    rw [hname]
    exact h.1.free shrink (halike.shrink.symm.trans hshrink)
  fallen _ h := h.change ⟨nofun, nofun, h.1.replicas⟩ rfl rfl
  failover := rewrites.relocates fun msg masterID nodes h ↦
    h.change ⟨numbered_updateTopology msg masterID nodes h.1.numbered, h.1.free, h.1.replicas⟩ rfl rfl
  calm hall hholds := stays holds_later (hall.mono (fun _ hkind ↦ by
    exact (by decide : calmKinds ⊆ harmlessKinds) hkind) fun _ hpost ↦ hpost) hholds
  read := by
    intro key copies world hholds before hrely hinv reply after hanswer
    have hlater := later_of_answer hanswer
    have hafter := holds_later hlater (holds_later hrely hholds)
    refine ⟨trivial, inv_of_answer (show Harmless (.getKVRocks key) from trivial) hinv hanswer, hlater, ?_⟩
    cases reply with
    | error error => exact hafter
    | ok found =>
      have hread : found ∈ after.reads thread := by
        rw [hanswer.2.2.1, noted, Function.update_self]
        exact List.mem_cons_self
      have hsound := hinv.versions found (hanswer.1.2 found rfl).1
      exact ⟨trivial, List.forall_mem_cons.mpr ⟨⟨hsound, found, hread, rfl, rfl⟩, hafter.2⟩⟩
  update := rewrites

/-! ## Writing StatefulSets -/

/-- The thread holds a copy of an instance that it has read. -/
abbrev Held (thread : ℕ) (h : Handler) (world : World) : Prop :=
  Holding (fun _ ↦ True) (Fits thread) Handler.instance_ h world

variable {h : Handler}

theorem held_later (hlater : Later before after) (hheld : Held thread h before) : Held thread h after :=
  ⟨holds_later hlater hheld.1, hheld.2⟩

/-- The copy that is held fits. -/
theorem Held.fits (hheld : Held thread h world) : Fits thread h.instance_ world :=
  hheld.1.2 h.instance_ List.mem_cons_self

section Writes

variable {α : Type}

theorem yields_of_makes {kinds : List CallKind} {function : Go α} (hmakes : Makes kinds function)
    (hkinds : kinds ⊆ harmlessKinds) (hheld : Held thread h world) :
    function.Yields (contract thread).meaning (fun _ ↦ True) (fun _ ↦ Held thread h) world :=
  (stays held_later).yields_returns
    (Fallible.Returns.mono hmakes (fun _ hkind ↦ hkinds hkind) fun _ hpost ↦ hpost) hheld

/-- What is read has no reserved ordinals. -/
theorem getStatefulSet_yields (key : NamespacedName) (hheld : Held thread h world) :
    (K8s.getStatefulSet key).Yields (contract thread).meaning (fun _ ↦ True)
      (fun sts final ↦ sts.reserveOrdinals = [] ∧ sts.key = key ∧ Held thread h final) world := by
  apply ends_attempt
  intro before hrely hinv reply after hanswer
  have hlater := later_of_answer hanswer
  refine ⟨trivial, inv_of_answer (show Harmless (.getStatefulSet key) from trivial) hinv hanswer, hlater, ?_⟩
  cases reply with
  | error error => trivial
  | ok sts =>
    have hstored := hanswer.2.1.2.1 sts rfl
    exact ⟨hinv.sets hstored, before.sets.keyed hstored, held_later hlater (held_later hrely hheld)⟩

/-- An update with the replicas of the copy keeps the master. -/
theorem updateStatefulSet_yields (hheld : Held thread h world) (howns : Owns h.instance_ sts)
    (hreplicas : sts.replicas = h.instance_.spec.replicas) (hfree : sts.reserveOrdinals = []) :
    (K8s.updateStatefulSet sts).Yields (contract thread).meaning (fun _ ↦ True) (fun _ ↦ Held thread h) world := by
  apply ends_attempt
  intro before hrely hinv reply after hanswer
  have hbefore := held_later hrely hheld
  have hlater := later_of_answer hanswer
  refine ⟨masterKept_of_covered hinv hbefore.fits howns hreplicas hfree hanswer.2.2.2,
    inv_of_answer (show Harmless (.updateStatefulSet sts) from hfree) hinv hanswer, hlater, ?_⟩
  cases reply with
  | error error => trivial
  | ok _ => exact held_later hlater hbefore

theorem createStatefulSet_yields (hheld : Held thread h world) (hfree : sts.reserveOrdinals = []) :
    (Fallible.lift (ask (.createStatefulSet sts)) : Go _).Yields (contract thread).meaning (fun _ ↦ True)
      (fun _ ↦ Held thread h) world := by
  apply ends_lift
  intro before hrely hinv reply after hanswer
  have hlater := later_of_answer hanswer
  exact ⟨trivial, inv_of_answer (show Harmless (.createStatefulSet sts) from hfree) hinv hanswer, hlater,
    held_later hlater (held_later hrely hheld)⟩

/-- A new image is written with the replicas of the copy. -/
theorem createStatefulSetOrUpdateImage_yields (shard : ℕ) (hheld : Held thread h world) :
    (K8s.createStatefulSetOrUpdateImage (newClusterStatefulSet h.instance_ shard)).Yields (contract thread).meaning
      (fun _ ↦ True) (fun _ ↦ Held thread h) world := by
  have hread : (Fallible.lift (ask (.getStatefulSet (statefulSetKey h.instance_ shard))) : Go _).Yields
      (contract thread).meaning (fun _ ↦ True) (fun _ ↦ Held thread h) world :=
    yields_of_makes (makes_lift (all_ask List.mem_cons_self)) (by decide : [.getStatefulSet] ⊆ harmlessKinds) hheld
  apply hread.bind
  intro reply reached hreached
  cases reply with
  | ok old =>
    simp only
    split
    · exact ends_pure hreached
    · exact updateStatefulSet_yields hreached ⟨rfl, shard, rfl⟩ rfl rfl
  | error error =>
    cases error with
    | notFound =>
      apply (createStatefulSet_yields hreached rfl).bind
      intro answer final hfinal
      cases answer with
      | ok _ => exact ends_pure hfinal
      | error error => cases error <;> first | exact ends_pure hfinal | exact ends_throw _ trivial
    | _ => exact ends_throw _ trivial

/-- A StatefulSet grows to the replicas of the copy. -/
theorem scaleUp_yields (shard : ℕ) (hheld : Held thread h world) :
    (scaleUp h.instance_ shard).Yields (contract thread).meaning (fun _ ↦ True) (fun _ ↦ Held thread h) world := by
  apply (getStatefulSet_yields _ hheld).bind
  rintro old reached ⟨hold, -, hreached⟩
  simp only
  split
  · exact updateStatefulSet_yields hreached ⟨rfl, shard, rfl⟩ rfl (by simp [hold])
  · exact ends_pure hreached

/-- A reservation of nothing is carried out. -/
theorem applyReserve_yields {entry : String × List ℕ} (hheld : Held thread h world)
    (hentry : entry.2 = [] ∧ ∃ shard, entry.1 = getStatefulSetName h.instance_.name shard) :
    (applyReserve h.instance_ entry).Yields (contract thread).meaning (fun _ ↦ True) (fun _ ↦ Held thread h)
      world := by
  apply (getStatefulSet_yields _ hheld).bind
  rintro sts reached ⟨hfree, hkey, hreached⟩
  obtain ⟨shard, hname⟩ := hentry.2
  refine updateStatefulSet_yields hreached ⟨congrArg NamespacedName.ns hkey, shard, ?_⟩ rfl (by simp [hfree, hentry.1])
  exact (congrArg NamespacedName.name hkey).trans hname

end Writes

/-! ## The phases of a pass -/

theorem fixTopo_yields (matrix : Matrix) (hheld : Held thread h world) :
    (fixTopo matrix).Yields (contract thread).meaning (fun _ ↦ True) (fun _ ↦ Held thread) h world := by
  apply ends_get_bind
  apply ends_lift_bind (yields_of_makes (K8s.getKVRocks_makes _) (by decide) hheld)
  intro curInstance _ hheld
  split
  · exact ends_modify hheld
  · apply ends_lift_bind (yields_of_makes (makes_ofOption _) (List.nil_subset _) hheld)
    intro fixed _ hheld
    exact ends_modify hheld

/-- The StatefulSets are created, updated and scaled up. -/
theorem ensureStatefulSets_yields (hheld : Held thread h world) :
    ensureStatefulSets.Yields (contract thread).meaning (fun _ ↦ True) (fun _ ↦ Held thread) h world := by
  apply ends_get_bind
  apply ends_lift_bind (ends_forEach_const (Held thread h) hheld fun shard _ _ ↦
    createStatefulSetOrUpdateImage_yields shard)
  intro _ _ hheld
  apply ends_lift_bind (yields_of_makes (K8s.listStatefulSets_makes _ _) (by decide) hheld)
  intro curStsList _ hheld
  split
  · exact ends_modify hheld
  · apply ends_lift_bind (ends_forEach_const (Held thread h) hheld fun shard _ _ ↦ scaleUp_yields shard)
    intro _ _ hheld
    apply ends_lift_bind (yields_of_makes (initStsNodes_makes _ _) (by decide) hheld)
    intro found _ hheld
    cases found with
    | none => exact ends_modify hheld
    | some matrix => exact fixTopo_yields matrix hheld

theorem ensureKubernetes_preserves : ensureKubernetes.Preserves (contract thread).meaning (Held thread) := by
  intro h world hheld
  apply ends_get_bind
  apply ends_lift_bind (yields_of_makes (K8s.createIfNotExistsConfigMap_makes _) (by decide) hheld)
  intro _ _ hheld
  apply ends_lift_bind (yields_of_makes (K8s.createIfNotExistsObject_makes _ _) (by decide) hheld)
  intro _ _ hheld
  apply ends_lift_bind (yields_of_makes (K8s.getConfigMap_makes _).handle (by decide) hheld)
  intro oldCM _ hheld
  cases oldCM with
  | error error =>
    simp only
    split
    · exact ends_modify hheld
    · exact Method.ends_throw error trivial
  | ok oldCM =>
    apply ends_modify_bind
    exact ensureStatefulSets_yields hheld

/-- The copy is written after it has been changed. -/
theorem updates_changed {changed : KVRocks} (hheld : Held thread h world) (hsound : Sound changed)
    (hkey : changed.key = h.instance_.key) (hspec : changed.spec = h.instance_.spec)
    (hlive : changed.status.status ≠ .failed) :
    Updates (contract thread).meaning (fun _ ↦ True) changed
      (fun saved final ↦ Holds (fun _ ↦ True) (Fits thread) [saved] final ∧ saved.status.status ≠ .failed) world :=
  tracks.updates_live ⟨trivial, List.forall_mem_singleton.mpr (hheld.fits.change hsound hkey hspec)⟩ hlive
    fun _ _ hsaved hlive ↦ ⟨hsaved, hlive⟩

/-- Carrying out a shrink message reserves nothing. -/
theorem cleanStatefulSetIfShrinking_preserves :
    cleanStatefulSetIfShrinking.Preserves (contract thread).meaning (Held thread) := by
  intro h world hheld
  apply ends_get_bind
  cases hshrink : h.instance_.status.shrink with
  | none => exact Method.ends_pure hheld
  | some shrink =>
    have hsound := hheld.fits.1
    apply ends_get_bind
    apply ends_lift_bind (yields_of_makes (makes_forEach fun index _ ↦
      K8s.deleteStatefulSetIfExists_makes _) (by decide) hheld)
    intro _ _ hheld
    apply ends_lift_bind (ends_forEach_const (Held thread h) hheld fun entry hentry _ hheld ↦
      applyReserve_yields hheld (hsound.free shrink hshrink entry hentry))
    intro _ reached hheld
    apply ends_modify_bind
    apply saveInstance_yields
    exact updates_changed hheld ⟨hsound.numbered, nofun, hsound.replicas⟩ rfl rfl hheld.2

/-- The message that is written reserves nothing. -/
theorem planShrink_yields (hheld : Held thread h world)
    (hlevel : ∀ nodes ∈ h.stsNodes.take h.instance_.spec.master, Level h.instance_.spec.replicas nodes) :
    planShrink.Yields (contract thread).meaning (fun _ ↦ True) (fun _ ↦ Held thread) h world := by
  have hsound := hheld.fits.1
  apply ends_get_bind
  split
  · exact Method.ends_lift (ends_panic trivial)
  · have hplan : (Fallible.ofOption (shrinkShards h.instance_ 0 (h.stsNodes.take h.instance_.spec.master)) :
        Go _).Yields (contract thread).meaning (fun _ ↦ True)
        (fun plan final ↦ ((∀ entry ∈ plan.1, entry.2 = [] ∧
            ∃ shard, entry.1 = getStatefulSetName h.instance_.name shard) ∧
          ∀ nodes ∈ plan.2, Trimmed nodes) ∧ Held thread h final) world :=
      yields_ofOption (fun _ hplan ↦ ⟨shrinkShards_level hsound.replicas hlevel hplan, hheld⟩) fun _ ↦ trivial
    apply ends_lift_bind hplan
    rintro ⟨reserves, kept⟩ reached ⟨⟨hfree, htrimmed⟩, hheld⟩
    simp only
    split
    · exact Method.ends_pure hheld
    · apply ends_modify_bind
      apply persistTopo_yields
      refine updates_changed hheld ⟨numbered_statusTopo htrimmed, ?_, hsound.replicas⟩ rfl rfl hheld.2
      intro shrink hshrink
      obtain rfl := Option.some.inj hshrink
      exact hfree

/-- Planning a shrink keeps what is held. -/
theorem ensureShrink_preserves : ensureShrink.Preserves (contract thread).meaning (Held thread) := by
  intro h world hheld
  have henter : (Fallible.lift (ask (.enter (.ensureShrink h.instance_ h.stsNodes))) : Go Unit).Yields
      (contract thread).meaning (fun _ ↦ True) (fun _ final ↦ Held thread h final ∧
        (h.instance_.status.rebalance = false →
          ∀ nodes ∈ h.stsNodes.take h.instance_.spec.master, Level h.instance_.spec.replicas nodes)) world := by
    apply ends_lift
    intro before hrely hinv reply after hanswer
    have hlater := later_of_answer hanswer
    have hharmless : Harmless (.enter (.ensureShrink h.instance_ h.stsNodes)) := trivial
    exact ⟨trivial, inv_of_answer hharmless hinv hanswer, hlater, held_later hlater (held_later hrely hheld),
      hanswer.2.2.2⟩
  apply ends_get_bind
  apply ends_lift_bind henter
  rintro _ reached ⟨hheld, hlevel⟩
  split
  · exact Method.ends_pure hheld
  · rename_i hrebalance
    have hmonitors : Leaves harmlessKinds (fun h : Handler ↦ (h.instance_, h.stsNodes))
        (forEach removeShardMonitor (shrinkIndex h)) :=
      Leaves.forEach (fun index ↦ ((removeShardMonitor_leaves index).mono (by decide)).of_part (by simp_all)) _
    apply ((stays held_later).yields (hmonitors h) hheld).bind
    rintro _ later final ⟨hsame, hheld⟩
    simp only [Prod.mk.injEq] at hsame
    apply planShrink_yields
    · rw [Held, Holding, hsame.1]
      exact hheld
    · rw [hsame.1, hsame.2]
      exact hlevel (by simpa using hrebalance)

/-! ## All threads -/

/-- A whole pass is safe. -/
theorem handle_yields (hheld : Held thread h world) :
    handle.Yields (contract thread).meaning (fun _ ↦ True) (fun _ _ _ ↦ True) h world := by
  have hfollows : Follows (contract thread).meaning (Held thread) (Held thread) :=
    follows_of_tracks tracks fun matrix _ hfits ↦ hfits.change
      ⟨numbered_statusTopo (List.forall_mem_map.mpr fun nodes _ ↦ trimmed_map_some nodes), hfits.1.free,
        hfits.1.replicas⟩ rfl rfl
  have hstays (h : Handler) : Stays (contract thread).meaning (OfKind harmlessKinds) (Held thread h) := stays held_later
  have hclaims : cleanPersistentVolumeClaim.Preserves (contract thread).meaning (Held thread) :=
    preserves_holding hstays cleanPersistentVolumeClaim_leaves (by decide) (by simp_all)
  exact handle_yields_of hfollows (preserves_holding hstays ensureController_leaves (by decide) (by simp_all))
    cleanStatefulSetIfShrinking_preserves
    (fun hheld ↦ (ensureKubernetes_preserves _ _ hheld).imp fun _ _ _ hlater _ ↦ hlater)
    (ensureShrink_preserves _ _) (ensureSentinel_holding tracks)
    (fun hleft ↦ (hclaims _ _ hleft).imp fun _ _ _ _ ↦ trivial) hheld

theorem starts_safe {program : Program operator Unit} (h : Starts program) (world : World) :
    (contract thread).Safe program (fun _ _ ↦ True) world := by
  cases h with
  | reconcile key =>
    refine OwnedShards.reconcile_safe tracks (fun hfits ↦ ?_) handle_yields key trivial
    exact hfits.change ⟨hfits.1.numbered, hfits.1.free, hfits.1.replicas⟩ rfl rfl
  | handleFailover client msg =>
    refine OwnedShards.handleFailover_safe tracks ?_ client msg trivial
    intro α program post world hall hworld
    have hqueue : queueKinds ⊆ harmlessKinds := by decide
    exact stays (fun _ hbefore ↦ hbefore) (hall.mono (fun _ hkind ↦ hqueue hkind) fun _ hpost ↦ hpost) hworld

theorem certified : (system Covered).Certified Inv contract where
  answers_eq _ := rfl
  inv_eq _ := rfl
  rely_of_guarantee _ _ _ _ _ h := h
  move before after hinv hmove := by
    have hreads : after.reads = before.reads := by cases hmove <;> rfl
    refine ⟨?_, fun _ thread ↦ hreads ▸ List.Subset.refl _⟩
    cases hmove with
    | edit object old number hfresh hcurrent hstatus hreplicas =>
      have hold := hinv.versions old (before.store.stored hcurrent).1
      have hname : old.name = object.name := congrArg NamespacedName.name (before.store.stored hcurrent).2
      refine ⟨List.forall_mem_cons.mpr ⟨⟨?_, ?_, hreplicas⟩, hinv.versions⟩, hinv.sets⟩
      · exact (congrArg (fun status ↦ Numbered status.topo) hstatus).mpr hold.numbered
      · intro shrink hshrink
        change ∀ entry ∈ shrink.reserveMsg, entry.2 = [] ∧ ∃ shard, entry.1 = getStatefulSetName object.name shard
        rw [← hname]
        exact hold.free shrink ((congrArg KVRocksStatus.shrink hstatus).symm.trans hshrink)
    | create object number hfresh htopo hshrink hreplicas =>
      refine ⟨List.forall_mem_cons.mpr ⟨⟨?_, ?_, hreplicas⟩, hinv.versions⟩, hinv.sets⟩
      · intro partition hpartition
        exact (List.not_mem_nil (htopo ▸ hpartition)).elim
      · intro shrink hsome
        exact (Option.some_ne_none shrink (hsome.symm.trans hshrink)).elim
    | remove key => exact ⟨hinv.versions, hinv.sets⟩
    | report sts ready number hstored =>
      have hold : sts.reserveOrdinals = [] := hinv.sets hstored
      exact ⟨hinv.versions, hinv.sets.put hold⟩
  start _ world _ _ hstart := starts_safe hstart.2 world

/-- In every run in which no StatefulSet is updated by a pass whose copy asks for fewer nodes than are recorded of the
shard, and every shrink can take its nodes from the end of the shard, every update asks for the pod of the recorded
master. -/
theorem recorded_master_kept {world : World} (hinv : Inv world) {config : System.Config operator ℕ World}
    (hreach : (system Covered).Reaches (System.initial world) config) {thread : ℕ} {request : Call}
    {resume : request.Reply → Program operator Unit} {reply : request.Reply} {after : World}
    (hnext : config.running thread = some (.call request resume))
    (hanswer : Serves Covered thread request config.world reply after) : MasterKept request config.world :=
  System.reaches_guard certified hinv hreach hnext hanswer

/-! ## A new image for a cluster of three shards -/

/-- The record of a pod of a shard. -/
def record (shard ordinal : ℕ) (role : Role) : KVRocksTopology :=
  { pod := podName (getStatefulSetName (Claims.demo 3).name shard) ordinal
    role := role
    nodeId := Text.itoa shard ++ "/" ++ Text.itoa ordinal
    ip := Text.itoa shard ++ "." ++ Text.itoa ordinal
    port := Kvrocks.kvrocksPort
    slots := []
    masterId := ""
    migrate := []
    failover := false }

/-- A cluster in which a failover has made the last of the three pods of every shard the master. -/
def failedOver : KVRocks :=
  { Claims.demo 3 with
    resourceVersion := 1
    spec := { (Claims.demo 3).spec with replicas := 3, image := "kvrocks:1.0" }
    status := { (Claims.demo 3).status with
      topo := (List.range 3).map fun shard ↦
        { partitionName := getStatefulSetName (Claims.demo 3).name shard
          shard := shard
          topology := [record shard 0 .slave, record shard 1 .slave, record shard 2 .master] } } }

/-- The user asks for another image and another number of replicas. -/
def edited (replicas : ℤ) : KVRocks :=
  { failedOver with spec := { failedOver.spec with replicas := replicas, image := "kvrocks:2.0" } }

def startWorld : World where
  store := Store.single failedOver 1
  sets := (List.range 3).foldl (fun sets shard ↦ sets.put (newClusterStatefulSet failedOver shard)) Sets.empty
  reads _ := []

theorem startWorld_inv : Inv startWorld where
  versions := List.forall_mem_singleton.mpr ⟨by decide, nofun, by decide⟩
  sets := by
    have hempty : Unreserved Sets.empty := fun _ _ ↦ nofun
    exact ((hempty.put rfl).put rfl).put rfl

/-- The edit of the user. -/
def editedWorld (replicas : ℤ) : World :=
  { startWorld with store := startWorld.store.put (edited replicas) 2 (by decide) }

variable {condition : ℕ → Call → World → Prop}

/-- The user edits the specification first. -/
theorem reaches_editedWorld {replicas : ℤ} (hreplicas : 1 ≤ replicas) :
    (system condition).Reaches (System.initial startWorld) (System.initial (editedWorld replicas)) := by
  have hmove : Moves startWorld (editedWorld replicas) :=
    .edit startWorld (edited replicas) failedOver 2 (by decide) rfl rfl hreplicas
  exact Relation.ReflTransGen.single (.move hmove)

/-- Nobody interferes; the run stops when a StatefulSet is going to be updated. -/
def serve (thread : ℕ) : (request : Call) → World → Option (request.Reply × World)
  | .getKVRocks key, world =>
    let reply := (world.store.current key).elim (.error .notFound) .ok
    some (reply, { world with reads := noted thread (.getKVRocks key) reply world.reads })
  | .updateKVRocks object, world =>
    some ((Lifecycle.accept object world.store).1, { world with store := (Lifecycle.accept object world.store).2 })
  | .getStatefulSet key, world => some ((Sets.serve (.getStatefulSet key) world.sets).1, world)
  | .createStatefulSet _, _ => none
  | .updateStatefulSet _, _ => none
  | .deleteStatefulSet _, _ => none
  | .enter _, _ => none
  | request, world => some (Claims.answer 3 request, world)

theorem serves_serve
    (hcondition : ∀ thread request world, (serve thread request world).isSome → condition thread request world)
    {answer : request.Reply × World} (h : serve thread request world = some answer) :
    Serves condition thread request world answer.1 answer.2 := by
  have hmet := hcondition thread request world (by rw [h]; rfl)
  cases request with
  | getKVRocks key =>
    cases h
    exact ⟨Lifecycle.serves_current key world.store, rfl, rfl, hmet⟩
  | updateKVRocks object =>
    cases h
    exact ⟨Lifecycle.serves_accept object world.store, rfl, rfl, hmet⟩
  | getStatefulSet key =>
    cases h
    exact ⟨rfl, Sets.serve_answers (.getStatefulSet key) world.sets, rfl, hmet⟩
  | createStatefulSet sts => cases h
  | updateStatefulSet sts => cases h
  | deleteStatefulSet key => cases h
  | enter phase => cases h
  | _ =>
    cases h
    exact ⟨rfl, rfl, rfl, hmet⟩

theorem covered_of_serve (thread : ℕ) (request : Call) (world : World) (h : (serve thread request world).isSome) :
    Covered thread request world := by
  cases request with
  | updateStatefulSet sts => cases h
  | enter phase => cases h
  | _ => trivial

/-- A pass over the instance. -/
def pass : System.Player operator ℕ World where
  program _ :=
    (reconcile (fun _ ↦ clusterHandler failedOver.key) failedOver.key).program.bind fun _ ↦ .done ()
  startable thread world := (world.reads thread).isEmpty
  serve := serve

theorem pass_plays
    (hcondition : ∀ thread request world, (serve thread request world).isSome → condition thread request world) :
    pass.Plays (system condition) where
  start _ _ hstart := ⟨List.isEmpty_iff.mp hstart, .reconcile failedOver.key⟩
  serve _ _ _ _ h := serves_serve hcondition h

/-- The first StatefulSet with the new image. -/
def newImage (replicas : ℤ) : StatefulSet :=
  { ns := "default"
    name := "kvrocks-cluster-1-demo-0"
    matchLabels := [("kvrocks/statefulset", "kvrocks-cluster-1-demo-0"), ("kvrocks/name", "kvrocks-cluster-1-demo"),
      ("app.kubernetes.io/kind", "KVRocks")]
    replicas := replicas
    reserveOrdinals := []
    image := "kvrocks:2.0"
    exporterImage := exporterImage
    readyReplicas := 0
    resourceVersion := 0 }

/-- The pass is going to write the new image while this instance is stored; three nodes of every shard were recorded
all the time. -/
def Writes (replicas : ℤ) (object : KVRocks) (config : System.Config operator ℕ World) : Prop :=
  OwnedShards.nextCall config 0 = some (.updateStatefulSet (newImage replicas)) ∧
    config.world.store.current failedOver.key = some object ∧
    (∀ copy ∈ config.world.reads 0, copy.spec.replicas = replicas) ∧
    ∀ version ∈ config.world.store.versions, ∀ partition ∈ version.status.topo, partition.topology.length = 3

instance (replicas : ℤ) (object : KVRocks) (config : System.Config operator ℕ World) :
    Decidable (Writes replicas object config) := inferInstanceAs (Decidable (_ ∧ _))

/-- The instance with the labels that `Reconcile` adds. -/
def labelled (replicas : ℤ) : KVRocks :=
  { edited replicas with labels := wantedLabels (edited replicas), resourceVersion := 3 }

theorem reaches_write {condition : ℕ → Call → World → Prop}
    (hcondition : ∀ thread request world, (serve thread request world).isSome → condition thread request world)
    {replicas : ℤ} (hreplicas : 1 ≤ replicas)
    (h : (pass.play (.start 0 :: List.replicate 15 (.answer 0)) (System.initial (editedWorld replicas))).any
      fun config ↦ decide (Writes replicas (labelled replicas) config)) :
    ∃ config, (system condition).Reaches (System.initial startWorld) config ∧
      Writes replicas (labelled replicas) config := by
  obtain ⟨config, hplay, hwrites⟩ := (Option.any_eq_true _ _).mp h
  exact ⟨config, (reaches_editedWorld hreplicas).trans (System.Player.play_reaches (pass_plays hcondition) hplay),
    of_decide_eq_true hwrites⟩

/-- With five replicas the new image leaves the third pod alone. -/
theorem grown_image_keeps_master :
    ∃ config, (system Covered).Reaches (System.initial startWorld) config ∧ Writes 5 (labelled 5) config ∧
      MasterKept (.updateStatefulSet (newImage 5)) config.world := by
  obtain ⟨config, hreach, hwrites⟩ := reaches_write covered_of_serve (by decide : (1 : ℤ) ≤ 5) (by decide +kernel)
  obtain ⟨resume, hnext⟩ := OwnedShards.running_of_nextCall hwrites.1
  have hcovered : Covered 0 (.updateStatefulSet (newImage 5)) config.world := by
    rintro copy hcopy - partition ⟨object, hcurrent, -, hpartition, -⟩
    rw [hwrites.2.2.1 copy hcopy, hwrites.2.2.2 object (config.world.store.stored hcurrent).1 partition hpartition]
    decide
  have hanswer : Serves Covered 0 (.updateStatefulSet (newImage 5)) config.world (.error .conflict) config.world :=
    ⟨rfl, .inr ⟨rfl, _, rfl⟩, rfl, hcovered⟩
  exact ⟨config, hreach, hwrites, recorded_master_kept startWorld_inv hreach hnext hanswer⟩

/-- With one replica the new image takes the pod of the master away. -/
theorem image_drops_master :
    ∃ config, (system fun _ _ _ ↦ True).Reaches (System.initial startWorld) config ∧ Writes 1 (labelled 1) config ∧
      ¬ MasterKept (.updateStatefulSet (newImage 1)) config.world := by
  obtain ⟨config, hreach, hwrites⟩ := reaches_write (fun _ _ _ _ ↦ (trivial : (fun _ _ _ ↦ True) _ _ _))
    (by decide : (1 : ℤ) ≤ 1) (by decide +kernel)
  refine ⟨config, hreach, hwrites, fun hkept ↦ ?_⟩
  have hrecords : config.world.Records (newImage 1)
      { partitionName := "kvrocks-cluster-1-demo-0", shard := 0
        topology := [record 0 0 .slave, record 0 1 .slave, record 0 2 .master] } :=
    ⟨labelled 1, hwrites.2.1, rfl, by decide, rfl⟩
  obtain ⟨ordinal, hordinal, hpod⟩ := hkept _ hrecords (record 0 2 .master) (by decide) rfl
  have hnone : ∀ ordinal ∈ (newImage 1).ordinals, (record 0 2 .master).pod ≠ podName (newImage 1).name ordinal := by
    decide
  exact hnone ordinal hordinal hpod

end KvrocksOperator.Controllers.RecordedMasters
