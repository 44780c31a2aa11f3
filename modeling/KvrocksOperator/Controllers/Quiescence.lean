import KvrocksOperator.Cluster.Rest
import KvrocksOperator.Controllers.Handlers

/-!
# Reconciling an instance at rest

`Reconcile` is called again and again for an instance.  Once a cluster instance is at rest, each call in which no
request fails finishes without asking to be called again, and the shards of the controllers, the labels of the pods,
the specification and the status of every custom resource, the StatefulSets and the claims stay what they are.
-/

namespace KvrocksOperator.Controllers

open Interaction Resources Cluster.Rest

/-- Nothing keeps `Reconcile` from handing a cluster instance to its handler as it is. -/
structure Admitted (object : KVRocks) : Prop where
  cluster : object.spec.type = .cluster
  alive : object.deletionTimestamp = false
  valid : validateKVRocks object = none
  labelled : (wantedLabels object).deepEqual object.labels = true

/-- The instance with this key is at rest. -/
structure Quiet (S : Setting) (matrix : Matrix) (key : NamespacedName) (object : KVRocks) (world : World) : Prop where
  admitted : Admitted (bare object)
  resting : Resting S (S.reach Controller.newClient object.ns).clusterKey matrix key object world

section Reconcile

variable {S : Setting} {matrix : Matrix} {key : NamespacedName} {object : KVRocks} {world : World}

theorem Quiet.of_content {stored : KVRocks} {final : World} (h : Quiet S matrix key object world)
    (hcontent : final.content = world.content)
    (hresting : Resting S (S.reach Controller.newClient object.ns).clusterKey matrix key stored final) :
    Quiet S matrix key stored final := by
  obtain ⟨found, hfound, hbare⟩ := exists_find_of_content hcontent h.resting.found
  obtain rfl : found = stored := Option.some.inj (hfound.symm.trans hresting.found)
  have hns : (bare found).ns = (bare object).ns := by rw [hbare]
  refine ⟨hbare ▸ h.admitted, ?_⟩
  rw [show found.ns = object.ns from hns]
  exact hresting

theorem clusterHandler_rests (h : Quiet S matrix key object world) :
    Rests S ((clusterHandler key).handle object) (fun result final ↦ result = (.ok true, false) ∧
      final.content = world.content ∧ ∃ stored, Quiet S matrix key stored final) world := by
  apply (handle_rests h.resting rfl).finish.bind
  intro result final hresult
  obtain ⟨result, later⟩ := result
  cases result with
  | error error => exact hresult.elim
  | ok finished =>
    obtain ⟨hfinished, hgoing, hcontent, stored, hstored⟩ := hresult
    refine ends_pure ⟨?_, hcontent, stored, h.of_content hcontent hstored⟩
    rw [hfinished, hgoing]

theorem runIfInitialize_rests (hlabelled : (wantedLabels object).deepEqual object.labels = true)
    (hrunning : object.status.status = .running) : Reads S (runIfInitialize object) object world := by
  unfold runIfInitialize
  rw [if_pos hlabelled]
  apply (ends_pure ⟨rfl, rfl⟩ : Reads S (pure object) object world).bind
  intro labelled final hlabelled
  rw [hlabelled.1]
  change Rests S (if object.status.status = .none then _ else pure object) _ _
  rw [if_neg (by rw [hrunning]; decide)]
  exact ends_pure ⟨rfl, hlabelled.2⟩

/-- A value that is returned is not an error. -/
theorem handle_reads {α : Type} {function : Go α} {value : α} (h : Reads S function value world) :
    Reads S function.handle (.ok value) world := by
  apply yields_handle
  apply h.mono fun _ hfalse ↦ hfalse.elim
  exact fun result final hresult ↦ ⟨congrArg _ hresult.1, hresult.2⟩

theorem reconcile_rests (h : Quiet S matrix key object world) :
    Rests S (reconcile (handlerOf key) key) (fun result final ↦ result = .finished ∧
      final.content = world.content ∧ ∃ stored, Quiet S matrix key stored final) world := by
  have hrunning : object.status.status = .running := h.resting.rested.running
  have htype : object.spec.type = .cluster := h.admitted.cluster
  have halive : object.deletionTimestamp = false := h.admitted.alive
  have hvalid : validateKVRocks object = none := h.admitted.valid
  have hlabelled : (wantedLabels object).deepEqual object.labels = true := h.admitted.labelled
  have hcheck : Reads S (checkSpecification object) true world := by
    unfold checkSpecification
    rw [hvalid]
    exact ends_pure ⟨rfl, rfl⟩
  apply (handle_reads (getKVRocks_rests h.resting.found)).bind
  rintro _ world ⟨rfl, rfl⟩
  change Rests S (if _ then _ else _) _ _
  rw [halive, htype, if_neg Bool.false_ne_true, if_neg (by rw [hrunning]; decide)]
  apply hcheck.bind
  rintro _ world ⟨rfl, rfl⟩
  rw [if_pos rfl]
  apply (handle_reads (runIfInitialize_rests hlabelled hrunning)).bind
  rintro _ world ⟨rfl, rfl⟩
  apply (clusterHandler_rests h).bind
  rintro _ final ⟨rfl, hfinal⟩
  exact ends_pure ⟨rfl, hfinal⟩

/-- One call of `Reconcile` in which no request fails. -/
def Reconciles (S : Setting) (key : NamespacedName) (world final : World) : Prop :=
  ∃ outcome, Exec (Reliable S) (reconcile (handlerOf key) key).program world outcome final

/-- However often `Reconcile` has been called for an instance at rest, nothing has changed, the next call returns, and
it asks for no further one. -/
theorem rest_is_kept {later : World} (h : Quiet S matrix key object world)
    (hruns : Relation.ReflTransGen (Reconciles S key) world later) :
    later.content = world.content ∧ (∃ final, Reconciles S key later final) ∧
      ∀ outcome final, Exec (Reliable S) (reconcile (handlerOf key) key).program later outcome final →
        outcome = .ok .finished ∧ final.content = world.content := by
  have hquiet : later.content = world.content ∧ ∃ stored, Quiet S matrix key stored later := by
    induction hruns with
    | refl => exact ⟨rfl, object, h⟩
    | tail _ hpass ih =>
      obtain ⟨hcontent, stored, hstored⟩ := ih
      obtain ⟨outcome, hexec⟩ := hpass
      have hends := (reconcile_rests hstored).exec hexec
      cases outcome with
      | ok result => exact ⟨hends.2.1.trans hcontent, hends.2.2⟩
      | err error => exact hends.elim
      | panic => exact hends.elim
  obtain ⟨hcontent, stored, hstored⟩ := hquiet
  refine ⟨hcontent, ?_, fun outcome final hexec ↦ ?_⟩
  · obtain ⟨outcome, final, hexec⟩ := exists_exec (reliable_total S) (reconcile (handlerOf key) key).program later
    exact ⟨final, outcome, hexec⟩
  · have hends := (reconcile_rests hstored).exec hexec
    cases outcome with
    | ok result => exact ⟨congrArg _ hends.1, hends.2.1.trans hcontent⟩
    | err error => exact hends.elim
    | panic => exact hends.elim

end Reconcile

/-! ## Three shards of one node -/

section Lone

/-- The controller's shard of an index, with one node. -/
def loneShard (index : ℕ) : ShardData :=
  ⟨[⟨"node-" ++ Text.itoa index, "10.0.0." ++ Text.itoa index ++ ":" ++ "6379", .master⟩], [Text.itoa index]⟩

/-- The node of its only pod, as a pass records it. -/
def loneNode (index : ℕ) : Node :=
  Cluster.identify (loneShard index) (.fresh ("10.0.0." ++ Text.itoa index) 0)

def loneMatrix : Matrix := (List.range 3).map fun index ↦ [loneNode index]

/-- An instance with three shards of one node each. -/
def loneInstance : KVRocks :=
  let created := KVRocks.created ⟨"default", "kvrocks-cluster-1-demo"⟩
    { image := "kvrocks:2.0", type := .cluster, kvrocksConfig := [], replicas := 1, master := 3,
      password := "secret", resources := true }
  { created with
    labels := selectorLabels created
    finalizers := [kvrocksFinalizer]
    status := { created.status with
      status := .running, topo := Cluster.statusTopo created.name (loneMatrix.map (·.map some)) } }

/-- Each StatefulSet has one pod. -/
def loneSetting : Setting where
  workload _ _ := { matchLabels := [], replicas := 1, readyReplicas := 1 }
  address _ := "10.0.1.1"
  pods ns selector := ((List.range 3).filter fun index ↦
    selector.lookup statefulSetLabel == some (getStatefulSetName loneInstance.name index)).map fun index ↦
      { ns := ns, name := podName (getStatefulSetName loneInstance.name index) 0, ip := "10.0.0." ++ Text.itoa index,
        labels := [], deletionTimestamp := false }

def loneWorld : World where
  store := { shards := fun _ ↦ (List.range 3).map loneShard, requests := [] }
  labels _ := [(kvrocksRole, "master")]
  instances := ⟨[loneInstance], List.nodup_singleton _⟩
  sets := ⟨(List.range 3).map fun index ↦ { newClusterStatefulSet loneInstance index with readyReplicas := 1 },
    by decide +kernel⟩
  claims := ⟨(List.range 3).map fun index ↦
    ⟨⟨"default", "data-" ++ podName (getStatefulSetName loneInstance.name index) 0⟩, loneInstance.labels⟩,
    by decide +kernel⟩

/-- What the phases look for in each shard. -/
theorem lone_checks : ∀ index < 3,
    (loneNode index).ip = "10.0.0." ++ Text.itoa index ∧ ':' ∉ (loneNode index).ip.toList ∧
      Cluster.shardIps (loneShard index) = [(loneNode index).ip] ∧
      Cluster.identify (loneShard index) (loneNode index) = loneNode index ∧
      Cluster.masterID (loneShard index).nodes ≠ "" ∧ (loneNode index).role = .master ∧ (loneNode index).migrate = [] ∧
      (∀ slot ∈ (loneNode index).slots, 0 ≤ slot ∧ slot ≤ Text.maxInt) ∧
      Cluster.podNodes (loneSetting.pods "default" (newClusterStatefulSet loneInstance index).matchLabels) =
        .ok (some [Cluster.stub (loneNode index)]) := by
  decide +kernel

theorem eq_of_getElem?_range {α : Type} {image : ℕ → α} {index : ℕ} {value : α}
    (h : ((List.range 3).map image)[index]? = some value) : index < 3 ∧ value = image index := by
  rw [List.getElem?_map, Option.map_eq_some_iff] at h
  obtain ⟨position, hposition, rfl⟩ := h
  obtain ⟨hlt, rfl⟩ := List.getElem?_eq_some_iff.mp hposition
  rw [List.length_range] at hlt
  exact ⟨hlt, by rw [List.getElem_range]⟩

theorem loneSets_find {index : ℕ} (h : index < 3) :
    loneWorld.sets.find (Cluster.statefulSetKey loneInstance index) =
      some { newClusterStatefulSet loneInstance index with readyReplicas := 1 } :=
  Table.find_eq_some_iff.mpr ⟨List.mem_map_of_mem (List.mem_range.mpr h), rfl⟩

theorem lone_provided :
    Provided loneSetting (bare loneInstance) loneWorld.sets (loneMatrix.map (·.map Cluster.stub)) where
  images index hindex := ⟨_, loneSets_find hindex, rfl, rfl⟩
  listed := by decide +kernel
  enough := by decide
  ready index nodes hnodes := by
    rw [loneMatrix, List.map_map] at hnodes
    obtain ⟨hindex, rfl⟩ := eq_of_getElem?_range hnodes
    obtain ⟨-, -, -, -, -, -, -, -, hpods⟩ := lone_checks index hindex
    exact ⟨_, _, loneSets_find hindex, le_rfl, rfl, hpods, rfl⟩

theorem lone_wellKept : Cluster.WellKept ((List.range 3).map loneShard) := by
  intro index shard hshard
  obtain ⟨hindex, rfl⟩ := eq_of_getElem?_range hshard
  obtain ⟨hip, hfree, -⟩ := lone_checks index hindex
  refine ⟨List.nodup_singleton _, fun node hnode ↦ ⟨_, hfree, "6379", ?_⟩⟩
  rw [List.mem_singleton.mp hnode, hip]

theorem loneWorld_quiet : Quiet loneSetting loneMatrix loneInstance.key loneInstance loneWorld where
  admitted := ⟨rfl, rfl, by decide, by decide⟩
  resting := {
    found := Table.find_eq_some_iff.mpr ⟨List.mem_singleton_self _, rfl⟩
    heard := by
      intro name hname
      have hnone : (bare loneInstance).labels.lookup monitoredBy = none := by decide
      rw [hnone] at hname
      cases hname
    rested := {
      up := ⟨rfl, rfl⟩
      running := rfl
      shrink := rfl
      provided := lone_provided
      inhabited := by decide
      filled := by decide
      topo := rfl
      legible := by
        simp only [loneMatrix, List.forall_mem_map, List.mem_range, List.forall_mem_singleton]
        intro index hindex
        obtain ⟨-, -, -, -, -, -, hmigrate, hslots, -⟩ := lone_checks index hindex
        exact ⟨hslots, by rw [hmigrate]; exact List.forall_mem_nil _⟩
      wellKept := lone_wellKept
      converged := by
        refine ⟨rfl, fun index shard nodes hshard hnodes ip ↦ ?_⟩
        rw [← Cluster.mem_shardIps_iff (lone_wellKept index shard hshard).2]
        obtain ⟨hindex, rfl⟩ := eq_of_getElem?_range hshard
        obtain ⟨-, rfl⟩ := eq_of_getElem?_range hnodes
        rw [(lone_checks index hindex).2.2.1]
        rfl
      agreed := by
        intro index nodes shard hnodes hshard
        obtain ⟨hindex, rfl⟩ := eq_of_getElem?_range hnodes
        obtain ⟨-, rfl⟩ := eq_of_getElem?_range hshard
        obtain ⟨-, -, hips, hidentified, hnamed, hrole, -⟩ := lone_checks index hindex
        constructor
        · exact ⟨⟨_, ⟨List.mem_singleton_self _, rfl⟩, fun _ hother ↦ List.mem_singleton.mp hother.1⟩,
            List.nodup_singleton _⟩
        · exact hnamed
        · intro ip
          rw [hips]
          rfl
        · exact List.forall_mem_singleton.mpr hidentified
        · intro node hnode
          rw [List.mem_singleton.mp hnode, hrole]
          rfl
      settled := by
        simp only [loneMatrix, List.forall_mem_map, List.mem_range, List.forall_mem_singleton]
        exact fun index hindex _ ↦ (lone_checks index hindex).2.2.2.2.2.2.1
      steady := .inr (by decide)
      finalizer := List.mem_singleton_self _
      swept := by decide +kernel } }

/-- Three shards of one node each stay as they are. -/
theorem rest_is_kept_lone : ∃ later final, Reconciles loneSetting loneInstance.key loneWorld later ∧
    Reconciles loneSetting loneInstance.key later final ∧ final.content = loneWorld.content := by
  obtain ⟨-, ⟨later, hfirst⟩, -⟩ := rest_is_kept loneWorld_quiet .refl
  obtain ⟨-, ⟨final, outcome, hsecond⟩, hkept⟩ := rest_is_kept loneWorld_quiet (.single hfirst)
  exact ⟨later, final, hfirst, ⟨outcome, hsecond⟩, (hkept outcome final hsecond).2⟩

end Lone

end KvrocksOperator.Controllers
