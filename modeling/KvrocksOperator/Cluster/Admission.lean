import KvrocksOperator.Cluster.Election
import KvrocksOperator.Cluster.Phases

/-!
# Specifications that are accepted and nodes that are not there

`initCluster` and `ensureReplication` take the first node of every shard.  `ValidateKVRocks` looks at the number of
masters of a cluster instance and not at its replicas, so that the first node exists only if the user has not asked
for shards without nodes.
-/

namespace KvrocksOperator.Cluster

open Interaction Resources

namespace Admission

/-! ## Listings -/

/-- Every StatefulSet has so many ready pods, and a listing of its pods finds as many; nothing is said of the other
replies. -/
def listing (replicas : ℤ) : Program.Answers operator Unit
  | .getStatefulSet _, _, reply, _ => ∀ sts, reply = .ok sts → sts.readyReplicas = replicas
  | .listPods _ _, _, reply, _ => ∀ pods, reply = .ok pods → (pods.length : ℤ) = replicas
  | _, _, _, _ => True

/-- Every shard has so many nodes. -/
def Filled (replicas : ℤ) (matrix : Matrix) : Prop := ∀ nodes ∈ matrix, (nodes.length : ℤ) = replicas

section Listing

variable {replicas : ℤ}

theorem yields_any {α : Type} (function : Go α) :
    function.Yields (.sequential (listing replicas)) (fun _ ↦ True) (fun _ _ ↦ True) () := by
  apply (Program.ensures_true function.program ()).mono
  intro outcome _ _
  cases outcome <;> trivial

theorem length_podNodes {pods : List Pod} {nodes : List Node} (h : podNodes pods = .ok (some nodes)) :
    nodes.length = pods.length := by
  fun_induction podNodes pods generalizing nodes with
  | case1 =>
    cases h
    rfl
  | case4 pod pods _ _ _ rest hrest ih =>
    obtain rfl := Option.some.inj (Except.ok.inj h)
    rw [List.length_cons, List.length_cons, ih hrest]
  | _ => cases h

theorem initShardNodes_filled (instance_ : KVRocks) (index : ℕ) :
    (initShardNodes instance_ index).Yields (.sequential (listing replicas)) (fun _ ↦ True)
      (fun found _ ↦ ∀ nodes, found = some nodes → (nodes.length : ℤ) = replicas) () := by
  apply (yields_any (K8s.getStatefulSet _)).bind
  intro sts _ _
  split
  · exact ends_pure nofun
  · have hpods : (K8s.listStatefulSetPods (statefulSetKey instance_ index)).Yields (.sequential (listing replicas))
        (fun _ ↦ True) (fun pods _ ↦ (pods.length : ℤ) = replicas) () := by
      apply (yields_any (K8s.getStatefulSet _)).bind
      intro sts _ _
      apply ends_attempt
      intro reply _ hreply
      cases reply with
      | ok pods => exact hreply pods rfl
      | error error => trivial
    apply hpods.bind
    intro pods _ hcount
    cases hnodes : podNodes pods with
    | error error => exact ends_throw error trivial
    | ok nodes =>
      cases nodes with
      | none => exact ends_pure nofun
      | some nodes =>
        refine ends_pure fun found hfound ↦ ?_
        rw [← Option.some.inj hfound, sortNodes, List.length_insertionSort, length_podNodes hnodes]
        exact hcount

theorem initStsNodes_filled (instance_ : KVRocks) (indices : List ℕ) :
    (initStsNodes instance_ indices).Yields (.sequential (listing replicas)) (fun _ ↦ True)
      (fun found _ ↦ ∀ matrix, found = some matrix → Filled replicas matrix) () := by
  induction indices with
  | nil =>
    refine ends_pure fun matrix hmatrix ↦ ?_
    rw [← Option.some.inj hmatrix]
    exact nofun
  | cons index indices ih =>
    apply (initShardNodes_filled instance_ index).bind
    intro found _ hfound
    cases found with
    | none => exact ends_pure nofun
    | some nodes =>
      apply ih.bind
      intro rest _ hrest
      cases rest with
      | none => exact ends_pure nofun
      | some shards =>
        refine ends_pure fun matrix hmatrix ↦ ?_
        rw [← Option.some.inj hmatrix]
        exact List.forall_mem_cons.mpr ⟨hfound nodes rfl, hrest shards rfl⟩

theorem filled_of_podOrdinals {matrix fixed : Matrix}
    (hsame : podOrdinals fixed = podOrdinals matrix) (h : Filled replicas matrix) : Filled replicas fixed := by
  have hlengths (matrix : Matrix) :
      Filled replicas matrix ↔ ∀ ordinals ∈ podOrdinals matrix, (ordinals.length : ℤ) = replicas := by
    simp [Filled, podOrdinals]
  rwa [hlengths, hsame, ← hlengths]

/-- Unless it asks for a requeue, `ensureKubernetes` leaves a matrix with as many nodes as were listed. -/
theorem ensureKubernetes_filled (h : Handler) : ensureKubernetes.Yields (.sequential (listing replicas)) (fun _ ↦ True)
      (fun _ later _ ↦ later.requeue = false → Filled replicas later.stsNodes) h () := by
  have hlist : (K8s.listStatefulSets h.instance_.ns (selectorLabels h.instance_)).Yields
      (.sequential (listing replicas)) (fun _ ↦ True) (fun _ _ ↦ True) () := yields_any _
  apply (@ensureKubernetes_restores _ _ (fun _ ↦ True) _ (free_sequential _) h (fun _ ↦ hlist)
    (fun count _ _ ↦ initStsNodes_filled h.instance_ (List.range count)) ()).imp
  intro _ later _ hlater hrequeue
  obtain ⟨count, matrix, -, hfilled, hfixed, -⟩ := hlater hrequeue
  exact filled_of_podOrdinals (restoreTopo_podOrdinals hfixed) hfilled

end Listing

/-! ## Panics -/

/-- Whatever the replies are, the method does not panic. -/
def NeverPanics (method : HandlerM Unit) (h : Handler) : Prop :=
  method.Ends (.arbitrary fun _ ↦ True) (fun _ ↦ True) (fun _ ↦ False) (fun _ _ _ ↦ True) h ()

theorem labelNode_calm (instance_ : KVRocks) (partition : ℕ) (node : Node) :
    Calm [.getPod, .updatePod] True (labelNode instance_ partition node) := by
  have hread : Calm [.getPod, .updatePod] True (K8s.getPod (podKey instance_ partition node)) :=
    calm_attempt (all_ask (by simp [Call.kind]))
  have hlabel : Calm [.getPod, .updatePod] True (updatePodLabels (podKey instance_ partition node) node.role) := by
    apply hread.bind
    intro pod
    split
    · exact calm_attempt (all_ask (by simp [Call.kind]))
    · exact calm_pure ()
  exact hlabel.bind fun _ ↦ calm_pure node

theorem ends_labelNodes (instance_ : KVRocks) (partition : ℕ) (image : Node → Node) (nodes : List Node) :
    (mapEach (fun node ↦ labelNode instance_ partition (image node)) nodes).Ends (.arbitrary fun _ ↦ True)
      (fun _ ↦ True) (fun _ ↦ False) (fun _ _ ↦ True) () := by
  refine ends_mapEach_const (fun _ ↦ True) trivial fun node _ _ _ ↦ ?_
  exact Program.All.mono (labelNode_calm instance_ partition (image node)) (fun _ _ ↦ trivial) fun _ h ↦ h

/-- `initCluster` panics just if a shard has no node. -/
theorem initCluster_neverPanics_iff (h : Handler) : NeverPanics initCluster h ↔ [] ∉ h.stsNodes := by
  constructor
  · intro hcalm hempty
    have hpanic : initCluster.on h = .done (.panic, h) := by
      change (if [] ∈ h.stsNodes then _ else _ : HandlerM Unit).on h = _
      rw [if_pos hempty]
      rfl
    rw [NeverPanics, Method.Ends, hpanic] at hcalm
    exact hcalm
  · intro hfilled
    apply ends_get_bind
    rw [if_neg hfilled]
    have hloop : (mapEach (fun shard : List Node × ℕ ↦
        mapEach (labelNode h.instance_ shard.2) (initRoles shard.1)) h.stsNodes.zipIdx).Ends (.arbitrary fun _ ↦ True)
        (fun _ ↦ True) (fun _ ↦ False) (fun _ _ ↦ True) () :=
      ends_mapEach_const (fun _ ↦ True) trivial
        fun shard _ _ _ ↦ ends_labelNodes h.instance_ shard.2 id (initRoles shard.1)
    apply ends_lift_bind hloop
    exact fun _ _ _ ↦ ends_modify trivial

theorem ensureReplication_neverPanics {h : Handler} (hfilled : [] ∉ h.stsNodes) : NeverPanics ensureReplication h := by
  apply ends_get_bind
  have hloop : (mapEach (fun (nodes, partition) ↦ replicateShard h.instance_ partition nodes) h.stsNodes.zipIdx).Ends
      (.arbitrary fun _ ↦ True) (fun _ ↦ True) (fun _ ↦ False) (fun _ _ ↦ True) () := by
    refine ends_mapEach_const (fun _ ↦ True) trivial fun shard hshard _ _ ↦ ?_
    have hne : shard.1 ≠ [] := by
      intro hnil
      exact hfilled (hnil ▸ List.fst_mem_of_mem_zipIdx hshard)
    change (replicateShard h.instance_ shard.2 shard.1).Ends _ _ _ _ _
    rw [Agreement.replicateShard_eq h.instance_ shard.2 hne]
    exact ends_labelNodes h.instance_ shard.2 _ _
  apply ends_lift_bind hloop
  exact fun _ _ _ ↦ ends_modify trivial

/-- On every matrix that `ensureKubernetes` builds from a listing with the wanted number of pods, `initCluster` and
`ensureReplication` find the nodes that they index. -/
def CrashFree (h : Handler) : Prop :=
  ∀ later, Exec (listing h.instance_.spec.replicas) (ensureKubernetes.on h) () (.ok (), later) () →
    later.requeue = false → NeverPanics initCluster later ∧ NeverPanics ensureReplication later

theorem crashFree_of_replicas {h : Handler} (hreplicas : h.instance_.spec.replicas ≠ 0) : CrashFree h := by
  intro later hexec hrequeue
  have hcount : Filled h.instance_.spec.replicas later.stsNodes := (ensureKubernetes_filled h).exec hexec hrequeue
  have hfilled : [] ∉ later.stsNodes := fun hempty ↦ hreplicas (hcount [] hempty).symm
  exact ⟨(initCluster_neverPanics_iff later).mpr hfilled, ensureReplication_neverPanics hfilled⟩

/-! ## Shards without nodes -/

/-- The API server of an instance whose StatefulSets exist and have no pods. -/
def serve (instance_ : KVRocks) : (request : Call) → Unit → request.Reply × Unit
  | .getStatefulSet _, _ => (.ok (newClusterStatefulSet instance_ 0), ())
  | .listStatefulSets _ _, _ => (.ok (List.replicate instance_.spec.master (newClusterStatefulSet instance_ 0)), ())
  | .listPods _ _, _ => (.ok [], ())
  | .getConfigMap _, _ => (.ok (newKVRocksConfigMap instance_), ())
  | .getKVRocks _, _ => (.ok instance_, ())
  | .createConfigMap _, _ => (.ok (), ())
  | .createObject _ _, _ => (.ok (), ())
  | request, _ => (request.failure, ())

section Empty

variable {instance_ : KVRocks}

theorem serve_listing (request : Call) (world : Unit) :
    listing 0 request world (serve instance_ request world).1 (serve instance_ request world).2 := by
  cases request with
  | getStatefulSet key =>
    intro sts hsts
    rw [← Except.ok.inj hsts]
    rfl
  | listPods ns labels =>
    intro pods hpods
    rw [← Except.ok.inj hpods]
    rfl
  | _ => trivial

/-- Nothing has to be created or updated. -/
theorem createStatefulSetOrUpdateImage_served (index : ℕ) :
    (K8s.createStatefulSetOrUpdateImage (newClusterStatefulSet instance_ index)).Yields
      (.deterministic (serve instance_)) (fun _ ↦ False) (fun _ _ ↦ True) () := by
  have hsame : (newClusterStatefulSet instance_ 0).image = (newClusterStatefulSet instance_ index).image ∧
      (newClusterStatefulSet instance_ 0).exporterImage = (newClusterStatefulSet instance_ index).exporterImage :=
    ⟨rfl, rfl⟩
  apply Fallible.ends_lift_bind
  rw [Meaning.deterministic_perform]
  change (if _ then _ else _ : Go Unit).Ends _ _ _ _ _
  rw [if_pos hsame]
  exact ends_pure trivial

theorem scaleUp_served (index : ℕ) :
    (scaleUp instance_ index).Yields (.deterministic (serve instance_)) (fun _ ↦ False) (fun _ _ ↦ True) () := by
  have hread : (K8s.getStatefulSet ⟨instance_.ns, (newClusterStatefulSet instance_ index).name⟩).Yields
      (.deterministic (serve instance_)) (fun _ ↦ False)
      (fun sts _ ↦ sts = newClusterStatefulSet instance_ 0) () := ends_attempt rfl
  apply hread.bind
  intro sts _ hsts
  have hsame : (newClusterStatefulSet instance_ index).replicas - sts.replicas = 0 := by
    rw [hsts]
    exact Int.sub_self _
  have hdelta : ¬ K8s.replicasDelta (newClusterStatefulSet instance_ index) sts > 0 := by
    rw [K8s.replicasDelta_of_le (by rw [hsame]; decide), hsame]
    decide
  simp only
  rw [if_neg hdelta]
  exact ends_pure trivial

variable (hreplicas : instance_.spec.replicas = 0)

include hreplicas

/-- A shard without nodes is ready. -/
theorem initShardNodes_served (index : ℕ) :
    (initShardNodes instance_ index).Yields (.deterministic (serve instance_)) (fun _ ↦ False)
      (fun found _ ↦ found = some []) () := by
  have hread : (K8s.getStatefulSet (statefulSetKey instance_ index)).Yields (.deterministic (serve instance_))
      (fun _ ↦ False) (fun sts _ ↦ sts = newClusterStatefulSet instance_ 0) () := ends_attempt rfl
  have hlist : (K8s.listStatefulSetPods (statefulSetKey instance_ index)).Yields (.deterministic (serve instance_))
      (fun _ ↦ False) (fun pods _ ↦ pods = []) () := by
    apply hread.bind
    intro sts _ _
    exact ends_attempt rfl
  apply hread.bind
  intro sts _ hsts
  rw [if_neg (by rw [hsts]; exact not_not.mpr hreplicas.symm)]
  apply hlist.bind
  intro pods _ hpods
  rw [hpods]
  exact ends_pure rfl

theorem initStsNodes_served (indices : List ℕ) :
    (initStsNodes instance_ indices).Yields (.deterministic (serve instance_)) (fun _ ↦ False)
      (fun found _ ↦ found = some (List.replicate indices.length [])) () := by
  induction indices with
  | nil => exact ends_pure rfl
  | cons index indices ih =>
    apply (initShardNodes_served hreplicas index).bind
    intro found _ hfound
    rw [hfound]
    apply ih.bind
    intro rest _ hrest
    rw [hrest]
    exact ends_pure rfl

/-- `ensureKubernetes` is content with shards that have no nodes. -/
theorem ensureKubernetes_served (htopo : instance_.status.topo = []) (key : NamespacedName)
    (client : Controller.Client) :
    ensureKubernetes.Yields (.deterministic (serve instance_)) (fun _ ↦ False)
      (fun _ later _ ↦ later.requeue = false ∧ later.stsNodes = List.replicate instance_.spec.master [])
      (newKVRocksClusterHandler key instance_ client) () := by
  have hconfig : (K8s.createIfNotExistsConfigMap (newKVRocksConfigMap instance_)).Yields
      (.deterministic (serve instance_)) (fun _ ↦ False) (fun _ _ ↦ True) () := Fallible.ends_lift_bind trivial
  have hservice : (K8s.createIfNotExistsObject .service instance_.key).Yields
      (.deterministic (serve instance_)) (fun _ ↦ False) (fun _ _ ↦ True) () := Fallible.ends_lift_bind trivial
  have hread : (K8s.getConfigMap key).handle.Yields (.deterministic (serve instance_)) (fun _ ↦ False)
      (fun found _ ↦ found = .ok (newKVRocksConfigMap instance_)) () :=
    yields_handle (ends_attempt rfl)
  have hcreate : (forEach (fun index ↦ K8s.createStatefulSetOrUpdateImage (newClusterStatefulSet instance_ index))
      (List.range instance_.spec.master)).Yields (.deterministic (serve instance_)) (fun _ ↦ False)
      (fun _ _ ↦ True) () :=
    ends_forEach_const (fun _ ↦ True) trivial fun index _ _ _ ↦ createStatefulSetOrUpdateImage_served index
  have hlist : (K8s.listStatefulSets instance_.ns (selectorLabels instance_)).Yields (.deterministic (serve instance_))
      (fun _ ↦ False) (fun found _ ↦ found.length = instance_.spec.master) () :=
    ends_attempt List.length_replicate
  have hinstance : (K8s.getKVRocks key).Yields (.deterministic (serve instance_)) (fun _ ↦ False)
      (fun found _ ↦ found = instance_) () := ends_attempt rfl
  apply ends_get_bind
  apply ends_lift_bind hconfig
  intro _ _ _
  apply ends_lift_bind hservice
  intro _ _ _
  apply ends_lift_bind hread
  intro oldCM _ holdCM
  rw [holdCM]
  apply ends_modify_bind
  apply ends_get_bind
  apply ends_lift_bind hcreate
  intro _ _ _
  apply ends_lift_bind hlist
  intro curStsList _ hcount
  rw [if_neg (by rw [hcount]; exact lt_irrefl _)]
  have hscale : (forEach (scaleUp instance_) (List.range curStsList.length)).Yields (.deterministic (serve instance_))
      (fun _ ↦ False) (fun _ _ ↦ True) () :=
    ends_forEach_const (fun _ ↦ True) trivial fun index _ _ _ ↦ scaleUp_served index
  apply ends_lift_bind hscale
  intro _ _ _
  apply ends_lift_bind (initStsNodes_served hreplicas _)
  intro found _ hfound
  rw [hfound, List.length_range, hcount]
  apply ends_get_bind
  apply ends_lift_bind hinstance
  intro curInstance _ hcurrent
  rw [if_neg (by rw [hcurrent]; exact not_not.mpr rfl)]
  have hrestore : restoreTopo instance_.status.topo (List.replicate instance_.spec.master []) =
      some (List.replicate instance_.spec.master []) := by
    rw [htopo]
    rfl
  have hfixed : (Fallible.ofOption (restoreTopo instance_.status.topo (List.replicate instance_.spec.master [])) :
      Go _).Yields (.deterministic (serve instance_)) (fun _ ↦ False)
      (fun fixed _ ↦ fixed = List.replicate instance_.spec.master []) () := by
    rw [hrestore]
    exact ends_pure rfl
  apply ends_lift_bind hfixed
  intro fixed _ hfixed
  exact ends_modify ⟨rfl, hfixed⟩

/-- Some execution of `ensureKubernetes` leaves a shard without nodes. -/
theorem exists_empty_shard (hmaster : instance_.spec.master ≠ 0) (htopo : instance_.status.topo = [])
    (key : NamespacedName) (client : Controller.Client) :
    ∃ later, Exec (listing 0) (ensureKubernetes.on (newKVRocksClusterHandler key instance_ client)) ()
      (.ok (), later) () ∧ later.requeue = false ∧ [] ∈ later.stsNodes := by
  have hexec := exec_run (@serve_listing instance_)
    (ensureKubernetes.on (newKVRocksClusterHandler key instance_ client)) ()
  generalize hrun : (ensureKubernetes.on (newKVRocksClusterHandler key instance_ client)).run (serve instance_) () =
    result at hexec
  have hserved : result.1.1.Ends False False fun _ ↦ result.1.2.requeue = false ∧
      result.1.2.stsNodes = List.replicate instance_.spec.master [] := by
    rw [← hrun]
    exact ensureKubernetes_served hreplicas htopo key client
  match result with
  | ((.ok value, later), world) =>
    refine ⟨later, hexec, hserved.1, ?_⟩
    rw [hserved.2]
    exact List.mem_replicate.mpr ⟨hmaster, rfl⟩
  | ((.err error, later), world) => exact hserved.elim
  | ((.panic, later), world) => exact hserved.elim

end Empty

/-- The replicas of a cluster instance do not matter to `ValidateKVRocks`.  An accepted instance has replicas and safe
passes over its nodes just if the number of replicas is positive, and safe passes alone just if it is not zero. -/
theorem accepted_crashFree_iff {instance_ : KVRocks} (htype : instance_.spec.type = .cluster)
    (haccepted : validateKVRocks instance_ = none) :
    (∀ replicas, validateKVRocks { instance_ with spec := { instance_.spec with replicas := replicas } } = none) ∧
      ((∀ h : Handler, h.instance_.spec = instance_.spec → CrashFree h) ∧ 0 < instance_.spec.replicas ↔
        0 < instance_.spec.replicas) ∧
      ((∀ h : Handler, h.instance_.spec = instance_.spec → CrashFree h) ↔ instance_.spec.replicas ≠ 0) := by
  have hsafe (hreplicas : instance_.spec.replicas ≠ 0) (h : Handler) (hspec : h.instance_.spec = instance_.spec) :
      CrashFree h := by
    rw [← hspec] at hreplicas
    exact crashFree_of_replicas hreplicas
  refine ⟨fun replicas ↦ ?_, ⟨And.right, fun hpos ↦ ⟨hsafe hpos.ne', hpos⟩⟩, fun hfree hzero ↦ ?_, hsafe⟩
  · simpa [validateKVRocks, htype] using haccepted
  · have hmaster : instance_.spec.master ≠ 0 := by
      simp only [validateKVRocks, htype] at haccepted
      split_ifs at haccepted
      omega
    have hempty := @exists_empty_shard (KVRocks.created instance_.key instance_.spec) hzero hmaster rfl
      instance_.key Controller.newClient
    obtain ⟨later, hexec, hrequeue, hshard⟩ := hempty
    have hlisted := hfree (newKVRocksClusterHandler instance_.key (KVRocks.created instance_.key instance_.spec)
      Controller.newClient) rfl later
    rw [show (newKVRocksClusterHandler instance_.key (KVRocks.created instance_.key instance_.spec)
      Controller.newClient).instance_.spec.replicas = 0 from hzero] at hlisted
    exact (initCluster_neverPanics_iff later).mp (hlisted hexec hrequeue).1 hshard

/-- A cluster instance with three masters. -/
def clusterOf (replicas : ℤ) : KVRocks :=
  KVRocks.created ⟨"default", "kvrocks-cluster-1-demo"⟩
    { image := "", type := .cluster, kvrocksConfig := [], replicas := replicas, master := 3, password := "secret",
      resources := true }

/-- Two replicas are accepted and crash nothing. -/
theorem clusterOf_two_crashFree : validateKVRocks (clusterOf 2) = none ∧
      (∀ h : Handler, h.instance_.spec = (clusterOf 2).spec → CrashFree h) ∧ 0 < (clusterOf 2).spec.replicas :=
  ⟨by decide, (accepted_crashFree_iff (by decide : (clusterOf 2).spec.type = .cluster) (by decide)).2.1.mpr (by decide)⟩

/-- A cluster instance without replicas, and one with a negative number of them, are accepted; the pass over the first
one panics. -/
theorem clusterOf_zero_crashes : validateKVRocks (clusterOf 0) = none ∧ validateKVRocks (clusterOf (-1)) = none ∧
      ¬ CrashFree (newKVRocksClusterHandler (clusterOf 0).key (clusterOf 0) Controller.newClient) := by
  refine ⟨by decide, by decide, fun hfree ↦ ?_⟩
  obtain ⟨later, hexec, hrequeue, hshard⟩ :=
    @exists_empty_shard (clusterOf 0) rfl (by decide) rfl (clusterOf 0).key Controller.newClient
  exact (initCluster_neverPanics_iff later).mp (hfree later hexec hrequeue).1 hshard

end Admission

end KvrocksOperator.Cluster
