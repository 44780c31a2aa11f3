import KvrocksOperator.Cluster.Phases

/-!
# Claims of removed pods

`cleanPersistentVolumeClaim` takes shard and ordinal from the name of a claim, and deletes the claim unless the matrix
has the pod.  It does not look into the matrix for a shard whose index is not below `Spec.Master`.  As long as such
shards are gone from the matrix this makes no difference, but `ensureShrink` does nothing while `Status.Rebalance` is
set: then the claims of live pods are deleted.
-/

namespace KvrocksOperator.Cluster.Claims

open Interaction Resources

/-- A claim of the pod of a shard. -/
structure Claim where
  instanceName : String
  shard : ℕ
  ordinal : ℕ
  deriving DecidableEq

/-- Both numbers are machine integers. -/
def Claim.Valid (claim : Claim) : Prop := claim.shard < 2 ^ 63 ∧ claim.ordinal < 2 ^ 63

instance (claim : Claim) : Decidable claim.Valid := inferInstanceAs (Decidable (_ ∧ _))

def Claim.key (ns : String) (claim : Claim) : NamespacedName :=
  ⟨ns, "data-" ++ podName (getStatefulSetName claim.instanceName claim.shard) claim.ordinal⟩

/-- Whether the matrix has the pod of the claim. -/
def Claim.live (h : Handler) (claim : Claim) : Bool :=
  (h.stsNodes.getD claim.shard []).any fun node ↦ node.podIndex == claim.ordinal

theorem split_key (ns : String) (claim : Claim) : Text.split '-' (claim.key ns).name =
      Text.split '-' ("data-" ++ claim.instanceName) ++ [Text.itoa claim.shard] ++ [Text.itoa claim.ordinal] := by
  have hshard : '-' ∉ (Text.itoa claim.shard).toList := Text.not_mem_itoa (by decide) claim.shard
  have hordinal : '-' ∉ (Text.itoa claim.ordinal).toList := Text.not_mem_itoa (by decide) claim.ordinal
  rw [← Text.split_append_last _ hshard, ← Text.split_append_last _ hordinal]
  simp [Claim.key, podName, getStatefulSetName, String.append_assoc]

/-- The first node whose ordinal is not smaller has the ordinal if any node has. -/
theorem find_ordered {nodes : List Node} (h : (nodes.map (·.podIndex)).Pairwise (· ≤ ·)) (ordinal : ℕ) :
    (match nodes.find? fun node ↦ decide ((node.podIndex : ℤ) ≥ (ordinal : ℤ)) with
      | none => some true
      | some node => some (decide ((node.podIndex : ℤ) ≠ (ordinal : ℤ)))) =
      some (!nodes.any fun node ↦ node.podIndex == ordinal) := by
  induction nodes with
  | nil => rfl
  | cons node nodes ih =>
    rw [List.map_cons, List.pairwise_cons] at h
    rw [List.find?_cons, List.any_cons]
    rcases lt_trichotomy node.podIndex ordinal with hless | hsame | hgreater
    · rw [decide_eq_false (by omega), beq_eq_false_iff_ne.mpr hless.ne]
      exact ih h.2
    · simp [hsame]
    · have hlater : (nodes.any fun node ↦ node.podIndex == ordinal) = false := by
        rw [List.any_eq_false]
        intro other hother
        have hle := h.1 other.podIndex (List.mem_map_of_mem hother)
        simp only [beq_iff_eq]
        omega
      rw [decide_eq_true (by omega), hlater, beq_eq_false_iff_ne.mpr hgreater.ne']
      simp only [Bool.or_self, Bool.not_false, Option.some.injEq, decide_eq_true_eq]
      omega

/-- What the source decides for a claim. -/
theorem claimIsStale_eq {h : Handler} (hfits : Fits h) (ns : String) {claim : Claim} (hvalid : claim.Valid) :
    claimIsStale h (claim.key ns).name = some (decide (h.instance_.spec.master ≤ claim.shard) || !claim.live h) := by
  have hfields : (Text.split '-' (claim.key ns).name).reverse = Text.itoa claim.ordinal :: Text.itoa claim.shard ::
        (Text.split '-' ("data-" ++ claim.instanceName)).reverse := by
    rw [split_key, List.reverse_append, List.reverse_append]
    rfl
  unfold claimIsStale
  rw [hfields]
  simp only [Text.atoi_itoa hvalid.1, Text.atoi_itoa hvalid.2]
  by_cases hshard : h.instance_.spec.master ≤ claim.shard
  · rw [if_pos (by omega), decide_eq_true hshard, Bool.true_or]
  · have hbound : claim.shard < h.stsNodes.length := by
      have := hfits.1
      omega
    have hnodes : h.stsNodes[claim.shard]? = some h.stsNodes[claim.shard] := List.getElem?_eq_getElem hbound
    have hordered : Ordered (h.stsNodes[claim.shard].map (·.podIndex)) :=
      hfits.2 _ (List.mem_map_of_mem (List.getElem_mem hbound))
    rw [if_neg (by omega), Int.toNat_natCast, hnodes, decide_eq_false hshard, Bool.false_or, Claim.live,
      List.getD_eq_getElem?_getD, hnodes]
    exact find_ordered hordered.1 claim.ordinal

/-! ## The clean-up -/

/-- No call fails: these are the claims, and what is deleted is noted. -/
def serve (claims : List NamespacedName) : (request : Call) → List NamespacedName → request.Reply × List NamespacedName
  | .listPVC _ _, deleted => (.ok claims, deleted)
  | .deletePVC key, deleted => (.ok (), deleted ++ [key])
  | request, deleted => (request.failure, deleted)

/-- The claims that are deleted are exactly those without a pod in the matrix, and no index is out of range. -/
def Exact (h : Handler) : Prop :=
  ∀ claims : List Claim, (∀ claim ∈ claims, claim.Valid) →
    (cleanPersistentVolumeClaim.on h).run (serve (claims.map (·.key h.instance_.ns))) [] =
      ((.ok (), h), (claims.filter fun claim ↦ !claim.live h).map (·.key h.instance_.ns))

/-- The claims that the source deletes. -/
def stale (h : Handler) (claim : Claim) : Bool := decide (h.instance_.spec.master ≤ claim.shard) || !claim.live h

section Run

variable {h : Handler} {all : List NamespacedName} {ns : String}

theorem cleanClaim_ends (hfits : Fits h) {claim : Claim} (hvalid : claim.Valid) (deleted : List NamespacedName) :
    (cleanClaim h (claim.key ns)).Ends (.deterministic (serve all)) (fun _ ↦ False) (fun _ ↦ False)
      (fun _ final ↦ final = deleted ++ ([claim].filter (stale h)).map (·.key ns)) deleted := by
  unfold cleanClaim
  rw [claimIsStale_eq hfits ns hvalid]
  change (if stale h claim = true then K8s.deletePVC (claim.key ns) else pure () : Go Unit).Ends _ _ _ _ _
  by_cases hstale : stale h claim = true
  · rw [if_pos hstale, List.filter_cons_of_pos hstale]
    have hdeleted : (pure () : Go Unit).Ends (.deterministic (serve all)) (fun _ ↦ False) (fun _ ↦ False)
        (fun _ final ↦ final = deleted ++ [claim.key ns]) (deleted ++ [claim.key ns]) := ends_pure rfl
    exact Fallible.ends_lift_bind hdeleted
  · rw [if_neg hstale, List.filter_cons_of_neg hstale]
    exact ends_pure (by simp)

theorem cleanClaims_ends (hfits : Fits h) {claims : List Claim} (hvalid : ∀ claim ∈ claims, claim.Valid)
    (deleted : List NamespacedName) :
    (forEach (cleanClaim h) (claims.map (·.key ns)) : Go Unit).Ends (.deterministic (serve all)) (fun _ ↦ False)
      (fun _ ↦ False) (fun _ final ↦ final = deleted ++ (claims.filter (stale h)).map (·.key ns)) deleted := by
  induction claims generalizing deleted with
  | nil => exact ends_pure (by simp)
  | cons claim claims ih =>
    have hclaims := List.forall_mem_cons.mp hvalid
    have hsplit : deleted ++ ((claim :: claims).filter (stale h)).map (·.key ns) =
        deleted ++ ([claim].filter (stale h)).map (·.key ns) ++ (claims.filter (stale h)).map (·.key ns) := by
      rw [List.append_assoc, ← List.map_append, ← List.filter_append, List.singleton_append]
    rw [hsplit, List.map_cons, forEach_cons]
    exact Fallible.Ends.bind (cleanClaim_ends hfits hclaims.1 deleted) fun _ reached hreached ↦
      hreached ▸ ih hclaims.2 reached

/-- What is deleted. -/
theorem cleanPersistentVolumeClaim_run (hfits : Fits h) (hshrink : h.instance_.status.shrink = none)
    {claims : List Claim} (hvalid : ∀ claim ∈ claims, claim.Valid) :
    (cleanPersistentVolumeClaim.on h).run (serve (claims.map (·.key h.instance_.ns))) [] =
      ((.ok (), h), (claims.filter (stale h)).map (·.key h.instance_.ns)) := by
  have hmethod : cleanPersistentVolumeClaim.Ends (.deterministic (serve (claims.map (·.key h.instance_.ns))))
      (fun _ ↦ False) (fun _ ↦ False)
      (fun _ later final ↦ later = h ∧ final = (claims.filter (stale h)).map (·.key h.instance_.ns)) h [] := by
    apply ends_get_bind
    rw [hshrink]
    have hlist : (K8s.listPVC h.instance_.ns (selectorLabels h.instance_)).Ends
        (.deterministic (serve (claims.map (·.key h.instance_.ns)))) (fun _ ↦ False) (fun _ ↦ False)
        (fun found final ↦ found = claims.map (·.key h.instance_.ns) ∧ final = []) [] :=
      ends_attempt ⟨rfl, rfl⟩
    apply ends_lift_bind hlist
    rintro found _ ⟨rfl, rfl⟩
    exact Method.ends_lift ((cleanClaims_ends hfits hvalid []).mono (fun _ h ↦ h) (fun _ h ↦ h)
      fun _ _ hfinal ↦ ⟨rfl, hfinal⟩)
  change Outcome.Ends _ _ _ ((cleanPersistentVolumeClaim.on h).run _ []).1.1 at hmethod
  generalize (cleanPersistentVolumeClaim.on h).run (serve (claims.map (·.key h.instance_.ns))) [] = result at hmethod ⊢
  obtain ⟨⟨outcome, later⟩, final⟩ := result
  cases outcome with
  | ok _ => exact Prod.ext (Prod.ext rfl hmethod.1) hmethod.2
  | err error => exact hmethod.elim
  | panic => exact hmethod.elim

end Run

/-- For every handler with which `Handle` reaches the clean-up without a shrink message: the clean-up is exact exactly
if no shard beyond `Spec.Master` has a pod. -/
theorem cleanPersistentVolumeClaim_exact_iff (h : Handler) (hreached : Reached h)
    (hshrink : h.instance_.status.shrink = none) :
    Exact h ↔ ∀ shard < 2 ^ 63, h.instance_.spec.master ≤ shard → h.stsNodes.getD shard [] = [] := by
  have hfits := hreached.fits
  constructor
  · intro hexact shard hshard hmaster
    by_contra hne
    obtain ⟨node, hnode⟩ := List.exists_mem_of_ne_nil _ hne
    have hbound : shard < h.stsNodes.length := by
      by_contra hlarge
      rw [List.getD_eq_default _ _ (not_lt.mp hlarge)] at hnode
      cases hnode
    have hordinal : node.podIndex < 2 ^ 63 := by
      rw [List.getD_eq_getElem _ _ hbound] at hnode
      have hordered : Ordered (h.stsNodes[shard].map (·.podIndex)) :=
        hfits.2 _ (List.mem_map_of_mem (List.getElem_mem hbound))
      exact hordered.2 node.podIndex (List.mem_map_of_mem hnode)
    have hvalid : ∀ claim ∈ [(⟨"", shard, node.podIndex⟩ : Claim)], claim.Valid := by
      simpa [Claim.Valid] using ⟨hshard, hordinal⟩
    have hlive : Claim.live h ⟨"", shard, node.podIndex⟩ = true :=
      List.any_eq_true.mpr ⟨node, hnode, beq_self_eq_true _⟩
    have hrun := hexact _ hvalid
    rw [cleanPersistentVolumeClaim_run hfits hshrink hvalid] at hrun
    simp [stale, hmaster, hlive] at hrun
  · intro hempty claims hvalid
    rw [cleanPersistentVolumeClaim_run hfits hshrink hvalid]
    congr 2
    apply List.filter_congr
    intro claim hclaim
    by_cases hmaster : h.instance_.spec.master ≤ claim.shard
    · have hnone : claim.live h = false := by
        rw [Claim.live, hempty claim.shard (hvalid claim hclaim).1 hmaster]
        rfl
      rw [stale, hnone, Bool.not_false, Bool.or_true]
    · rw [stale, decide_eq_false hmaster, Bool.false_or]

/-! ## A cluster of four shards -/

/-- A running instance of which the user wants so many shards. -/
def demo (master : ℕ) : KVRocks :=
  let created := KVRocks.created ⟨"default", "kvrocks-cluster-1-demo"⟩
    { image := "kvrocks:2.0", type := .cluster, kvrocksConfig := [], replicas := 1, master := master,
      password := "secret", resources := true }
  { created with
    finalizers := [kvrocksFinalizer]
    status := { created.status with status := .running, rebalance := true } }

/-- The StatefulSet of a key, which selects its pods by its name. -/
def demoSet (key : NamespacedName) : StatefulSet :=
  { ns := key.ns, name := key.name, matchLabels := [("sts", key.name)], replicas := 1, reserveOrdinals := []
    image := "kvrocks:2.0", exporterImage := exporterImage, readyReplicas := 1, resourceVersion := 0 }

/-- The only pod of a StatefulSet. -/
def demoPod (stsName : String) : Pod :=
  { ns := "default", name := stsName ++ "-0", ip := stsName, labels := [], deletionTimestamp := false }

/-- Four shards with one pod each, all calls succeed. -/
def answer (master : ℕ) : (request : Call) → request.Reply
  | .getKVRocks _ => .ok (demo master)
  | .updateKVRocks _ => .ok 0
  | .createObject _ _ => .ok ()
  | .createConfigMap _ => .ok ()
  | .updateConfigMap _ => .ok ()
  | .getConfigMap key => .ok { ns := key.ns, name := key.name, data := [("password", "secret")] }
  | .getWorkload _ _ => .ok { replicas := 1, readyReplicas := 1, matchLabels := [] }
  | .getService _ => .ok "10.96.0.1"
  | .getStatefulSet key => .ok (demoSet key)
  | .listStatefulSets _ _ => .ok ((List.range 4).map fun index ↦ demoSet (statefulSetKey (demo master) index))
  | .listPods _ labels => .ok [demoPod ((labels.lookup "sts").getD "")]
  | .getPod key => .ok { demoPod "" with name := key.name }
  | .updatePod _ => .ok ()
  | .node _ _ .ping => .ok ()
  | .http _ (.createNamespace _) => .ok ⟨statusCreated, .ok ""⟩
  | .http _ (.getNodes _ _ shard) =>
    .ok ⟨statusOK, .ok (some { nodes := [{ id := Text.itoa shard, role := .master
                                           addr := getStatefulSetName (demo master).name shard.toNat ++ ":6379" }]
                               slotRanges := [] })⟩
  | .http _ (.getShards _ _) => .ok ⟨statusOK, .ok (some (List.replicate 4 { nodes := [], slotRanges := [] }))⟩
  | request => request.failure

def answering (master : ℕ) (request : Call) (world : Unit) : request.Reply × Unit := (answer master request, world)

/-- How a pass gets to its last phase. -/
def demoRun (master : ℕ) : (Outcome GoError Bool × Handler) × Unit :=
  ((phasesBefore (pure true)).on (newKVRocksClusterHandler (demo master).key (demo master) Controller.newClient)).run
    (answering master) ()

/-- The handler at the last phase. -/
def demoHandler (master : ℕ) : Handler := (demoRun master).1.2

theorem reached_demoHandler {master : ℕ} (h : (demoRun master).1.1 = .ok true) : Reached (demoHandler master) := by
  have hanswers (request : Call) (world : Unit) :
      anyReply request world (answering master request world).1 (answering master request world).2 := trivial
  have hexec := exec_run hanswers ((phasesBefore (pure true)).on
    (newKVRocksClusterHandler (demo master).key (demo master) Controller.newClient)) ()
  have hresult : (demoRun master).1 = (.ok true, demoHandler master) := Prod.ext h rfl
  exact ⟨_, _, _, hresult ▸ hexec⟩

/-- With four shards wanted the clean-up is exact. -/
theorem four_shards_exact : Exact (demoHandler 4) := by
  have hdemo : (demoRun 4).1.1 = .ok true ∧ (demoHandler 4).instance_.status.shrink = none ∧
      (demoHandler 4).stsNodes.length = 4 ∧ (demoHandler 4).instance_.spec.master = 4 := by decide +kernel
  obtain ⟨hrun, hshrink, hlength, hmaster⟩ := hdemo
  have hiff := cleanPersistentVolumeClaim_exact_iff (demoHandler 4) (reached_demoHandler hrun) hshrink
  exact hiff.mpr fun shard _ hshard ↦ List.getD_eq_default _ _ (by omega)

/-- The user lowers the number of shards to three while `Status.Rebalance` is set: the claim of the pod of the fourth
shard, which is still there, is deleted. -/
theorem live_claim_deleted : Reached (demoHandler 3) ∧ (demoHandler 3).instance_.status.shrink = none ∧
      Claim.live (demoHandler 3) ⟨"kvrocks-cluster-1-demo", 3, 0⟩ = true ∧
      ((cleanPersistentVolumeClaim.on (demoHandler 3)).run
        (serve [⟨"default", "data-kvrocks-cluster-1-demo-3-0"⟩]) []).2 =
        [⟨"default", "data-kvrocks-cluster-1-demo-3-0"⟩] := by
  have hdemo : (demoRun 3).1.1 = .ok true ∧ (demoHandler 3).instance_.status.shrink = none ∧
      Claim.live (demoHandler 3) ⟨"kvrocks-cluster-1-demo", 3, 0⟩ = true ∧
      ((cleanPersistentVolumeClaim.on (demoHandler 3)).run
        (serve [⟨"default", "data-kvrocks-cluster-1-demo-3-0"⟩]) []).2 =
        [⟨"default", "data-kvrocks-cluster-1-demo-3-0"⟩] := by decide +kernel
  exact ⟨reached_demoHandler hdemo.1, hdemo.2⟩

end KvrocksOperator.Cluster.Claims
