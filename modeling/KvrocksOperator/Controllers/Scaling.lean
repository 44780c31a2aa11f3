import KvrocksOperator.Client.StatefulSets
import KvrocksOperator.Cluster.Victims
import KvrocksOperator.Standard.Handler

/-!
# Scaling a StatefulSet

The paths on which both handlers write `Replicas` and `ReserveOrdinals`, apart from the shrinking of a cluster
instance.  Scaling up never removes a pod.  `CreateStatefulSetOrUpdateImage` and the scale-down of a standard instance
write a list of reserved ordinals that they build without looking at the one they replace, so they change which pods
there are as soon as earlier scalings have left a gap.
-/

namespace KvrocksOperator.Controllers.Scaling

open Interaction Resources

/-! ## Updating the image -/

/-- The update leaves the pods, the number of replicas and the reserved ordinals alone. -/
structure Unscaled (old new : StatefulSet) : Prop where
  ordinals : new.ordinals = old.ordinals
  replicas : old.replicas ≤ new.replicas
  reserveOrdinals : new.reserveOrdinals = old.reserveOrdinals

variable {crash : Sets → Prop}

section Image

variable {sets : Sets} {desired old : StatefulSet}

/-- When an image differs the whole object is written. -/
theorem createStatefulSetOrUpdateImage_ends (hold : sets desired.key = some old) (himage : old.image ≠ desired.image) :
    (K8s.createStatefulSetOrUpdateImage desired).Ends (.sequential Sets.Answers)
      (fun final ↦ final = sets ∨ Sets.Written desired sets final) crash
      (fun _ ↦ Sets.Written desired sets) sets := by
  unfold K8s.createStatefulSetOrUpdateImage
  apply Fallible.ends_lift_bind
  rintro reply later ⟨rfl, hfound, hmissing⟩
  match reply with
  | .error .notFound => cases hold.symm.trans (hmissing rfl)
  | .error .alreadyExists | .error .conflict | .error .forbidden | .error .invalid
  | .error (.other _) => exact ends_throw _ (.inl rfl)
  | .ok found =>
    obtain rfl : found = old := Option.some.inj ((hfound found rfl).symm.trans hold)
    change (if _ then pure () else _ : Go Unit).Ends _ _ _ _ _
    rw [if_neg fun hsame ↦ himage hsame.1]
    exact Sets.updateStatefulSet_ends

/-- A StatefulSet that exists can be read. -/
theorem getStatefulSet_reads {key : NamespacedName} (hold : sets key = some old) :
    Exec Sets.Answers (Fallible.lift (ask (.getStatefulSet key)) : Go (ApiResult StatefulSet)).program sets
      (.ok (.ok old)) sets := by
  refine Fallible.exec_lift_iff.mpr ⟨_, rfl, exec_perform_iff.mpr ⟨rfl, ?_, by simp⟩⟩
  intro found hfound
  cases hfound
  exact hold

/-- A StatefulSet that exists can be updated. -/
theorem updateStatefulSet_writes (hold : sets desired.key = some old)
    (hversion : old.resourceVersion = desired.resourceVersion) :
    Exec Sets.Answers (K8s.updateStatefulSet desired).program sets (.ok ())
      (sets.put { desired with resourceVersion := 0 }) :=
  exec_attempt_iff.mpr ⟨.ok (), rfl, exec_perform_iff.mpr (.inl ⟨old, hold, hversion, 0, rfl⟩)⟩

/-- The update can be carried out. -/
theorem createStatefulSetOrUpdateImage_writes (hold : sets desired.key = some old)
    (himage : old.image ≠ desired.image) :
    Exec Sets.Answers (K8s.createStatefulSetOrUpdateImage desired).program sets (.ok ())
      (sets.put { desired with resourceVersion := 0 }) := by
  unfold K8s.createStatefulSetOrUpdateImage
  refine exec_bind_ok_iff.mpr ⟨.ok old, sets, getStatefulSet_reads hold, ?_⟩
  simp only [himage, false_and, if_false]
  exact updateStatefulSet_writes hold rfl

/-- An image update of either kind of instance keeps the pods and what decides about them exactly if no ordinal is
reserved and the instance asks for the replicas that there are. -/
theorem updateImage_unscaled_iff (instance_ : KVRocks) (desired : StatefulSet)
    (hdesired : desired = newReplicationStatefulSet instance_ ∨
      ∃ index, desired = newClusterStatefulSet instance_ index)
    (sets : Sets) (old : StatefulSet) (hold : sets desired.key = some old)
    (himage : old.image ≠ instance_.spec.image) :
    (∀ outcome final, Exec Sets.Answers (K8s.createStatefulSetOrUpdateImage desired).program sets outcome final →
          ∃ new, final desired.key = some new ∧ Unscaled old new) ↔
      old.reserveOrdinals = [] ∧ old.replicas ≤ instance_.spec.replicas ∧
        instance_.spec.replicas.toNat = old.replicas.toNat := by
  obtain ⟨hreplicas, hreserve, himage'⟩ : desired.replicas = instance_.spec.replicas ∧
      desired.reserveOrdinals = [] ∧ desired.image = instance_.spec.image := by
    rcases hdesired with rfl | ⟨index, rfl⟩ <;> exact ⟨rfl, rfl, rfl⟩
  rw [← himage'] at himage
  constructor
  · intro hall
    obtain ⟨new, hnew, hunscaled⟩ := hall _ _ (createStatefulSetOrUpdateImage_writes hold himage)
    have hput : sets.put { desired with resourceVersion := 0 } desired.key =
        some { desired with resourceVersion := 0 } := Sets.put_self sets { desired with resourceVersion := 0 }
    obtain rfl : { desired with resourceVersion := 0 } = new := Option.some.inj (hput.symm.trans hnew)
    have hlength := congrArg List.length hunscaled.ordinals
    rw [StatefulSet.ordinals, StatefulSet.ordinals, Segments.smallest_length, Segments.smallest_length] at hlength
    exact ⟨hunscaled.reserveOrdinals.symm.trans hreserve, hreplicas ▸ hunscaled.replicas, hreplicas ▸ hlength⟩
  · rintro ⟨hnone, hle, hsame⟩ outcome final hexec
    have hprogram : (K8s.createStatefulSetOrUpdateImage desired).Ends (.sequential Sets.Answers) _
        (fun _ ↦ False) _ sets := createStatefulSetOrUpdateImage_ends hold himage
    have hends := hprogram.exec hexec
    have hwritten : final = sets ∨ Sets.Written desired sets final := by
      cases outcome with
      | ok _ => exact .inr hends
      | err _ => exact hends
      | panic => exact hends.elim
    rcases hwritten with rfl | hwritten
    · exact ⟨old, hold, rfl, le_rfl, rfl⟩
    · obtain ⟨number, hnew⟩ := hwritten.key_eq
      refine ⟨_, hnew, ?_, hreplicas ▸ hle, hreserve.trans hnone.symm⟩
      rw [StatefulSet.ordinals, StatefulSet.ordinals, hreplicas, hreserve, hnone, hsame]

/-- A standard instance with a number of replicas and an image. -/
def demo (replicas : ℤ) (image : String) : KVRocks :=
  KVRocks.created ⟨"default", "kvrocks-standard-1-demo"⟩
    { image := image, type := .standard, kvrocksConfig := [], replicas := replicas, master := 1,
      password := "password", resources := true }

/-- Its StatefulSet after scalings that have left some ordinals reserved. -/
def demoSet (replicas : ℤ) (reserveOrdinals : List ℕ) : StatefulSet :=
  { newReplicationStatefulSet (demo replicas "kvrocks:1") with reserveOrdinals := reserveOrdinals }

def demoSets (replicas : ℤ) (reserveOrdinals : List ℕ) : Sets := Sets.empty.put (demoSet replicas reserveOrdinals)

/-- Three pods get a new image and stay. -/
theorem image_of_three_unscaled : (demoSet 3 []).image ≠ "kvrocks:2" ∧ ∀ outcome final, Exec Sets.Answers
          (K8s.createStatefulSetOrUpdateImage (newReplicationStatefulSet (demo 3 "kvrocks:2"))).program
          (demoSets 3 []) outcome final →
        ∃ new, final (demoSet 3 []).key = some new ∧ Unscaled (demoSet 3 []) new :=
  ⟨by decide, (updateImage_unscaled_iff (demo 3 "kvrocks:2") (newReplicationStatefulSet (demo 3 "kvrocks:2"))
    (.inl rfl) (demoSets 3 []) (demoSet 3 []) rfl (by decide)).mpr ⟨rfl, by decide, rfl⟩⟩

/-- With ordinal 0 reserved, a new image replaces the pod with ordinal 2 by one with ordinal 0. -/
theorem image_moves_pods : ∃ final new, Exec Sets.Answers
          (K8s.createStatefulSetOrUpdateImage (newReplicationStatefulSet (demo 2 "kvrocks:2"))).program
          (demoSets 2 [0]) (.ok ()) final ∧
        final (demoSet 2 [0]).key = some new ∧ (demoSet 2 [0]).ordinals = [1, 2] ∧ new.ordinals = [0, 1] :=
  ⟨_, _, createStatefulSetOrUpdateImage_writes
    (rfl : demoSets 2 [0] (demoSet 2 [0]).key = some (demoSet 2 [0])) (by decide), rfl, by decide, by decide⟩

end Image

/-! ## Scaling up -/

/-- No pod is lost, and as many are added as there are new replicas. -/
structure Grown (old new : StatefulSet) (replicas : ℤ) : Prop where
  asked : new.replicas = replicas
  reserveOrdinals : new.reserveOrdinals =
    old.reserveOrdinals.drop (min (replicas - old.replicas).toNat old.reserveOrdinals.length)
  keeps : old.ordinals ⊆ new.ordinals
  adds : (new.ordinals.filter fun id ↦ decide (id ∉ old.ordinals)).length = (replicas - old.replicas).toNat

/-- The StatefulSet with this key has grown. -/
def GrownAt (key : NamespacedName) (old : StatefulSet) (replicas : ℤ) (sets : Sets) : Prop :=
  ∃ new, sets key = some new ∧ Grown old new replicas

section ScaleUp

variable {instance_ : KVRocks} {old : StatefulSet} {sets : Sets} {crash : Sets → Prop}

/-- Giving back one reserved ordinal for each new replica keeps all pods. -/
theorem grown_of_drop {new : StatefulSet} {replicas : ℤ} (hold : 0 ≤ old.replicas) (hmore : old.replicas < replicas)
    (hreplicas : new.replicas = replicas)
    (hreserve : new.reserveOrdinals = old.reserveOrdinals.drop (replicas - old.replicas).toNat) :
    Grown old new replicas := by
  have hsize : new.replicas.toNat = old.replicas.toNat + (replicas - old.replicas).toNat := by omega
  have hkeeps : old.ordinals ⊆ new.ordinals := by
    rw [StatefulSet.ordinals, StatefulSet.ordinals, hsize, hreserve]
    exact Segments.smallest_subset_drop _ _ _
  refine ⟨hreplicas, ?_, hkeeps, ?_⟩
  · rw [hreserve]
    rcases Nat.le_total (replicas - old.replicas).toNat old.reserveOrdinals.length with hle | hle
    · rw [Nat.min_eq_left hle]
    · rw [Nat.min_eq_right hle, List.drop_length, List.drop_of_length_le hle]
  · have hcount : (new.ordinals.filter fun id ↦ decide (id ∉ old.ordinals)).length =
        new.replicas.toNat - old.replicas.toNat := Segments.length_filter_not_mem_smallest hkeeps
    omega

/-- An update that grows the StatefulSet. -/
theorem updateStatefulSet_grows {sts : StatefulSet} (hold : 0 ≤ old.replicas) (hmore : old.replicas < sts.replicas)
    (hreserve : sts.reserveOrdinals = old.reserveOrdinals.drop (sts.replicas - old.replicas).toNat) :
    (K8s.updateStatefulSet sts).Ends (.sequential Sets.Answers)
      (fun final ↦ final = sets ∨ GrownAt sts.key old sts.replicas final) crash
      (fun _ ↦ GrownAt sts.key old sts.replicas) sets := by
  have hgrown {final : Sets} (hwritten : Sets.Written sts sets final) : GrownAt sts.key old sts.replicas final := by
    obtain ⟨number, hnew⟩ := hwritten.key_eq
    exact ⟨_, hnew, grown_of_drop hold hmore rfl hreserve⟩
  apply Sets.updateStatefulSet_ends.mono
  · exact fun final hfinal ↦ hfinal.imp_right hgrown
  · exact fun _ h ↦ h
  · exact fun _ final hfinal ↦ hgrown hfinal

/-- A difference that is positive is not out of range. -/
theorem replicasDelta_of_more (sts : StatefulSet) (hmore : old.replicas < sts.replicas) :
    K8s.replicasDelta sts old > 0 ∧ old.reserveOrdinals.drop (K8s.replicasDelta sts old).toNat =
      old.reserveOrdinals.drop (sts.replicas - old.replicas).toNat := by
  rw [K8s.replicasDelta_of_le (by omega)]
  exact ⟨Int.sub_pos_of_lt hmore, rfl⟩

/-- The shard of a cluster instance. -/
theorem clusterScaleUp_ends {index : ℕ} (hstored : sets (Cluster.statefulSetKey instance_ index) = some old)
    (hold : 0 ≤ old.replicas) (hmore : old.replicas < instance_.spec.replicas) :
    (Cluster.scaleUp instance_ index).Ends (.sequential Sets.Answers) (fun final ↦ final = sets ∨
        GrownAt (Cluster.statefulSetKey instance_ index) old instance_.spec.replicas final) crash
      (fun _ ↦ GrownAt (Cluster.statefulSetKey instance_ index) old instance_.spec.replicas) sets := by
  unfold Cluster.scaleUp
  have hread : (K8s.getStatefulSet (Cluster.statefulSetKey instance_ index)).Ends (.sequential Sets.Answers)
      (fun final ↦ final = sets ∨
        GrownAt (Cluster.statefulSetKey instance_ index) old instance_.spec.replicas final) crash
      (fun found final ↦ final = sets ∧ found = old) sets := by
    apply Sets.getStatefulSet_ends.mono
    · exact fun _ hsame ↦ .inl hsame
    · exact fun _ h ↦ h
    · exact fun found final hfound ↦ ⟨hfound.1, Option.some.inj (hfound.2.symm.trans hstored)⟩
  apply hread.bind
  rintro found later ⟨rfl, rfl⟩
  have hdelta := replicasDelta_of_more (newClusterStatefulSet instance_ index) hmore
  simp only [hdelta.1, if_true]
  exact updateStatefulSet_grows hold hmore hdelta.2

/-- The StatefulSet of a standard instance. -/
theorem standardScaleUp_ends (hold : 0 ≤ old.replicas) (hmore : old.replicas < instance_.spec.replicas) :
    (Standard.scaleUp (newReplicationStatefulSet instance_) old).Ends (.sequential Sets.Answers)
      (fun final ↦ final = sets ∨ GrownAt instance_.key old instance_.spec.replicas final) crash
      (fun _ ↦ GrownAt instance_.key old instance_.spec.replicas) sets := by
  have hdelta := replicasDelta_of_more (newReplicationStatefulSet instance_) hmore
  have hupdate : (K8s.updateStatefulSet (Standard.scaledUp old (newReplicationStatefulSet instance_))).Ends
      (.sequential Sets.Answers)
      (fun final ↦ final = sets ∨ GrownAt instance_.key old instance_.spec.replicas final) crash
      (fun _ ↦ GrownAt instance_.key old instance_.spec.replicas) sets :=
    updateStatefulSet_grows hold hmore hdelta.2
  rw [Standard.scaleUp, if_pos hdelta.1]
  exact hupdate.bind fun _ _ hnew ↦ ends_pure hnew

/-- The update can be carried out. -/
theorem standardScaleUp_writes (hstored : sets instance_.key = some old)
    (hmore : old.replicas < instance_.spec.replicas) :
    Exec Sets.Answers (Standard.scaleUp (newReplicationStatefulSet instance_) old).program sets
      (.ok (Standard.scaledUp old (newReplicationStatefulSet instance_)))
      (sets.put { Standard.scaledUp old (newReplicationStatefulSet instance_) with resourceVersion := 0 }) := by
  rw [Standard.scaleUp, if_pos (replicasDelta_of_more (newReplicationStatefulSet instance_) hmore).1]
  exact exec_bind_ok_iff.mpr ⟨(), _, updateStatefulSet_writes hstored rfl, exec_pure_iff.mpr ⟨rfl, rfl⟩⟩

/-- What the branch for more replicas leaves behind, unless nothing was written. -/
theorem scaleUp_grows (instance_ : KVRocks) (old : StatefulSet) (sets : Sets) (hold : 0 ≤ old.replicas)
    (hmore : old.replicas < instance_.spec.replicas) :
    (∀ index outcome final, sets (Cluster.statefulSetKey instance_ index) = some old →
      Exec Sets.Answers (Cluster.scaleUp instance_ index).program sets outcome final →
        (∃ error, outcome = .err error) ∧ final = sets ∨
          GrownAt (Cluster.statefulSetKey instance_ index) old instance_.spec.replicas final) ∧
    ∀ outcome final, Exec Sets.Answers (Standard.scaleUp (newReplicationStatefulSet instance_) old).program sets
          outcome final →
        (∃ error, outcome = .err error) ∧ final = sets ∨ GrownAt instance_.key old instance_.spec.replicas final := by
  constructor
  · intro index outcome final hstored hexec
    have hprogram : (Cluster.scaleUp instance_ index).Ends (.sequential Sets.Answers) _ (fun _ ↦ False) _
        sets := clusterScaleUp_ends hstored hold hmore
    have hends := hprogram.exec hexec
    cases outcome with
    | ok _ => exact .inr hends
    | err error => exact hends.imp_left fun hsame ↦ ⟨⟨error, rfl⟩, hsame⟩
    | panic => exact hends.elim
  · intro outcome final hexec
    have hprogram : (Standard.scaleUp (newReplicationStatefulSet instance_) old).Ends
        (.sequential Sets.Answers) _ (fun _ ↦ False) _ sets := standardScaleUp_ends hold hmore
    have hends := hprogram.exec hexec
    cases outcome with
    | ok _ => exact .inr hends
    | err error => exact hends.imp_left fun hsame ↦ ⟨⟨error, rfl⟩, hsame⟩
    | panic => exact hends.elim

/-- Ordinals 0 and 2 are reserved, the first twice: from three replicas to five. -/
theorem three_grow_to_five : (demoSet 3 [0, 0, 2]).replicas < 5 ∧ ∃ new final, Exec Sets.Answers
          (Standard.scaleUp (newReplicationStatefulSet (demo 5 "kvrocks:1")) (demoSet 3 [0, 0, 2])).program
          (demoSets 3 [0, 0, 2]) (.ok new) final ∧
        GrownAt (demo 5 "kvrocks:1").key (demoSet 3 [0, 0, 2]) 5 final := by
  have hstored : demoSets 3 [0, 0, 2] (demo 5 "kvrocks:1").key = some (demoSet 3 [0, 0, 2]) := rfl
  have hexec := standardScaleUp_writes hstored (by decide)
  refine ⟨by decide, _, _, hexec, ?_⟩
  rcases (scaleUp_grows (demo 5 "kvrocks:1") (demoSet 3 [0, 0, 2]) (demoSets 3 [0, 0, 2]) (by decide)
    (by decide)).2 _ _ hexec with ⟨⟨error, herror⟩, -⟩ | hgrown
  · cases herror
  · exact hgrown

end ScaleUp

/-! ## Scaling a standard instance down -/

section Resize

variable {h : Standard.KVRocksStandardHandler} {sets : Sets} {old : StatefulSet}

/-- How many slaves have to go. -/
def excess (h : Standard.KVRocksStandardHandler) : ℕ := (h.stsNodes.length - h.instance_.spec.replicas).toNat

/-- The StatefulSet that `resizeStatefulSet` writes. -/
def resized (h : Standard.KVRocksStandardHandler) : StatefulSet :=
  { newReplicationStatefulSet h.instance_ with
    reserveOrdinals := (Cluster.reserveLoop (excess h) 0 h.stsNodes.reverse).1.reverse.takeWhile
      fun id ↦ decide (id ≤ (Cluster.reserveLoop (excess h) 0 h.stsNodes.reverse).2) }

theorem createOrUpdateStatefulSet_ends {sts : StatefulSet} (hold : sets sts.key = some old) :
    (K8s.createOrUpdateStatefulSet sts).Ends (.sequential Sets.Answers)
      (fun final ↦ final = sets ∨ Sets.Written sts sets final) crash (fun _ ↦ Sets.Written sts sets) sets := by
  unfold K8s.createOrUpdateStatefulSet
  apply Fallible.ends_lift_bind
  rintro reply later ⟨rfl, -, hmissing⟩
  match reply with
  | .error .notFound => cases hold.symm.trans (hmissing rfl)
  | .error .alreadyExists | .error .conflict | .error .forbidden | .error .invalid
  | .error (.other _) => exact ends_throw _ (.inl rfl)
  | .ok found => exact Sets.updateStatefulSet_ends

theorem resizeStatefulSet_ends (hold : sets h.instance_.key = some old)
    (hexcess : h.instance_.spec.replicas < h.stsNodes.length) :
    Standard.resizeStatefulSet.Ends (.sequential Sets.Answers)
      (fun final ↦ final = sets ∨ Sets.Written (resized h) sets final) crash
      (fun _ _ ↦ Sets.Written (resized h) sets) h sets := by
  apply ends_get_bind
  have hdelta : (h.stsNodes.length : ℤ) - h.instance_.spec.replicas > 0 := Int.sub_pos_of_lt hexcess
  simp only [hdelta, if_true]
  have hwrite : (K8s.createOrUpdateStatefulSet (resized h)).Ends (.sequential Sets.Answers)
      (fun final ↦ final = sets ∨ Sets.Written (resized h) sets final) crash
      (fun _ ↦ Sets.Written (resized h) sets) sets := createOrUpdateStatefulSet_ends hold
  apply ends_lift_bind hwrite
  exact fun _ final hwritten ↦ ends_modify hwritten

/-- The update can be carried out. -/
theorem resizeStatefulSet_writes (hold : sets h.instance_.key = some old)
    (hexcess : h.instance_.spec.replicas < h.stsNodes.length) :
    Exec Sets.Answers (Standard.resizeStatefulSet.on h) sets (.ok (), { h with requeue := true })
      (sets.put { resized h with resourceVersion := 0 }) := by
  have hdelta : (h.stsNodes.length : ℤ) - h.instance_.spec.replicas > 0 := Int.sub_pos_of_lt hexcess
  have hwrite : Exec Sets.Answers (K8s.createOrUpdateStatefulSet (resized h)).program sets (.ok ())
      (sets.put { resized h with resourceVersion := 0 }) := by
    unfold K8s.createOrUpdateStatefulSet
    exact exec_bind_ok_iff.mpr ⟨.ok old, sets, getStatefulSet_reads hold, updateStatefulSet_writes hold rfl⟩
  rw [Standard.resizeStatefulSet, on_get_bind]
  simp only [hdelta, if_true]
  exact Method.exec_bind_iff.mpr (.inl ⟨(), h, _, Method.exec_lift_iff.mpr ⟨rfl, hwrite⟩, .done _ _⟩)

/-- The reserved ordinals that are forgotten make no difference exactly if none of them lies below a pod that should
stay. -/
theorem resized_ordinals_iff {master : Node} (hlive : h.stsNodes.map (·.podIndex) = old.ordinals)
    (hone : Cluster.OneMaster h.stsNodes) (hmem : master ∈ h.stsNodes) (hrole : master.role = .master)
    (hpos : 1 ≤ h.instance_.spec.replicas) (hless : h.instance_.spec.replicas < old.replicas) :
    (resized h).ordinals = (Cluster.survivors (excess h) h.stsNodes).map (·.podIndex) ↔
      ∀ id ∈ old.reserveOrdinals, master.podIndex < id ∧ h.instance_.spec.replicas ≤ id := by
  have hlength : h.stsNodes.length = old.replicas.toNat := by
    rw [← List.length_map (f := (·.podIndex)), hlive, StatefulSet.ordinals, Segments.smallest_length]
  have hexcess : excess h < old.replicas.toNat := by
    rw [excess]
    omega
  have hsize : old.replicas.toNat - excess h = h.instance_.spec.replicas.toNat := by
    rw [excess]
    omega
  have hsorted : (h.stsNodes.map (·.podIndex)).Pairwise (· < ·) := hlive ▸ Segments.smallest_sorted _ _
  have hascending : Cluster.Ascending h.stsNodes := List.pairwise_map.mp hsorted
  have hreserved : Cluster.Reserved (excess h) h.stsNodes (resized h).reserveOrdinals := by
    have htake : Cluster.Reserved (excess h) h.stsNodes _ := hascending.reserved_takeWhile
    rwa [← Cluster.reserveLoop_reverse] at htake
  have hkept : ((Cluster.survivors (excess h) h.stsNodes).map (·.podIndex)).Pairwise (· < ·) :=
    List.pairwise_map.mpr (hascending.filter _)
  have hsurvivors := Cluster.smallest_append_reserved hone hlive hexcess hreserved
  have hisSmallest := (Segments.eq_smallest_iff hkept).mp hsurvivors.symm
  -- the old reserved ordinals are not those of nodes
  have hforeign (id : ℕ) (hid : id ∈ old.reserveOrdinals) : id ∉ h.stsNodes.map (·.podIndex) := by
    intro hnode
    rw [hlive] at hnode
    exact (Segments.smallest_isSmallest _ _).outside id (List.mem_toFinset.mpr hnode) hid
  rw [hsize] at hisSmallest
  rw [eq_comm, StatefulSet.ordinals, Segments.eq_smallest_iff hkept]
  constructor
  · intro hnew id hid
    have hfree : id ∉ (resized h).reserveOrdinals := by
      intro hin
      obtain ⟨victim, hvictim, rfl⟩ := List.mem_map.mp ((hreserved id).mp hin).1
      exact hforeign _ hid (List.mem_map_of_mem (Cluster.mem_of_mem_victims hvictim).1)
    have hlost : id ∉ ((Cluster.survivors (excess h) h.stsNodes).map (·.podIndex)).toFinset := by
      intro hin
      exact hforeign id hid (List.map_subset _ (List.filter_subset_self _) (List.mem_toFinset.mp hin))
    have habove : ∀ item ∈ ((Cluster.survivors (excess h) h.stsNodes).map (·.podIndex)).toFinset, item < id := by
      intro item hitem
      rcases lt_trichotomy item id with hlt | heq | hgt
      · exact hlt
      · exact absurd (heq ▸ hitem) hlost
      · exact absurd (hnew.closed item hitem id hgt hfree) hlost
    refine ⟨habove _ (List.mem_toFinset.mpr (List.mem_map_of_mem (Cluster.mem_survivors_of_master hmem hrole))), ?_⟩
    -- all survivors are smaller, and there are as many as replicas
    have hsubset : ((Cluster.survivors (excess h) h.stsNodes).map (·.podIndex)).toFinset ⊆ Finset.range id :=
      fun item hitem ↦ Finset.mem_range.mpr (habove item hitem)
    have hcard := Finset.card_le_card hsubset
    rw [hisSmallest.card, Finset.card_range] at hcard
    omega
  · intro hbeyond
    apply hisSmallest.congr
    rintro id ⟨top, htop, hle⟩
    have hnot : id ∉ old.reserveOrdinals := by
      intro hid
      obtain ⟨hmasterLt, hreplicasLe⟩ := hbeyond id hid
      rcases hreserved.nil_or_le hascending hone hmem hrole with hnil | hbelow
      · -- nothing is reserved, so the survivors are the ordinals below the number of replicas
        have hrange : h.instance_.spec.replicas.toNat ≤
            (Finset.range h.instance_.spec.replicas.toNat).card := (Finset.card_range _).ge
        have hlt : top < h.instance_.spec.replicas.toNat := by
          apply hisSmallest.lt_of_enough hrange _ (fun item hitem ↦ Finset.mem_range.mp hitem) htop
          intro item hitem hin
          rcases List.mem_append.mp hin with hbefore | hnow
          · have hrange := Finset.mem_range.mp hitem
            have hitemLe := (hbeyond item hbefore).2
            omega
          · exact hnil item hnow
        omega
      · obtain ⟨kept, hkeptMem, rfl⟩ := List.mem_map.mp (List.mem_toFinset.mp htop)
        have hkeptLe := hbelow kept hkeptMem
        omega
    constructor
    · exact fun hin ↦ List.mem_append_right _ hin
    · exact fun hin ↦ (List.mem_append.mp hin).resolve_left hnot

/-- Scaling a standard instance down removes exactly the slaves with the highest ordinals if and only if every ordinal
reserved before lies above the master and is not smaller than the new number of replicas. -/
theorem resizeStatefulSet_scaledDown_iff (h : Standard.KVRocksStandardHandler) (sets : Sets) (old : StatefulSet)
    (master : Node) (hold : sets h.instance_.key = some old)
    (hlive : h.stsNodes.map (·.podIndex) = old.ordinals) (hone : Cluster.OneMaster h.stsNodes)
    (hmem : master ∈ h.stsNodes) (hrole : master.role = .master)
    (hpos : 1 ≤ h.instance_.spec.replicas) (hless : h.instance_.spec.replicas < old.replicas) :
    (∀ result final, Exec Sets.Answers (Standard.resizeStatefulSet.on h) sets result final →
        (∃ error, result.1 = .err error) ∧ final = sets ∨ ∃ new, final h.instance_.key = some new ∧
            Cluster.ScaledDown h.stsNodes (old.replicas - h.instance_.spec.replicas).toNat new) ↔
      ∀ id ∈ old.reserveOrdinals, master.podIndex < id ∧ h.instance_.spec.replicas ≤ id := by
  have hlength : h.stsNodes.length = old.replicas.toNat := by
    rw [← List.length_map (f := (·.podIndex)), hlive, StatefulSet.ordinals, Segments.smallest_length]
  have hcount : (old.replicas - h.instance_.spec.replicas).toNat = excess h := by
    rw [excess]
    omega
  have hexcess : h.instance_.spec.replicas < h.stsNodes.length := by omega
  rw [hcount, ← resized_ordinals_iff hlive hone hmem hrole hpos hless]
  constructor
  · intro hall
    rcases hall _ _ (resizeStatefulSet_writes hold hexcess) with ⟨⟨error, herror⟩, -⟩ | ⟨new, hnew, hscaled⟩
    · cases herror
    · have hput : sets.put { resized h with resourceVersion := 0 } h.instance_.key =
          some { resized h with resourceVersion := 0 } := Sets.put_self sets { resized h with resourceVersion := 0 }
      obtain rfl := Option.some.inj (hput.symm.trans hnew)
      exact hscaled.ordinals
  · intro hordinals result final hexec
    have hprogram : Standard.resizeStatefulSet.Ends (.sequential Sets.Answers) _ (fun _ ↦ False) _ h sets :=
      resizeStatefulSet_ends hold hexcess
    have hends := hprogram.exec hexec
    have hscaled {final : Sets} (hwritten : Sets.Written (resized h) sets final) :
        ∃ new, final h.instance_.key = some new ∧ Cluster.ScaledDown h.stsNodes (excess h) new := by
      obtain ⟨number, hnew⟩ := hwritten.key_eq
      exact ⟨_, hnew, Cluster.scaledDown_of_ordinals hordinals⟩
    obtain ⟨outcome, later⟩ := result
    cases outcome with
    | ok _ => exact .inr (hscaled hends)
    | err error => exact hends.imp (fun hsame ↦ ⟨⟨error, rfl⟩, hsame⟩) hscaled
    | panic => exact hends.elim

/-- A handler of the demo instance with one master. -/
def demoHandler (replicas : ℤ) (master : ℕ) (slaves : List ℕ) : Standard.KVRocksStandardHandler :=
  { instance_ := demo replicas "kvrocks:1", password := "password",
    stsNodes := Cluster.sortNodes ({ Kvrocks.Node.fresh "10.0.0.1" master with role := .master } ::
      slaves.map fun id ↦ { Kvrocks.Node.fresh "10.0.0.2" id with role := .slave }),
    requeue := false, key := (demo replicas "kvrocks:1").key }

/-- Four pods, the master third, shrink to two after ordinal 5 has been reserved. -/
theorem four_scaled_down : (demoSet 4 [5]).ordinals = [0, 1, 2, 3] ∧ ∀ result final,
      Exec Sets.Answers (Standard.resizeStatefulSet.on (demoHandler 2 2 [0, 1, 3])) (demoSets 4 [5]) result final →
        (∃ error, result.1 = .err error) ∧ final = demoSets 4 [5] ∨ ∃ new, final (demo 2 "kvrocks:1").key = some new ∧
            Cluster.ScaledDown (demoHandler 2 2 [0, 1, 3]).stsNodes 2 new :=
  ⟨by decide, (resizeStatefulSet_scaledDown_iff (demoHandler 2 2 [0, 1, 3]) (demoSets 4 [5]) (demoSet 4 [5])
    { Kvrocks.Node.fresh "10.0.0.1" 2 with role := .master } rfl (by decide) (by decide) (by decide) rfl
    (by decide) (by decide)).mpr (by decide)⟩

/-- Ordinal 1 is reserved and the master has ordinal 2: the master is replaced by a new pod. -/
theorem master_scaled_away : ∃ final new,
      Exec Sets.Answers (Standard.resizeStatefulSet.on (demoHandler 1 2 [0])) (demoSets 2 [1])
          (.ok (), { demoHandler 1 2 [0] with requeue := true }) final ∧
        final (demo 1 "kvrocks:1").key = some new ∧
        (demoHandler 1 2 [0]).stsNodes.map (·.podIndex) = (demoSet 2 [1]).ordinals ∧
        (demoSet 2 [1]).ordinals = [0, 2] ∧ new.ordinals = [1] :=
  ⟨_, _, resizeStatefulSet_writes (rfl : demoSets 2 [1] (demo 1 "kvrocks:1").key = some (demoSet 2 [1]))
    (by decide), rfl, by decide, by decide, by decide⟩

end Resize

end KvrocksOperator.Controllers.Scaling
