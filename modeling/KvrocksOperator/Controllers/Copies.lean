import KvrocksOperator.Cluster.Rules
import KvrocksOperator.Controllers.Footprint
import KvrocksOperator.Events.Failover
import KvrocksOperator.Interaction.Interference

/-!
# Copies of custom resources

Every pass works on a copy of the object, changes it in memory and writes it as a whole.  A meaning of programs
`Tracks` a way to judge copies when copies that are read can be judged, calls that have nothing to do with the copies
leave the judgement alone, and a written copy can be judged again.  Then `Reconcile` keeps its copy within the
judgement if the handler of the instance does, and so does the handler of failover messages.
-/

namespace KvrocksOperator

open Interaction Resources

/-! ## The order of the status -/

/-- `None < Creating < Running < Failed` -/
def KVRocksStatusType.rank : KVRocksStatusType → ℕ
  | .none => 0
  | .creating => 1
  | .running => 2
  | .failed => 3

theorem KVRocksStatusType.rank_le_failed (status : KVRocksStatusType) :
    status.rank ≤ KVRocksStatusType.failed.rank := by
  cases status <;> decide

theorem KVRocksStatusType.rank_le_running {status : KVRocksStatusType} (h : status ≠ .failed) :
    status.rank ≤ KVRocksStatusType.running.rank := by
  cases status with
  | failed => exact absurd rfl h
  | _ => decide

theorem KVRocksStatusType.eq_failed_of_rank_le {status : KVRocksStatusType}
    (h : KVRocksStatusType.failed.rank ≤ status.rank) : status = .failed := by
  cases status with
  | failed => rfl
  | _ => exact absurd h (by decide)

/-! ## Copies that differ in nothing but labels and phase -/

/-- What `Reconcile` does to its copy by itself: it adds labels, annotations and finalizers and advances the phase. -/
structure Alike (old new : KVRocks) : Prop where
  key : new.key = old.key
  resourceVersion : new.resourceVersion = old.resourceVersion
  deletionTimestamp : new.deletionTimestamp = old.deletionTimestamp
  spec : new.spec = old.spec
  finalizers : old.finalizers ⊆ new.finalizers
  phase : old.status.status.rank ≤ new.status.status.rank
  version : new.status.version = old.status.version
  rebalance : new.status.rebalance = old.status.rebalance
  topo : new.status.topo = old.status.topo
  shrink : new.status.shrink = old.status.shrink

theorem alike_labels (object : KVRocks) (labels : StringMap) : Alike object { object with labels := labels } :=
  ⟨rfl, rfl, rfl, rfl, fun _ h ↦ h, Nat.le_refl _, rfl, rfl, rfl, rfl⟩

theorem alike_annotations (object : KVRocks) (annotations : StringMap) :
    Alike object { object with annotations := annotations } :=
  ⟨rfl, rfl, rfl, rfl, fun _ h ↦ h, Nat.le_refl _, rfl, rfl, rfl, rfl⟩

theorem alike_finalizers (object : KVRocks) (finalizers : List String) :
    Alike object { object with finalizers := object.finalizers ++ finalizers } :=
  ⟨rfl, rfl, rfl, rfl, fun _ h ↦ List.mem_append_left finalizers h, Nat.le_refl _, rfl, rfl, rfl, rfl⟩

/-- A status that does not go back. -/
theorem alike_phase (object : KVRocks) {phase : KVRocksStatusType} (reason : String)
    (h : object.status.status.rank ≤ phase.rank) :
    Alike object { object with status := { object.status with status := phase, reason := reason } } :=
  ⟨rfl, rfl, rfl, rfl, fun _ hmem ↦ hmem, h, rfl, rfl, rfl, rfl⟩

variable {instance_ object : KVRocks}

theorem alike_running (h : object.status.status ≠ .failed) :
    Alike object { object with status := { object.status with status := .running } } :=
  alike_phase object object.status.reason (KVRocksStatusType.rank_le_running h)

/-! ## Judging copies -/

/-- The operations of a handler of messages on its queue. -/
def queueKinds : List CallKind := [.lock, .unlock, .resendMessage, .deleteKey, .beforeTimeout]

/-- Every other kind of call but the update of a custom resource. -/
def quietKinds : List CallKind :=
  [.getKVRocks, .listKVRocks, .createObject, .deleteObject, .getService, .getWorkload, .createConfigMap,
    .getConfigMap, .updateConfigMap, .deleteConfigMap, .createStatefulSet, .getStatefulSet,
    .updateStatefulSet, .deleteStatefulSet, .listStatefulSets, .listPods, .getPod, .updatePod, .deletePod,
    .listPVC, .getPVC, .deletePVC, .http, .node, .replication, .sentinel, .addMessage, .enter]

/-- The calls that neither write a StatefulSet nor begin or end a shrink. -/
def calmKinds : List CallKind :=
  [.getKVRocks, .listKVRocks, .createObject, .deleteObject, .getService, .getWorkload, .createConfigMap,
    .getConfigMap, .updateConfigMap, .deleteConfigMap, .getStatefulSet, .listStatefulSets, .listPods, .getPod,
    .updatePod, .deletePod, .getPVC, .deletePVC, .http, .node, .replication, .sentinel, .addMessage]

theorem calm_subset_quiet : calmKinds ⊆ quietKinds := by decide

variable {W : Type}

/-- All copies fit the world, which is as it should be. -/
def Holds (Inv : W → Prop) (Fits : KVRocks → W → Prop) (copies : List KVRocks) (world : W) : Prop :=
  Inv world ∧ ∀ copy ∈ copies, Fits copy world

/-- Who writes a copy that fits holds on to what they have written. -/
def Rewrites (M : Meaning operator W) (Inv : W → Prop) (Fits : KVRocks → W → Prop) : Prop :=
  ∀ ⦃object copies world⦄, Holds Inv Fits (object :: copies) world →
    Cluster.Updates M (Holds Inv Fits copies) object (fun saved ↦ Holds Inv Fits (saved :: copies)) world

/-- The topology after a failover can be written to a copy that fits. -/
def Relocates (M : Meaning operator W) (Inv : W → Prop) (Fits : KVRocks → W → Prop) : Prop :=
  ∀ ⦃object copies world⦄ (msg : EventMessage) (masterID : String) (nodes : List Controller.Node),
    Holds Inv Fits (object :: copies) world →
      Cluster.Updates M (Holds Inv Fits copies) (Events.updateTopology msg masterID nodes object)
        (fun _ ↦ Holds Inv Fits copies) world

/-- The meaning of programs lets `Reconcile` hold on to copies that fit. -/
structure Tracks (M : Meaning operator W) (Inv : W → Prop) (Fits : KVRocks → W → Prop) : Prop where
  alike : ∀ {object changed world}, Fits object world → Alike object changed → Fits changed world
  fallen : ∀ {object world} (reason : String), Fits object world → Fits (Events.markFailed reason object) world
  failover : Relocates M Inv Fits
  calm : ∀ {α : Type} {program : Program operator α} {post : α → Prop} {copies : List KVRocks} {world},
    program.All (OfKind calmKinds) post → Holds Inv Fits copies world →
      M.wp program (fun value final ↦ post value ∧ Holds Inv Fits copies final) world
  read : ∀ {key copies world}, Holds Inv Fits copies world →
    M.wp (ask (.getKVRocks key)) (fun reply final ↦ match reply with
      | .ok found => Holds Inv Fits (found :: copies) final
      | .error _ => Holds Inv Fits copies final) world
  update : Rewrites M Inv Fits

section Copies

variable {Inv : W → Prop} {Fits : KVRocks → W → Prop} {copies : List KVRocks} {world : W}

theorem Holds.tail {copy : KVRocks} (h : Holds Inv Fits (copy :: copies) world) : Holds Inv Fits copies world :=
  ⟨h.1, fun other hother ↦ h.2 other (List.mem_cons_of_mem copy hother)⟩

/-- Another copy in place of the first one. -/
theorem Holds.replace {copy changed : KVRocks} (h : Holds Inv Fits (copy :: copies) world)
    (hfits : Fits copy world → Fits changed world) : Holds Inv Fits (changed :: copies) world :=
  ⟨h.1, List.forall_mem_cons.mpr ⟨hfits (h.2 copy List.mem_cons_self), h.tail.2⟩⟩

variable {M : Meaning operator W}

/-- A copy that fits still fits with the topology after a failover. -/
theorem Rewrites.relocates (hM : Rewrites M Inv Fits)
    (hfits : ∀ {object world} (msg : EventMessage) (masterID : String) (nodes : List Controller.Node),
      Fits object world → Fits (Events.updateTopology msg masterID nodes object) world) :
    Relocates M Inv Fits := by
  intro object copies world msg masterID nodes h
  apply M.wp_mono (hM (h.replace (hfits msg masterID nodes)))
  intro reply final hfinal
  exact hfinal.mono (fun hlost ↦ hlost) fun _ hsaved ↦ hsaved.tail

variable (hM : Tracks M Inv Fits)

include hM

/-- A copy may be changed alike. -/
theorem Tracks.change {copy changed : KVRocks} (h : Holds Inv Fits (copy :: copies) world)
    (halike : Alike copy changed) : Holds Inv Fits (changed :: copies) world :=
  h.replace fun hfits ↦ hM.alike hfits halike

/-- A function that has nothing to do with the copies leaves them fitting. -/
theorem Tracks.yields_calm {α : Type} {function : Go α} (hmakes : Makes calmKinds function)
    (h : Holds Inv Fits copies world) :
    function.Yields M (Holds Inv Fits copies) (fun _ ↦ Holds Inv Fits copies) world := by
  apply M.wp_mono (hM.calm hmakes h)
  intro outcome final hfinal
  cases outcome <;> exact hfinal.2

theorem Tracks.yields_read (key : NamespacedName) (h : Holds Inv Fits copies world) :
    (K8s.getKVRocks key).Yields M (Holds Inv Fits copies) (fun found ↦ Holds Inv Fits (found :: copies)) world := by
  apply ends_attempt
  apply M.wp_mono (hM.read h)
  intro reply final hfinal
  cases reply <;> exact hfinal

/-- What is written is held. -/
theorem Tracks.updates (h : Holds Inv Fits (object :: copies) world) : Cluster.Updates M (Holds Inv Fits copies) object
      (fun saved final ↦ Holds Inv Fits (saved :: copies) final ∧ saved.status = object.status) world := by
  apply M.wp_mono (hM.update h)
  intro reply final hfinal
  cases reply with
  | ok version => exact ⟨hfinal, rfl⟩
  | error error => exact hfinal

theorem Tracks.yields_update (h : Holds Inv Fits (object :: copies) world) :
    (K8s.updateKVRocks object).Yields M (Holds Inv Fits copies)
      (fun saved final ↦ Holds Inv Fits (saved :: copies) final ∧ saved.status = object.status) world :=
  Cluster.updateKVRocks_yields (hM.updates h)

/-- An update after which the pass does not look at its copy. -/
theorem Tracks.yields_last_update (h : Holds Inv Fits (object :: copies) world) :
    (K8s.updateKVRocks object).handle.Yields M (fun _ ↦ True) (fun _ _ ↦ True) world := by
  apply yields_handle
  exact (hM.yields_update h).mono (fun _ _ ↦ ⟨fun _ ↦ trivial, trivial⟩) fun _ _ _ ↦ trivial

/-- The annotation is written to a copy of the sentinel that was read just before. -/
theorem Tracks.yields_notify (ns sentinelName : String) (h : Holds Inv Fits copies world) :
    (Common.updateSentinelAnnotationCount ns sentinelName).Yields M (Holds Inv Fits copies)
      (fun _ ↦ Holds Inv Fits copies) world := by
  apply (hM.yields_read _ h).bind
  intro sentinel final hfinal
  simp only
  split
  · exact ends_throw _ hfinal.tail
  · apply (hM.yields_update (hM.change hfinal (alike_annotations sentinel _))).bind
    intro saved last hlast
    exact ends_pure hlast.1.tail

/-- An update of the copy of a handler that goes on with it. -/
theorem Tracks.updates_live (h : Holds Inv Fits [object] world) (hlive : object.status.status ≠ .failed)
    {post : KVRocks → W → Prop}
    (hpost : ∀ saved final, Holds Inv Fits [saved] final → saved.status.status ≠ .failed → post saved final) :
    Cluster.Updates M (fun _ ↦ True) object post world := by
  apply M.wp_mono (hM.updates h)
  intro reply final hreply
  cases reply with
  | ok version => exact hpost _ final hreply.1 hlive
  | error error => trivial

end Copies

section Receivers

variable {Inv : W → Prop} {Fits : KVRocks → W → Prop} {σ : Type}

/-- The copy of a handler fits and has not failed. -/
def Holding (Inv : W → Prop) (Fits : KVRocks → W → Prop) (copy : σ → KVRocks) (h : σ) (world : W) : Prop :=
  Holds Inv Fits [copy h] world ∧ (copy h).status.status ≠ .failed

/-- The sentinel is told of a change. -/
theorem Tracks.preserves_notify {M : Meaning operator W} (hM : Tracks M Inv Fits) {copy : σ → KVRocks}
    (ns sentinelName : String) :
    (Method.lift (Common.updateSentinelAnnotationCount ns sentinelName) :
      Method operator GoError σ Unit).Preserves M (Holding Inv Fits copy) := by
  intro state world hholding
  apply Method.ends_lift
  apply (hM.yields_notify ns sentinelName hholding.1).mono
  · exact fun _ _ ↦ trivial
  · exact fun _ _ hfinal ↦ ⟨hfinal, hholding.2⟩

end Receivers

/-! ## Copies held under a contract -/

section Threads

variable {C : Contract operator W} {P : W → Prop} {Fits : KVRocks → W → Prop}

/-- The contract lets a thread know `P` of itself and `Fits` of the copies that it holds, and write a copy that is
`Ready`. -/
structure Upholds (C : Contract operator W) (P : W → Prop) (Fits Ready : KVRocks → W → Prop) : Prop where
  same : ∀ world, C.guarantee world world
  known : ∀ {before after}, C.rely before after → P before → P after
  fits : ∀ {copy before after}, C.rely before after → Fits copy before → Fits copy after
  ready : ∀ {copy before after}, C.rely before after → Ready copy before → Ready copy after
  writable : ∀ {copy world}, Fits copy world → Ready copy world
  calm : ∀ {request before reply after}, OfKind calmKinds request → P before →
    C.answers request before reply after → C.guard request before ∧ after = before
  read : ∀ {key before found after}, C.inv before →
    C.answers (.getKVRocks key) before (.ok found) after → Fits found before
  update : ∀ {object before reply after}, C.inv before → P before → Ready object before →
    C.answers (.updateKVRocks object) before reply after →
      C.guard (.updateKVRocks object) before ∧ C.inv after ∧ C.guarantee before after ∧ C.rely before after ∧
        ∀ number, reply = .ok number → Fits { object with resourceVersion := number } after

variable {Ready : KVRocks → W → Prop} {copies : List KVRocks}

theorem Upholds.holds (hC : Upholds C P Fits Ready) {before after : W} (hrely : C.rely before after)
    (h : Holds P Fits copies before) : Holds P Fits copies after :=
  ⟨hC.known hrely h.1, fun copy hcopy ↦ hC.fits hrely (h.2 copy hcopy)⟩

theorem Upholds.updates (hC : Upholds C P Fits Ready) {world : W} (hready : Ready object world)
    (hholds : Holds P Fits copies world) :
    Cluster.Updates C.meaning (Holds P Fits copies) object (fun saved ↦ Holds P Fits (saved :: copies)) world := by
  intro before hrely hinv reply after hanswer
  have hcopies := hC.holds hrely hholds
  obtain ⟨hguard, hafter, hguarantee, hlater, hsaved⟩ := hC.update hinv hcopies.1 (hC.ready hrely hready) hanswer
  have hothers := hC.holds hlater hcopies
  refine ⟨hguard, hafter, hguarantee, ?_⟩
  cases reply with
  | error error => exact hothers
  | ok number => exact ⟨hothers.1, List.forall_mem_cons.mpr ⟨hsaved number rfl, hothers.2⟩⟩

theorem Upholds.rewrites (hC : Upholds C P Fits Ready) : Rewrites C.meaning P Fits :=
  fun _ _ _ h ↦ hC.updates (hC.writable (h.2 _ List.mem_cons_self)) h.tail

/-- A contract that upholds copies tracks them. -/
theorem Upholds.tracks (hC : Upholds C P Fits Ready)
    (halike : ∀ {object changed world}, Fits object world → Alike object changed → Fits changed world)
    (hfallen : ∀ {object world} (reason : String), Fits object world → Fits (Events.markFailed reason object) world)
    (hfailover : Relocates C.meaning P Fits) : Tracks C.meaning P Fits where
  alike := halike
  fallen := hfallen
  failover := hfailover
  calm := by
    intro α program post copies world hall hholds
    refine Contract.safe_of_stable (fun _ _ ↦ hC.holds) ?_ hall hholds
    intro request hkind before reply after hinv hbefore hanswer
    obtain ⟨hguard, rfl⟩ := hC.calm hkind hbefore.1 hanswer
    exact ⟨hguard, hinv, hC.same _, hbefore⟩
  read := by
    intro key copies world hholds before hrely hinv reply after hanswer
    have hcopies := hC.holds hrely hholds
    obtain ⟨hguard, rfl⟩ := hC.calm (by simp [OfKind, calmKinds, Call.kind]) hcopies.1 hanswer
    refine ⟨hguard, hinv, hC.same _, ?_⟩
    cases reply with
    | error error => exact hcopies
    | ok found => exact ⟨hcopies.1, List.forall_mem_cons.mpr ⟨hC.read hinv hanswer, hcopies.2⟩⟩
  update := hC.rewrites

end Threads

/-! ## Reconciling -/

variable {world : W}

namespace Controllers

variable {Inv : W → Prop} {Fits : KVRocks → W → Prop} {M : Meaning operator W} (hM : Tracks M Inv Fits)

include hM

theorem checkSpecification_yields (h : Holds Inv Fits [instance_] world) :
    (checkSpecification instance_).Yields M (fun _ ↦ True)
      (fun reasonable final ↦ reasonable = true → Holds Inv Fits [instance_] final) world := by
  unfold checkSpecification
  cases validateKVRocks instance_ with
  | none => exact ends_pure fun _ ↦ h
  | some reason =>
    have halike := alike_phase instance_ reason instance_.status.status.rank_le_failed
    apply (hM.yields_last_update (hM.change h halike)).bind
    intro _ final _
    exact ends_pure (by simp)

/-- Labels and status are initialized. -/
theorem runIfInitialize_yields (h : Holds Inv Fits [instance_] world) (hlive : instance_.status.status ≠ .failed) :
    (runIfInitialize instance_).Yields M (fun _ ↦ True)
      (fun initialized final ↦ Holds Inv Fits [initialized] final ∧ initialized.status.status ≠ .failed)
      world := by
  have hrest (labelled : KVRocks) (final : W) (hlabelled : Holds Inv Fits [labelled] final)
      (hstatus : labelled.status = instance_.status) :
      (if labelled.status.status = .none then
          K8s.updateKVRocks { labelled with status := { labelled.status with status := .creating } }
        else pure labelled : Go KVRocks).Yields M (fun _ ↦ True)
        (fun initialized last ↦ Holds Inv Fits [initialized] last ∧ initialized.status.status ≠ .failed)
        final := by
    split
    · rename_i hnone
      have halike : Alike labelled { labelled with status := { labelled.status with status := .creating } } :=
        alike_phase labelled labelled.status.reason (by rw [hnone]; decide)
      apply (hM.yields_update (hM.change hlabelled halike)).mono (fun _ _ ↦ trivial)
      intro saved last hsaved
      exact ⟨hsaved.1, by simp [hsaved.2]⟩
    · exact ends_pure ⟨hlabelled, hstatus ▸ hlive⟩
  unfold runIfInitialize
  split
  · exact hrest instance_ world h rfl
  · have halike := alike_labels instance_ (wantedLabels instance_)
    apply ((hM.yields_update (hM.change h halike)).mono (fun _ _ ↦ trivial) fun _ _ hsaved ↦ hsaved).bind
    intro saved final hsaved
    exact hrest saved final hsaved.1 hsaved.2

/-- A handler that keeps within the judgement. -/
def HandleYields (M : Meaning operator W) (Inv : W → Prop) (Fits : KVRocks → W → Prop)
    (handler : KVRocksHandler) : Prop :=
  ∀ instance_ world, Holds Inv Fits [instance_] world → instance_.status.status ≠ .failed →
    (handler.handle instance_).Yields M (fun _ ↦ True) (fun _ _ ↦ True) world

/-- A pass over a live instance. -/
theorem reconcileInstance_yields {handler : KVRocksHandler} (hhandle : HandleYields M Inv Fits handler)
    (h : Holds Inv Fits [instance_] world) (hlive : instance_.status.status ≠ .failed) :
    (reconcileInstance handler instance_).Yields M (fun _ ↦ True) (fun _ _ ↦ True) world := by
  apply (checkSpecification_yields hM h).bind
  intro reasonable checked hchecked
  split
  · rename_i hreasonable
    have hrun := yields_handle_kept (runIfInitialize_yields hM (hchecked hreasonable) hlive) fun _ h ↦ h
    apply hrun.bind
    intro result final hfinal
    cases result with
    | error error => exact ends_pure trivial
    | ok initialized =>
      apply (hhandle initialized final hfinal.1 hfinal.2).bind
      rintro ⟨result, requeue⟩ last _
      simp only
      split
      · exact ends_pure trivial
      · split
        · exact ends_pure trivial
        · cases result with
          | error error => exact ends_pure trivial
          | ok finished => exact ends_pure trivial
  · exact ends_pure trivial

/-- `Reconcile` takes the finalizer off a copy that `Finializer` has been done for. -/
theorem reconcileDeletion_yields {handler : KVRocksHandler}
    (hfinializer : Makes calmKinds (handler.finializer instance_))
    (hshed : ∀ {world}, Fits instance_ world →
      Fits { instance_ with finalizers := instance_.finalizers.filter (· ≠ kvrocksFinalizer) } world)
    (h : Holds Inv Fits [instance_] world) :
    (reconcileDeletion handler instance_).Yields M (fun _ ↦ True) (fun _ _ ↦ True) world := by
  unfold reconcileDeletion
  split
  · exact ends_pure trivial
  · apply ((hM.yields_calm hfinializer h).mono (fun _ _ ↦ trivial) fun _ _ hpost ↦ hpost).bind
    rintro ⟨result, requeue⟩ final hfinal
    simp only
    split
    · exact ends_pure trivial
    · cases result with
      | error error => exact ends_pure trivial
      | ok _ =>
        apply (hM.yields_last_update (hfinal.replace hshed)).bind
        intro removed last _
        split
        · exact ends_pure trivial
        · exact ends_pure trivial

/-- What `Reconcile` does to an object that it finds being deleted is left open here: it takes a finalizer off. -/
theorem reconcile_yields_of {handlers : KVRocksType → KVRocksHandler}
    (hhandle : ∀ type, HandleYields M Inv Fits (handlers type)) (key : NamespacedName) (h : Inv world)
    (hdeletion : ∀ instance_ final, Holds Inv Fits [instance_] final → instance_.deletionTimestamp = true →
      (reconcileDeletion (handlers instance_.spec.type) instance_).Yields M (fun _ ↦ True) (fun _ _ ↦ True) final) :
    (reconcile handlers key).Yields M (fun _ ↦ True) (fun _ _ ↦ True) world := by
  have hnone : Holds Inv Fits [] world := ⟨h, by simp⟩
  have hread := yields_handle_kept (hM.yields_read key hnone) fun _ _ ↦ trivial
  apply hread.bind
  intro result final hfinal
  cases result with
  | error error =>
    simp only
    split
    · exact ends_pure trivial
    · exact ends_pure trivial
  | ok instance_ =>
    simp only
    split
    · rename_i hdeleted
      exact hdeletion instance_ final hfinal hdeleted
    · split
      · exact ends_pure trivial
      · rename_i hlive
        exact reconcileInstance_yields hM (hhandle _) hfinal hlive

end Controllers

/-! ## Handling a failover message -/

namespace Events

/-- The deferred functions look at nothing but the queue; they neither panic nor recover. -/
theorem settle_all (msg : EventMessage) (outcome : Outcome GoError Unit) :
    (settle msg outcome).All (OfKind queueKinds) fun final ↦ final = .panic ↔ outcome = .panic := by
  have hforget (outcome : Outcome GoError Unit) :
      (do ask (.deleteKey msg.ip); ask .unlock; pure outcome : Program operator _).All
        (OfKind queueKinds) fun final ↦ final = .panic ↔ outcome = .panic :=
    ⟨by simp [OfKind, queueKinds, Call.kind], fun _ ↦ ⟨by simp [OfKind, queueKinds, Call.kind], fun _ ↦ Iff.rfl⟩⟩
  cases outcome with
  | ok value => exact hforget (.ok value)
  | panic => exact hforget .panic
  | err error =>
    refine ⟨by simp [OfKind, queueKinds, Call.kind], fun inTime ↦ ?_⟩
    cases inTime with
    | true =>
      exact ⟨by simp [OfKind, queueKinds, Call.kind],
        fun _ ↦ ⟨by simp [OfKind, queueKinds, Call.kind], fun _ ↦ by simp⟩⟩
    | false => exact (hforget (.ok ())).mono (fun _ h ↦ h) fun final hfinal ↦ by simp [hfinal]

variable {Inv : W → Prop} {Fits : KVRocks → W → Prop} {M : Meaning operator W} (hM : Tracks M Inv Fits)

include hM

/-- A call that has nothing to do with the copy, between the read of the instance and its update. -/
theorem calm_between {α : Type} {function : Go α} (hmakes : Makes calmKinds function)
    (h : Holds Inv Fits [instance_] world) :
    function.Yields M (Holds Inv Fits []) (fun _ ↦ Holds Inv Fits [instance_]) world :=
  (hM.yields_calm hmakes h).mono (fun _ hfail ↦ hfail.tail) fun _ _ hpost ↦ hpost

theorem update_yields (h : Holds Inv Fits [instance_] world) (hfits : Fits instance_ world → Fits object world) :
    (do let _ ← K8s.updateKVRocks object; pure () : Go Unit).Yields M (Holds Inv Fits [])
      (fun _ ↦ Holds Inv Fits []) world := by
  apply (hM.yields_update (h.replace hfits)).bind
  intro saved final hsaved
  exact ends_pure hsaved.1.tail

/-- The new master is stored. -/
theorem storeFailover_yields (client : Controller.Client) (msg : EventMessage) (h : Holds Inv Fits [instance_] world) :
    (storeFailover client msg instance_).Yields M (Holds Inv Fits []) (fun _ ↦ Holds Inv Fits []) world := by
  apply (calm_between hM ((Controller.getNodes_makes _ _).mono (by decide)) h).bind
  intro shard final hfinal
  cases shard with
  | none => exact ends_panic hfinal.tail
  | some shardData =>
    simp only
    split
    · exact update_yields hM hfinal (hM.fallen _)
    · apply (Cluster.updateKVRocks_yields (hM.failover _ _ _ hfinal)).bind
      intro _ last hlast
      exact ends_pure hlast

theorem recordFailover_yields (client : Controller.Client) (msg : EventMessage) (h : Holds Inv Fits [instance_] world) :
    (recordFailover client msg instance_).Yields M (Holds Inv Fits []) (fun _ ↦ Holds Inv Fits []) world := by
  apply (calm_between hM (makes_ofOption _) h).bind
  intro partition final hfinal
  split
  · apply (calm_between hM ((Common.removeMonitorNamed_makes _ _).mono (by decide)) hfinal).bind
    intro _ last hlast
    exact storeFailover_yields hM client msg hlast
  · exact storeFailover_yields hM client msg hfinal

theorem failoverBody_yields (client : Controller.Client) (msg : EventMessage) (h : Inv world) :
    (failoverBody client msg).Yields M (Holds Inv Fits []) (fun _ ↦ Holds Inv Fits []) world := by
  have hnone : Holds Inv Fits [] world := ⟨h, by simp⟩
  have hread := yields_handle_kept (hM.yields_read msg.key hnone) fun _ h ↦ h
  apply hread.bind
  intro result final hfinal
  cases result with
  | error error => exact ends_pure hfinal
  | ok instance_ =>
    simp only
    split
    · exact ends_pure hfinal.tail
    · split
      · exact ends_pure hfinal.tail
      · apply (calm_between hM ((Controller.setEndPoint_makes _ _).mono (by decide)) hfinal).bind
        intro client set hset
        have hfailover : Makes calmKinds (Controller.failoverShard client msg.partition).handle :=
          ((Controller.sendExpecting_makes _ _ _).mono (by decide)).handle
        apply (calm_between hM hfailover hset).bind
        intro answer asked hasked
        cases answer with
        | error error => exact update_yields hM hasked (hM.fallen _)
        | ok _ => exact recordFailover_yields hM client msg hasked

theorem handleFailover_wp (client : Controller.Client) (msg : EventMessage)
    (hqueue : ∀ {α : Type} {program : Program operator α} {world : W}, program.All (OfKind queueKinds) (fun _ ↦ True) →
      Inv world → M.wp program (fun _ ↦ Inv) world)
    (h : Inv world) : M.wp (handleFailover client msg).program (fun _ _ ↦ True) world := by
  have hlock : (ask .lock).All (OfKind queueKinds) (fun _ ↦ True) := all_ask (by decide)
  apply (M.wp_bind _ _ _ _).mpr
  apply M.wp_mono (hqueue hlock h)
  intro _ locked hlocked
  apply (M.wp_bind _ _ _ _).mpr
  apply M.wp_mono (failoverBody_yields hM client msg hlocked)
  intro outcome final hfinal
  have hinv : Inv final := by
    cases outcome with
    | ok value => exact hfinal.1
    | err error => exact hfinal.1
    | panic => exact hfinal.1
  have hsettle := (settle_all msg outcome).mono (fun _ h ↦ h) fun _ _ ↦ trivial
  exact M.wp_mono (hqueue hsettle hinv) fun _ _ _ ↦ trivial

end Events

end KvrocksOperator
