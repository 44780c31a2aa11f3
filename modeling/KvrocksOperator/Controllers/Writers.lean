import KvrocksOperator.Cluster.Persistence

/-!
# The writers of custom resources

`Grows` is what a pass of any handler does to its copy of the object.  A meaning of programs `Admits` a way to judge
copies when copies that are read can be judged, calls other than updates leave the judgement alone, and a written copy
can be judged again; then every pass of every handler keeps its own copy within the judgement.
-/

namespace KvrocksOperator

open Interaction Resources

/-! ## Copies -/

/-- What a pass does to its copy between two writes. -/
structure Grows (old new : KVRocks) : Prop where
  key : new.key = old.key
  resourceVersion : new.resourceVersion = old.resourceVersion
  deletionTimestamp : new.deletionTimestamp = old.deletionTimestamp
  finalizers : old.finalizers ⊆ new.finalizers
  status : old.status.status.rank ≤ new.status.status.rank

/-- A change of the status that leaves its phase alone. -/
theorem grows_status (object : KVRocks) {status : KVRocksStatus} (h : status.status = object.status.status) :
    Grows object { object with status := status } where
  key := rfl
  resourceVersion := rfl
  deletionTimestamp := rfl
  finalizers := fun _ h ↦ h
  status := Nat.le_of_eq (congrArg KVRocksStatusType.rank h.symm)

/-- What `Reconcile` does by itself. -/
theorem Alike.grows {old new : KVRocks} (h : Alike old new) : Grows old new :=
  ⟨h.key, h.resourceVersion, h.deletionTimestamp, h.finalizers, h.phase⟩

theorem grows_failed (object : KVRocks) {status : KVRocksStatus} (h : status.status = .failed) :
    Grows object { object with status := status } where
  key := rfl
  resourceVersion := rfl
  deletionTimestamp := rfl
  finalizers := fun _ h ↦ h
  status := h ▸ KVRocksStatusType.rank_le_failed _

/-! ## Judging copies -/

variable {W : Type}

/-- The meaning of programs lets a pass hold on to copies that fit. -/
structure Admits (M : Meaning operator W) (Inv : W → Prop) (Fits : KVRocks → W → Prop) : Prop where
  grows : ∀ {object grown world}, Fits object world → Grows object grown → Fits grown world
  quiet : ∀ {α : Type} {program : Program operator α} {post : α → Prop} {copies : List KVRocks} {world},
    program.All (OfKind quietKinds) post → Holds Inv Fits copies world →
      M.wp program (fun value final ↦ post value ∧ Holds Inv Fits copies final) world
  read : ∀ {key copies world}, Holds Inv Fits copies world →
    M.wp (ask (.getKVRocks key)) (fun reply final ↦ match reply with
      | .ok found => Holds Inv Fits (found :: copies) final
      | .error _ => Holds Inv Fits copies final) world
  update : Rewrites M Inv Fits

section Copies

variable {Inv : W → Prop} {Fits : KVRocks → W → Prop} {M : Meaning operator W} (hM : Admits M Inv Fits)

include hM

theorem Admits.tracks : Tracks M Inv Fits where
  alike h halike := hM.grows h halike.grows
  fallen _ h := hM.grows h (grows_failed _ rfl)
  failover := hM.update.relocates fun _ _ _ h ↦ hM.grows h (grows_status _ rfl)
  calm hall := hM.quiet (hall.mono (fun _ hkind ↦ calm_subset_quiet hkind) fun _ hpost ↦ hpost)
  read := hM.read
  update := hM.update

end Copies

/-! ## The passes -/

section Passes

variable {Inv : W → Prop} {Fits : KVRocks → W → Prop} {M : Meaning operator W} {σ : Type}
variable {copy : σ → KVRocks} {α : Type} (hM : Admits M Inv Fits)

include hM

/-- A phase that makes no update and leaves the copy alone. -/
theorem Admits.preserves_quiet {kinds : List CallKind} {β : Type} {part : σ → β}
    {method : Method operator GoError σ α} (hleaves : Leaves kinds part method) (hkinds : kinds ⊆ quietKinds)
    (hpart : ∀ state later, part later = part state → copy later = copy state) :
    method.Preserves M (Holding Inv Fits copy) := by
  intro state world hholding
  apply M.wp_mono (hM.quiet (((hleaves.mono hkinds).of_part hpart) state) hholding.1)
  rintro ⟨outcome, later⟩ final ⟨hlater, hfinal⟩
  cases outcome with
  | ok value =>
    have hcopy : copy later = copy state := hlater
    exact ⟨hcopy ▸ hfinal, hcopy ▸ hholding.2⟩
  | err error => trivial
  | panic => trivial

/-- Quiet functions keep the copy. -/
theorem Admits.preserves_lift {function : Go α} (hmakes : Makes quietKinds function) :
    (Method.lift function : Method operator GoError σ α).Preserves M (Holding Inv Fits copy) := by
  have hleaves : Leaves quietKinds copy (Method.lift function : Method operator GoError σ α) := Leaves.lift hmakes
  exact hM.preserves_quiet hleaves (fun _ h ↦ h) fun _ _ h ↦ h

/-- A change of the receiver by which its copy grows. -/
theorem Admits.preserves_grow {change : σ → σ}
    (h : ∀ state, (copy state).status.status ≠ .failed → Grows (copy state) (copy (change state)) ∧
      (copy (change state)).status.status ≠ .failed) :
    (Method.modify change : Method operator GoError σ Unit).Preserves M (Holding Inv Fits copy) := by
  apply Method.preserves_modify
  intro state world hholding
  obtain ⟨hgrows, hlive⟩ := h state hholding.2
  exact ⟨hholding.1.replace fun hfits ↦ hM.grows hfits hgrows, hlive⟩

end Passes

/-! ### The cluster handler -/

namespace Cluster

variable {Inv : W → Prop} {Fits : KVRocks → W → Prop} {M : Meaning operator W} (hM : Admits M Inv Fits)

include hM

theorem follows : Follows M (Holding Inv Fits Handler.instance_) (Holding Inv Fits Handler.instance_) :=
  follows_of_tracks hM.tracks fun _ _ hfits ↦ hM.grows hfits (grows_status _ rfl)

theorem cleanStatefulSetIfShrinking_preserves :
    cleanStatefulSetIfShrinking.Preserves M (Holding Inv Fits Handler.instance_) := by
  apply preserves_get.bind
  intro h
  cases h.instance_.status.shrink with
  | none => exact preserves_pure ()
  | some shrink =>
    apply preserves_get.bind
    intro h
    apply (hM.preserves_lift ((makes_forEach fun index _ ↦
      K8s.deleteStatefulSetIfExists_makes _).mono (by decide))).bind
    intro _
    apply (hM.preserves_lift ((makes_forEach fun entry _ ↦ applyReserve_makes _ entry).mono (by decide))).bind
    intro _
    apply (hM.preserves_grow ?_).bind
    · intro _ h world hholding
      apply saveInstance_yields
      exact hM.tracks.updates_live hholding.1 hholding.2 fun _ _ hsaved hlive ↦ ⟨hsaved, hlive⟩
    · intro state hlive
      exact ⟨grows_status state.instance_ rfl, hlive⟩

theorem planShrink_preserves : planShrink.Preserves M (Holding Inv Fits Handler.instance_) := by
  apply preserves_get.bind
  intro h
  split
  · exact hM.preserves_lift makes_panic
  · apply (hM.preserves_lift (makes_ofOption _)).bind
    rintro ⟨reserves, kept⟩
    simp only
    split
    · exact preserves_pure ()
    · apply (hM.preserves_grow ?_).bind
      · intro _ h world hholding
        apply persistTopo_yields
        have hkept : Holds Inv Fits [withTopo h.instance_ kept h.version] world :=
          hholding.1.replace fun hfits ↦ hM.grows hfits (grows_status h.instance_ rfl)
        exact hM.tracks.updates_live hkept hholding.2 fun _ _ hsaved hlive ↦ ⟨hsaved, hlive⟩
      · intro state hlive
        exact ⟨grows_status state.instance_ rfl, hlive⟩

theorem ensureShrink_preserves : ensureShrink.Preserves M (Holding Inv Fits Handler.instance_) := by
  apply preserves_get.bind
  intro h
  apply (hM.preserves_lift (makes_lift (all_ask (by simp [Call.kind, quietKinds])))).bind
  intro _
  split
  · exact preserves_pure ()
  · apply (Method.preserves_forEach (fun index ↦
      hM.preserves_quiet (removeShardMonitor_leaves index) (by decide) (by simp_all)) _).bind
    intro _
    exact planShrink_preserves hM

/-- A pass over a cluster instance. -/
theorem handle_preserves : handle.Preserves M (Holding Inv Fits Handler.instance_) := by
  apply Method.Preserves.thenUnless (hM.preserves_quiet ensureController_leaves (by decide) (by simp_all))
  apply Method.Preserves.thenUnless (cleanStatefulSetIfShrinking_preserves hM)
  apply Method.Preserves.thenUnless (hM.preserves_quiet ensureKubernetes_leaves (by decide) (by simp_all))
  apply Method.Preserves.thenUnless (ensureFailover_follows (follows hM))
  apply Method.Preserves.thenUnless fun _ _ hholding ↦ ensureKVRocksStatus_follows (follows hM) hholding
  apply Method.Preserves.thenUnless (ensureMigrate_follows (follows hM))
  apply Method.Preserves.thenUnless (ensureShrink_preserves hM)
  apply Method.Preserves.thenUnless (ensureSentinel_holding hM.tracks)
  apply Method.Preserves.thenUnless (hM.preserves_quiet cleanPersistentVolumeClaim_leaves (by decide) (by simp_all))
  exact preserves_pure true

end Cluster

/-! ### The standard handler -/

namespace Standard

variable {Inv : W → Prop} {Fits : KVRocks → W → Prop} {M : Meaning operator W} (hM : Admits M Inv Fits)

/-- The copy of a standard handler. -/
abbrev KVRocksStandardHandler.copy (h : KVRocksStandardHandler) : KVRocks := h.instance_

include hM

theorem saveInstance_preserves : saveInstance.Preserves M (Holding Inv Fits KVRocksStandardHandler.copy) := by
  intro h world hholding
  apply ends_get_bind
  have hupdate : Cluster.Updates M (fun _ ↦ True) h.instance_ (fun saved ↦ Holding Inv Fits id saved) world :=
    hM.tracks.updates_live hholding.1 hholding.2 fun _ _ hsaved hlive ↦ ⟨hsaved, hlive⟩
  apply ends_lift_bind (Cluster.updateKVRocks_yields hupdate)
  intro saved final hsaved
  exact ends_modify hsaved

theorem finishReplication_preserves : finishReplication.Preserves M (Holding Inv Fits KVRocksStandardHandler.copy) := by
  have hadd {next : HandlerM Unit} (hnext : next.Preserves M (Holding Inv Fits KVRocksStandardHandler.copy)) :
      Method.Preserves M (Holding Inv Fits KVRocksStandardHandler.copy) (do
        Method.modify fun h ↦
          { h with instance_ :=
              { h.instance_ with finalizers := h.instance_.finalizers ++ [kvrocksFinalizer] } }
        saveInstance
        next) := by
    apply (hM.preserves_grow ?_).bind
    · intro _
      exact (saveInstance_preserves hM).bind fun _ ↦ hnext
    · intro state hlive
      exact ⟨(alike_finalizers state.instance_ _).grows, hlive⟩
  apply preserves_get.bind
  intro h
  cases h.instance_.labels.lookup monitoredBy with
  | none =>
    simp only
    split
    · exact preserves_pure ()
    · exact hadd (preserves_pure ())
  | some sentinelName =>
    simp only
    split
    · exact hM.tracks.preserves_notify _ _
    · exact hadd (hM.tracks.preserves_notify _ _)

theorem ensureKVRocksReplication_preserves :
    ensureKVRocksReplication.Preserves M (Holding Inv Fits KVRocksStandardHandler.copy) := by
  apply preserves_get.bind
  intro h
  split
  · apply (hM.preserves_lift ((initReplication_makes _ _ _).mono (by decide))).bind
    intro stsNodes
    apply (hM.preserves_grow ?_).bind
    · intro _
      exact saveInstance_preserves hM
    · intro state hlive
      exact ⟨(alike_running hlive).grows, by simp⟩
  · cases onlyMaster "" h.stsNodes with
    | error error => exact fun _ _ _ ↦ Method.ends_throw error trivial
    | ok masterIP =>
      simp only
      split
      · exact Method.preserves_modify fun _ _ hholding ↦ hholding
      · apply (hM.preserves_lift ((makes_mapEach fun node _ ↦ followOnlyMaster_makes _ _ _ node).mono (by decide))).bind
        intro stsNodes
        apply (Method.preserves_modify fun _ _ hholding ↦ ?_).bind
        · intro _
          exact finishReplication_preserves hM
        · exact hholding

theorem ensureKVRocksStatus_preserves :
    ensureKVRocksStatus.Preserves M (Holding Inv Fits KVRocksStandardHandler.copy) := by
  apply (hM.preserves_quiet ensureKVRocksConfig_leaves (by decide) (by simp_all)).bind
  intro _
  exact ensureKVRocksReplication_preserves hM

/-- A pass over a standard instance. -/
theorem handle_preserves : handle.Preserves M (Holding Inv Fits KVRocksStandardHandler.copy) := by
  apply Method.Preserves.thenUnless (hM.preserves_quiet ensureKubernetes_leaves (by decide) (by simp_all))
  apply Method.Preserves.thenUnless (ensureKVRocksStatus_preserves hM)
  apply Method.Preserves.thenUnless (hM.preserves_quiet resizeStatefulSet_leaves (by decide) (by simp_all))
  apply Method.Preserves.thenUnless (hM.preserves_quiet cleanPersistentVolumeClaim_leaves (by decide) (by simp_all))
  exact preserves_pure true

end Standard

/-! ### The sentinel handler -/

namespace Sentinel

variable {Inv : W → Prop} {Fits : KVRocks → W → Prop} {M : Meaning operator W} (hM : Admits M Inv Fits)

include hM

theorem markRunning_preserves : markRunning.Preserves M (Holding Inv Fits Handler.instance_) := by
  apply (hM.preserves_grow ?_).bind
  · intro _
    apply Method.Preserves.bind _ fun _ ↦ preserves_pure true
    intro h world hholding
    apply Cluster.saveInstance_yields
    exact hM.tracks.updates_live hholding.1 hholding.2 fun _ _ hsaved hlive ↦ ⟨hsaved, hlive⟩
  · intro h hlive
    exact ⟨(alike_running hlive).grows, by simp⟩

/-- A pass over a sentinel instance. -/
theorem handle_preserves : handle.Preserves M (Holding Inv Fits Handler.instance_) := by
  apply Method.Preserves.thenUnless (hM.preserves_quiet ensureKubernetes_leaves (by decide) (by simp_all))
  apply Method.Preserves.thenUnless (hM.preserves_quiet ensureSentinel_leaves (by decide) (by simp_all))
  exact markRunning_preserves hM

end Sentinel

/-! ### Reconciling -/

namespace Controllers

variable {Inv : W → Prop} {Fits : KVRocks → W → Prop} {M : Meaning operator W} (hM : Admits M Inv Fits)

include hM

/-- The handler that `Reconcile` chooses works on a copy that fits and has not failed. -/
theorem handlerOf_handle_yields (key : NamespacedName) (type : KVRocksType) :
    HandleYields M Inv Fits (handlerOf key type) := by
  intro instance_ world h hlive
  cases type with
  | cluster =>
    apply ((Cluster.handle_preserves hM _ world ⟨h, hlive⟩).finish).bind
    intro result final _
    exact ends_pure trivial
  | standard =>
    apply ((Standard.handle_preserves hM _ world ⟨h, hlive⟩).finish).bind
    intro result final _
    exact ends_pure trivial
  | sentinel =>
    apply ((Sentinel.handle_preserves hM _ world ⟨h, hlive⟩).finish).bind
    intro result final _
    exact ends_pure trivial

/-- A call of `Reconcile`. -/
theorem reconcile_yields (key : NamespacedName) {world : W} (h : Inv world)
    (hdeletion : ∀ instance_ final, Holds Inv Fits [instance_] final → instance_.deletionTimestamp = true →
      (reconcileDeletion (handlerOf key instance_.spec.type) instance_).Yields M (fun _ ↦ True)
        (fun _ _ ↦ True) final) :
    (reconcile (handlerOf key) key).Yields M (fun _ ↦ True) (fun _ _ ↦ True) world :=
  reconcile_yields_of hM.tracks (handlerOf_handle_yields hM key) key h hdeletion

end Controllers

/-! ## Whole footprints -/

/-- Nothing is said of copies when only the kinds of calls count. -/
theorem admits_arbitrary :
    Admits (.arbitrary (OfKind (.updateKVRocks :: quietKinds))) (fun _ ↦ True) (fun _ _ ↦ True) where
  grows _ _ := trivial
  quiet hall _ :=
    hall.mono (fun _ hkind ↦ List.mem_cons_of_mem _ hkind) fun _ hpost ↦ ⟨hpost, trivial, fun _ _ ↦ trivial⟩
  read _ := ⟨by simp [OfKind, quietKinds, Call.kind], fun reply ↦ by cases reply <;> exact ⟨trivial, fun _ _ ↦ trivial⟩⟩
  update _ _ _ _ := ⟨by simp [OfKind, Call.kind], fun reply ↦ by cases reply <;> exact ⟨trivial, fun _ _ ↦ trivial⟩⟩

theorem Events.failoverBody_makes (client : Controller.Client) (msg : EventMessage) :
    Makes (.updateKVRocks :: quietKinds) (failoverBody client msg) :=
  (failoverBody_yields admits_arbitrary.tracks client msg trivial).mono (fun _ _ ↦ trivial) fun _ _ _ ↦ trivial

theorem Controllers.reconcileDeletion_makes (key : NamespacedName) (type : KVRocksType) (instance_ : KVRocks) :
    Makes (.updateKVRocks :: quietKinds) (reconcileDeletion (handlerOf key type) instance_) := by
  unfold reconcileDeletion
  split
  · exact makes_pure _
  · apply ((handlerOf_finializer_makes key type instance_).mono (by decide)).bind
    rintro ⟨result, requeue⟩
    simp only
    split
    · exact makes_pure _
    · cases result with
      | error error => exact makes_pure _
      | ok _ =>
        apply ((K8s.updateKVRocks_makes _).mono (by decide)).handle.bind
        intro removed
        split
        · exact makes_pure _
        · exact makes_pure _

/-- A pass never touches the queue except to add a message. -/
theorem Controllers.reconcile_makes (key : NamespacedName) :
    Makes (.updateKVRocks :: quietKinds) (reconcile (handlerOf key) key) := by
  apply reconcile_yields admits_arbitrary key trivial
  intro instance_ _ _ _
  exact reconcileDeletion_makes key instance_.spec.type instance_

end KvrocksOperator
