import KvrocksOperator.Cluster.Phases

/-!
# The phases that persist the topology

Between `ensureKubernetes`, which makes the node matrix, and `ensureShrink` a pass writes its copy of the instance in
four ways only: as running, with the topology and the next version after a failover, with the topology and the version
that `ensureVersion` chose, and with the topology again while slots are migrated.  `Follows` asks what these writes
need of the receiver before `ensureKVRocksStatus` (`Fresh`) and after it (`Known`); the phases then lead from the one
to the other, for every meaning of programs.
-/

namespace KvrocksOperator

open Interaction Sequences

variable {W : Type} {α β γ σ : Type} {kinds kinds' : List CallKind}

/-! ## Calls that leave something alone -/

/-- Programs that make only such calls leave alone what `P` says of the world. -/
def Stays (M : Meaning operator W) (allowed : Call → Prop) (P : W → Prop) : Prop :=
  ∀ ⦃α : Type⦄ ⦃program : Program operator α⦄ ⦃post : α → Prop⦄ ⦃world : W⦄,
    program.All allowed post → P world → M.wp program (fun value final ↦ post value ∧ P final) world

variable {allowed : Call → Prop} {method : Method operator GoError σ α}

theorem Stays.yields {M : Meaning operator W} {P : W → Prop} (hP : Stays M allowed P) {post : α → σ → Prop}
    {state : σ} {world : W}
    (hmethod : method.Yields (.arbitrary allowed) (fun _ ↦ True) (fun value later _ ↦ post value later) state ())
    (h : P world) :
    method.Yields M (fun _ ↦ True) (fun value later final ↦ post value later ∧ P final) state world := by
  apply M.wp_mono (hP hmethod h)
  rintro ⟨outcome, later⟩ final ⟨hlater, hfinal⟩
  exact Outcome.Meets.mono hlater id fun _ hpost ↦ ⟨hpost, hfinal⟩

theorem Stays.yields_returns {M : Meaning operator W} {P : W → Prop} (hP : Stays M allowed P) {function : Go α}
    (hfunction : function.Returns allowed fun _ ↦ True) {world : W} (h : P world) :
    function.Yields M (fun _ ↦ True) (fun _ ↦ P) world := by
  apply M.wp_mono (hP hfunction h)
  intro outcome final hfinal
  exact Outcome.Meets.mono hfinal.1 id fun _ _ ↦ hfinal.2

/-- Two facts about a method that hold for all replies. -/
theorem yields_arbitrary_and {allowed' : Call → Prop} {post post' : α → σ → Prop} {state : σ}
    (h : method.Yields (.arbitrary allowed) (fun _ ↦ True) (fun value later _ ↦ post value later) state ())
    (h' : method.Yields (.arbitrary allowed') (fun _ ↦ True) (fun value later _ ↦ post' value later) state ()) :
    method.Yields (.arbitrary allowed) (fun _ ↦ True)
      (fun value later _ ↦ post value later ∧ post' value later) state () := by
  apply (Program.All.and h h').mono fun _ hallowed ↦ hallowed.1
  rintro ⟨outcome, later⟩ ⟨hpost, hpost'⟩
  cases outcome with
  | ok value => exact ⟨hpost, hpost'⟩
  | err error => trivial
  | panic => trivial

theorem Leaves.and {part : σ → β} {part' : σ → γ} (h : Leaves kinds part method) (h' : Leaves kinds' part' method) :
    Leaves kinds (fun state ↦ (part state, part' state)) method :=
  fun state ↦ (yields_arbitrary_and (h state) (h' state)).imp fun _ _ _ hsame ↦ Prod.ext hsame.1 hsame.2

namespace Cluster

/-! ## What the phases need -/

/-- What the persisted topology and the names of the pods say of a node. -/
def face (node : Node) : String × Role × ℕ := (node.ip, node.role, node.podIndex)

def faces (matrix : Matrix) : List (List (String × Role × ℕ)) := matrix.map (·.map face)

theorem faces_sortSlots (matrix : Matrix) : faces (matrix.map (·.map sortSlots)) = faces matrix := by
  simp only [faces, List.map_map, Function.comp_def]
  rfl

/-- The instance that `ensureStatusTopoMsg` writes. -/
def stored (h : Handler) : KVRocks := withTopo h.instance_ (h.stsNodes.map (·.map some)) h.version

/-- The receiver after `ensureVersion`. -/
def versioned (h : Handler) : Handler :=
  if h.instance_.status.topo = [] ∨ topoChanged h.instance_.status.topo h.stsNodes then
    { h with version := Kvrocks.wrapInt (h.version + 1) }
  else h

/-- What a meaning of programs has to allow in the receivers of the phases before and after `ensureKVRocksStatus`. -/
structure Follows (M : Meaning operator W) (Fresh Known : Handler → W → Prop) : Prop where
  fresh_stays : ∀ h, Stays M (OfKind calmKinds) (Fresh h)
  known_stays : ∀ h, Stays M (OfKind calmKinds) (Known h)
  reshape : ∀ {h later : Handler} {world : W}, Fresh h world → later.instance_ = h.instance_ →
    later.version = h.version → podOrdinals later.stsNodes = podOrdinals h.stsNodes → Fresh later world
  repaint : ∀ {h later : Handler} {world : W}, Known h world → later.instance_ = h.instance_ →
    later.version = h.version → faces later.stsNodes = faces h.stsNodes → Known later world
  run : ∀ {h : Handler} {world : W}, Fresh h world → Updates M (fun _ ↦ True)
      { h.instance_ with status := { h.instance_.status with status := .running } }
      (fun saved final ↦ Fresh { h with instance_ := saved } final) world
  fail : ∀ {h : Handler} {world : W}, Fresh h world →
    Updates M (fun _ ↦ True) (stored { h with version := Kvrocks.wrapInt (h.version + 1) })
      (fun saved final ↦ Fresh { h with instance_ := saved, version := Kvrocks.wrapInt (h.version + 1) } final) world
  settle : ∀ {h : Handler} {world : W}, Fresh h world → Updates M (fun _ ↦ True) (stored (versioned h))
      (fun saved final ↦ Known { h with instance_ := saved, version := saved.status.version } final) world
  persist : ∀ {h : Handler} {world : W}, Known h world →
    Updates M (fun _ ↦ True) (stored h) (fun saved final ↦ Known { h with instance_ := saved } final) world

/-! ## The phases -/

section Phases

variable {M : Meaning operator W} {Fresh Known : Handler → W → Prop} (hM : Follows M Fresh Known)

include hM

/-- A part of a phase that changes nothing but what is known of the nodes. -/
theorem Follows.fresh_leaves {method : HandlerM α} {part : Handler → β} (hkinds : kinds ⊆ calmKinds)
    (hleaves : Leaves kinds part method) (hshape : Leaves passKinds shape method)
    (hpart : ∀ h later, part later = part h → later.instance_ = h.instance_ ∧ later.version = h.version) :
    method.Preserves M Fresh := by
  intro h world hfresh
  apply ((hM.fresh_stays h).yields (((hleaves.and hshape).mono hkinds) h) hfresh).imp
  rintro _ later final ⟨hsame, hfinal⟩
  obtain ⟨hinstance, hversion⟩ := hpart h later (congrArg Prod.fst hsame)
  exact hM.reshape hfinal hinstance hversion (congrArg (fun same ↦ same.2.2) hsame)

theorem ensureFailover_follows : ensureFailover.Preserves M Fresh := by
  intro h world hfresh
  have hleaves := Leaves.mapEach (fun shard : List Node × ℕ ↦
    Leaves.mapEach (fun node : Node × ℕ ↦ failoverNode_leaves shard.2 node.2 node.1) shard.1.zipIdx) h.stsNodes.zipIdx
  have hloop := yields_arbitrary_and ((hleaves.mono (show _ ⊆ calmKinds by decide)) h) (failoverNodes_yields h)
  apply ends_get_bind
  apply ((hM.fresh_stays h).yields hloop hfresh).bind
  rintro results state reached ⟨⟨hstate, hordinals, -⟩, hreached⟩
  simp only [Prod.mk.injEq] at hstate
  obtain ⟨hinstance, -, -, -, hversion, -⟩ := hstate
  apply ends_modify_bind
  have hrelabelled : Fresh { state with stsNodes := results.map (·.map Prod.fst) } reached :=
    hM.reshape hreached hinstance hversion hordinals
  split
  · apply ends_modify_bind
    apply ensureStatusTopoMsg_yields
    apply M.wp_mono (hM.fail hrelabelled)
    intro reply final hreply
    cases reply with
    | error error => trivial
    | ok number => exact hM.reshape hreply rfl rfl (podOrdinals_sortSlots _)
  · exact Method.ends_pure hrelabelled

theorem ensureCluster_follows : ensureCluster.Preserves M Fresh := by
  have hregister : registerCluster.Preserves M Fresh := by
    intro h world hfresh
    apply ((hM.fresh_stays h).yields ((registerCluster_leaves.mono (by decide)) h) hfresh).imp
    rintro _ later final ⟨rfl, hfinal⟩
    exact hfinal
  apply hregister.bind
  intro _
  apply (hM.fresh_leaves (by decide) ensureSetNodeID_leaves (shape_of_bodies ensureSetNodeID_leaves_bodies)
    (by simp_all)).bind
  intro _ h world hfresh
  apply ends_modify_bind
  apply saveInstanceOrRequeue_yields
  exact hM.run hfresh

theorem ensureKVRocksStatus_follows {h : Handler} {world : W} (hfresh : Fresh h world) :
    ensureKVRocksStatus.Yields M (fun _ ↦ True) (fun _ later final ↦ Known later final) h world := by
  have hrest {h : Handler} {world : W} (hfresh : Fresh h world) : Method.Yields M (fun _ ↦ True) (do
        ensureCluster
        ensureVersion
        ensureStatusTopoMsg
        Method.modify fun h ↦ { h with version := h.instance_.status.version })
      (fun _ later final ↦ Known later final) h world := by
    apply (ensureCluster_follows hM h world hfresh).bind
    intro _ later reached hlater
    apply ends_modify_bind
    have hstored : ensureStatusTopoMsg.Yields M (fun _ ↦ True) (fun _ last final ↦
        Known { last with version := last.instance_.status.version } final) (versioned later) reached := by
      apply ensureStatusTopoMsg_yields
      apply M.wp_mono (hM.settle hlater)
      intro reply final hreply
      cases reply with
      | error error => trivial
      | ok number =>
        have hmatrix : (versioned later).stsNodes = later.stsNodes := by
          unfold versioned
          split <;> rfl
        refine hM.repaint hreply rfl rfl ?_
        exact (faces_sortSlots _).trans (congrArg faces hmatrix)
    apply hstored.bind
    intro _ last final hlast
    exact ends_modify hlast
  have hconfig : Leaves [.node, .updateConfigMap]
      (fun h : Handler ↦ (h.instance_, h.version, h.stsNodes)) ensureKVRocksConfig :=
    ensureKVRocksConfig_leaves.of_part (by simp_all)
  have hshape : Leaves passKinds shape ensureKVRocksConfig :=
    (hconfig.mono (by decide)).of_part fun state later hsame ↦ by simp_all [shape]
  apply (hM.fresh_leaves (by decide) hconfig hshape (by simp_all) h world hfresh).bind
  intro _ later reached hlater
  apply ends_get_bind
  split
  · apply (hM.fresh_leaves (by decide) initCluster_leaves (shape_of_bodies initCluster_leaves_bodies) (by simp_all)
      later reached hlater).bind
    exact fun _ _ _ ↦ hrest
  · apply (hM.fresh_leaves (by decide) ensureReplication_leaves (shape_of_bodies ensureReplication_leaves_bodies)
      (by simp_all) later reached hlater).bind
    exact fun _ _ _ ↦ hrest

theorem ensureStatusTopoMsg_follows : ensureStatusTopoMsg.Preserves M Known := by
  intro h world hknown
  apply ensureStatusTopoMsg_yields
  apply M.wp_mono (hM.persist hknown)
  intro reply final hreply
  cases reply with
  | error error => trivial
  | ok number => exact hM.repaint hreply rfl rfl (faces_sortSlots h.stsNodes)

omit hM in
theorem faces_modifyNode (shard index moved : ℕ) (matrix : Matrix) :
    faces (modifyNode shard index (withoutEntry moved) matrix) = faces matrix := by
  have hface (node : Node) : face (withoutEntry moved node) = face node := rfl
  exact map_modify_eq (fun nodes ↦ map_modify_eq hface nodes index) matrix shard

omit hM in
theorem dropEntry_leaves_faces (shard index moved : ℕ) :
    Leaves [] (fun h : Handler ↦ (h.instance_, h.version, faces h.stsNodes)) (dropEntry shard index moved) := by
  apply Leaves.get.bind
  intro h
  apply (Leaves.lift (makes_ofOption _)).bind
  intro node
  split
  · exact Leaves.lift makes_panic
  · apply Leaves.modify
    intro state
    rw [faces_modifyNode]

/-- A part of a phase that leaves the addresses and roles of the nodes alone. -/
theorem Follows.known_leaves {method : HandlerM α} (hkinds : kinds ⊆ calmKinds)
    (hleaves : Leaves kinds (fun h : Handler ↦ (h.instance_, h.version, faces h.stsNodes)) method) :
    method.Preserves M Known := by
  intro h world hknown
  apply ((hM.known_stays h).yields ((hleaves.mono hkinds) h) hknown).imp
  rintro _ later final ⟨hsame, hfinal⟩
  simp only [Prod.mk.injEq] at hsame
  exact hM.repaint hfinal hsame.1 hsame.2.1 hsame.2.2

theorem reBalanceEntry_follows (src : ℤ) (shard index : ℕ) : (reBalanceEntry src shard index).Preserves M Known := by
  apply preserves_get.bind
  intro h
  apply (hM.known_leaves (by decide : [] ⊆ calmKinds) (Leaves.lift (makes_ofOption _))).bind
  intro migrate
  have hmoves : Makes [.http] (forEach (fun slot ↦
      moveSlot h.controllerClient src migrate.shard slot slotRetries) migrate.slots) :=
    makes_forEach fun slot _ ↦ moveSlot_makes _ _ _ slot _
  apply (hM.known_leaves (by decide) (Leaves.lift hmoves)).bind
  intro _
  apply (hM.known_leaves (by decide) (dropEntry_leaves_faces _ _ _)).bind
  intro _
  exact ensureStatusTopoMsg_follows hM

theorem ensureMigrate_follows : ensureMigrate.Preserves M Known := by
  apply preserves_get.bind
  intro h
  split
  · have hrequeue : Leaves [] (fun h : Handler ↦ (h.instance_, h.version, faces h.stsNodes)) setRequeue :=
      setRequeue_leaves.of_part (by simp_all)
    apply (hM.known_leaves (by decide) hrequeue).bind
    intro _
    exact Method.preserves_forEach (fun _ ↦ reBalanceEntry_follows hM _ _ _) _
  · exact ensureStatusTopoMsg_follows hM

end Phases

/-! ## Copies whose topology does not matter -/

section Tracks

variable {M : Meaning operator W} {Inv : W → Prop} {Fits : KVRocks → W → Prop} (hM : Tracks M Inv Fits)

include hM

theorem holding_stays (h : Handler) : Stays M (OfKind calmKinds) (Holding Inv Fits Handler.instance_ h) := by
  intro α program post world hall hholding
  apply M.wp_mono (hM.calm hall hholding.1)
  exact fun value final hfinal ↦ ⟨hfinal.1, hfinal.2, hholding.2⟩

theorem follows_of_tracks
    (htopo : ∀ {object world} (matrix : Matrix) (version : ℤ), Fits object world →
      Fits (withTopo object (matrix.map (·.map some)) version) world) :
    Follows M (Holding Inv Fits Handler.instance_) (Holding Inv Fits Handler.instance_) := by
  have hstored {h : Handler} {world : W} (matrix : Matrix) (version : ℤ)
      (hholding : Holding Inv Fits Handler.instance_ h world) {post : KVRocks → W → Prop}
      (hpost : ∀ saved final, Holds Inv Fits [saved] final → saved.status.status ≠ .failed → post saved final) :
      Updates M (fun _ ↦ True) (withTopo h.instance_ (matrix.map (·.map some)) version) post world :=
    hM.updates_live (hholding.1.replace (htopo matrix version)) hholding.2 hpost
  exact
    { fresh_stays := holding_stays hM
      known_stays := holding_stays hM
      reshape := fun hholding hinstance _ _ ↦ by rwa [Holding, hinstance]
      repaint := fun hholding hinstance _ _ ↦ by rwa [Holding, hinstance]
      run := fun hholding ↦ hM.updates_live (hM.change hholding.1 (alike_running hholding.2)) (by simp)
        fun _ _ hsaved hlive ↦ ⟨hsaved, hlive⟩
      fail := fun hholding ↦ hstored _ _ hholding fun _ _ hsaved hlive ↦ ⟨hsaved, hlive⟩
      settle := fun {h world} hholding ↦ by
        have hsame : (versioned h).instance_ = h.instance_ := by
          unfold versioned
          split <;> rfl
        rw [stored, hsame]
        exact hstored _ _ hholding fun _ _ hsaved hlive ↦ ⟨hsaved, hlive⟩
      persist := fun hholding ↦ hstored _ _ hholding fun _ _ hsaved hlive ↦ ⟨hsaved, hlive⟩ }

end Tracks

/-! ## The last phases -/

section Last

variable {M : Meaning operator W} {Known : Handler → W → Prop}

theorem ensureSentinel_preserves
    (hfinalize : ∀ {h world}, Known h world → Updates M (fun _ ↦ True)
      { h.instance_ with finalizers := h.instance_.finalizers ++ [kvrocksFinalizer] }
      (fun saved final ↦ Known { h with instance_ := saved } final) world)
    (hnotify : ∀ ns sentinelName, (Method.lift
      (Common.updateSentinelAnnotationCount ns sentinelName) : HandlerM Unit).Preserves M Known) :
    ensureSentinel.Preserves M Known := by
  have hnotified (instance_ : KVRocks) :
      (Method.lift (notifySentinel instance_) : HandlerM Unit).Preserves M Known := by
    unfold notifySentinel
    cases instance_.labels.lookup Resources.monitoredBy with
    | none => exact fun h world hknown ↦ Method.ends_lift (ends_pure hknown)
    | some sentinelName => exact hnotify _ _
  apply preserves_get.bind
  intro h
  split
  · exact preserves_pure ()
  · split
    · exact hnotified _
    · intro h world hknown
      apply ends_modify_bind
      have hsaved : saveInstance.Yields M (fun _ ↦ True) (fun _ later final ↦ Known later final)
          { h with instance_ :=
              { h.instance_ with finalizers := h.instance_.finalizers ++ [kvrocksFinalizer] } } world := by
        apply saveInstance_yields
        exact hfinalize hknown
      apply hsaved.bind
      exact fun _ later final hlater ↦ hnotified _ later final hlater

theorem ensureSentinel_holding {Inv : W → Prop} {Fits : KVRocks → W → Prop} (hM : Tracks M Inv Fits) :
    ensureSentinel.Preserves M (Holding Inv Fits Handler.instance_) := by
  apply ensureSentinel_preserves
  · intro h world hholding
    exact hM.updates_live (hM.change hholding.1 (alike_finalizers h.instance_ _)) hholding.2
      fun _ _ hsaved hlive ↦ ⟨hsaved, hlive⟩
  · exact fun ns sentinelName ↦ hM.preserves_notify ns sentinelName

/-- A phase that makes harmless calls only and leaves the copy alone. -/
theorem preserves_holding {Inv : W → Prop} {Fits : KVRocks → W → Prop} {part : Handler → β} {method : HandlerM α}
    (hstays : ∀ h, Stays M (OfKind kinds') (Holding Inv Fits Handler.instance_ h)) (hleaves : Leaves kinds part method)
    (hkinds : kinds ⊆ kinds') (hpart : ∀ h later, part later = part h → later.instance_ = h.instance_) :
    method.Preserves M (Holding Inv Fits Handler.instance_) := by
  intro h world hholding
  apply ((hstays h).yields ((hleaves.mono hkinds) h) hholding).imp
  rintro _ later final ⟨hsame, hfinal⟩
  rwa [Holding, hpart h later hsame]

/-- A pass, phase by phase: what is held up to `ensureKubernetes`, and what is left after `ensureShrink`. -/
theorem handle_yields_of {Fresh Held Left : Handler → W → Prop} (hfollows : Follows M Fresh Known)
    (hcontroller : ensureController.Preserves M Held) (hclean : cleanStatefulSetIfShrinking.Preserves M Held)
    (hkubernetes : ∀ {h world}, Held h world → ensureKubernetes.Yields M (fun _ ↦ True)
      (fun _ later final ↦ later.requeue = false → Fresh later final) h world)
    (hshrink : ∀ {h world}, Known h world → ensureShrink.Yields M (fun _ ↦ True) (fun _ ↦ Left) h world)
    (hsentinel : ensureSentinel.Preserves M Left)
    (hclaims : ∀ {h world}, Left h world →
      cleanPersistentVolumeClaim.Yields M (fun _ ↦ True) (fun _ _ _ ↦ True) h world)
    {h : Handler} {world : W} (hheld : Held h world) :
    handle.Yields M (fun _ ↦ True) (fun _ _ _ ↦ True) h world := by
  apply thenUnlessRequeue_yields (hcontroller h world hheld) (fun _ _ _ ↦ trivial)
  intro h world hheld _
  apply thenUnlessRequeue_yields (hclean h world hheld) (fun _ _ _ ↦ trivial)
  intro h world hheld _
  apply thenUnlessRequeue_yields (hkubernetes hheld) (fun _ _ _ ↦ trivial)
  intro h world hfresh hrequeue
  apply thenUnlessRequeue_yields (ensureFailover_follows hfollows h world (hfresh hrequeue)) (fun _ _ _ ↦ trivial)
  intro h world hfresh _
  apply thenUnlessRequeue_yields (ensureKVRocksStatus_follows hfollows hfresh) (fun _ _ _ ↦ trivial)
  intro h world hknown _
  apply thenUnlessRequeue_yields (ensureMigrate_follows hfollows h world hknown) (fun _ _ _ ↦ trivial)
  intro h world hknown _
  apply thenUnlessRequeue_yields (hshrink hknown) (fun _ _ _ ↦ trivial)
  intro h world hleft _
  apply thenUnlessRequeue_yields (hsentinel h world hleft) (fun _ _ _ ↦ trivial)
  intro h world hleft _
  apply thenUnlessRequeue_yields (hclaims hleft) (fun _ _ _ ↦ trivial)
  exact fun _ _ _ _ ↦ Method.ends_pure trivial

end Last

end Cluster

end KvrocksOperator
