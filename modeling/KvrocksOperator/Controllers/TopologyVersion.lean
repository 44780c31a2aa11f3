import KvrocksOperator.Client.Slots
import KvrocksOperator.Cluster.Victims
import KvrocksOperator.Controllers.OwnedShards

/-!
# The version of the topology

`Status.Version` is raised with every change of the topology, in `ensureVersion`, `ensureFailover`, `cleanStatefulSet`
and the handler of failover messages.  `ensureShrink` is the writer that forgets it: it writes the topology without
the nodes that go away under the version that it found.  As long as it has nothing to leave out and no version is
raised that is the largest `int`, versions do not decrease and equal versions have equal topologies, along every run.
-/

namespace KvrocksOperator.Controllers.TopologyVersion

open Interaction Resources Cluster

open OwnedShards (Starts lowered demoStore)

/-! ## What a version identifies -/

/-- The shards of a topology with the address and the role of each node. -/
def outline (topo : List KVRocksTopoPartitions) : List (List (String × Role)) :=
  topo.map fun partition ↦ partition.topology.map fun record ↦ (record.ip, record.role)

/-- The same of a node matrix, of which shards without nodes are not written. -/
def painted (matrix : Matrix) : List (List (String × Role)) :=
  (matrix.filter (!·.isEmpty)).map fun nodes ↦ nodes.map fun node ↦ (node.ip, node.role)

/-- Every shard of the topology has a node. -/
def Solid (topo : List KVRocksTopoPartitions) : Prop := ∀ partition ∈ topo, partition.topology ≠ []

instance (topo : List KVRocksTopoPartitions) : Decidable (Solid topo) :=
  inferInstanceAs (Decidable (∀ partition ∈ topo, _))

/-- No shard of a solid topology is empty. -/
theorem solid_iff_outline {topo : List KVRocksTopoPartitions} : Solid topo ↔ [] ∉ outline topo := by
  simp [Solid, outline]

theorem painted_cons (nodes : List Node) (matrix : Matrix) : painted (nodes :: matrix) =
      if nodes = [] then painted matrix else nodes.map (fun node ↦ (node.ip, node.role)) :: painted matrix := by
  cases nodes with
  | nil => rfl
  | cons node nodes => rfl

theorem painted_append (matrix rest : Matrix) : painted (matrix ++ rest) = painted matrix ++ painted rest := by
  rw [painted, List.filter_append, List.map_append]
  rfl

theorem nil_notMem_painted (matrix : Matrix) : [] ∉ painted matrix := by
  simp [painted]

/-- Addresses and roles decide. -/
theorem painted_of_faces {matrix other : Matrix} (h : faces matrix = faces other) : painted matrix = painted other := by
  have himage (matrix : Matrix) : painted matrix =
      ((faces matrix).filter (!·.isEmpty)).map (·.map fun face ↦ (face.1, face.2.1)) := by
    induction matrix with
    | nil => rfl
    | cons nodes matrix ih =>
      cases nodes with
      | nil => exact ih
      | cons node nodes =>
        rw [painted_cons, if_neg (List.cons_ne_nil _ _), ih]
        simp [faces, face]
  rw [himage, himage, h]

theorem outline_statusTopoFrom (name : String) (matrix : Matrix) (start : ℕ) :
    outline (statusTopoFrom name start (matrix.map (·.map some))) = painted matrix := by
  induction matrix generalizing start with
  | nil => rfl
  | cons nodes matrix ih =>
    rw [List.map_cons, statusTopoFrom_cons, painted_cons, ← ih (start + 1)]
    have hrecords : (partitionOf name start (nodes.map some)).topology.map (fun record ↦ (record.ip, record.role)) =
        nodes.map fun node ↦ (node.ip, node.role) := by
      calc (partitionOf name start (nodes.map some)).topology.map (fun record ↦ (record.ip, record.role))
        _ = (nodes.zipIdx.map Prod.fst).map fun node ↦ (node.ip, node.role) := by
          simp only [partitionOf, shardTopology_some, List.map_map]
          rfl
        _ = nodes.map fun node ↦ (node.ip, node.role) := by rw [List.zipIdx_map_fst]
    by_cases hempty : nodes = []
    · rw [if_pos (by simp [hempty]), if_pos hempty]
    · rw [if_neg (by simpa using hempty), if_neg hempty, ← hrecords]
      rfl

/-- What is persisted of a matrix. -/
theorem outline_statusTopo (name : String) (matrix : Matrix) :
    outline (statusTopo name (matrix.map (·.map some))) = painted matrix :=
  outline_statusTopoFrom name matrix 0

/-- A shard that has not changed has the recorded addresses and roles. -/
theorem shardChanged_eq_false {topology : List KVRocksTopology} {nodes : List Node}
    (h : shardChanged topology nodes = false) :
    topology.map (fun record ↦ (record.ip, record.role)) = nodes.map fun node ↦ (node.ip, node.role) := by
  induction topology generalizing nodes with
  | nil =>
    cases nodes with
    | nil => rfl
    | cons node nodes => cases h
  | cons record topology ih =>
    cases nodes with
    | nil => cases h
    | cons node nodes =>
      simp only [shardChanged, Bool.or_eq_false_iff, decide_eq_false_iff_not, not_not] at h
      rw [List.map_cons, List.map_cons, h.1.1, h.1.2, ih h.2]

/-- A topology that `ensureVersion` finds unchanged is the one that is going to be written. -/
theorem outline_of_unchanged {topo : List KVRocksTopoPartitions} {matrix : Matrix}
    (h : topoChanged topo matrix = false) (hsolid : Solid topo) : outline topo = painted matrix := by
  induction topo generalizing matrix with
  | nil =>
    cases matrix with
    | nil => rfl
    | cons nodes matrix => cases h
  | cons partition topo ih =>
    cases matrix with
    | nil => cases h
    | cons nodes matrix =>
      rw [topoChanged, Bool.or_eq_false_iff] at h
      have hshard := shardChanged_eq_false h.1
      have hnodes : nodes ≠ [] := by
        rintro rfl
        exact hsolid partition List.mem_cons_self (List.map_eq_nil_iff.mp hshard)
      rw [painted_cons, if_neg hnodes, ← hshard, ← ih h.2 fun other hother ↦
        hsolid other (List.mem_cons_of_mem _ hother)]
      rfl

/-- The version does not decrease, and where it stays the topology stays, until the instance has failed. -/
def Advances (old new : KVRocks) : Prop :=
  new.status.status = .failed ∨ old.status.status ≠ .failed ∧ (old.status.version < new.status.version ∨
      old.status.version = new.status.version ∧ outline old.status.topo = outline new.status.topo)

theorem Advances.refl (object : KVRocks) : Advances object object := by
  by_cases hfailed : object.status.status = .failed
  · exact .inl hfailed
  · exact .inr ⟨hfailed, .inr ⟨rfl, rfl⟩⟩

theorem Advances.trans {first second third : KVRocks} (h : Advances first second) (h' : Advances second third) :
    Advances first third := by
  rcases h' with hfailed | ⟨hlive, hthird⟩
  · exact .inl hfailed
  · rcases h with hfailed | ⟨hfirst, hsecond⟩
    · exact absurd hfailed hlive
    · refine .inr ⟨hfirst, ?_⟩
      rcases hsecond with hless | ⟨hsame, houtline⟩ <;> rcases hthird with hless' | ⟨hsame', houtline'⟩
      · exact .inl (hless.trans hless')
      · exact .inl (hless.trans_eq hsame')
      · exact .inl (hsame.trans_lt hless')
      · exact .inr ⟨hsame.trans hsame', houtline.trans houtline'⟩

variable {old object : KVRocks}

/-- A write that leaves the status alone. -/
theorem advances_of_status {new : KVRocks} (h : new.status = old.status) : Advances old new := by
  unfold Advances
  rw [h]
  exact Advances.refl old

theorem advances_of_alike {new : KVRocks} (h : Alike old new) : Advances old new := by
  by_cases hfailed : old.status.status = .failed
  · exact .inl (KVRocksStatusType.eq_failed_of_rank_le (hfailed ▸ h.phase))
  · exact .inr ⟨hfailed, .inr ⟨h.version.symm, congrArg outline h.topo.symm⟩⟩

/-! ## The runs -/

/-- `ensureShrink` does not run while slots are moved, or it finds no surplus shard with nodes and no shard from which
it would remove a node. -/
def Steady (instance_ : KVRocks) (stsNodes : Matrix) : Prop :=
  instance_.status.rebalance = true ∨ (∀ nodes ∈ stsNodes.drop instance_.spec.master, nodes = []) ∧
      ∀ nodes ∈ stsNodes.take instance_.spec.master,
        (nodes.length : ℤ) ≤ instance_.spec.replicas ∨ ∀ node ∈ nodes, node.role = .master

instance (instance_ : KVRocks) (stsNodes : Matrix) : Decidable (Steady instance_ stsNodes) :=
  inferInstanceAs (Decidable (_ ∨ _ ∧ _))

/-- The write raises the largest version that there is. -/
def Wraps (old new : KVRocks) : Prop :=
  old.status.status ≠ .failed ∧ old.status.version = Text.maxInt ∧ new.status.version ≠ Text.maxInt

instance (old new : KVRocks) : Decidable (Wraps old new) := inferInstanceAs (Decidable (_ ∧ _))

/-- Every entry into `ensureShrink` meets the condition, and no write raises the largest version. -/
def Meets (condition : KVRocks → Matrix → Prop) : Call → Store KVRocks → Prop
  | .enter (.ensureShrink instance_ stsNodes), _ => condition instance_ stsNodes
  | .updateKVRocks object, store =>
    ∀ old ∈ store.current object.key, old.resourceVersion = object.resourceVersion → ¬ Wraps old object
  | _, _ => True

/-- How the calls of a thread are answered. -/
def Serves (condition : KVRocks → Matrix → Prop) : Program.Answers operator (Store KVRocks) :=
  fun request before reply after ↦ Lifecycle.Serves request before reply after ∧ Meets condition request before

/-- Users edit everything but the status, and do not create an object under a name that was used before. -/
inductive Moves : Store KVRocks → Store KVRocks → Prop where
  | edit (store : Store KVRocks) (object old : KVRocks) (number : ℕ)
      (hfresh : ∀ other ∈ store.versions, other.resourceVersion ≠ number)
      (hcurrent : store.current object.key = some old) (hstatus : object.status = old.status) :
      Moves store (store.put object number hfresh)
  | create (store : Store KVRocks) (object : KVRocks) (number : ℕ)
      (hfresh : ∀ other ∈ store.versions, other.resourceVersion ≠ number)
      (hkey : ∀ other ∈ store.versions, other.key ≠ object.key) (htopo : object.status.topo = [])
      (hint : Kvrocks.IsInt object.status.version) : Moves store (store.put object number hfresh)
  | remove (store : Store KVRocks) (key : NamespacedName) : Moves store (store.remove key)

/-- All that runs for cluster instances. -/
def system (condition : KVRocks → Matrix → Prop) : System operator ℕ (Store KVRocks) where
  answers _ := Serves condition
  starts _ _ := Starts
  moves := Moves

/-! ## The contract of every thread -/

/-- What is known of every status that is stored: its shards have nodes, and its version is an `int`. -/
def Sane (object : KVRocks) : Prop := Solid object.status.topo ∧ Kvrocks.IsInt object.status.version

instance (object : KVRocks) : Decidable (Sane object) := inferInstanceAs (Decidable (_ ∧ _))

/-- An update that can be accepted advances what it replaces, unless it raises the largest version. -/
def contract : Contract operator (Store KVRocks) where
  answers := Serves Steady
  inv store := ∀ version ∈ store.versions, Sane version
  rely := Store.Later
  guarantee := Store.Later
  guard
    | .updateKVRocks object, store =>
      ∀ old, store.current object.key = some old → old.resourceVersion = object.resourceVersion →
        Advances old object ∨ Wraps old object
    | _, _ => True
  rely_refl := Store.later_refl
  rely_trans := Store.Later.trans

/-- The calls that leave the custom resources alone. -/
def stillKinds : List CallKind :=
  CallKind.createStatefulSet :: .updateStatefulSet :: .deleteStatefulSet :: .listPVC :: .enter ::
    queueKinds ++ calmKinds

variable {request : Call}

/-- A call that writes no instance changes nothing. -/
theorem serves_still (hkind : OfKind stillKinds request) {before after : Store KVRocks} {reply : request.Reply}
    (h : Serves Steady request before reply after) : contract.guard request before ∧ after = before := by
  cases request with
  | updateKVRocks object => simp [OfKind, stillKinds, queueKinds, calmKinds, Call.kind] at hkind
  | getKVRocks key => exact ⟨trivial, h.1.1⟩
  | _ => exact ⟨trivial, h.1⟩

/-- What is stable is kept by programs that leave the custom resources alone. -/
theorem stays {P : Store KVRocks → Prop}
    (hP : ∀ {before after : Store KVRocks}, before.Later after → P before → P after) :
    Stays contract.meaning (OfKind stillKinds) P := by
  intro α program post store hall hstore
  refine Contract.safe_of_stable (fun _ _ ↦ hP) ?_ hall hstore
  intro request hkind before reply after hinv hbefore hanswer
  obtain ⟨hguard, rfl⟩ := serves_still hkind hanswer
  exact ⟨hguard, hinv, Store.later_refl _, hbefore⟩

/-- A copy has the version of the object it was made from, until it has failed. -/
def Kept (old new : KVRocks) : Prop :=
  Advances old new ∧ (new.status.status ≠ .failed → new.status.version = old.status.version)

/-- A copy of a version that is stored. -/
def Fits (copy : KVRocks) (store : Store KVRocks) : Prop := store.Derived Kept copy ∧ Sane copy

/-- A copy that may be written. -/
def Ready (copy : KVRocks) (store : Store KVRocks) : Prop :=
  store.Derived (fun old new ↦ Advances old new ∨ Wraps old new) copy ∧ Sane copy

theorem Fits.later {copy : KVRocks} {before after : Store KVRocks} (h : Fits copy before)
    (hlater : before.Later after) : Fits copy after :=
  ⟨h.1.later hlater, h.2⟩

theorem Advances.live (h : Advances old object) (hlive : object.status.status ≠ .failed) :
    old.status.status ≠ .failed :=
  (h.resolve_left hlive).1

/-- A change that leaves the version alone. -/
theorem Fits.advance {copy changed : KVRocks} {store : Store KVRocks} (h : Fits copy store)
    (hkey : changed.key = copy.key) (hversion : changed.resourceVersion = copy.resourceVersion)
    (hkept : Kept copy changed) (hsane : Sane changed) : Fits changed store := by
  refine ⟨h.1.change hkey hversion fun _ horigin ↦ ⟨horigin.1.trans hkept.1, fun hlive ↦ ?_⟩, hsane⟩
  exact (hkept.2 hlive).trans (horigin.2 (hkept.1.live hlive))

/-- The last change before a copy is written may raise its version. -/
theorem Fits.ready {copy changed : KVRocks} {store : Store KVRocks} (h : Fits copy store)
    (hkey : changed.key = copy.key) (hversion : changed.resourceVersion = copy.resourceVersion)
    (hchanged : Advances copy changed ∨ Wraps copy changed) (hsane : Sane changed) : Ready changed store := by
  refine ⟨h.1.change hkey hversion fun _ horigin ↦ hchanged.imp horigin.1.trans fun hwraps ↦ ?_, hsane⟩
  exact ⟨horigin.1.live hwraps.1, (horigin.2 hwraps.1).symm.trans hwraps.2.1, hwraps.2.2⟩

/-- What has been read fits. -/
theorem fits_of_mem {store : Store KVRocks} (hinv : contract.inv store) (hmem : object ∈ store.versions) :
    Fits object store :=
  ⟨Store.derived_of_mem hmem ⟨Advances.refl object, fun _ ↦ rfl⟩, hinv object hmem⟩

/-- What a raised version is compared with the one that is raised. -/
theorem raised_advances {changed : KVRocks} (hlive : object.status.status ≠ .failed) (hsane : Sane object)
    (h : changed.status.version = Kvrocks.wrapInt (object.status.version + 1)) :
    Advances object changed ∨ Wraps object changed := by
  by_cases hmax : object.status.version = Text.maxInt
  · refine .inr ⟨hlive, hmax, ?_⟩
    rw [h, hmax]
    decide
  · rw [Kvrocks.wrapInt_succ hsane.2 hmax] at h
    exact .inl (.inr ⟨hlive, .inl (h ▸ Int.lt_succ _)⟩)

/-- Ready copies are written safely. -/
theorem upholds : Upholds contract (fun _ ↦ True) Fits Ready where
  same := Store.later_refl
  known _ _ := trivial
  fits hrely h := h.later hrely
  ready hrely h := ⟨h.1.later hrely, h.2⟩
  writable h := h.ready rfl rfl (.inl (Advances.refl _)) h.2
  calm hkind _ hanswer := serves_still (List.mem_append_right _ hkind) hanswer
  read hinv hanswer := fits_of_mem hinv (hanswer.1.2 _ rfl).1
  update := by
    intro object before reply after hinv _ hobject hanswer
    have hguard : contract.guard (.updateKVRocks object) before := fun _ ↦ hobject.1.of_accepted
    rcases hanswer.1 with ⟨number, hwrites, hreply⟩ | ⟨rfl, error, rfl⟩
    · have hlater := hwrites.later
      obtain ⟨-, hfresh, rfl⟩ := hwrites
      have hafter : contract.inv (before.put object number hfresh) := List.forall_mem_cons.mpr ⟨hobject.2, hinv⟩
      refine ⟨hguard, hafter, hlater, hlater, fun stamped hstamped ↦ fits_of_mem hafter ?_⟩
      rcases hreply with rfl | ⟨error, rfl⟩
      · cases hstamped
        exact List.mem_cons_self
      · cases hstamped
    · exact ⟨hguard, hinv, Store.later_refl _, Store.later_refl _, nofun⟩

/-- A failover leaves no shard empty. -/
theorem solid_updateTopology (msg : EventMessage) (masterID : String) (nodes : List Controller.Node)
    (h : Solid object.status.topo) : Solid (Events.updateTopology msg masterID nodes object).status.topo := by
  intro partition hpartition
  obtain ⟨index, hindex⟩ := List.mem_iff_getElem?.mp hpartition
  rw [Events.updateTopology, List.getElem?_modify] at hindex
  obtain ⟨old, hold, rfl⟩ := Option.map_eq_some_iff.mp hindex
  have hne := h old (List.mem_of_getElem? hold)
  split_ifs
  · simpa using hne
  · exact hne

/-- The threads hold on to copies that fit. -/
theorem tracks : Tracks contract.meaning (fun _ ↦ True) Fits := by
  apply upholds.tracks
  · intro object changed store h halike
    refine h.advance halike.key halike.resourceVersion ⟨advances_of_alike halike, fun _ ↦ halike.version⟩ ?_
    rw [Sane, halike.topo, halike.version]
    exact h.2
  · intro object store reason h
    exact h.advance rfl rfl ⟨.inl rfl, fun hlive ↦ absurd rfl hlive⟩ ⟨nofun, (by decide : Kvrocks.IsInt 0)⟩
  · intro object copies store msg masterID nodes h
    have hfits : Fits object store := h.2 object List.mem_cons_self
    have hready : Ready (Events.updateTopology msg masterID nodes object) store := by
      refine hfits.ready rfl rfl ?_ ⟨solid_updateTopology msg masterID nodes hfits.2.1, Kvrocks.isInt_wrapInt _⟩
      by_cases hfailed : object.status.status = .failed
      · exact .inl (.inl hfailed)
      · exact raised_advances hfailed hfits.2 rfl
    apply Meaning.wp_mono _ (upholds.updates hready h.tail)
    exact fun reply final hfinal ↦ hfinal.mono (fun hlost ↦ hlost) fun _ hsaved ↦ hsaved.tail

/-! ## The phases of a pass -/

/-- The receiver between `ensureKubernetes` and `ensureKVRocksStatus`. -/
def Fresh (h : Handler) (store : Store KVRocks) : Prop :=
  Holding (fun _ ↦ True) Fits Handler.instance_ h store ∧ h.version = h.instance_.status.version

/-- The receiver after `ensureKVRocksStatus`: the topology of its copy is that of its matrix. -/
def Known (h : Handler) (store : Store KVRocks) : Prop :=
  Fresh h store ∧ outline h.instance_.status.topo = painted h.stsNodes

variable {h : Handler}

theorem holding_later {before after : Store KVRocks} (hlater : before.Later after)
    (hholding : Holding (fun _ ↦ True) Fits Handler.instance_ h before) :
    Holding (fun _ ↦ True) Fits Handler.instance_ h after :=
  ⟨⟨trivial, fun copy hcopy ↦ (hholding.1.2 copy hcopy).later hlater⟩, hholding.2⟩

theorem Fresh.sane {store : Store KVRocks} (hfresh : Fresh h store) : Sane h.instance_ :=
  (hfresh.1.1.2 h.instance_ List.mem_cons_self).2

/-- The copy is written after it has been changed. -/
theorem updates_changed {store : Store KVRocks} {changed : KVRocks} {post : KVRocks → Store KVRocks → Prop}
    (hholding : Holding (fun _ ↦ True) Fits Handler.instance_ h store) (hkey : changed.key = h.instance_.key)
    (hversion : changed.resourceVersion = h.instance_.resourceVersion) (hlive : changed.status.status ≠ .failed)
    (hchanged : Advances h.instance_ changed ∨ Wraps h.instance_ changed) (hsane : Sane changed)
    (hpost : ∀ saved final, Holding (fun _ ↦ True) Fits Handler.instance_ { h with instance_ := saved } final →
      saved.status = changed.status → post saved final) :
    Updates contract.meaning (fun _ ↦ True) changed post store := by
  have hready := (hholding.1.2 h.instance_ List.mem_cons_self).ready hkey hversion hchanged hsane
  apply Meaning.wp_mono _ (upholds.updates hready hholding.1.tail)
  intro reply final hreply
  cases reply with
  | error error => trivial
  | ok number => exact hpost _ final ⟨hreply, hlive⟩ rfl

theorem solid_stored (h : Handler) : Solid (stored h).status.topo := by
  rw [solid_iff_outline, stored, withTopo, outline_statusTopo]
  exact nil_notMem_painted _

/-- The same topology under the same version. -/
theorem advances_of_same {matrix : Matrix} {version : ℤ} (hlive : object.status.status ≠ .failed)
    (h : version = object.status.version) (houtline : outline object.status.topo = painted matrix) :
    Advances object (withTopo object (matrix.map (·.map some)) version) :=
  .inr ⟨hlive, .inr ⟨h.symm, houtline.trans (outline_statusTopo object.name matrix).symm⟩⟩

/-- `ensureVersion` raises the version unless it finds the topology of the matrix. -/
theorem stored_versioned_advances {store : Store KVRocks} (hfresh : Fresh h store) :
    (Advances h.instance_ (stored (versioned h)) ∨ Wraps h.instance_ (stored (versioned h))) ∧
      Kvrocks.IsInt (stored (versioned h)).status.version := by
  unfold versioned
  split
  · exact ⟨raised_advances hfresh.1.2 hfresh.sane (by rw [← hfresh.2]; rfl), Kvrocks.isInt_wrapInt _⟩
  · rename_i hunchanged
    push Not at hunchanged
    have hsame := outline_of_unchanged (by simpa using hunchanged.2) hfresh.sane.1
    refine ⟨.inl (advances_of_same hfresh.1.2 hfresh.2 hsame), ?_⟩
    exact (hfresh.2 ▸ hfresh.sane.2 : Kvrocks.IsInt h.version)

/-- The phases of a pass advance the version with the topology. -/
theorem follows : Follows contract.meaning Fresh Known where
  fresh_stays h := by
    have hfresh := stays fun hlater (hfresh : Fresh h _) ↦ ⟨holding_later hlater hfresh.1, hfresh.2⟩
    exact fun _ _ _ _ hall ↦ hfresh (hall.mono (fun _ hkind ↦ List.mem_append_right _ hkind) fun _ hpost ↦ hpost)
  known_stays h := by
    have hknown := stays fun hlater (hknown : Known h _) ↦ ⟨⟨holding_later hlater hknown.1.1, hknown.1.2⟩, hknown.2⟩
    exact fun _ _ _ _ hall ↦ hknown (hall.mono (fun _ hkind ↦ List.mem_append_right _ hkind) fun _ hpost ↦ hpost)
  reshape hfresh hinstance hversion _ := by
    rw [Fresh, Holding, hinstance, hversion]
    exact hfresh
  repaint hknown hinstance hversion hfaces := by
    rw [Known, Fresh, Holding, hinstance, hversion, painted_of_faces hfaces]
    exact hknown
  run := by
    intro h store hfresh
    have halike := alike_running hfresh.1.2
    refine updates_changed hfresh.1 rfl rfl (by simp) (.inl (advances_of_alike halike)) hfresh.sane
      fun saved final hsaved hstatus ↦ ?_
    exact ⟨hsaved, hfresh.2.trans (congrArg KVRocksStatus.version hstatus).symm⟩
  fail := by
    intro h store hfresh
    have hraised : Advances h.instance_ (stored { h with version := Kvrocks.wrapInt (h.version + 1) }) ∨ _ :=
      raised_advances hfresh.1.2 hfresh.sane (by rw [← hfresh.2]; rfl)
    refine updates_changed hfresh.1 rfl rfl hfresh.1.2 hraised ⟨solid_stored _, Kvrocks.isInt_wrapInt _⟩
      fun saved final hsaved hstatus ↦ ?_
    exact ⟨hsaved, (congrArg KVRocksStatus.version hstatus).symm⟩
  settle := by
    intro h store hfresh
    have hsame : (versioned h).instance_ = h.instance_ ∧ (versioned h).stsNodes = h.stsNodes := by
      unfold versioned
      split <;> exact ⟨rfl, rfl⟩
    obtain ⟨hadvances, hint⟩ := stored_versioned_advances hfresh
    have hlive : (stored (versioned h)).status.status ≠ .failed := by
      rw [stored, hsame.1]
      exact hfresh.1.2
    refine updates_changed hfresh.1 (by rw [stored, hsame.1]; rfl) (by rw [stored, hsame.1]; rfl) hlive hadvances
      ⟨solid_stored _, hint⟩ fun saved final hsaved hstatus ↦ ⟨⟨hsaved, rfl⟩, ?_⟩
    calc outline saved.status.topo
      _ = outline (stored (versioned h)).status.topo := by rw [hstatus]
      _ = painted h.stsNodes := by rw [stored, hsame.2, withTopo, outline_statusTopo]
  persist := by
    intro h store hknown
    have hadvances := advances_of_same hknown.1.1.2 hknown.1.2 hknown.2
    have hint : Kvrocks.IsInt h.version := hknown.1.2 ▸ hknown.1.sane.2
    refine updates_changed hknown.1.1 rfl rfl hknown.1.1.2 (.inl hadvances) ⟨solid_stored h, hint⟩
      fun saved final hsaved hstatus ↦ ⟨⟨hsaved, (congrArg KVRocksStatus.version hstatus).symm⟩, ?_⟩
    calc outline saved.status.topo
      _ = outline (stored h).status.topo := by rw [hstatus]
      _ = painted h.stsNodes := outline_statusTopo _ _

theorem holding_still (h : Handler) :
    Stays contract.meaning (OfKind stillKinds) (Holding (fun _ ↦ True) Fits Handler.instance_ h) := stays holding_later

/-- Carrying out a shrink message keeps the copy. -/
theorem cleanStatefulSetIfShrinking_preserves :
    cleanStatefulSetIfShrinking.Preserves contract.meaning (Holding (fun _ ↦ True) Fits Handler.instance_) := by
  apply preserves_get.bind
  intro h
  cases h.instance_.status.shrink with
  | none => exact preserves_pure ()
  | some shrink =>
    apply preserves_get.bind
    intro h
    have hdelete : Leaves [.getStatefulSet, .deleteStatefulSet] (fun h : Handler ↦ h) (Method.lift (forEach (fun index ↦
        K8s.deleteStatefulSetIfExists (statefulSetKey h.instance_ index)) shrink.partition) : HandlerM Unit) :=
      Leaves.lift (makes_forEach fun index _ ↦ K8s.deleteStatefulSetIfExists_makes _)
    apply (preserves_holding holding_still hdelete (by decide) (fun _ _ hsame ↦ by rw [hsame])).bind
    intro _
    have hreserve : Leaves [.getStatefulSet, .updateStatefulSet] (fun h : Handler ↦ h)
        (Method.lift (forEach (applyReserve h.instance_) shrink.reserveMsg) : HandlerM Unit) :=
      Leaves.lift (makes_forEach fun entry _ ↦ applyReserve_makes _ entry)
    apply (preserves_holding holding_still hreserve (by decide) (fun _ _ hsame ↦ by rw [hsame])).bind
    intro _ later store hlater
    apply ends_modify_bind
    apply saveInstance_yields
    have hsane := (hlater.1.2 later.instance_ List.mem_cons_self).2
    exact updates_changed hlater rfl rfl hlater.2 (raised_advances hlater.2 hsane rfl)
      ⟨hsane.1, Kvrocks.isInt_wrapInt _⟩ fun _ _ hsaved _ ↦ hsaved

/-- Unless it asks for a requeue, `ensureKubernetes` sets the version of the receiver. -/
theorem ensureKubernetes_yields {store : Store KVRocks}
    (hholding : Holding (fun _ ↦ True) Fits Handler.instance_ h store) :
    ensureKubernetes.Yields contract.meaning (fun _ ↦ True)
      (fun _ later final ↦ Holding (fun _ ↦ True) Fits Handler.instance_ later final ∧
        (later.requeue = false → later.version = later.instance_.status.version)) h store := by
  have hboth := yields_arbitrary_and ((ensureKubernetes_leaves.mono (by decide : _ ⊆ stillKinds)) h)
    (ensureKubernetes_fits h)
  apply ((stays holding_later).yields hboth hholding).imp
  rintro _ later final ⟨⟨hsame, hfits⟩, hfinal⟩
  simp only [Prod.mk.injEq] at hsame
  refine ⟨?_, fun hrequeue ↦ (hfits hrequeue).2⟩
  rwa [Holding, hsame.1]

/-! ## What a shrink writes -/

/-- Masters are never reserved. -/
theorem reserveLoop_masters (delta masterID : ℕ) {nodes : List Node} (h : ∀ node ∈ nodes, node.role = .master) :
    (reserveLoop delta masterID nodes).1 = [] := by
  rw [reserveLoop_fst, List.filter_eq_nil_iff.mpr fun node hnode ↦ by simp [h node hnode]]
  simp

/-- A shard that is small enough or has only masters keeps all of its nodes. -/
theorem getReserveIndex_steady {replicas : ℤ} {nodes : List Node}
    (h : (nodes.length : ℤ) ≤ replicas ∨ ∀ node ∈ nodes, node.role = .master) :
    ∃ reserve, getReserveIndex replicas nodes = some (reserve, nodes.map some) := by
  by_cases hdelta : (nodes.length : ℤ) - replicas > 0
  · have hmasters : ∀ node ∈ nodes.reverse, node.role = .master := by
      intro node hnode
      exact (h.resolve_left (by omega)) node (List.mem_reverse.mp hnode)
    refine ⟨some [], ?_⟩
    rw [getReserveIndex, if_pos hdelta]
    change Option.bind (removeLoop _ (reserveLoop _ 0 nodes.reverse).1.reverse _) _ = _
    rw [reserveLoop_masters _ _ hmasters]
    rfl
  · refine ⟨none, ?_⟩
    rw [getReserveIndex, if_neg hdelta]

/-- No shard loses a node. -/
theorem shrinkShards_steady {instance_ : KVRocks} {index : ℕ} {shards : Matrix}
    (h : ∀ nodes ∈ shards, (nodes.length : ℤ) ≤ instance_.spec.replicas ∨ ∀ node ∈ nodes, node.role = .master)
    {reserves : List (String × List ℕ)} {kept : List (List (Option Node))}
    (hshrink : shrinkShards instance_ index shards = some (reserves, kept)) : kept = shards.map (·.map some) := by
  have htrimmed := forall₂_shrinkShards hshrink
  clear hshrink
  induction htrimmed with
  | nil => rfl
  | cons hnodes _ ih =>
    obtain ⟨hhead, hrest⟩ := List.forall_mem_cons.mp h
    obtain ⟨ids, hids⟩ := hnodes
    obtain ⟨ids', hids'⟩ := getReserveIndex_steady hhead
    rw [hids'] at hids
    rw [List.map_cons, ← ih hrest, (Prod.mk.inj (Option.some.inj hids)).2]

/-- The shards that stay are all that has nodes. -/
theorem painted_take {instance_ : KVRocks} {stsNodes : Matrix}
    (h : ∀ nodes ∈ stsNodes.drop instance_.spec.master, nodes = []) :
    painted (stsNodes.take instance_.spec.master) = painted stsNodes := by
  have hrest : painted (stsNodes.drop instance_.spec.master) = [] := by
    rw [painted, List.filter_eq_nil_iff.mpr fun nodes hnodes ↦ by simp [h nodes hnodes], List.map_nil]
  calc painted (stsNodes.take instance_.spec.master)
    _ = painted (stsNodes.take instance_.spec.master) ++ painted (stsNodes.drop instance_.spec.master) := by
      rw [hrest, List.append_nil]
    _ = painted stsNodes := by rw [← painted_append, List.take_append_drop]

/-- A plan that removes nothing leaves a copy that fits. -/
theorem planShrink_yields {store : Store KVRocks} (hknown : Known h store) (hsteady : Steady h.instance_ h.stsNodes)
    (hrebalance : h.instance_.status.rebalance = false) :
    planShrink.Yields contract.meaning (fun _ ↦ True)
      (fun _ later final ↦ Holding (fun _ ↦ True) Fits Handler.instance_ later final) h store := by
  obtain ⟨hsurplus, hshards⟩ := hsteady.resolve_left (by simp [hrebalance])
  apply ends_get_bind
  split
  · exact Method.ends_lift (ends_panic trivial)
  · have hplan : (Fallible.ofOption (shrinkShards h.instance_ 0 (h.stsNodes.take h.instance_.spec.master)) :
        Go _).Yields contract.meaning (fun _ ↦ True) (fun plan final ↦ Known h final ∧
          plan.2 = (h.stsNodes.take h.instance_.spec.master).map (·.map some)) store :=
      yields_ofOption (fun _ hplan ↦ ⟨hknown, shrinkShards_steady hshards hplan⟩) fun _ ↦ trivial
    apply ends_lift_bind hplan
    rintro ⟨reserves, kept⟩ reached ⟨hreached, hkept⟩
    obtain rfl : kept = _ := hkept
    simp only
    split
    · exact Method.ends_pure hreached.1.1
    · apply ends_modify_bind
      apply persistTopo_yields
      have hsame := hreached.2.trans (painted_take hsurplus).symm
      refine updates_changed hreached.1.1 rfl rfl hreached.1.1.2
        (.inl (.inr ⟨hreached.1.1.2, .inr ⟨hreached.1.2.symm, ?_⟩⟩)) ⟨?_, ?_⟩ fun saved final hsaved _ ↦ hsaved
      · exact hsame.trans (outline_statusTopo _ _).symm
      · rw [solid_iff_outline, withTopo, outline_statusTopo]
        exact nil_notMem_painted _
      · exact (hreached.1.2 ▸ hreached.1.sane.2 : Kvrocks.IsInt h.version)

/-- A steady matrix is left as it is. -/
theorem ensureShrink_yields {store : Store KVRocks} (hknown : Known h store) :
    ensureShrink.Yields contract.meaning (fun _ ↦ True)
      (fun _ later final ↦ Holding (fun _ ↦ True) Fits Handler.instance_ later final) h store := by
  have hlater {h : Handler} {before after : Store KVRocks} (hlater : before.Later after) (hknown : Known h before) :
      Known h after := ⟨⟨holding_later hlater hknown.1.1, hknown.1.2⟩, hknown.2⟩
  have henter : (Fallible.lift (ask (.enter (.ensureShrink h.instance_ h.stsNodes))) : Go Unit).Yields
      contract.meaning (fun _ ↦ True) (fun _ final ↦ Known h final ∧ Steady h.instance_ h.stsNodes) store := by
    apply ends_lift
    intro before hrely hinv reply after hanswer
    obtain ⟨hsame, hsteady⟩ := hanswer
    obtain rfl : after = before := hsame
    exact ⟨trivial, hinv, Store.later_refl _, hlater hrely hknown, hsteady⟩
  apply ends_get_bind
  apply ends_lift_bind henter
  rintro _ reached ⟨hreached, hsteady⟩
  split
  · exact Method.ends_pure hreached.1.1
  · rename_i hrebalance
    have hmonitors : Leaves stillKinds (fun h : Handler ↦ (h.instance_, h.version, h.stsNodes))
        (forEach removeShardMonitor (shrinkIndex h)) :=
      Leaves.forEach (fun index ↦ ((removeShardMonitor_leaves index).mono (by decide)).of_part (by simp_all)) _
    apply ((stays hlater).yields (hmonitors h) hreached).bind
    rintro _ later final ⟨hsame, hfinal⟩
    simp only [Prod.mk.injEq] at hsame
    obtain ⟨hinstance, hversion, hmatrix⟩ := hsame
    apply planShrink_yields
    · rw [Known, Fresh, Holding, hinstance, hversion, hmatrix]
      exact hfinal
    · rw [hinstance, hmatrix]
      exact hsteady
    · rw [hinstance]
      simpa using hrebalance

/-! ## All threads -/

theorem handle_yields {store : Store KVRocks} (hholding : Holding (fun _ ↦ True) Fits Handler.instance_ h store) :
    handle.Yields contract.meaning (fun _ ↦ True) (fun _ _ _ ↦ True) h store := by
  have hclaims : cleanPersistentVolumeClaim.Preserves contract.meaning
      (Holding (fun _ ↦ True) Fits Handler.instance_) :=
    preserves_holding holding_still cleanPersistentVolumeClaim_leaves (by decide) (by simp_all)
  refine handle_yields_of follows (preserves_holding holding_still ensureController_leaves (by decide) (by simp_all))
    cleanStatefulSetIfShrinking_preserves (fun hheld ↦ (ensureKubernetes_yields hheld).imp ?_) ensureShrink_yields
    (ensureSentinel_holding tracks) (fun hleft ↦ (hclaims _ _ hleft).imp fun _ _ _ _ ↦ trivial) hholding
  exact fun _ _ _ hlater hrequeue ↦ ⟨hlater.1, hlater.2 hrequeue⟩

theorem starts_safe {program : Program operator Unit} (h : Starts program) (store : Store KVRocks) :
    contract.Safe program (fun _ _ ↦ True) store := by
  have hqueue : Stays contract.meaning (OfKind queueKinds) fun _ ↦ True := by
    intro α program post store hall hstore
    refine stays (fun _ hbefore ↦ hbefore) (hall.mono (fun _ hkind ↦ ?_) fun _ hpost ↦ hpost) hstore
    exact (by decide : queueKinds ⊆ stillKinds) hkind
  cases h with
  | reconcile key =>
    refine OwnedShards.reconcile_safe tracks (fun hfits ↦ ?_) handle_yields key trivial
    exact hfits.advance rfl rfl ⟨advances_of_status rfl, fun _ ↦ rfl⟩ hfits.2
  | handleFailover client msg => exact OwnedShards.handleFailover_safe tracks hqueue client msg trivial

theorem certified : (system Steady).Certified contract.inv fun _ ↦ contract where
  answers_eq _ := rfl
  inv_eq _ := rfl
  rely_of_guarantee _ _ _ _ _ h := h
  move before after hinv hmove := by
    cases hmove with
    | edit object old number hfresh hcurrent hstatus =>
      refine ⟨List.forall_mem_cons.mpr ⟨?_, hinv⟩, fun _ ↦ before.later_put object number hfresh⟩
      have hold := hinv old (before.stored hcurrent).1
      rwa [Sane, ← hstatus] at hold
    | create object number hfresh hkey htopo hint =>
      refine ⟨List.forall_mem_cons.mpr ⟨?_, hinv⟩, fun _ ↦ before.later_put object number hfresh⟩
      have hsolid : Solid object.status.topo := by simp [Solid, htopo]
      exact ⟨hsolid, hint⟩
    | remove key => exact ⟨hinv, fun _ ↦ before.later_remove key⟩
  start _ store _ _ hstart := starts_safe hstart store

/-- An object that has been stored advances as long as something is stored under its name. -/
structure Traced (old : KVRocks) (store : Store KVRocks) : Prop where
  stored : old ∈ store.versions
  advances : ∀ new, store.current old.key = some new → Advances old new

/-- A later version that advances is traced. -/
theorem Traced.put {store : Store KVRocks} {number : ℕ}
    {hfresh : ∀ other ∈ store.versions, other.resourceVersion ≠ number} (h : Traced old store)
    (hobject : old.key = object.key → Advances old object) :
    Traced old (store.put object number hfresh) where
  stored := List.mem_cons_of_mem _ h.stored
  advances new hnew := by
    rw [Store.put_current] at hnew
    split_ifs at hnew with hkey
    · cases hnew
      exact hobject hkey
    · exact h.advances new hnew

/-- Users do not touch the status. -/
theorem Traced.move {before after : Store KVRocks} (h : Traced old before) (hmove : Moves before after) :
    Traced old after := by
  cases hmove with
  | edit object replaced number hfresh hcurrent hstatus =>
    apply h.put
    intro hkey
    exact (h.advances replaced (hkey ▸ hcurrent)).trans (advances_of_status hstatus)
  | create object number hfresh hkey htopo hint => exact h.put fun hsame ↦ absurd hsame (hkey old h.stored)
  | remove key =>
    refine ⟨h.stored, fun new hnew ↦ ?_⟩
    by_cases hkey : old.key = key
    · simp [Store.remove, hkey] at hnew
    · exact h.advances new (by simpa [Store.remove, hkey] using hnew)

/-- A guarded write advances. -/
theorem Traced.call {before after : Store KVRocks} {reply : request.Reply} (h : Traced old before)
    (hguard : contract.guard request before) (hanswer : Serves Steady request before reply after) :
    Traced old after := by
  cases request with
  | updateKVRocks object =>
    rcases hanswer.1 with ⟨number, ⟨⟨replaced, hcurrent, hversion⟩, hfresh, rfl⟩, -⟩ | ⟨rfl, -⟩
    · apply h.put
      intro hkey
      have hadvances := (hguard replaced hcurrent hversion).resolve_right (hanswer.2 replaced hcurrent hversion)
      exact (h.advances replaced (hkey ▸ hcurrent)).trans hadvances
    · exact h
  | getKVRocks key => exact hanswer.1.1 ▸ h
  | _ => exact hanswer.1 ▸ h

/-- In every run in which `ensureShrink` removes no node and the largest version is not raised, of any two states of
an instance that have not failed the later one has no smaller version, and with an equal version it has an equal
topology. -/
theorem version_identifies_topology {store : Store KVRocks} (hstore : ∀ version ∈ store.versions, Sane version)
    {first second : System.Config operator ℕ (Store KVRocks)}
    (hfirst : (system Steady).Reaches (System.initial store) first) (hsecond : (system Steady).Reaches first second)
    {key : NamespacedName} {old new : KVRocks} (hold : first.world.current key = some old)
    (hnew : second.world.current key = some new) (hlive : new.status.status ≠ .failed) :
    old.status.version ≤ new.status.version ∧
      (old.status.version = new.status.version → outline old.status.topo = outline new.status.topo) := by
  have hstored := first.world.stored hold
  have htraced : Traced old second.world := by
    clear hnew
    induction hsecond with
    | refl =>
      refine ⟨hstored.1, fun found hfound ↦ ?_⟩
      rw [show old.key = key from hstored.2, hold] at hfound
      exact Option.some.inj hfound ▸ Advances.refl old
    | tail hreach hstep ih =>
      cases hstep with
      | move hmove => exact ih.move hmove
      | start thread hidle hstart => exact ih
      | call thread hnext hanswer =>
        exact ih.call (System.reaches_guard certified hstore (hfirst.trans hreach) hnext hanswer) hanswer
      | stop thread => exact ih
  have hadvances := htraced.advances new (by rw [show old.key = key from hstored.2]; exact hnew)
  rcases hadvances with hfailed | ⟨-, hless | ⟨hsame, houtline⟩⟩
  · exact absurd hfailed hlive
  · exact ⟨hless.le, fun heq ↦ absurd heq hless.ne⟩
  · exact ⟨hsame.le, fun _ ↦ houtline⟩

/-! ## Passes over a cluster of four shards -/

/-- A running cluster of which the user wants four shards. -/
def settled : KVRocks := { lowered with spec := { lowered.spec with master := 4 } }

def settledStore : Store KVRocks := (Store.single OwnedShards.sentinel 1).put settled 2 OwnedShards.sentinel_fresh

/-- Nobody interferes; `ensureShrink` goes on only if the check is passed. -/
def serve (check : KVRocks → Matrix → Bool) : (request : Call) → Store KVRocks → Option (request.Reply × Store KVRocks)
  | .getKVRocks key, store => some ((store.current key).elim (.error .notFound) .ok, store)
  | .updateKVRocks object, store =>
    if ∀ old ∈ store.current object.key, ¬ Wraps old object then some (Lifecycle.accept object store) else none
  | .enter (.ensureShrink instance_ stsNodes), store => if check instance_ stsNodes then some ((), store) else none
  | request, store => some (Claims.answer 4 request, store)

variable {check : KVRocks → Matrix → Bool} {condition : KVRocks → Matrix → Prop}

theorem serves_serve (hcheck : ∀ instance_ stsNodes, check instance_ stsNodes = true → condition instance_ stsNodes)
    {store : Store KVRocks} {answer : request.Reply × Store KVRocks} (h : serve check request store = some answer) :
    Serves condition request store answer.1 answer.2 := by
  cases request with
  | getKVRocks key =>
    cases h
    exact ⟨Lifecycle.serves_current key store, trivial⟩
  | updateKVRocks object =>
    simp only [serve] at h
    split at h
    · rename_i hpassed
      cases h
      exact ⟨Lifecycle.serves_accept object store, fun old hold _ ↦ hpassed old hold⟩
    · cases h
  | enter phase =>
    cases phase with
    | ensureShrink instance_ stsNodes =>
      simp only [serve] at h
      split at h
      · rename_i hpassed
        cases h
        exact ⟨rfl, hcheck _ _ hpassed⟩
      · cases h
  | _ =>
    cases h
    exact ⟨rfl, trivial⟩

/-- Passes over the instance. -/
def passes (check : KVRocks → Matrix → Bool) : System.Player operator ℕ (Store KVRocks) where
  program _ := (reconcile (fun _ ↦ clusterHandler lowered.key) lowered.key).program.bind fun _ ↦ .done ()
  startable _ _ := true
  serve _ := serve check

theorem passes_plays (hcheck : ∀ instance_ stsNodes, check instance_ stsNodes = true → condition instance_ stsNodes) :
    (passes check).Plays (system condition) where
  start _ _ _ := .reconcile lowered.key
  serve _ _ _ _ h := serves_serve hcheck h

/-- A version and the topology that it stands for. -/
structure Snapshot where
  version : ℤ
  shards : List (List (String × Role))
  deriving DecidableEq

/-- The version and the shards of the instance, unless it has failed. -/
def seen (config : System.Config operator ℕ (Store KVRocks)) : Option Snapshot :=
  (config.world.current lowered.key).bind fun object ↦
    if object.status.status = .failed then none else some ⟨object.status.version, outline object.status.topo⟩

/-- What a snapshot shows is stored. -/
theorem current_of_seen {config : System.Config operator ℕ (Store KVRocks)} {version : ℤ}
    {shards : List (List (String × Role))} (h : seen config = some ⟨version, shards⟩) :
    ∃ object, config.world.current lowered.key = some object ∧ object.status.status ≠ .failed ∧
      object.status.version = version ∧ outline object.status.topo = shards := by
  obtain ⟨object, hcurrent, hobject⟩ := Option.bind_eq_some_iff.mp h
  split at hobject
  · cases hobject
  · rename_i hlive
    obtain ⟨hversion, hshards⟩ := Snapshot.mk.inj (Option.some.inj hobject)
    exact ⟨object, hcurrent, hlive, hversion, hshards⟩

/-- The states of a pass after so many calls and after some more. -/
def snapshots (check : KVRocks → Matrix → Bool) (store : Store KVRocks) (calls more : ℕ) :
    Option (Snapshot × Snapshot) := do
  let first ← (passes check).play (.start 0 :: List.replicate calls (.answer 0)) (System.initial store)
  let second ← (passes check).play (List.replicate more (.answer 0)) first
  some (← seen first, ← seen second)

/-- Two snapshots are two states of a run. -/
theorem reaches_of_snapshots
    (hcheck : ∀ instance_ stsNodes, check instance_ stsNodes = true → condition instance_ stsNodes)
    {store : Store KVRocks} {calls more : ℕ} {old new : Snapshot}
    (h : snapshots check store calls more = some (old, new)) :
    ∃ first second, (system condition).Reaches (System.initial store) first ∧
      (system condition).Reaches first second ∧ seen first = some old ∧ seen second = some new := by
  simp only [snapshots, Option.bind_eq_bind, Option.bind_eq_some_iff] at h
  obtain ⟨first, hfirst, second, hsecond, found, hfound, last, hlast, hpair⟩ := h
  cases hpair
  exact ⟨first, second, System.Player.play_reaches (passes_plays hcheck) hfirst,
    System.Player.play_reaches (passes_plays hcheck) hsecond, hfound, hlast⟩

/-- The shards of the instance, each with its master only. -/
def masters (count : ℕ) : List (List (String × Role)) :=
  (List.range count).map fun shard ↦ [(getStatefulSetName lowered.name shard, Role.master)]

/-- A pass over four shards, all of them wanted, writes its topology twice under one version. -/
theorem settled_version_kept : ∃ first second old new, (system Steady).Reaches (System.initial settledStore) first ∧
      (system Steady).Reaches first second ∧
      first.world.current lowered.key = some old ∧ second.world.current lowered.key = some new ∧
      outline old.status.topo = masters 4 ∧
      (old.status.version ≤ new.status.version ∧
        (old.status.version = new.status.version → outline old.status.topo = outline new.status.topo)) := by
  have hrun : snapshots (fun instance_ stsNodes ↦ decide (Steady instance_ stsNodes)) settledStore 72 4 =
      some (⟨1, masters 4⟩, ⟨1, masters 4⟩) := by decide +kernel
  obtain ⟨first, second, hfirst, hsecond, hold, hnew⟩ := reaches_of_snapshots
    (fun instance_ stsNodes (h : _ = true) ↦ (of_decide_eq_true h : Steady instance_ stsNodes)) hrun
  obtain ⟨old, hcurrent, -, -, hshards⟩ := current_of_seen hold
  obtain ⟨new, hlater, hlive, -, -⟩ := current_of_seen hnew
  have hsane : ∀ version ∈ settledStore.versions, Sane version := by decide
  exact ⟨first, second, old, new, hfirst, hsecond, hcurrent, hlater, hshards,
    version_identifies_topology hsane hfirst hsecond hcurrent hlater hlive⟩

/-- The user wants three of four shards: `ensureShrink` writes a smaller topology under the same version. -/
theorem shrink_keeps_version :
    ∃ first second old new, (system fun _ _ ↦ True).Reaches (System.initial demoStore) first ∧
      (system fun _ _ ↦ True).Reaches first second ∧
      first.world.current lowered.key = some old ∧ second.world.current lowered.key = some new ∧
      old.status.status ≠ .failed ∧ new.status.status ≠ .failed ∧ old.status.version = new.status.version ∧
      outline old.status.topo = masters 4 ∧ outline new.status.topo = masters 3 := by
  have hrun : snapshots (fun _ _ ↦ true) demoStore 71 7 = some (⟨1, masters 4⟩, ⟨1, masters 3⟩) := by decide +kernel
  obtain ⟨first, second, hfirst, hsecond, hold, hnew⟩ := reaches_of_snapshots
    (fun _ _ _ ↦ (trivial : (fun _ _ ↦ True : KVRocks → Matrix → Prop) _ _)) hrun
  obtain ⟨old, hcurrent, hlive, hversion, hshards⟩ := current_of_seen hold
  obtain ⟨new, hlater, hlive', hversion', hshards'⟩ := current_of_seen hnew
  exact ⟨first, second, old, new, hfirst, hsecond, hcurrent, hlater, hlive, hlive', hversion.trans hversion'.symm,
    hshards, hshards'⟩

end KvrocksOperator.Controllers.TopologyVersion
