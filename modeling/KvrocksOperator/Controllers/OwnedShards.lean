import KvrocksOperator.Cluster.Claims
import KvrocksOperator.Controllers.Lifecycle

/-!
# Shards that own slots

`ensureShrink` announces the removal of the shards beyond `Spec.Master`, `cleanStatefulSet` deletes their StatefulSets
in a later pass, and `cleanPersistentVolumeClaim` their claims.  None of them looks at the slots.  The runs here note
what `ensureShrink` holds whenever it is entered: as long as it never holds a surplus shard whose master owns slots,
and no surplus shard at all while `Status.Rebalance` keeps it from planning, nothing of a shard with slots is deleted.
-/

namespace KvrocksOperator.Controllers.OwnedShards

open Interaction Resources Cluster Cluster.Claims

/-! ## The runs -/

/-- What `ensureShrink` held when a thread entered it. -/
structure Entry where
  thread : ℕ
  instance_ : KVRocks
  stsNodes : Matrix

/-- The master of a shard is recorded with slots. -/
def Owned (stsNodes : Matrix) (shard : ℕ) : Prop :=
  ∃ node ∈ stsNodes.getD shard [], node.role = .master ∧ node.slots ≠ []

instance (stsNodes : Matrix) (shard : ℕ) : Decidable (Owned stsNodes shard) :=
  inferInstanceAs (Decidable (∃ node ∈ _, _))

/-- `ensureShrink` announces the removal of the shard. -/
def Entry.Plans (entry : Entry) (owner : NamespacedName) (shard : ℕ) : Prop :=
  entry.instance_.key = owner ∧ entry.instance_.status.rebalance = false ∧
    entry.instance_.spec.master ≤ shard ∧ shard < entry.stsNodes.length

instance (entry : Entry) (owner : NamespacedName) (shard : ℕ) : Decidable (entry.Plans owner shard) :=
  inferInstanceAs (Decidable (_ ∧ _))

/-- No surplus shard owns slots, and none is there while nothing can be announced. -/
def Careful (entry : Entry) : Prop :=
  ∀ shard, entry.instance_.spec.master ≤ shard →
    if entry.instance_.status.rebalance then entry.stsNodes.getD shard [] = [] else ¬ Owned entry.stsNodes shard

/-- The objects, the entries into `ensureShrink`, newest first, and the threads that have listed the claims. -/
structure World where
  store : Store KVRocks
  entered : List Entry
  sweeping : ℕ → Bool

/-- The entries of one thread. -/
def World.own (world : World) (thread : ℕ) : List Entry := world.entered.filter (·.thread = thread)

/-- The entries after a call. -/
def noted (thread : ℕ) (entered : List Entry) : Call → List Entry
  | .enter (.ensureShrink instance_ stsNodes) => ⟨thread, instance_, stsNodes⟩ :: entered
  | _ => entered

/-- The threads that have listed the claims after a call. -/
def swept (thread : ℕ) (sweeping : ℕ → Bool) : Call → ℕ → Bool
  | .listPVC _ _ => Function.update sweeping thread true
  | _ => sweeping

/-- The claims with the labels of an instance are those of its pods. -/
def Lists : (request : Call) → request.Reply → Prop
  | .listPVC ns labels, reply =>
    ∀ found, reply = .ok found → ∀ instance_ : KVRocks, labels = selectorLabels instance_ →
      ∀ key ∈ found, ∃ claim : Claim, claim.instanceName = instance_.name ∧ key = claim.key ns
  | _, _ => True

/-- Every entry into `ensureShrink` meets the condition. -/
def Meets (condition : Entry → Prop) (thread : ℕ) : Call → Prop
  | .enter (.ensureShrink instance_ stsNodes) => condition ⟨thread, instance_, stsNodes⟩
  | _ => True

/-- How the calls of a thread are answered. -/
def Serves (condition : Entry → Prop) (thread : ℕ) : Program.Answers operator World := fun request before reply after ↦
  Lifecycle.Serves request before.store reply after.store ∧ after.entered = noted thread before.entered request ∧
    after.sweeping = swept thread before.sweeping request ∧ Lists request reply ∧ Meets condition thread request

/-- Users create, edit and delete objects, but announce no shrink themselves. -/
inductive Moves : World → World → Prop where
  | put (world : World) (object : KVRocks) (number : ℕ)
      (hfresh : ∀ other ∈ world.store.versions, other.resourceVersion ≠ number)
      (hshrink : ∀ shrink, object.status.shrink = some shrink →
        ∃ old, world.store.current object.key = some old ∧ old.status.shrink = some shrink) :
      Moves world { world with store := world.store.put object number hfresh }
  | remove (world : World) (key : NamespacedName) : Moves world { world with store := world.store.remove key }

/-- What is run for cluster instances. -/
inductive Starts : Program operator Unit → Prop where
  | reconcile (key : NamespacedName) :
      Starts ((reconcile (fun _ ↦ clusterHandler key) key).program.bind fun _ ↦ .done ())
  | handleFailover (client : Controller.Client) (msg : EventMessage) :
      Starts ((Events.handleFailover client msg).program.bind fun _ ↦ .done ())

/-- The thread has neither entered `ensureShrink` nor listed the claims. -/
def Unused (thread : ℕ) (world : World) : Prop := world.own thread = [] ∧ world.sweeping thread = false

/-- All that runs for cluster instances; every pass has a thread of its own. -/
def system (condition : Entry → Prop) : System operator ℕ World where
  answers := Serves condition
  starts thread world program := Unused thread world ∧ Starts program
  moves := Moves

/-- No announcement of the removal of the shard was made with slots at its master. -/
def Unowned (entered : List Entry) (owner : NamespacedName) (shard : ℕ) : Prop :=
  ∀ entry ∈ entered, entry.Plans owner shard → ¬ Owned entry.stsNodes shard

/-- What the deletions of a pass have to meet: a StatefulSet is deleted only after its removal was announced, and a
claim of a surplus shard is cleaned up only if the pass held no such shard; neither of the shards owned slots when its
removal was announced. -/
def Lawful (thread : ℕ) : Call → World → Prop
  | .deleteStatefulSet key, world =>
    ∀ (owner : NamespacedName) (shard : ℕ), key = ⟨owner.ns, getStatefulSetName owner.name shard⟩ →
      (∃ entry ∈ world.entered, entry.Plans owner shard) ∧ Unowned world.entered owner shard
  | .deletePVC key, world =>
    world.sweeping thread = true → ∀ (owner : NamespacedName) (claim : Claim),
      claim.instanceName = owner.name → key = claim.key owner.ns →
        ∃ entry, world.own thread = [entry] ∧ entry.instance_.key = owner ∧ (entry.instance_.spec.master ≤ claim.shard →
            entry.stsNodes.getD claim.shard [] = [] ∧ Unowned world.entered owner claim.shard)
  | _, _ => True

/-! ## The contract of a thread -/

/-- The removals in the shrink message of an object were announced. -/
def Justified (object : KVRocks) (entered : List Entry) : Prop :=
  ∀ shrink, object.status.shrink = some shrink →
    ∀ shard ∈ shrink.partition, ∃ entry ∈ entered, entry.Plans object.key shard

/-- More entries justify as much. -/
theorem Justified.mono {object : KVRocks} {entered later : List Entry} (h : Justified object entered)
    (hsubset : entered ⊆ later) : Justified object later := by
  intro shrink hshrink shard hshard
  obtain ⟨entry, hentry, hplans⟩ := h shrink hshrink shard hshard
  exact ⟨entry, hsubset hentry, hplans⟩

/-- All messages are justified, and no surplus shard owned slots. -/
def Inv (world : World) : Prop :=
  (∀ version ∈ world.store.versions, Justified version world.entered) ∧ ∀ entry ∈ world.entered, Careful entry

variable {world before : World}

/-- The entries so far removed no shard with slots. -/
theorem Inv.unowned (h : Inv world) (owner : NamespacedName) (shard : ℕ) : Unowned world.entered owner shard := by
  rintro entry hentry ⟨-, hrebalance, hmaster, -⟩
  have hcareful := h.2 entry hentry shard hmaster
  rwa [hrebalance] at hcareful

/-- Nothing is forgotten. -/
structure Later (before after : World) : Prop where
  store : before.store.Later after.store
  entered : before.entered ⊆ after.entered

/-- What a thread can rely on others to leave alone. -/
structure Apart (thread : ℕ) (before after : World) : Prop where
  own : after.own thread = before.own thread
  sweeping : after.sweeping thread = before.sweeping thread

theorem Later.refl (world : World) : Later world world := ⟨Store.later_refl _, List.Subset.refl _⟩

theorem Apart.refl (thread : ℕ) (world : World) : Apart thread world world := ⟨rfl, rfl⟩

def contract (thread : ℕ) : Contract operator World where
  answers := Serves Careful thread
  inv := Inv
  rely before after := Later before after ∧ Apart thread before after
  guarantee before after := Later before after ∧ ∀ other, other ≠ thread → Apart other before after
  guard := Lawful thread
  rely_refl world := ⟨.refl world, .refl thread world⟩
  rely_trans h h' := ⟨⟨h.1.store.trans h'.1.store, List.Subset.trans h.1.entered h'.1.entered⟩,
    h'.2.own.trans h.2.own, h'.2.sweeping.trans h.2.sweeping⟩

/-- The calls that leave entries and claims alone and delete no StatefulSet. -/
def stillKinds : List CallKind := CallKind.createStatefulSet :: .updateStatefulSet :: calmKinds

variable {thread : ℕ}

variable {request : Call}

theorem noted_of_kind (h : request.kind ≠ .enter) (entered : List Entry) : noted thread entered request = entered := by
  cases request with
  | enter phase => exact absurd rfl h
  | _ => rfl

theorem swept_of_kind (h : request.kind ≠ .listPVC) (sweeping : ℕ → Bool) :
    swept thread sweeping request = sweeping := by
  cases request with
  | listPVC ns labels => exact absurd rfl h
  | _ => rfl

variable {condition : Entry → Prop}

/-- Only three kinds of calls change anything. -/
theorem serves_same (hupdate : request.kind ≠ .updateKVRocks) (henter : request.kind ≠ .enter)
    (hlist : request.kind ≠ .listPVC) {after : World} {reply : request.Reply}
    (h : Serves condition thread request before reply after) : after = before := by
  obtain ⟨hstore, hentered, hsweeping, -, -⟩ := h
  have hsame : after.store = before.store := by
    cases request with
    | updateKVRocks object => exact absurd rfl hupdate
    | getKVRocks key => exact hstore.1
    | _ => exact hstore
  rw [noted_of_kind henter] at hentered
  rw [swept_of_kind hlist] at hsweeping
  cases before
  cases after
  simp_all

/-- A call that writes no instance changes nothing. -/
theorem serves_still (hkind : OfKind stillKinds request) {after : World} {reply : request.Reply}
    (h : Serves condition thread request before reply after) : after = before := by
  have hne (kind : CallKind) (hkinds : kind ∉ stillKinds) : request.kind ≠ kind := fun heq ↦ hkinds (heq ▸ hkind)
  exact serves_same (hne _ (by decide)) (hne _ (by decide)) (hne _ (by decide)) h

/-- Before the claims are listed these calls are free. -/
theorem lawful_still (hkind : OfKind stillKinds request) (hidle : world.sweeping thread = false) :
    Lawful thread request world := by
  cases request with
  | deleteStatefulSet key => simp [OfKind, stillKinds, calmKinds, Call.kind] at hkind
  | deletePVC key => exact fun hsweeping ↦ absurd (hidle.symm.trans hsweeping) Bool.false_ne_true
  | _ => trivial

/-- A copy whose message is justified. -/
def Fits (copy : KVRocks) (world : World) : Prop := Justified copy world.entered

/-- What a thread knows of itself, as long as the claims are not listed. -/
structure Idle (thread : ℕ) (P : World → Prop) : Prop where
  stable : ∀ {before after}, Later before after → Apart thread before after → P before → P after
  idle : ∀ {world}, P world → world.sweeping thread = false

variable {P : World → Prop}

/-- What a thread knows of itself is kept by programs whose calls are lawful and change nothing. -/
theorem stays_of (hP : ∀ {before after}, Later before after → Apart thread before after → P before → P after)
    {allowed : Call → Prop}
    (hallowed : ∀ request, allowed request → ∀ before (reply : request.Reply) after, Inv before → P before →
      Serves Careful thread request before reply after → Lawful thread request before ∧ after = before) :
    Stays (contract thread).meaning allowed P := by
  intro α program post world hall hworld
  have hrely (before after : World) (h : (contract thread).rely before after) (hbefore : P before) : P after :=
    hP h.1 h.2 hbefore
  refine Contract.safe_of_stable hrely ?_ hall hworld
  intro request hrequest before reply after hinv hbefore hanswer
  obtain ⟨hlawful, rfl⟩ := hallowed request hrequest before reply after hinv hbefore hanswer
  exact ⟨hlawful, hinv, ⟨.refl _, fun other _ ↦ .refl other _⟩, hbefore⟩

/-- Such calls leave alone what a thread knows of itself. -/
theorem stays (hP : Idle thread P) : Stays (contract thread).meaning (OfKind stillKinds) P :=
  stays_of hP.stable fun _ hkind _ _ _ _ hbefore hanswer ↦
    ⟨lawful_still hkind (hP.idle hbefore), serves_still hkind hanswer⟩

theorem idle_holds (hP : Idle thread P) (copies : List KVRocks) : Idle thread (Holds P Fits copies) where
  stable hlater hapart h := ⟨hP.stable hlater hapart h.1, fun copy hcopy ↦ (h.2 copy hcopy).mono hlater.entered⟩
  idle h := hP.idle h.1

/-- The store after the answer to an update. -/
theorem serves_update {object : KVRocks} {after : World} {reply : ApiResult ℕ}
    (h : Serves condition thread (.updateKVRocks object) before reply after) :
    after.entered = before.entered ∧ after.sweeping = before.sweeping ∧ before.store.Later after.store ∧
      ∀ version ∈ after.store.versions, version ∈ before.store.versions ∨
        ∃ number, version = { object with resourceVersion := number } := by
  obtain ⟨hstore, hentered, hsweeping, -, -⟩ := h
  refine ⟨hentered, hsweeping, ?_⟩
  rcases hstore with ⟨number, hwrites, -⟩ | ⟨hsame, -⟩
  · refine ⟨hwrites.later, fun version hversion ↦ ?_⟩
    obtain ⟨-, hfresh, hput⟩ := hwrites
    rw [hput, Store.put_versions, List.mem_cons] at hversion
    exact hversion.symm.imp id fun heq ↦ ⟨number, heq⟩
  · rw [hsame]
    exact ⟨Store.later_refl _, fun version hversion ↦ .inl hversion⟩

/-- Copies that fit are written safely. -/
theorem upholds (hP : Idle thread P) : Upholds (contract thread) P Fits Fits where
  same world := ⟨.refl world, fun other _ ↦ .refl other world⟩
  known hrely := hP.stable hrely.1 hrely.2
  fits hrely h := h.mono hrely.1.entered
  ready hrely h := h.mono hrely.1.entered
  writable h := h
  calm hkind hP' hanswer :=
    have hstill := List.mem_cons_of_mem _ (List.mem_cons_of_mem _ hkind)
    ⟨lawful_still hstill (hP.idle hP'), serves_still hstill hanswer⟩
  read hinv hanswer := hinv.1 _ (hanswer.1.2 _ rfl).1
  update := by
    intro object before reply after hinv _ hobject hanswer
    obtain ⟨hentered, hsweeping, hstore, hversions⟩ := serves_update hanswer
    have hlater : Later before after := ⟨hstore, hentered ▸ List.Subset.refl _⟩
    have hapart (other : ℕ) : Apart other before after := ⟨by rw [World.own, hentered]; rfl, by rw [hsweeping]⟩
    have hafter : Justified object after.entered := hobject.mono hlater.entered
    refine ⟨trivial, ⟨fun version hversion ↦ ?_, hentered ▸ hinv.2⟩, ⟨hlater, fun other _ ↦ hapart other⟩,
      ⟨hlater, hapart thread⟩, fun number _ ↦ hafter⟩
    rcases hversions version hversion with hold | ⟨number, rfl⟩
    · exact (hinv.1 version hold).mono hlater.entered
    · exact hafter

theorem tracks (hP : Idle thread P) : Tracks (contract thread).meaning P Fits := by
  apply (upholds hP).tracks
  · intro object changed world h halike shrink hshrink
    rw [halike.key]
    exact h shrink (halike.shrink.symm.trans hshrink)
  · exact fun _ _ ↦ nofun
  · exact (upholds hP).rewrites.relocates fun _ _ _ h ↦ h

/-! ## The phases of a pass -/

/-- The pass has entered `ensureShrink` once and has not listed the claims. -/
structure Entered (thread : ℕ) (entry : Entry) (world : World) : Prop where
  own : world.own thread = [entry]
  idle : world.sweeping thread = false

theorem idle_unused : Idle thread (Unused thread) where
  stable _ hapart h := ⟨hapart.own.trans h.1, hapart.sweeping.trans h.2⟩
  idle h := h.2

theorem idle_entered (entry : Entry) : Idle thread (Entered thread entry) where
  stable _ hapart h := ⟨hapart.own.trans h.own, hapart.sweeping.trans h.idle⟩
  idle h := h.idle

variable {entry : Entry}

/-- The entry of the thread is on record. -/
theorem Entered.mem (h : Entered thread entry world) : entry ∈ world.entered :=
  (List.mem_filter.mp (h.own ▸ List.mem_singleton_self entry : entry ∈ world.own thread)).1

theorem idle_holding (hP : Idle thread P) (h : Handler) : Idle thread (Holding P Fits Handler.instance_ h) where
  stable hlater hapart hholding := ⟨(idle_holds hP _).stable hlater hapart hholding.1, hholding.2⟩
  idle hholding := hP.idle hholding.1.1

theorem holding_idle (hP : Idle thread P) (h : Handler) :
    Stays (contract thread).meaning (OfKind stillKinds) (Holding P Fits Handler.instance_ h) :=
  stays (idle_holding hP h)

/-- The removals that `cleanStatefulSet` carries out were announced. -/
def Announced (owner : NamespacedName) (shards : List ℕ) (world : World) : Prop :=
  ∀ shard ∈ shards, ∃ entry ∈ world.entered, entry.Plans owner shard

variable {h : Handler}

/-- Announced StatefulSets are deleted. -/
theorem deleteStatefulSets_yields {shards : List ℕ} (hholding : Holding (Unused thread) Fits Handler.instance_ h world)
    (hannounced : Announced h.instance_.key shards world) :
    (forEach (fun index ↦ K8s.deleteStatefulSetIfExists (statefulSetKey h.instance_ index)) shards : Go Unit).Yields
      (contract thread).meaning (fun _ ↦ True)
      (fun _ ↦ Holding (Unused thread) Fits Handler.instance_ h) world := by
  let allowed (request : Call) : Prop :=
    OfKind stillKinds request ∨ ∃ shard ∈ shards, request = .deleteStatefulSet (statefulSetKey h.instance_ shard)
  have hcalls : (forEach (fun index ↦ K8s.deleteStatefulSetIfExists (statefulSetKey h.instance_ index)) shards :
      Go Unit).Returns allowed (fun _ ↦ True) := by
    refine ends_forEach_const (fun _ ↦ True) trivial fun shard hshard _ _ ↦ ?_
    refine ⟨.inl (by simp [OfKind, stillKinds, calmKinds, Call.kind]), fun reply ↦ ?_⟩
    cases reply with
    | error error => trivial
    | ok sts =>
      refine ⟨.inr ⟨shard, hshard, rfl⟩, fun answer ↦ ?_⟩
      cases answer <;> trivial
  let ready (world : World) : Prop :=
    Holding (Unused thread) Fits Handler.instance_ h world ∧ Announced h.instance_.key shards world
  have hidle : Idle thread ready :=
    { stable := fun hlater hapart hboth ↦ by
        refine ⟨(idle_holding idle_unused h).stable hlater hapart hboth.1, fun shard hshard ↦ ?_⟩
        obtain ⟨entry, hentry, hplans⟩ := hboth.2 shard hshard
        exact ⟨entry, hlater.entered hentry, hplans⟩
      idle := fun hboth ↦ hboth.1.1.1.2 }
  have hstays : Stays (contract thread).meaning allowed ready := by
    refine stays_of hidle.stable fun request hrequest before reply after hinv hbefore hanswer ↦ ?_
    rcases hrequest with hkind | ⟨shard, hshard, rfl⟩
    · exact ⟨lawful_still hkind (hidle.idle hbefore), serves_still hkind hanswer⟩
    · refine ⟨?_, serves_same (by simp [Call.kind]) (by simp [Call.kind]) (by simp [Call.kind]) hanswer⟩
      rintro ⟨ns, name⟩ index hkey
      obtain ⟨rfl, rfl⟩ := getStatefulSetName_inj (congrArg NamespacedName.name hkey)
      obtain rfl : h.instance_.ns = ns := congrArg NamespacedName.ns hkey
      exact ⟨hbefore.2 shard hshard, hinv.unowned _ _⟩
  apply (hstays.yields_returns hcalls ⟨hholding, hannounced⟩).mono (fun _ _ ↦ trivial)
  exact fun _ _ hfinal ↦ hfinal.1

/-- A shrink message that is carried out was justified. -/
theorem cleanStatefulSetIfShrinking_preserves : cleanStatefulSetIfShrinking.Preserves (contract thread).meaning
    (Holding (Unused thread) Fits Handler.instance_) := by
  intro h world hholding
  apply ends_get_bind
  cases hshrink : h.instance_.status.shrink with
  | none => exact Method.ends_pure hholding
  | some shrink =>
    apply ends_get_bind
    have hannounced : Announced h.instance_.key shrink.partition world :=
      hholding.1.2 h.instance_ List.mem_cons_self shrink hshrink
    apply ends_lift_bind (deleteStatefulSets_yields hholding hannounced)
    intro _ deleted hdeleted
    have hreserve : Leaves stillKinds (fun h : Handler ↦ h)
        (Method.lift (forEach (applyReserve h.instance_) shrink.reserveMsg) : HandlerM Unit) :=
      Leaves.lift ((makes_forEach fun entry _ ↦ applyReserve_makes _ entry).mono (by decide))
    apply (preserves_holding (holding_idle idle_unused) hreserve (fun _ hkind ↦ hkind)
      (fun _ _ hsame ↦ by rw [hsame]) h deleted hdeleted).bind
    intro _ later reached hlater
    apply ends_modify_bind
    apply saveInstance_yields
    have hnone : Holds (Unused thread) Fits [{ later.instance_ with status :=
        { later.instance_.status with
          shrink := none, version := Kvrocks.wrapInt (later.instance_.status.version + 1) } }] reached :=
      hlater.1.replace fun _ ↦ nofun
    exact (tracks idle_unused).updates_live hnone hlater.2 fun _ _ hsaved hlive ↦ ⟨hsaved, hlive⟩

theorem mem_drop_range {count limit index : ℕ} :
    index ∈ (List.range count).drop limit ↔ limit ≤ index ∧ index < count := by
  rw [List.range_eq_range', List.drop_range', List.mem_range'_1]
  omega

/-- The shards from `Spec.Master` on are removed. -/
theorem mem_shrinkIndex {shard : ℕ} :
    shard ∈ shrinkIndex h ↔ h.instance_.spec.master ≤ shard ∧ shard < h.stsNodes.length :=
  mem_drop_range

/-- What is left of the surplus shards when no removal is announced. -/
structure Swept (entry : Entry) (copy : KVRocks) : Prop where
  key : entry.instance_.key = copy.key
  spec : entry.instance_.spec = copy.spec
  gone : copy.status.shrink = none → ∀ shard, copy.spec.master ≤ shard → entry.stsNodes.getD shard [] = []

/-- The receiver after `ensureShrink`. -/
def Known (thread : ℕ) (entry : Entry) (h : Handler) (world : World) : Prop :=
  Holding (Entered thread entry) Fits Handler.instance_ h world ∧ Swept entry h.instance_

/-- The entry into `ensureShrink` is noted. -/
theorem enter_yields (hholding : Holding (Unused thread) Fits Handler.instance_ h world) :
    (Fallible.lift (ask (.enter (.ensureShrink h.instance_ h.stsNodes))) : Go Unit).Yields
      (contract thread).meaning (fun _ ↦ True)
      (fun _ final ↦ Holding (Entered thread ⟨thread, h.instance_, h.stsNodes⟩) Fits Handler.instance_ h final ∧
        Careful ⟨thread, h.instance_, h.stsNodes⟩) world := by
  apply ends_lift
  intro before hrely hinv reply after hanswer
  obtain ⟨hstore, hentered, hsweeping, -, hcareful⟩ := hanswer
  have hbefore := (idle_holding idle_unused h).stable hrely.1 hrely.2 hholding
  have hnoted : after.entered = ⟨thread, h.instance_, h.stsNodes⟩ :: before.entered := hentered
  have hkept : after.sweeping = before.sweeping := hsweeping
  have hsame : after.store = before.store := hstore
  have hsubset : before.entered ⊆ after.entered := hnoted ▸ List.subset_cons_self _ _
  refine ⟨trivial, ⟨fun version hversion ↦ ?_, ?_⟩, ⟨⟨hsame ▸ Store.later_refl _, hsubset⟩, fun other hother ↦ ?_⟩,
    ⟨⟨⟨?_, ?_⟩, fun copy hcopy ↦ ?_⟩, hbefore.2⟩, hcareful⟩
  · rw [hsame] at hversion
    exact (hinv.1 version hversion).mono hsubset
  · rw [hnoted]
    exact List.forall_mem_cons.mpr ⟨hcareful, hinv.2⟩
  · refine ⟨?_, by rw [hkept]⟩
    rw [World.own, hnoted, List.filter_cons_of_neg (by simpa using hother.symm)]
    rfl
  · rw [World.own, hnoted, List.filter_cons_of_pos (by simp)]
    exact congrArg (List.cons _) hbefore.1.1.1
  · rw [hkept]
    exact hbefore.1.1.2
  · exact (hbefore.1.2 copy hcopy).mono hsubset

/-- The removals that `planShrink` announces. -/
theorem planShrink_yields
    (hholding : Holding (Entered thread ⟨thread, h.instance_, h.stsNodes⟩) Fits Handler.instance_ h world)
    (hrebalance : h.instance_.status.rebalance = false) :
    planShrink.Yields (contract thread).meaning (fun _ ↦ True)
      (fun _ later final ↦ Known thread ⟨thread, h.instance_, h.stsNodes⟩ later final) h world := by
  have hfree {α : Type} {value : Option α} : (Fallible.ofOption value : Go α).Yields (contract thread).meaning
      (fun _ ↦ True)
      (fun _ ↦ Holding (Entered thread ⟨thread, h.instance_, h.stsNodes⟩) Fits Handler.instance_ h) world :=
    yields_ofOption (fun _ _ ↦ hholding) fun _ ↦ trivial
  apply ends_get_bind
  split
  · exact Method.ends_lift (ends_panic trivial)
  · apply ends_lift_bind hfree
    rintro ⟨reserves, kept⟩ reached hreached
    simp only
    split
    · rename_i hnothing
      refine Method.ends_pure ⟨hreached, rfl, rfl, fun _ shard hshard ↦ List.getD_eq_default _ _ ?_⟩
      have hlength := List.drop_eq_nil_iff.mp hnothing.1
      rw [List.length_range] at hlength
      exact hlength.trans hshard
    · apply ends_modify_bind
      apply persistTopo_yields
      have hplans (shard : ℕ) (hshard : shard ∈ shrinkIndex h) :
          Entry.Plans ⟨thread, h.instance_, h.stsNodes⟩ h.instance_.key shard := by
        exact ⟨rfl, hrebalance, mem_shrinkIndex.mp hshard⟩
      have hholds : Holds (Entered thread ⟨thread, h.instance_, h.stsNodes⟩) Fits
          [withTopo { h.instance_ with status := { h.instance_.status with
            shrink := some { partition := shrinkIndex h, reserveMsg := reserves } } } kept h.version] reached := by
        refine hreached.1.replace fun _ shrink hshrink shard hshard ↦ ?_
        obtain rfl := Option.some.inj hshrink
        exact ⟨_, hreached.1.1.mem, hplans shard hshard⟩
      apply Meaning.wp_mono _ ((tracks (idle_entered _)).update hholds)
      intro reply final hreply
      cases reply with
      | error error => trivial
      | ok number => exact ⟨⟨hreply, hreached.2⟩, rfl, rfl, nofun⟩

/-- The thread knows its entry from then on. -/
theorem ensureShrink_yields (hholding : Holding (Unused thread) Fits Handler.instance_ h world) :
    ensureShrink.Yields (contract thread).meaning (fun _ ↦ True)
      (fun _ later final ↦ ∃ entry, Known thread entry later final) h world := by
  apply ends_get_bind
  apply ends_lift_bind (enter_yields hholding)
  rintro _ reached ⟨hreached, hcareful⟩
  split
  · rename_i hrebalance
    refine Method.ends_pure ⟨_, hreached, rfl, rfl, fun _ shard hshard ↦ ?_⟩
    have hgone := hcareful shard hshard
    rwa [if_pos hrebalance] at hgone
  · rename_i hrebalance
    have hmonitors : Leaves stillKinds (fun h : Handler ↦ (h.instance_, h.stsNodes))
        (forEach removeShardMonitor (shrinkIndex h)) :=
      Leaves.forEach (fun index ↦ ((removeShardMonitor_leaves index).mono (by decide)).of_part (by simp_all)) _
    apply ((stays (idle_holding (idle_entered _) h)).yields (hmonitors h) hreached).bind
    rintro _ later final ⟨hsame, hfinal⟩
    simp only [Prod.mk.injEq] at hsame
    have hlater : Holding (Entered thread ⟨thread, later.instance_, later.stsNodes⟩) Fits Handler.instance_ later
        final := by
      rw [Holding, hsame.1, hsame.2]
      exact hfinal
    exact (planShrink_yields hlater (by rw [hsame.1]; simpa using hrebalance)).imp fun _ _ _ hknown ↦ ⟨_, hknown⟩

theorem ensureSentinel_known (entry : Entry) :
    ensureSentinel.Preserves (contract thread).meaning (Known thread entry) := by
  apply ensureSentinel_preserves
  · intro h world hknown
    have halike := alike_finalizers h.instance_ [kvrocksFinalizer]
    apply Meaning.wp_mono _ ((tracks (idle_entered entry)).update
      ((tracks (idle_entered entry)).change hknown.1.1 halike))
    intro reply final hreply
    cases reply with
    | error error => trivial
    | ok number => exact ⟨⟨hreply, hknown.1.2⟩, hknown.2.key, hknown.2.spec, hknown.2.gone⟩
  · intro ns sentinelName h world hknown
    apply Method.ends_lift
    apply ((tracks (idle_entered entry)).yields_notify ns sentinelName hknown.1.1).mono
    · exact fun _ _ ↦ trivial
    · exact fun _ _ hfinal ↦ ⟨⟨hfinal, hknown.1.2⟩, hknown.2⟩

/-! ## The clean-up of claims -/

/-- The key of a claim names its owner. -/
theorem claim_key_inj {ns ns' : String} {claim claim' : Claim} (h : claim.key ns = claim'.key ns') :
    ns = ns' ∧ claim = claim' := by
  have hname : "data-" ++ podName (getStatefulSetName claim.instanceName claim.shard) claim.ordinal =
      "data-" ++ podName (getStatefulSetName claim'.instanceName claim'.shard) claim'.ordinal :=
    congrArg NamespacedName.name h
  have hpod : podName (getStatefulSetName claim.instanceName claim.shard) claim.ordinal =
      podName (getStatefulSetName claim'.instanceName claim'.shard) claim'.ordinal :=
    String.toList_inj.mp (by simpa using congrArg String.toList hname)
  obtain ⟨hsts, hordinal⟩ := getStatefulSetName_inj hpod
  obtain ⟨hinstance, hshard⟩ := getStatefulSetName_inj hsts
  cases claim
  cases claim'
  simp_all [Claim.key]

/-- The claims of an instance are listed. -/
theorem listPVC_yields (hentered : Entered thread entry world) :
    (K8s.listPVC h.instance_.ns (selectorLabels h.instance_)).Yields (contract thread).meaning (fun _ ↦ True)
      (fun found final ↦ final.own thread = [entry] ∧
        ∀ key ∈ found, ∃ claim : Claim, claim.instanceName = h.instance_.name ∧ key = claim.key h.instance_.ns)
      world := by
  apply ends_attempt
  intro before hrely hinv reply after hanswer
  obtain ⟨hstore, hnoted, hsweeping, hlists, -⟩ := hanswer
  have hsame : after.store = before.store := hstore
  have hkept : after.entered = before.entered := hnoted
  have hown (other : ℕ) : after.own other = before.own other := by rw [World.own, hkept, World.own]
  refine ⟨trivial, ⟨?_, ?_⟩, ⟨⟨hsame ▸ Store.later_refl _, hkept ▸ List.Subset.refl _⟩, fun other hother ↦ ?_⟩, ?_⟩
  · rw [hsame, hkept]
    exact hinv.1
  · rw [hkept]
    exact hinv.2
  · refine ⟨hown other, ?_⟩
    rw [hsweeping]
    exact Function.update_of_ne hother _ _
  · cases reply with
    | error error => trivial
    | ok found =>
      refine ⟨?_, hlists found rfl h.instance_ rfl⟩
      rw [hown, hrely.2.own]
      exact hentered.own

/-- Only claims of planned removals are deleted. -/
theorem cleanPersistentVolumeClaim_yields (hknown : Known thread entry h world) :
    cleanPersistentVolumeClaim.Yields (contract thread).meaning (fun _ ↦ True) (fun _ _ _ ↦ True) h world := by
  apply ends_get_bind
  split
  · exact Method.ends_pure trivial
  · rename_i hshrink
    have hnone : h.instance_.status.shrink = none := by simpa using hshrink
    apply ends_lift_bind (listPVC_yields hknown.1.1.1)
    rintro found listed ⟨hown, hfound⟩
    apply Method.ends_lift
    let allowed (request : Call) : Prop := ∃ key ∈ found, request = .deletePVC key
    have hcalls : (forEach (cleanClaim h) found : Go Unit).Returns allowed (fun _ ↦ True) := by
      refine ends_forEach_const (fun _ ↦ True) trivial fun key hkey _ _ ↦ ?_
      unfold cleanClaim
      cases claimIsStale h key.name with
      | none => trivial
      | some remove =>
        cases remove with
        | false => trivial
        | true =>
          refine ⟨⟨key, hkey, rfl⟩, fun reply ↦ ?_⟩
          cases reply with
          | ok _ => trivial
          | error error => cases error <;> trivial
    have hstays : Stays (contract thread).meaning allowed fun world ↦ world.own thread = [entry] := by
      refine stays_of (fun _ hapart hbefore ↦ hapart.own.trans hbefore) ?_
      rintro request ⟨key, hkey, rfl⟩ before reply after hinv hbefore hanswer
      refine ⟨?_, serves_same (by simp [Call.kind]) (by simp [Call.kind]) (by simp [Call.kind]) hanswer⟩
      rintro - ⟨ns, name⟩ claim hinstance hclaim
      obtain ⟨claim', hname, hkey'⟩ := hfound key hkey
      obtain ⟨hns, rfl⟩ := claim_key_inj (hclaim.symm.trans hkey')
      have howner : h.instance_.key = ⟨ns, name⟩ := by rw [KVRocks.key, ← hname, hinstance, ← hns]
      refine ⟨entry, hbefore, hknown.2.key.trans howner, fun hmaster ↦ ?_⟩
      rw [hknown.2.spec] at hmaster
      exact ⟨hknown.2.gone hnone claim.shard hmaster, hinv.unowned _ _⟩
    apply (hstays.yields_returns hcalls hown).mono (fun _ _ ↦ trivial)
    exact fun _ _ _ ↦ trivial

/-! ## All threads -/

theorem handle_yields (hholding : Holding (Unused thread) Fits Handler.instance_ h world) :
    handle.Yields (contract thread).meaning (fun _ ↦ True) (fun _ _ _ ↦ True) h world := by
  have hfollows : Follows (contract thread).meaning (Holding (Unused thread) Fits Handler.instance_)
      (Holding (Unused thread) Fits Handler.instance_) := follows_of_tracks (tracks idle_unused) fun _ _ hfits ↦ hfits
  have hkubernetes : ensureKubernetes.Preserves (contract thread).meaning
      (Holding (Unused thread) Fits Handler.instance_) :=
    preserves_holding (holding_idle idle_unused) ensureKubernetes_leaves (by decide) (by simp_all)
  refine handle_yields_of hfollows
    (preserves_holding (holding_idle idle_unused) ensureController_leaves (by decide) (by simp_all))
    cleanStatefulSetIfShrinking_preserves (fun hheld ↦ (hkubernetes _ _ hheld).imp fun _ _ _ hlater _ ↦ hlater)
    ensureShrink_yields ?_ (fun ⟨_, hknown⟩ ↦ cleanPersistentVolumeClaim_yields hknown) hholding
  rintro h world ⟨entry, hknown⟩
  exact (ensureSentinel_known entry h world hknown).imp fun _ _ _ hlater ↦ ⟨entry, hlater⟩

section Safety

variable {W : Type} {C : Contract operator W} {P : W → Prop} {Fits : KVRocks → W → Prop} (hM : Tracks C.meaning P Fits)

include hM

/-- A pass over a cluster instance is safe if `Handle` is. -/
theorem reconcile_safe (hshed : ∀ {instance_ : KVRocks} {world : W}, Fits instance_ world →
      Fits { instance_ with finalizers := instance_.finalizers.filter (· ≠ kvrocksFinalizer) } world)
    (hhandle : ∀ {h : Handler} {world : W}, Holding P Fits Handler.instance_ h world →
      handle.Yields C.meaning (fun _ ↦ True) (fun _ _ _ ↦ True) h world)
    (key : NamespacedName) {world : W} (h : P world) :
    C.Safe ((reconcile (fun _ ↦ clusterHandler key) key).program.bind fun _ ↦ .done ()) (fun _ _ ↦ True) world := by
  have hreconcile : (reconcile (fun _ ↦ clusterHandler key) key).Yields C.meaning
      (fun _ ↦ True) (fun _ _ ↦ True) world := by
    apply reconcile_yields_of hM _ key h
    · intro instance_ final hholds _
      have hmakes : Makes calmKinds ((clusterHandler key).finializer instance_) :=
        (handlerOf_finializer_makes key .cluster instance_).mono (by decide)
      exact reconcileDeletion_yields hM hmakes hshed hholds
    · intro _ instance_ world hholds hlive
      have hpass : handle.Yields C.meaning (fun _ ↦ True) (fun _ _ _ ↦ True)
          (Cluster.newKVRocksClusterHandler key instance_ Controller.newClient) world := hhandle ⟨hholds, hlive⟩
      apply hpass.finish.bind
      intro result final _
      exact ends_pure trivial
  exact (C.safe_bind _ _ _ _).mpr (Contract.Safe.mono hreconcile fun _ _ _ ↦ trivial)

/-- The failover handler is safe. -/
theorem handleFailover_safe (hqueue : Stays C.meaning (OfKind queueKinds) P) (client : Controller.Client)
    (msg : EventMessage) {world : W} (h : P world) :
    C.Safe ((Events.handleFailover client msg).program.bind fun _ ↦ .done ()) (fun _ _ ↦ True) world := by
  apply (C.safe_bind _ _ _ _).mpr
  apply Events.handleFailover_wp hM client msg _ h
  intro α program world hall hworld
  exact Meaning.wp_mono _ (hqueue hall hworld) fun _ _ hfinal ↦ hfinal.2

end Safety

theorem starts_safe {program : Program operator Unit} (h : Starts program) (hunused : Unused thread world) :
    (contract thread).Safe program (fun _ _ ↦ True) world := by
  have hqueue : Stays (contract thread).meaning (OfKind queueKinds) (Unused thread) := by
    refine stays_of idle_unused.stable fun request hkind before reply after _ _ hanswer ↦ ?_
    have hne (kind : CallKind) (hkinds : kind ∉ queueKinds) : request.kind ≠ kind := fun heq ↦ hkinds (heq ▸ hkind)
    refine ⟨?_, serves_same (hne _ (by decide)) (hne _ (by decide)) (hne _ (by decide)) hanswer⟩
    cases request with
    | deleteStatefulSet key => exact absurd rfl (hne .deleteStatefulSet (by decide))
    | deletePVC key => exact absurd rfl (hne .deletePVC (by decide))
    | _ => trivial
  cases h with
  | reconcile key => exact reconcile_safe (tracks idle_unused) id handle_yields key hunused
  | handleFailover client msg => exact handleFailover_safe (tracks idle_unused) hqueue client msg hunused

theorem certified : (system Careful).Certified Inv contract where
  answers_eq _ := rfl
  inv_eq _ := rfl
  rely_of_guarantee _ other hne _ _ h := ⟨h.1, h.2 other hne.symm⟩
  move before after hinv hmove := by
    cases hmove with
    | put object number hfresh hshrink =>
      refine ⟨⟨fun version hversion ↦ ?_, hinv.2⟩, fun other ↦
        ⟨⟨before.store.later_put object number hfresh, List.Subset.refl _⟩, rfl, rfl⟩⟩
      rcases List.mem_cons.mp hversion with rfl | hold
      · intro shrink hmessage
        obtain ⟨old, hcurrent, hsame⟩ := hshrink shrink hmessage
        have hstored := before.store.stored hcurrent
        have hold := hinv.1 old hstored.1 shrink hsame
        rwa [show old.key = object.key from hstored.2] at hold
      · exact hinv.1 version hold
    | remove key =>
      exact ⟨hinv, fun other ↦ ⟨⟨before.store.later_remove key, List.Subset.refl _⟩, rfl, rfl⟩⟩
  start _ _ _ _ hstart := starts_safe hstart.2 hstart.1

/-- Nothing has run yet. -/
def World.start (store : Store KVRocks) : World := { store := store, entered := [], sweeping := fun _ ↦ false }

/-- In every run in which `ensureShrink` never holds a surplus shard that owns slots, nor any surplus shard while
`Status.Rebalance` is set, all deletions are lawful. -/
theorem deletions_lawful {store : Store KVRocks} (hstore : ∀ version ∈ store.versions, version.status.shrink = none)
    {config : System.Config operator ℕ World}
    (hreach : (system Careful).Reaches (System.initial (World.start store)) config) {thread : ℕ} {request : Call}
    {resume : request.Reply → Program operator Unit} {reply : request.Reply} {after : World}
    (hnext : config.running thread = some (.call request resume))
    (hanswer : Serves Careful thread request config.world reply after) : Lawful thread request config.world := by
  have hinv : Inv (World.start store) :=
    ⟨fun version hversion shrink hshrink ↦ (Option.some_ne_none shrink
      (hshrink.symm.trans (hstore version hversion))).elim, fun _ hentry ↦ (List.not_mem_nil hentry).elim⟩
  exact System.reaches_guard certified hinv hreach hnext hanswer

/-! ## Two passes over a cluster of four shards -/

/-- The sentinel instance. -/
def sentinel : KVRocks :=
  let created := KVRocks.created ⟨"default", "sentinel-1"⟩
    { image := "kvrocks:2.0", type := .sentinel, kvrocksConfig := [], replicas := 3, master := 0,
      password := "secret", resources := true }
  { created with status := { created.status with status := .running } }

theorem sentinel_fresh : ∀ other ∈ (Store.single sentinel 1).versions, Versioned.version other ≠ 2 := by
  decide +revert

/-- A running cluster, of which the user has lowered the number of shards to three. -/
def lowered : KVRocks :=
  { demo 3 with
    labels := [(monitoredBy, "sentinel-1")]
    status := { (demo 3).status with rebalance := false } }

def demoStore : Store KVRocks := (Store.single sentinel 1).put lowered 2 sentinel_fresh

/-- The answers to calls that change nothing; the fourth shard has these slots. -/
def answerWith (slots : List String) : (request : Call) → request.Reply
  | .http _ (.getNodes _ _ shard) =>
    .ok ⟨statusOK, .ok (some { nodes := [{ id := Text.itoa shard, role := .master
                                           addr := getStatefulSetName lowered.name shard.toNat ++ ":6379" }]
                               slotRanges := if shard = 3 then slots else [] })⟩
  | request => Claims.answer 3 request

/-- Nobody interferes; `ensureShrink` goes on only if the check is passed. -/
def serve (slots : List String) (check : Entry → Bool) (thread : ℕ) :
    (request : Call) → World → Option (request.Reply × World)
  | .getKVRocks key, world => some ((world.store.current key).elim (.error .notFound) .ok, world)
  | .updateKVRocks object, world =>
    some ((Lifecycle.accept object world.store).1, { world with store := (Lifecycle.accept object world.store).2 })
  | .listPVC _ _, world => some (.ok [], { world with sweeping := Function.update world.sweeping thread true })
  | .enter (.ensureShrink instance_ stsNodes), world =>
    if check ⟨thread, instance_, stsNodes⟩ then
      some ((), { world with entered := ⟨thread, instance_, stsNodes⟩ :: world.entered })
    else none
  | request, world => some (answerWith slots request, world)

theorem serves_serve {slots : List String} {check : Entry → Bool}
    (hcheck : ∀ entry, check entry = true → condition entry) {answer : request.Reply × World}
    (h : serve slots check thread request world = some answer) :
    Serves condition thread request world answer.1 answer.2 := by
  cases request with
  | getKVRocks key =>
    cases h
    exact ⟨Lifecycle.serves_current key world.store, rfl, rfl, trivial, trivial⟩
  | updateKVRocks object =>
    cases h
    exact ⟨Lifecycle.serves_accept object world.store, rfl, rfl, trivial, trivial⟩
  | listPVC ns labels =>
    cases h
    refine ⟨rfl, rfl, rfl, fun found hfound _ _ key hkey ↦ ?_, trivial⟩
    obtain rfl := Except.ok.inj hfound
    exact (List.not_mem_nil hkey).elim
  | enter phase =>
    cases phase with
    | ensureShrink instance_ stsNodes =>
      simp only [serve] at h
      split at h
      · rename_i hpassed
        cases h
        exact ⟨rfl, rfl, rfl, trivial, hcheck _ hpassed⟩
      · cases h
  | _ =>
    cases h
    exact ⟨rfl, rfl, rfl, trivial, trivial⟩

/-- Passes over the instance, each in a thread of its own. -/
def passes (slots : List String) (check : Entry → Bool) : System.Player operator ℕ World where
  program _ := (reconcile (fun _ ↦ clusterHandler lowered.key) lowered.key).program.bind fun _ ↦ .done ()
  startable thread world := (world.own thread).isEmpty && !world.sweeping thread
  serve := serve slots check

theorem passes_plays {slots : List String} {check : Entry → Bool}
    (hcheck : ∀ entry, check entry = true → condition entry) :
    (passes slots check).Plays (system condition) where
  start thread world h := by
    have hboth : world.own thread = [] ∧ world.sweeping thread = false := by
      simpa [passes, List.isEmpty_iff] using h
    exact ⟨hboth, .reconcile lowered.key⟩
  serve _ _ _ _ h := serves_serve hcheck h

/-- The first pass as a whole, and the second one until it has seen the StatefulSet of the fourth shard. -/
def schedule : List (System.Action ℕ) :=
  [.start 0] ++ List.replicate 78 (.answer 0) ++ [.start 1] ++ List.replicate 11 (.answer 1)

/-- What a thread asks next. -/
def nextCall {W : Type} (config : System.Config operator ℕ W) (thread : ℕ) : Option Call :=
  match config.running thread with
  | some (.call request _) => some request
  | _ => none

theorem running_of_nextCall {W : Type} {config : System.Config operator ℕ W}
    (h : nextCall config thread = some request) : ∃ resume, config.running thread = some (.call request resume) := by
  unfold nextCall at h
  split at h
  · rename_i next resume hnext
    obtain rfl := Option.some.inj h
    exact ⟨resume, hnext⟩
  · cases h

/-- The StatefulSet of the fourth shard. -/
def fourthSet : NamespacedName := ⟨"default", "kvrocks-cluster-1-demo-3"⟩

theorem demoStore_unplanned : ∀ version ∈ demoStore.versions, version.status.shrink = none := by decide

/-- Nothing is known to own slots. -/
def slotless (entry : Entry) : Bool :=
  !entry.instance_.status.rebalance && entry.stsNodes.all fun nodes ↦ nodes.all fun node ↦ node.slots.isEmpty

/-- Shards without slots can be removed. -/
theorem careful_of_slotless (entry : Entry) (h : slotless entry = true) : Careful entry := by
  simp only [slotless, Bool.and_eq_true, Bool.not_eq_true', List.all_eq_true, List.isEmpty_iff] at h
  intro shard _
  rw [h.1]
  rintro ⟨node, hnode, -, hslots⟩
  by_cases hbound : shard < entry.stsNodes.length
  · rw [List.getD_eq_getElem _ _ hbound] at hnode
    exact hslots (h.2 _ (List.getElem_mem hbound) node hnode)
  · rw [List.getD_eq_default _ _ (not_lt.mp hbound)] at hnode
    exact List.not_mem_nil hnode

/-- A fourth shard without slots is announced and deleted. -/
theorem slotless_shard_lawful : ∃ config, (system Careful).Reaches (System.initial (World.start demoStore)) config ∧
      nextCall config 1 = some (.deleteStatefulSet fourthSet) ∧
      Lawful 1 (.deleteStatefulSet fourthSet) config.world := by
  have hrun : ((passes [] slotless).play schedule (System.initial (World.start demoStore))).bind
      (nextCall · 1) = some (.deleteStatefulSet fourthSet) := by decide +kernel
  obtain ⟨config, hplay, hcall⟩ := Option.bind_eq_some_iff.mp hrun
  have hreach := System.Player.play_reaches (passes_plays careful_of_slotless) hplay
  obtain ⟨resume, hnext⟩ := running_of_nextCall hcall
  have hanswer : Serves Careful 1 (.deleteStatefulSet fourthSet) config.world (.ok ()) config.world :=
    ⟨rfl, rfl, rfl, trivial, trivial⟩
  exact ⟨config, hreach, hcall, deletions_lawful demoStore_unplanned hreach hnext hanswer⟩

/-- The fourth shard owns slots: its removal is announced all the same, and its StatefulSet is deleted. -/
theorem owned_shard_deleted : ∃ config, (system fun _ ↦ True).Reaches (System.initial (World.start demoStore)) config ∧
      nextCall config 1 = some (.deleteStatefulSet fourthSet) ∧
      ¬ Lawful 1 (.deleteStatefulSet fourthSet) config.world := by
  have hrun : ∃ config, (passes ["0-10"] fun _ ↦ true).play schedule
      (System.initial (World.start demoStore)) = some config ∧ nextCall config 1 = some (.deleteStatefulSet fourthSet) ∧
        ∃ entry ∈ config.world.entered, entry.Plans lowered.key 3 ∧ Owned entry.stsNodes 3 := by
    have hcheck : ((passes ["0-10"] fun _ ↦ true).play schedule
        (System.initial (World.start demoStore))).any (fun config ↦
          decide (nextCall config 1 = some (.deleteStatefulSet fourthSet)) &&
            config.world.entered.any fun entry ↦ decide (entry.Plans lowered.key 3 ∧ Owned entry.stsNodes 3)) =
        true := by decide +kernel
    obtain ⟨config, hplay, hconfig⟩ := (Option.any_eq_true _ _).mp hcheck
    simp only [Bool.and_eq_true, decide_eq_true_eq, List.any_eq_true] at hconfig
    exact ⟨config, hplay, hconfig⟩
  obtain ⟨config, hplay, hcall, entry, hentry, hplans, howned⟩ := hrun
  refine ⟨config, System.Player.play_reaches (passes_plays fun _ _ ↦ trivial) hplay, hcall, fun hlawful ↦ ?_⟩
  exact (hlawful lowered.key 3 rfl).2 entry hentry hplans howned

end KvrocksOperator.Controllers.OwnedShards
