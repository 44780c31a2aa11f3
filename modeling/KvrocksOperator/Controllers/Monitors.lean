import KvrocksOperator.Controllers.Lifecycle

/-!
# Monitors of shards that go away

`RemoveMonitor` asks the sentinel pods one by one to forget a master.  When the sentinel instance is not running it
asks for a requeue instead, and both of its callers lose this answer: `ensureShrink` writes its shrink message all the
same, and `Finializer` overwrites the answer with that of the next shard and finally with that of `removeController`.
A query of a sentinel pod that fails for any reason is taken for the answer that there is no such monitor.

A pass runs while others change objects and monitors.  If the sentinel instance is running whenever it can be read,
and queries fail only where there is no monitor, then no shrink message names a shard and no finalizer is taken off
before the monitors are gone from every sentinel pod.
-/

namespace KvrocksOperator.Controllers.Monitors

open Interaction Resources

/-! ## Passes -/

/-- The sentinel instance, the labels of its deployment and its pods. -/
structure Setting where
  sentinel : NamespacedName
  labels : StringMap
  pods : List Pod

/-- A monitor: the address of a sentinel pod and the name of a master. -/
abbrev Monitor := String × String

/-- The monitor was missing at one of several moments. -/
def Missing (monitor : Monitor) (past : List (List Monitor)) : Prop := ∃ monitors ∈ past, monitor ∉ monitors

instance (monitor : Monitor) (past : List (List Monitor)) : Decidable (Missing monitor past) :=
  inferInstanceAs (Decidable (∃ monitors ∈ past, monitor ∉ monitors))

/-- An update that was accepted: what it replaced, what it wrote, and the monitors at the moments of the pass before
it. -/
structure Write where
  old : KVRocks
  new : KVRocks
  past : List (List Monitor)

/-- The objects and the monitors, and what a pass has seen and done since it began. -/
structure World where
  store : Store KVRocks
  monitors : List Monitor
  /-- The monitors at the moments of the pass, newest first. -/
  past : List (List Monitor)
  /-- The updates of the pass that were accepted, newest first. -/
  writes : List Write

namespace World

/-- A pass begins. -/
def start (store : Store KVRocks) (monitors : List Monitor) : World :=
  { store := store, monitors := monitors, past := [monitors], writes := [] }

/-- A moment of the pass. -/
def noticed (world : World) : World := { world with past := world.monitors :: world.past }

def unmonitored (ip name : String) (world : World) : World :=
  { world with monitors := world.monitors.filter (· ≠ (ip, name)) }

def monitored (ip name : String) (world : World) : World := { world with monitors := (ip, name) :: world.monitors }

end World

/-- What a call of the pass does.  Sentinels tell the truth about the monitors that they have; what is reported as an
error may have been carried out. -/
def Serves (setting : Setting) : Program.Answers operator World
  | .getKVRocks key, before, reply, after =>
    after = before ∧ ∀ found, reply = .ok found → found ∈ before.store.versions ∧ found.key = key
  | .updateKVRocks object, before, reply, after =>
    (∃ old number store, before.store.current object.key = some old ∧
      before.store.Writes object number store ∧ (reply = .ok number ∨ ∃ error, reply = .error error) ∧
      after = { before with store := store, writes := ⟨old, object, before.past⟩ :: before.writes }) ∨
    after = before ∧ ∃ error, reply = .error error
  | .getWorkload kind key, before, reply, after =>
    after = before ∧ (kind = .deployment → key = setting.sentinel → ∀ workload, reply = .ok workload →
      workload.matchLabels = setting.labels)
  | .listPods ns labels, before, reply, after =>
    after = before ∧ (ns = setting.sentinel.ns → labels = setting.labels → ∀ pods, reply = .ok pods →
      pods = setting.pods)
  | .sentinel ip _ (.master name), before, reply, after =>
    after = before ∧ ∀ address, reply = .ok address → (ip, name) ∈ before.monitors
  | .sentinel ip _ (.remove name), before, reply, after =>
    after = before.unmonitored ip name ∨ after = before ∧ ∃ error, reply = .error error
  | .sentinel ip _ (.monitor name _ _ _), before, reply, after =>
    after = before.monitored ip name ∨ after = before ∧ ∃ error, reply = .error error
  | _, before, _, after => after = before

/-- A condition on what the pass is told. -/
abbrev Condition := (request : Call) → World → request.Reply → Prop

/-- Whenever the sentinel instance can be read it is running, and a query for a monitor fails only where there is
none. -/
def SentinelUp (setting : Setting) : Condition
  | .getKVRocks key, _, reply =>
    key = setting.sentinel → ∀ found, reply = .ok found → found.status.status = .running
  | .sentinel ip _ (.master name), world, reply => (∃ error, reply = .error error) → (ip, name) ∉ world.monitors
  | _, _, _ => True

/-- All updates of the pass meet a requirement. -/
def AllWrites (requirement : Write → Prop) (world : World) : Prop := ∀ write ∈ world.writes, requirement write

/-- Every accepted update of a pass has to meet the requirement.  Others change objects and monitors at any time. -/
def contract (setting : Setting) (condition : Condition) (requirement : Write → Prop) : Contract operator World where
  answers request before reply after :=
    condition request before reply ∧ ∃ served, Serves setting request before reply served ∧ after = served.noticed
  inv := AllWrites requirement
  rely before after := before.store.Later after.store ∧ after.past = before.past ∧ after.writes = before.writes
  guarantee _ _ := True
  guard _ _ := True
  rely_refl _ := ⟨Store.later_refl _, rfl, rfl⟩
  rely_trans h h' := ⟨h.1.trans h'.1, h'.2.1.trans h.2.1, h'.2.2.trans h.2.2⟩

/-- The sentinel instance of an object. -/
def sentinelOf (object : KVRocks) : NamespacedName := ⟨object.ns, (object.labels.lookup monitoredBy).getD ""⟩

/-- The name under which a shard is monitored. -/
def monitorName (object : KVRocks) (index : ℕ) : String := (parseRedisName object.name).2 ++ "-" ++ Text.itoa index

/-- Every sentinel pod has been without the monitor of a shard. -/
def Gone (setting : Setting) (object : KVRocks) (index : ℕ) (past : List (List Monitor)) : Prop :=
  ∀ pod ∈ setting.pods, Missing (pod.ip, monitorName object index) past

/-- A shrink message is written only after the monitors of its shards are gone. -/
def ShrinksLate (setting : Setting) (write : Write) : Prop :=
  ∀ shrink, write.new.status.shrink = some shrink → sentinelOf write.new = setting.sentinel →
    ∀ index ∈ shrink.partition, Gone setting write.new index write.past

/-- The finalizer of a monitored cluster is taken off only after the monitors of all its shards are gone. -/
def ReleasesLate (setting : Setting) (write : Write) : Prop :=
  kvrocksFinalizer ∈ write.old.finalizers → kvrocksFinalizer ∉ write.new.finalizers →
    write.new.spec.type = .cluster → (write.new.labels.lookup monitoredBy).isSome →
    sentinelOf write.new = setting.sentinel →
    ∀ index < write.new.spec.master, Gone setting write.new index write.past

/-! ## Calls other than updates -/

/-- Nothing was written, and no moment is forgotten. -/
structure Progress (before after : World) : Prop where
  store : before.store.Later after.store
  past : before.past ⊆ after.past
  writes : after.writes = before.writes

theorem Progress.refl (world : World) : Progress world world := ⟨Store.later_refl _, List.Subset.refl _, rfl⟩

theorem Progress.trans {first second third : World} (h : Progress first second) (h' : Progress second third) :
    Progress first third :=
  ⟨h.store.trans h'.store, List.Subset.trans h.past h'.past, h'.writes.trans h.writes⟩

theorem noticed_progress (world : World) : Progress world world.noticed :=
  ⟨Store.later_refl _, List.subset_cons_self _ _, rfl⟩

theorem Missing.mono {monitor : Monitor} {past later : List (List Monitor)} (h : Missing monitor past)
    (hsubset : past ⊆ later) : Missing monitor later := by
  obtain ⟨monitors, hmonitors, hmissing⟩ := h
  exact ⟨monitors, hsubset hmonitors, hmissing⟩

theorem AllWrites.progress {requirement : Write → Prop} {before after : World}
    (hwrites : AllWrites requirement before) (hprogress : Progress before after) : AllWrites requirement after := by
  unfold AllWrites
  rw [hprogress.writes]
  exact hwrites

variable {request : Call}

theorem Serves.progress {setting : Setting} {before after : World} {reply : request.Reply}
    (h : Serves setting request before reply after) (hkind : request.kind ≠ .updateKVRocks) :
    Progress before after := by
  have hsame (hafter : after = before) : Progress before after := hafter ▸ Progress.refl before
  cases request with
  | updateKVRocks object => exact absurd rfl hkind
  | getKVRocks key => exact hsame h.1
  | getWorkload kind key => exact hsame h.1
  | listPods ns labels => exact hsame h.1
  | sentinel ip password command =>
    cases command with
    | master name => exact hsame h.1
    | remove name =>
      rcases h with hafter | hafter
      · rw [hafter]
        exact ⟨Store.later_refl _, List.Subset.refl _, rfl⟩
      · exact hsame hafter.1
    | monitor name address port quorum =>
      rcases h with hafter | hafter
      · rw [hafter]
        exact ⟨Store.later_refl _, List.Subset.refl _, rfl⟩
      · exact hsame hafter.1
    | _ => exact hsame h
  | _ => exact hsame h

section Calls

variable {setting : Setting} {condition : Condition} {requirement : Write → Prop} {world : World}

/-- A call that is no update. -/
theorem wp_quiet (hkind : request.kind ≠ .updateKVRocks) {post : request.Reply → World → Prop}
    (h : ∀ before reply served, condition request before reply → Serves setting request before reply served →
      Progress world served.noticed → post reply served.noticed) :
    (contract setting condition requirement).meaning.wp (ask request) post world := by
  rintro before ⟨hstore, hpast, hsame⟩ hwrites reply after ⟨hcondition, served, hserves, rfl⟩
  have hlater : Progress world before := ⟨hstore, hpast ▸ List.Subset.refl _, hsame⟩
  have hprogress := (hserves.progress hkind).trans (noticed_progress served)
  exact ⟨trivial, hwrites.progress hprogress, trivial,
    h before reply served hcondition hserves (hlater.trans hprogress)⟩

/-- A program that makes no updates. -/
theorem wp_all {α : Type} {program : Program operator α} {post : α → Prop}
    (hall : program.All (fun request : Call ↦ request.kind ≠ .updateKVRocks) post) :
    (contract setting condition requirement).meaning.wp program
      (fun value final ↦ post value ∧ Progress world final) world := by
  induction program generalizing world with
  | done value => exact ⟨hall, Progress.refl world⟩
  | call request resume ih =>
    have hfirst : (contract setting condition requirement).meaning.wp (ask request)
        (fun reply later ↦ (contract setting condition requirement).meaning.wp (resume reply)
          (fun value final ↦ post value ∧ Progress world final) later) world := by
      apply wp_quiet hall.1
      intro before reply served _ _ hprogress
      exact Meaning.wp_mono _ (ih reply (hall.2 reply)) fun value final hfinal ↦ ⟨hfinal.1, hprogress.trans hfinal.2⟩
    exact hfirst

variable {kinds : List CallKind}

theorem quiet_of_kind (hkinds : .updateKVRocks ∉ kinds) (hkind : OfKind kinds request) :
    request.kind ≠ .updateKVRocks := by
  intro hupdate
  rw [OfKind, hupdate] at hkind
  exact hkinds hkind

theorem makes_yields {α : Type} {function : Go α} (hmakes : Makes kinds function) (hkinds : .updateKVRocks ∉ kinds) :
    function.Yields (contract setting condition requirement).meaning (Progress world)
      (fun _ ↦ Progress world) world := by
  have hall : function.program.All (OfKind kinds) fun outcome ↦ outcome.Meets True fun _ ↦ True := hmakes
  apply Meaning.wp_mono _ (wp_all (hall.mono (fun _ ↦ quiet_of_kind hkinds) fun _ h ↦ h))
  intro outcome final hfinal
  cases outcome <;> exact hfinal.2

theorem leaves_yields {α β : Type} {part : Cluster.Handler → β} {method : Cluster.HandlerM α}
    (hleaves : Leaves kinds part method) (hkinds : .updateKVRocks ∉ kinds) (h : Cluster.Handler) :
    method.Yields (contract setting condition requirement).meaning (Progress world)
      (fun _ later final ↦ part later = part h ∧ Progress world final) h world := by
  have hall : (method.on h).All (OfKind kinds) fun result ↦
      result.1.Meets True fun _ ↦ part result.2 = part h := hleaves h
  apply Meaning.wp_mono _ (wp_all (hall.mono (fun _ ↦ quiet_of_kind hkinds) fun _ h ↦ h))
  intro result final hfinal
  exact Outcome.Meets.mono hfinal.1 (fun _ ↦ hfinal.2) fun _ hpart ↦ ⟨hpart, hfinal.2⟩

/-- An update that meets the requirement wherever it is accepted. -/
theorem wp_update {object : KVRocks} {post : ApiResult ℕ → World → Prop}
    (hobject : ∀ old before, Progress world before → before.store.current object.key = some old →
      old.resourceVersion = object.resourceVersion → requirement ⟨old, object, before.past⟩)
    (hpost : ∀ before reply served, Progress world before → Serves setting (.updateKVRocks object) before reply served →
      post reply served.noticed) :
    (contract setting condition requirement).meaning.wp (ask (.updateKVRocks object)) post world := by
  rintro before ⟨hstore, hpast, hsame⟩ hwrites reply after ⟨-, served, hserves, rfl⟩
  have hbefore : Progress world before := ⟨hstore, hpast ▸ List.Subset.refl _, hsame⟩
  have hserved : AllWrites requirement served := by
    rcases hserves with ⟨old, number, store, hcurrent, haccepted, -, rfl⟩ | ⟨rfl, -⟩
    · obtain ⟨replaced, hreplaced, hversion⟩ := haccepted.1
      obtain rfl : replaced = old := Option.some.inj (hreplaced.symm.trans hcurrent)
      exact List.forall_mem_cons.mpr ⟨hobject replaced before hbefore hcurrent hversion, hwrites⟩
    · exact hwrites
  exact ⟨trivial, hserved.progress (noticed_progress served), trivial, hpost before reply served hbefore hserves⟩

end Calls

/-! ## `RemoveMonitor` -/

/-- A pass under the condition. -/
abbrev meaning (setting : Setting) (requirement : Write → Prop) : Meaning operator World :=
  (contract setting (SentinelUp setting) requirement).meaning

section RemoveMonitor

variable {setting : Setting} {requirement : Write → Prop} {crash : World → Prop} {world : World}

variable {fail : World → Prop}

theorem getKVRocks_ends : (K8s.getKVRocks setting.sentinel).handle.Ends (meaning setting requirement) fail crash
      (fun result final ↦ Progress world final ∧
        ∀ found, result = .ok found → found.status.status = .running) world := by
  apply ends_handle
  apply ends_attempt
  apply wp_quiet (by simp [Call.kind])
  intro before reply served hup _ hprogress
  cases reply with
  | error error => exact fun _ ↦ ⟨hprogress, by simp⟩
  | ok found =>
    refine ⟨hprogress, fun other hother ↦ ?_⟩
    cases hother
    exact hup rfl found rfl

/-- The pods that a listing returns are the sentinel's. -/
theorem listDeploymentPods_ends :
    (K8s.listDeploymentPods setting.sentinel).Ends (meaning setting requirement) (Progress world) crash
      (fun pods final ↦ Progress world final ∧ pods = setting.pods) world := by
  have hworkload : (K8s.getWorkload .deployment setting.sentinel).Ends (meaning setting requirement)
      (Progress world) crash (fun workload final ↦ Progress world final ∧
        workload.matchLabels = setting.labels) world := by
    apply ends_attempt
    apply wp_quiet (by simp [Call.kind])
    intro before reply served _ hserves hprogress
    cases reply with
    | error error => exact hprogress
    | ok workload => exact ⟨hprogress, hserves.2 rfl rfl workload rfl⟩
  apply hworkload.bind
  intro workload later hlater
  apply ends_attempt
  apply wp_quiet (by simp [Call.kind])
  intro before reply served _ hserves hprogress
  cases reply with
  | error error => exact hlater.1.trans hprogress
  | ok pods => exact ⟨hlater.1.trans hprogress, hserves.2 rfl hlater.2 pods rfl⟩

/-- A running sentinel is found with its pods, or there is an error. -/
theorem getSentinel_ends : (Common.getSentinel setting.sentinel).Ends (meaning setting requirement) fail crash
      (fun result final ↦ Progress world final ∧
        match result with
        | .ok found => found.1 = setting.pods
        | .error failure => failure.2 ≠ none) world := by
  apply getKVRocks_ends.bind
  intro result later hlater
  cases result with
  | error error => exact ends_pure ⟨hlater.1, by simp⟩
  | ok sentinel =>
    simp only [hlater.2 sentinel rfl, ne_eq, not_true_eq_false, if_false]
    have hpods : (K8s.listDeploymentPods setting.sentinel).handle.Ends (meaning setting requirement) fail crash
        (fun result final ↦ Progress world final ∧ ∀ pods, result = .ok pods → pods = setting.pods)
        later := by
      apply ends_handle
      apply listDeploymentPods_ends.mono
      · exact fun final hfinal _ ↦ ⟨hlater.1.trans hfinal, by simp⟩
      · exact fun _ h ↦ h
      · intro pods final hfinal
        refine ⟨hlater.1.trans hfinal.1, fun other hother ↦ ?_⟩
        cases hother
        exact hfinal.2
    apply hpods.bind
    intro listed final hfinal
    cases listed with
    | error error => exact ends_pure ⟨hfinal.1, by simp⟩
    | ok pods => exact ends_pure ⟨hfinal.1, hfinal.2 pods rfl⟩

/-- After one pod has been asked, it has been without the monitor, or there is an error. -/
theorem removeMonitorFrom_ends (password name : String) (pod : Pod) :
    (Common.removeMonitorFrom password name pod).Ends (meaning setting requirement) (Progress world) crash
      (fun _ final ↦ Progress world final ∧ Missing (pod.ip, name) final.past) world := by
  have hquery : (Kvrocks.getMasterFromSentinel pod.ip password name).handle.Ends (meaning setting requirement)
      (Progress world) crash (fun result final ↦ Progress world final ∧
        ∀ error, result = .error error → Missing (pod.ip, name) final.past) world := by
    apply ends_handle
    apply ends_attempt
    apply wp_quiet (by simp [Call.kind])
    intro before reply served hup hserves hprogress
    obtain rfl : served = before := hserves.1
    cases reply with
    | ok address => exact ⟨hprogress, by simp⟩
    | error error =>
      exact fun _ ↦ ⟨hprogress, fun _ _ ↦ ⟨served.monitors, List.mem_cons_self, hup ⟨error, rfl⟩⟩⟩
  apply hquery.bind
  intro result later hlater
  cases result with
  | error error => exact ends_pure ⟨hlater.1, hlater.2 error rfl⟩
  | ok master =>
    apply ends_attempt
    apply wp_quiet (by simp [Call.kind])
    intro before reply served _ hserves hprogress
    cases reply with
    | error error => exact hlater.1.trans hprogress
    | ok _ =>
      refine ⟨hlater.1.trans hprogress, served.monitors, List.mem_cons_self, ?_⟩
      rcases hserves with rfl | ⟨-, error, herror⟩
      · simp [World.unmonitored]
      · cases herror

/-- `RemoveMonitor` without an error: every pod has been without the monitor. -/
theorem removeMonitorNamed_ends {instance_ : KVRocks} (h : sentinelOf instance_ = setting.sentinel) (name : String) :
    (Common.removeMonitorNamed instance_ name).Ends (meaning setting requirement) fail crash
      (fun result final ↦ Progress world final ∧
        (result.2 = none → ∀ pod ∈ setting.pods, Missing (pod.ip, name) final.past)) world := by
  unfold Common.removeMonitorNamed
  have hkey : (⟨instance_.ns, (instance_.labels.lookup monitoredBy).getD ""⟩ : NamespacedName) =
      setting.sentinel := h
  simp only [hkey]
  apply getSentinel_ends.bind
  intro result later hlater
  match result with
  | .error failure => exact ends_pure ⟨hlater.1, fun hnone ↦ absurd hnone hlater.2⟩
  | .ok (pods, password) =>
    obtain rfl : pods = setting.pods := hlater.2
    have hloop : (forEach (Common.removeMonitorFrom password name) setting.pods : Go Unit).handle.Ends
        (meaning setting requirement) fail crash (fun result final ↦ Progress world final ∧
          ∀ value, result = .ok value → ∀ pod ∈ setting.pods, Missing (pod.ip, name) final.past) later := by
      apply ends_handle
      have hpods : (forEach (Common.removeMonitorFrom password name) setting.pods : Go Unit).Ends
          (meaning setting requirement) (Progress world) crash (fun _ final ↦ Progress world final ∧
            ∀ pod ∈ setting.pods, Missing (pod.ip, name) final.past) later := by
        apply ends_forEach_from (fun asked current ↦ Progress world current ∧
          ∀ pod ∈ asked, Missing (pod.ip, name) current.past) [] setting.pods ⟨hlater.1, by simp⟩
        intro front pod back current _ hcurrent
        apply (removeMonitorFrom_ends password name pod).mono
        · exact fun final hfinal ↦ hcurrent.1.trans hfinal
        · exact fun _ h ↦ h
        · intro _ final hfinal
          refine ⟨hcurrent.1.trans hfinal.1, fun other hother ↦ ?_⟩
          rcases List.mem_append.mp hother with hasked | hpod
          · exact (hcurrent.2 other hasked).mono hfinal.1.past
          · rw [List.mem_singleton.mp hpod]
            exact hfinal.2
      apply hpods.mono
      · exact fun final hfinal _ ↦ ⟨hfinal, by simp⟩
      · exact fun _ h ↦ h
      · exact fun _ final hfinal ↦ ⟨hfinal.1, fun _ _ ↦ hfinal.2⟩
    apply hloop.bind
    intro removed final hfinal
    cases removed with
    | error error => exact ends_pure ⟨hfinal.1, by simp⟩
    | ok _ => exact ends_pure ⟨hfinal.1, fun _ ↦ hfinal.2 _ rfl⟩

end RemoveMonitor

/-! ## The two callers -/

section Callers

variable {setting : Setting} {requirement : Write → Prop} {world : World} {h : Cluster.Handler}

/-- The monitors of the shards in a list are gone. -/
structure Removed (setting : Setting) (start : World) (h : Cluster.Handler) (shards : List ℕ)
    (later : Cluster.Handler) (world : World) : Prop where
  progress : Progress start world
  instance_ : later.instance_ = h.instance_
  stsNodes : later.stsNodes = h.stsNodes
  gone : ∀ index ∈ shards, Gone setting h.instance_ index world.past

/-- The turn of one shard. -/
theorem removeShardMonitor_yields {start : World} {shards : List ℕ} {current : Cluster.Handler}
    (hsentinel : sentinelOf h.instance_ = setting.sentinel) (index : ℕ)
    (hremoved : Removed setting start h shards current world) :
    (Cluster.removeShardMonitor index).Yields (meaning setting requirement) (Progress start)
      (fun _ ↦ Removed setting start h (shards ++ [index])) current world := by
  apply ends_get_bind
  have hsame : sentinelOf current.instance_ = setting.sentinel := hremoved.instance_ ▸ hsentinel
  apply ends_lift_bind (removeMonitorNamed_ends hsame _)
  rintro ⟨requeue, error⟩ later hlater
  apply ends_modify_bind
  have hprogress := hremoved.progress.trans hlater.1
  cases error with
  | some error => exact Method.ends_throw error hprogress
  | none =>
    refine Method.ends_pure ⟨hprogress, hremoved.instance_, hremoved.stsNodes, fun shard hshard ↦ ?_⟩
    rcases List.mem_append.mp hshard with hbefore | hnow
    · exact fun pod hpod ↦ (hremoved.gone shard hbefore pod hpod).mono hlater.1.past
    · rw [List.mem_singleton.mp hnow]
      intro pod hpod
      rw [monitorName, ← hremoved.instance_]
      exact hlater.2 rfl pod hpod

theorem removeShardMonitors_yields (hsentinel : sentinelOf h.instance_ = setting.sentinel) (shards : List ℕ) :
    (forEach Cluster.removeShardMonitor shards).Yields (meaning setting requirement) (Progress world)
      (fun _ ↦ Removed setting world h shards) h world := by
  have hstart : Removed setting world h [] h world := ⟨Progress.refl world, rfl, rfl, by simp⟩
  exact Method.yields_forEach_from (Removed setting world h) [] shards hstart
    fun front index _ _ hremoved ↦ removeShardMonitor_yields hsentinel index hremoved

/-- An update of which nothing more is asked. -/
theorem updates {object : KVRocks}
    (hobject : ∀ old before, Progress world before → before.store.current object.key = some old →
      old.resourceVersion = object.resourceVersion → requirement ⟨old, object, before.past⟩) :
    Cluster.Updates (meaning setting requirement) (fun _ ↦ True) object (fun _ _ ↦ True) world := by
  apply wp_update hobject
  intro before reply served _ _
  cases reply <;> trivial

/-- Whatever the sentinel, the loop writes nothing. -/
theorem removeShardMonitors_progress (shards : List ℕ) :
    (forEach Cluster.removeShardMonitor shards).Yields (meaning setting requirement) (fun _ ↦ True)
      (fun _ later final ↦ (later.instance_ = h.instance_ ∧ later.stsNodes = h.stsNodes) ∧
        Progress world final) h world := by
  apply (leaves_yields (Leaves.forEach Cluster.removeShardMonitor_leaves shards) (by decide) h).mono
  · exact fun _ _ ↦ trivial
  · intro _ later final hfinal
    have hpart := hfinal.1
    simp only [Prod.mk.injEq] at hpart
    exact ⟨⟨hpart.1, hpart.2.2.1⟩, hfinal.2⟩

/-- The message is written by a handler that still has the object and the matrix of the loop before. -/
theorem planShrink_yields {later : Cluster.Handler} (hinstance : later.instance_ = h.instance_)
    (hnodes : later.stsNodes = h.stsNodes)
    (hgone : sentinelOf h.instance_ = setting.sentinel →
      ∀ index ∈ Cluster.shrinkIndex h, Gone setting h.instance_ index world.past) :
    Cluster.planShrink.Yields (meaning setting (ShrinksLate setting)) (fun _ ↦ True) (fun _ _ _ ↦ True)
      later world := by
  apply ends_get_bind
  split
  · exact Method.ends_lift (ends_panic trivial)
  · have hplan (plan : Option (List (String × List ℕ) × List (List (Option Node)))) :
        (Fallible.ofOption plan : Go _).Yields (meaning setting (ShrinksLate setting)) (fun _ ↦ True)
          (fun _ final ↦ final = world) world :=
      yields_ofOption (fun _ _ ↦ rfl) fun _ ↦ trivial
    apply ends_lift_bind (hplan _)
    rintro ⟨reserves, kept⟩ reached rfl
    simp only
    split
    · exact Method.ends_pure trivial
    · apply ends_modify_bind
      apply Cluster.persistTopo_yields
      apply updates
      intro old before hprogress _ _ shrink hshrink hsentinel index hmem
      obtain rfl := Option.some.inj hshrink
      have hindex : index ∈ Cluster.shrinkIndex h := by
        rwa [Cluster.shrinkIndex, ← hinstance, ← hnodes]
      have hsame : sentinelOf h.instance_ = setting.sentinel := by rwa [← hinstance]
      intro pod hpod
      have hpresent := (hgone hsame index hindex pod hpod).mono hprogress.past
      rwa [monitorName, ← hinstance] at hpresent

/-- `ensureShrink` writes its message after the monitors are gone. -/
theorem ensureShrink_yields :
    Cluster.ensureShrink.Yields (meaning setting (ShrinksLate setting)) (fun _ ↦ True) (fun _ _ _ ↦ True) h world := by
  apply ends_get_bind
  have henter : (Fallible.lift (ask (.enter (.ensureShrink h.instance_ h.stsNodes))) : Go Unit).Yields
      (meaning setting (ShrinksLate setting)) (fun _ ↦ True) (fun _ _ ↦ True) world := by
    apply ends_lift
    exact wp_quiet (by simp [Call.kind]) fun _ _ _ _ _ _ ↦ trivial
  apply ends_lift_bind henter
  intro _ entered _
  split
  · exact Method.ends_pure trivial
  · have hloop : (forEach Cluster.removeShardMonitor (Cluster.shrinkIndex h)).Yields
        (meaning setting (ShrinksLate setting)) (fun _ ↦ True)
        (fun _ later final ↦ (later.instance_ = h.instance_ ∧ later.stsNodes = h.stsNodes) ∧
          (sentinelOf h.instance_ = setting.sentinel →
            ∀ index ∈ Cluster.shrinkIndex h, Gone setting h.instance_ index final.past)) h entered := by
      by_cases hsentinel : sentinelOf h.instance_ = setting.sentinel
      · apply (removeShardMonitors_yields hsentinel (Cluster.shrinkIndex h)).mono
        · exact fun _ _ ↦ trivial
        · intro _ later final hremoved
          exact ⟨⟨hremoved.instance_, hremoved.stsNodes⟩, fun _ ↦ hremoved.gone⟩
      · apply (removeShardMonitors_progress (Cluster.shrinkIndex h)).imp
        intro _ later final hfinal
        exact ⟨hfinal.1, fun hsame ↦ absurd hsame hsentinel⟩
    apply hloop.bind
    intro _ later final hfinal
    exact planShrink_yields hfinal.1.1 hfinal.1.2 hfinal.2

/-- What `Finializer` has done when it returns nil. -/
theorem finializer_yields : Cluster.finializer.Yields (meaning setting requirement) (fun _ ↦ True)
      (fun _ _ final ↦ (h.instance_.labels.lookup monitoredBy).isSome →
        sentinelOf h.instance_ = setting.sentinel → ∀ index < h.instance_.spec.master,
          Gone setting h.instance_ index final.past) h world := by
  apply ends_get_bind
  cases hlabel : h.instance_.labels.lookup monitoredBy with
  | none => exact Method.ends_pure (by simp)
  | some sentinel =>
    have hloop : (forEach Cluster.removeShardMonitor (List.range h.instance_.spec.master)).Yields
        (meaning setting requirement) (fun _ ↦ True) (fun _ _ final ↦ sentinelOf h.instance_ = setting.sentinel →
            ∀ index < h.instance_.spec.master, Gone setting h.instance_ index final.past) h world := by
      by_cases hsentinel : sentinelOf h.instance_ = setting.sentinel
      · apply (removeShardMonitors_yields hsentinel (List.range h.instance_.spec.master)).mono
        · exact fun _ _ ↦ trivial
        · exact fun _ later final hremoved _ index hindex ↦ hremoved.gone index (List.mem_range.mpr hindex)
      · apply (removeShardMonitors_progress (List.range h.instance_.spec.master)).imp
        exact fun _ _ _ _ hsame ↦ absurd hsame hsentinel
    apply hloop.bind
    intro _ later removed hremoved
    apply ends_modify_bind
    have hcontroller := Cluster.removeController_makes h.instance_.ns
    apply Method.ends_lift
    apply (makes_yields hcontroller (by decide)).mono
    · exact fun _ _ ↦ trivial
    · intro _ final hprogress _ hsentinel index hindex pod hpod
      exact (hremoved hsentinel index hindex pod hpod).mono hprogress.past

end Callers

/-! ## `Reconcile` -/

section Reconcile

variable {setting : Setting}

/-- The copy has the finalizer if the version it was made from has. -/
def KeepsFinalizer (old new : KVRocks) : Prop := kvrocksFinalizer ∈ old.finalizers → kvrocksFinalizer ∈ new.finalizers

/-- Outside the deletion of an object no finalizer is lost. -/
theorem admits : Admits (meaning setting (ReleasesLate setting)) (fun _ ↦ True)
    (fun copy world ↦ world.store.Derived KeepsFinalizer copy) where
  grows h hgrows := h.change hgrows.key hgrows.resourceVersion fun _ hkeeps hold ↦ hgrows.finalizers (hkeeps hold)
  quiet := by
    intro α program post copies world hall hholds
    apply Meaning.wp_mono _ (wp_all (hall.mono (fun _ ↦ quiet_of_kind (by decide)) fun _ h ↦ h))
    intro value final hfinal
    exact ⟨hfinal.1, trivial, fun copy hcopy ↦ (hholds.2 copy hcopy).later hfinal.2.store⟩
  read := by
    intro key copies world hholds
    apply wp_quiet (by simp [Call.kind])
    intro before reply served _ hserves hprogress
    have hcopies (copy : KVRocks) (hcopy : copy ∈ copies) :
        served.noticed.store.Derived KeepsFinalizer copy := (hholds.2 copy hcopy).later hprogress.store
    cases reply with
    | error error => exact ⟨trivial, hcopies⟩
    | ok found =>
      have hfound : served.noticed.store.Derived KeepsFinalizer found := by
        obtain ⟨rfl, hfound⟩ := hserves
        exact Store.derived_of_mem (hfound found rfl).1 id
      exact ⟨trivial, List.forall_mem_cons.mpr ⟨hfound, hcopies⟩⟩
  update := by
    intro object copies world hholds
    have hobject := hholds.2 object List.mem_cons_self
    apply wp_update
    · intro old before hprogress hcurrent hversion hold hnew
      have hkeeps : KeepsFinalizer old object := (hobject.later hprogress.store).of_accepted hcurrent hversion
      exact absurd (hkeeps hold) hnew
    · intro before reply served hprogress hserves
      have hlater : before.store.Later served.store := by
        rcases hserves with ⟨old, number, store, -, hwrites, -, rfl⟩ | ⟨rfl, -⟩
        · exact hwrites.later
        · exact Store.later_refl _
      have hcopies (copy : KVRocks) (hcopy : copy ∈ copies) : served.noticed.store.Derived KeepsFinalizer copy :=
        ((hholds.2 copy (List.mem_cons_of_mem _ hcopy)).later hprogress.store).later hlater
      cases reply with
      | error error => exact ⟨trivial, hcopies⟩
      | ok version =>
        have hsaved : served.noticed.store.Derived KeepsFinalizer { object with resourceVersion := version } := by
          rcases hserves with ⟨old, number, store, -, hwrites, hreply, rfl⟩ | ⟨-, error, hreply⟩
          · rcases hreply with hreply | ⟨error, hreply⟩
            · cases hreply
              exact hwrites.derived id
            · cases hreply
          · cases hreply
        exact ⟨trivial, List.forall_mem_cons.mpr ⟨hsaved, hcopies⟩⟩

/-- The finalizer is taken off when `Finializer` has returned nil. -/
theorem reconcileDeletion_yields (key : NamespacedName) (instance_ : KVRocks) (world : World) :
    (reconcileDeletion (handlerOf key instance_.spec.type) instance_).Yields
      (meaning setting (ReleasesLate setting)) (fun _ ↦ True) (fun _ _ ↦ True) world := by
  unfold reconcileDeletion
  split
  · exact ends_pure trivial
  · have hfinializer : ((handlerOf key instance_.spec.type).finializer instance_).Yields
        (meaning setting (ReleasesLate setting)) (fun _ ↦ True) (fun result final ↦
          ∀ value, result.1 = .ok value → instance_.spec.type = .cluster →
            (instance_.labels.lookup monitoredBy).isSome → sentinelOf instance_ = setting.sentinel →
            ∀ index < instance_.spec.master, Gone setting instance_ index final.past) world := by
      by_cases htype : instance_.spec.type = .cluster
      · rw [htype]
        apply finializer_yields.finish.bind
        intro result final hresult
        apply ends_pure
        intro value hvalue _
        rw [hvalue] at hresult
        exact hresult
      · have hmakes := handlerOf_finializer_makes key instance_.spec.type instance_
        apply (makes_yields hmakes (by decide)).mono
        · exact fun _ _ ↦ trivial
        · exact fun _ _ _ _ _ hcluster ↦ absurd hcluster htype
    apply hfinializer.bind
    rintro ⟨result, requeue⟩ final hgone
    simp only
    split
    · exact ends_pure trivial
    · cases result with
      | error error => exact ends_pure trivial
      | ok value =>
        have hupdate : (K8s.updateKVRocks { instance_ with
            finalizers := instance_.finalizers.filter (· ≠ kvrocksFinalizer) }).handle.Yields
            (meaning setting (ReleasesLate setting)) (fun _ ↦ True) (fun _ _ ↦ True) final := by
          apply yields_handle
          apply (Cluster.updateKVRocks_yields (updates ?_)).mono (fun _ _ ↦ ⟨fun _ ↦ trivial, trivial⟩)
          · exact fun _ _ _ ↦ trivial
          · intro old before hprogress _ _ _ _ htype hlabel hsentinel index hindex pod hpod
            exact (hgone value rfl htype hlabel hsentinel index hindex pod hpod).mono hprogress.past
        apply hupdate.bind
        intro removed last _
        split
        · exact ends_pure trivial
        · exact ends_pure trivial

end Reconcile

/-- In every pass that meets the condition, no shrink message and no loss of a finalizer comes before the removal of
the monitors. -/
theorem monitors_removed_first (setting : Setting) (store : Store KVRocks) (monitors : List Monitor) :
    (∀ h : Cluster.Handler, (contract setting (SentinelUp setting) (ShrinksLate setting)).Safe
      (Cluster.ensureShrink.on h) (fun _ _ ↦ True) (World.start store monitors)) ∧
    ∀ key : NamespacedName, (contract setting (SentinelUp setting) (ReleasesLate setting)).Safe
      (reconcile (handlerOf key) key).program (fun _ _ ↦ True)
      (World.start store monitors) := by
  constructor
  · intro h
    have hyields : Cluster.ensureShrink.Yields (meaning setting (ShrinksLate setting)) (fun _ ↦ True)
        (fun _ _ _ ↦ True) h (World.start store monitors) := ensureShrink_yields
    exact Contract.Safe.mono hyields fun _ _ _ ↦ trivial
  · intro key
    have hyields : (reconcile (handlerOf key) key).Yields
        (meaning setting (ReleasesLate setting)) (fun _ ↦ True) (fun _ _ ↦ True) (World.start store monitors) :=
      reconcile_yields admits key trivial fun instance_ final _ _ ↦
        reconcileDeletion_yields key instance_ final
    exact Contract.Safe.mono hyields fun _ _ _ ↦ trivial

/-! ## A sentinel that is not running -/

/-- One sentinel pod. -/
def oneSentinel : Setting :=
  { sentinel := ⟨"default", "sentinel-1"⟩
    labels := []
    pods := [{ ns := "default", name := "sentinel-1-0", ip := "10.0.1.1", labels := [], deletionTimestamp := false }] }

/-- The sentinel instance, running or still being created. -/
def demoSentinel (up : Bool) : KVRocks :=
  let created := KVRocks.created ⟨"default", "sentinel-1"⟩
    { image := "kvrocks:2.0", type := .sentinel, kvrocksConfig := [], replicas := 3, master := 0,
      password := "secret", resources := true }
  { created with status := { created.status with status := if up then .running else .creating } }

/-- A cluster of three shards, which may be being deleted. -/
def threeShards (deleted : Bool) : KVRocks :=
  let created := KVRocks.created ⟨"default", "kvrocks-cluster-1-demo"⟩
    { image := "kvrocks:2.0", type := .cluster, kvrocksConfig := [], replicas := 1, master := 3,
      password := "secret", resources := true }
  { created with
    labels := [(monitoredBy, "sentinel-1")]
    finalizers := [kvrocksFinalizer]
    deletionTimestamp := deleted
    resourceVersion := 2
    status := { created.status with status := .running } }

def storeOf (up deleted : Bool) : Store KVRocks :=
  (Store.single (demoSentinel up) 1).put (threeShards deleted) 2 (by decide +revert)

/-- An update that replaces what is stored. -/
def accept (object : KVRocks) (world : World) : ApiResult ℕ × World :=
  match world.store.current object.key with
  | none => (.error .notFound, world)
  | some old =>
    if old.resourceVersion = object.resourceVersion then
      if hfresh : ∀ other ∈ world.store.versions, Versioned.version other ≠ 3 then
        (.ok 3, { world with
          store := world.store.put object 3 hfresh
          writes := ⟨old, object, world.past⟩ :: world.writes })
      else (.error .conflict, world)
    else (.error .conflict, world)

/-- Nobody interferes, and everything but perhaps the sentinel instance is in order. -/
def serve : (request : Call) → World → request.Reply × World
  | .getKVRocks key, world => (((world.store.current key).elim (.error .notFound) .ok), world)
  | .updateKVRocks object, world => accept object world
  | .getWorkload _ _, world => (.ok { replicas := 1, readyReplicas := 1, matchLabels := oneSentinel.labels }, world)
  | .getService _, world => (.ok "10.96.0.1", world)
  | .getConfigMap key, world => (.ok { ns := key.ns, name := key.name, data := [] }, world)
  | .deleteConfigMap _, world => (.ok (), world)
  | .deleteObject _ _, world => (.ok (), world)
  | .listPods _ _, world => (.ok oneSentinel.pods, world)
  | .sentinel ip _ (.master name), world =>
    (if world.monitors.any (· = (ip, name)) then .ok "10.0.0.1" else .error (.remote "no such master"), world)
  | .sentinel ip _ (.remove name), world => (.ok (), world.unmonitored ip name)
  | request, world => (request.failure, world)

def served (request : Call) (world : World) : request.Reply × World :=
  ((serve request world).1, (serve request world).2.noticed)

theorem serves_accept (object : KVRocks) (world : World) :
    Serves oneSentinel (.updateKVRocks object) world (accept object world).1 (accept object world).2 := by
  unfold accept
  cases hcurrent : world.store.current object.key with
  | none => exact .inr ⟨rfl, _, rfl⟩
  | some old =>
    simp only
    split_ifs with hversion hfresh
    · exact .inl ⟨old, 3, _, hcurrent, ⟨⟨old, hcurrent, hversion⟩, hfresh, rfl⟩, .inl rfl, rfl⟩
    · exact .inr ⟨rfl, _, rfl⟩
    · exact .inr ⟨rfl, _, rfl⟩

theorem serves_serve (request : Call) (world : World) :
    Serves oneSentinel request world (serve request world).1 (serve request world).2 := by
  cases request with
  | getKVRocks key =>
    refine ⟨rfl, fun found hfound ↦ ?_⟩
    cases hcurrent : world.store.current key with
    | none => simp [serve, hcurrent] at hfound
    | some object =>
      have hobject : object = found := by simpa [serve, hcurrent] using hfound
      exact hobject ▸ world.store.stored hcurrent
  | updateKVRocks object => exact serves_accept object world
  | getWorkload kind key =>
    refine ⟨rfl, fun _ _ workload hworkload ↦ ?_⟩
    exact congrArg Workload.matchLabels (Except.ok.inj hworkload).symm
  | listPods ns labels => exact ⟨rfl, fun _ _ pods hpods ↦ (Except.ok.inj hpods).symm⟩
  | sentinel ip password command =>
    cases command with
    | master name =>
      refine ⟨rfl, fun address haddress ↦ ?_⟩
      by_contra hmissing
      simp [serve, hmissing] at haddress
    | remove name => exact .inl rfl
    | monitor name address port quorum => exact .inr ⟨rfl, _, rfl⟩
    | _ => exact rfl
  | _ => exact rfl

/-- Without a condition on the sentinel nothing is sure. -/
abbrev unconditional (requirement : Write → Prop) : Contract operator World :=
  contract oneSentinel (fun _ _ _ ↦ True) requirement

theorem exec_served {α : Type} (requirement : Write → Prop) (program : Program operator α) (world : World) :
    Exec (unconditional requirement).answers program world (program.run served world).1 (program.run served world).2 :=
  exec_run (fun request before ↦ ⟨trivial, _, serves_serve request before, rfl⟩) program world

/-- The monitors of the shards. -/
def demoMonitors : List Monitor :=
  [("10.0.1.1", "demo-0"), ("10.0.1.1", "demo-1"), ("10.0.1.1", "demo-2"), ("10.0.1.1", "demo-3")]

/-- A fourth shard is still there. -/
def fourthShard : Cluster.Handler :=
  { Cluster.newKVRocksClusterHandler (threeShards false).key (threeShards false) Controller.newClient with
    stsNodes := (List.range 4).map fun index ↦
      [{ Kvrocks.Node.fresh (Text.itoa index) 0 with role := .master }] }

/-- The server gives no answer that breaks the condition. -/
def attended (request : Call) (world : World) : Option (request.Reply × World) :=
  match request with
  | .getKVRocks key =>
    if key = oneSentinel.sentinel ∧ (world.store.current key).any (·.status.status ≠ .running) then none
    else some (served (.getKVRocks key) world)
  | request => some (served request world)

/-- A pass that meets the condition. -/
abbrev conditional (requirement : Write → Prop) : Contract operator World :=
  contract oneSentinel (SentinelUp oneSentinel) requirement

theorem attended_answers (requirement : Write → Prop) (request : Call) (world : World)
    (answer : request.Reply × World) (h : attended request world = some answer) :
    (conditional requirement).answers request world answer.1 answer.2 := by
  have hserved : answer = served request world := by
    cases request with
    | getKVRocks key => exact (Option.some.inj (Option.ite_none_left_eq_some.mp h).2).symm
    | _ => exact (Option.some.inj h).symm
  rw [hserved]
  refine ⟨?_, _, serves_serve request world, rfl⟩
  cases request with
  | getKVRocks key =>
    rintro rfl found hfound
    have hrunning := (Option.ite_none_left_eq_some.mp h).1
    cases hcurrent : world.store.current oneSentinel.sentinel with
    | none => simp [served, serve, hcurrent] at hfound
    | some object =>
      obtain rfl : object = found := by simpa [served, serve, hcurrent] using hfound
      simpa [hcurrent] using hrunning
  | sentinel ip password command =>
    cases command with
    | master name =>
      rintro ⟨error, herror⟩ hmonitor
      simp [served, serve, hmonitor] at herror
    | _ => trivial
  | _ => trivial

/-- A write that such a run makes meets the requirement. -/
theorem exists_write {α : Type} {requirement : Write → Prop} {program : Program operator α} {world : World}
    (wanted : Write → Prop) [DecidablePred wanted]
    (hsafe : (conditional requirement).Safe program (fun _ _ ↦ True) world) (hwrites : world.writes = [])
    (h : (program.tryRun attended world).any (fun result ↦ ∃ write ∈ result.2.writes, wanted write) = true) :
    ∃ value final, Exec (conditional requirement).answers program world value final ∧
      ∃ write ∈ final.writes, wanted write ∧ requirement write := by
  obtain ⟨result, hresult, hfound⟩ := (Option.any_eq_true _ _).mp h
  obtain ⟨write, hwrite, hwanted⟩ := of_decide_eq_true hfound
  have hexec := exec_tryRun (attended_answers requirement) hresult
  have hnone : AllWrites requirement world := by simp [AllWrites, hwrites]
  exact ⟨_, _, hexec, write, hwrite, hwanted, (hsafe.exec hnone hexec).1 write hwrite⟩

/-- With a running sentinel the fourth shard is shrunk away and the finalizer is taken off, and no monitor is left by
then. -/
theorem monitors_removed_running :
    (∃ result final, Exec (conditional (ShrinksLate oneSentinel)).answers (Cluster.ensureShrink.on fourthShard)
      (World.start (storeOf true false) demoMonitors) result final ∧
      ∃ write ∈ final.writes, write.new.status.shrink = some { partition := [3], reserveMsg := [] } ∧
        Gone oneSentinel write.new 3 write.past) ∧
    ∃ outcome final, Exec (conditional (ReleasesLate oneSentinel)).answers
      (reconcile (handlerOf (threeShards true).key) (threeShards true).key).program
      (World.start (storeOf true true) demoMonitors) outcome final ∧
      ∃ write ∈ final.writes, kvrocksFinalizer ∉ write.new.finalizers ∧
        ∀ index < 3, Gone oneSentinel write.new index write.past := by
  constructor
  · have hsafe := (monitors_removed_first oneSentinel (storeOf true false) demoMonitors).1 fourthShard
    obtain ⟨result, final, hexec, write, hwrite, ⟨hshrink, hsentinel⟩, hlate⟩ :=
      exists_write (fun write ↦
        write.new.status.shrink = some { partition := [3], reserveMsg := [] } ∧
          sentinelOf write.new = oneSentinel.sentinel) hsafe rfl (by decide +kernel)
    exact ⟨result, final, hexec, write, hwrite, hshrink, hlate _ hshrink hsentinel 3 List.mem_cons_self⟩
  · have hsafe := (monitors_removed_first oneSentinel (storeOf true true) demoMonitors).2 (threeShards true).key
    obtain ⟨outcome, final, hexec, write, hwrite, ⟨hold, hnew, htype, hlabel, hsentinel, hmaster⟩, hlate⟩ :=
      exists_write (fun write ↦
        kvrocksFinalizer ∈ write.old.finalizers ∧ kvrocksFinalizer ∉ write.new.finalizers ∧
          write.new.spec.type = .cluster ∧ (write.new.labels.lookup monitoredBy).isSome ∧
          sentinelOf write.new = oneSentinel.sentinel ∧ write.new.spec.master = 3) hsafe rfl (by decide +kernel)
    exact ⟨outcome, final, hexec, write, hwrite, hnew, hmaster ▸ hlate hold hnew htype hlabel hsentinel⟩

/-- While the sentinel is being created, `ensureShrink` writes a message for the fourth shard and `Reconcile` takes
the finalizer off, although the sentinel has had all monitors all the time. -/
theorem monitors_left_behind :
    ¬ (unconditional (ShrinksLate oneSentinel)).Safe (Cluster.ensureShrink.on fourthShard) (fun _ _ ↦ True)
        (World.start (storeOf false false) demoMonitors) ∧
      ¬ (unconditional (ReleasesLate oneSentinel)).Safe
        (reconcile (handlerOf (threeShards true).key) (threeShards true).key).program
        (fun _ _ ↦ True) (World.start (storeOf false true) demoMonitors) := by
  have hnone (requirement : Write → Prop) (store : Store KVRocks) :
      AllWrites requirement (World.start store demoMonitors) := fun _ hwrite ↦ (List.not_mem_nil hwrite).elim
  constructor
  · intro hsafe
    have hwrites := (hsafe.exec (hnone _ _) (exec_served _ _ _)).1
    have hrun : ∃ write ∈ ((Cluster.ensureShrink.on fourthShard).run served
        (World.start (storeOf false false) demoMonitors)).2.writes,
        write.new.status.shrink = some { partition := [3], reserveMsg := [] } ∧
          sentinelOf write.new = oneSentinel.sentinel ∧
          ¬ Missing ("10.0.1.1", monitorName write.new 3) write.past := by decide +kernel
    obtain ⟨write, hwrite, hshrink, hsentinel, hpresent⟩ := hrun
    have hgone := hwrites write hwrite _ hshrink hsentinel 3 List.mem_cons_self
    exact hpresent (hgone _ List.mem_cons_self)
  · intro hsafe
    have hwrites := (hsafe.exec (hnone _ _) (exec_served _ _ _)).1
    have hrun : ∃ write ∈ ((reconcile (handlerOf (threeShards true).key)
        (threeShards true).key).program.run served (World.start (storeOf false true) demoMonitors)).2.writes,
        kvrocksFinalizer ∈ write.old.finalizers ∧ kvrocksFinalizer ∉ write.new.finalizers ∧
          write.new.spec.type = .cluster ∧ (write.new.labels.lookup monitoredBy).isSome ∧
          sentinelOf write.new = oneSentinel.sentinel ∧ 0 < write.new.spec.master ∧
          ¬ Missing ("10.0.1.1", monitorName write.new 0) write.past := by decide +kernel
    obtain ⟨write, hwrite, hold, hnew, htype, hlabel, hsentinel, hmaster, hpresent⟩ := hrun
    have hgone := hwrites write hwrite hold hnew htype hlabel hsentinel 0 hmaster
    exact hpresent (hgone _ List.mem_cons_self)

end KvrocksOperator.Controllers.Monitors
