import Mathlib.Data.List.Induction
import KvrocksOperator.Sentinel.Handler

/-!
# Which instances are monitored

`ensureSentinel` goes through the instances that carry the label of the sentinel, but returns as soon as it has
registered the master of a standard instance.  Masters are registered under names that leave out the type and the
system of an instance, so that two of them may share one name; the one registered last is then monitored.
-/

namespace KvrocksOperator.Sentinel

open Interaction Resources

/-- A StatefulSet whose master is to be monitored under a name. -/
structure Target where
  key : NamespacedName
  name : String
  deriving DecidableEq

/-- The target for a shard of a cluster instance. -/
def shardTarget (kvrocks : KVRocks) (index : ℕ) : Target :=
  ⟨⟨kvrocks.ns, getStatefulSetName kvrocks.name index⟩, clusterMasterName kvrocks.name index⟩

/-- What is to be monitored of an instance. -/
def targets (kvrocks : KVRocks) : List Target :=
  if kvrocks.spec.type = .standard then [⟨⟨kvrocks.ns, kvrocks.name⟩, standardMasterName kvrocks.name⟩]
  else (List.range kvrocks.spec.master).map (shardTarget kvrocks)

/-- The master that each sentinel monitors under a name. -/
abbrev Monitors := String → String → Option String

/-- What does not change during the pass. -/
structure Setting where
  listed : List KVRocks
  statefulSet : NamespacedName → StatefulSet
  pods : String → StringMap → List Pod
  role : String → Option Role

/-- The current master of a StatefulSet. -/
def Setting.master (setting : Setting) (key : NamespacedName) : Option String :=
  ((setting.pods (setting.statefulSet key).ns (setting.statefulSet key).matchLabels).find? fun pod ↦
    decide (setting.role pod.ip = some .master)).map (·.ip)

/-- The master is monitored under the name by one sentinel. -/
def Monitors.put (monitors : Monitors) (sentinel name : String) (master : Option String) : Monitors :=
  fun other label ↦ if other = sentinel ∧ label = name then master else monitors other label

/-- The reply is the value, or an error if that may happen. -/
def Reports {ε α : Type} (mayFail : Prop) (value : α) : Except ε α → Prop
  | .ok found => found = value
  | .error _ => mayFail

/-- The reply names the master that is monitored, if any; it is an error if there is none, or if that may happen. -/
def Names (mayFail : Prop) (monitored : Option String) : Except GoError String → Prop
  | .ok master => monitored = some master
  | .error _ => mayFail ∨ monitored = none

/-- The replies to the calls of a pass.  A failed request may or may not have had its effect. -/
def answers (mayFail : Prop) (setting : Setting) : Program.Answers operator Monitors
  | .listKVRocks _ _, before, reply, after => Reports mayFail setting.listed reply ∧ after = before
  | .getStatefulSet key, before, reply, after => Reports mayFail (setting.statefulSet key) reply ∧ after = before
  | .listPods ns labels, before, reply, after => Reports mayFail (setting.pods ns labels) reply ∧ after = before
  | .node ip _ .role, before, reply, after => Reports mayFail (setting.role ip) reply ∧ after = before
  | .sentinel ip _ (.master name), before, reply, after =>
    Names mayFail (before ip name) reply ∧ after = before
  | .sentinel ip _ (.remove name), before, reply, after =>
    Reports mayFail () reply ∧ (after = before.put ip name none ∨ reply ≠ .ok () ∧ after = before)
  | .sentinel ip _ (.monitor name master _ _), before, reply, after =>
    Reports mayFail () reply ∧ (after = before.put ip name (some master) ∨ reply ≠ .ok () ∧ after = before)
  | .sentinel _ _ (.set _ _ _), before, reply, after => Reports mayFail () reply ∧ after = before
  | .sentinel _ _ (.reset _), before, reply, after => Reports mayFail () reply ∧ after = before
  | _, before, _, after => after = before

/-- If `ensureSentinel` returns nil and does not ask for a requeue, every sentinel monitors all targets of the
instances that are listed with the label. -/
def Monitored (setting : Setting) (h : Handler) (monitors : Monitors) : Prop :=
  ∀ later final, Exec (answers True setting) (ensureSentinel.on h) monitors (.ok (), later) final →
    later.requeue = false →
      ∀ kvrocks ∈ setting.listed, (kvrocks.labels.lookup monitoredBy).isSome → ∀ target ∈ targets kvrocks,
        ∀ sentinel ∈ h.pods, ∃ master, setting.master target.key = some master ∧
          final sentinel target.name = some master

/-! ## One target -/

section Target

variable {mayFail : Prop} {setting : Setting} {fail : Monitors → Prop} {monitors : Monitors}

@[simp] theorem put_put (monitors : Monitors) (sentinel name : String) (first second : Option String) :
    (monitors.put sentinel name first).put sentinel name second = monitors.put sentinel name second := by
  funext other label
  unfold Monitors.put
  split_ifs <;> rfl

theorem put_self {sentinel name : String} {master : Option String} (h : monitors sentinel name = master) :
    monitors.put sentinel name master = monitors := by
  funext other label
  unfold Monitors.put
  split_ifs with hplace
  · rw [hplace.1, hplace.2, h]
  · rfl

/-- A call that reports a value and leaves the monitors as they are. -/
theorem attempt_yields {δ α : Type} {wrap : δ → GoError} {program : Program operator (Except δ α)} {value : α}
    (hfail : mayFail → ∀ final, fail final)
    (h : (Meaning.sequential (answers mayFail setting)).wp program
      (fun reply final ↦ Reports mayFail value reply ∧ final = monitors) monitors) :
    (Fallible.attempt wrap program).Yields (.sequential (answers mayFail setting)) fail
      (fun found final ↦ found = value ∧ final = monitors) monitors := by
  apply ends_attempt
  refine Meaning.wp_mono _ h fun reply final hreply ↦ ?_
  cases reply with
  | ok found => exact hreply
  | error error => exact hfail hreply.1 final

theorem set_yields (hfail : mayFail → ∀ final, fail final) (sentinel password name option value : String) :
    (Go.remote (ask (.sentinel sentinel password (.set name option value)))).Yields
      (.sequential (answers mayFail setting)) fail (fun _ final ↦ () = () ∧ final = monitors) monitors :=
  attempt_yields hfail fun _ _ hreply ↦ hreply

theorem createMonitor_yields (hfail : mayFail → ∀ final, fail final) (sentinel password name master kvPass : String) :
    (Kvrocks.createMonitor sentinel password name master kvPass).Yields (.sequential (answers mayFail setting)) fail
      (fun _ final ↦ final = monitors.put sentinel name (some master)) monitors := by
  have hmonitor : (Go.remote (ask (.sentinel sentinel password
      (.monitor name master (Text.itoa Kvrocks.kvrocksPort) (Text.itoa Kvrocks.quorum))))).Yields
      (.sequential (answers mayFail setting)) fail
      (fun _ final ↦ final = monitors.put sentinel name (some master)) monitors := by
    apply ends_attempt
    intro reply final hreply
    cases reply with
    | ok _ =>
      rcases hreply.2 with hput | hrefused
      · exact hput
      · exact absurd rfl hrefused.1
    | error error => exact hfail hreply.1 final
  refine hmonitor.bind fun _ first hfirst ↦ ?_
  refine (set_yields hfail sentinel password name _ _).bind fun _ second hsecond ↦ ?_
  refine (set_yields hfail sentinel password name _ _).bind fun _ third hthird ↦ ?_
  refine (set_yields hfail sentinel password name _ _).imp fun _ final hfinal ↦ ?_
  rw [hfinal.2, hthird.2, hsecond.2, hfirst]

theorem resetMonitor_yields (hfail : mayFail → ∀ final, fail final) (sentinel password name kvPass : String) :
    (Kvrocks.resetMonitor sentinel password name kvPass).Yields (.sequential (answers mayFail setting)) fail
      (fun _ final ↦ final = monitors) monitors := by
  have hreset : (Go.remote (ask (.sentinel sentinel password (.reset name)))).Yields
      (.sequential (answers mayFail setting)) fail (fun _ final ↦ () = () ∧ final = monitors) monitors :=
    attempt_yields hfail fun _ _ hreply ↦ hreply
  refine hreset.bind fun _ first hfirst ↦ ?_
  refine (set_yields hfail sentinel password name _ _).imp fun _ final hfinal ↦ ?_
  rw [hfinal.2, hfirst.2]

/-- Whatever the sentinel monitored before and whether or not the removal works. -/
theorem replaceMonitor_yields (hfail : mayFail → ∀ final, fail final) (sentinel password name master kvPass : String) :
    ((Kvrocks.removeMonitor sentinel password name).handle >>= fun _ ↦
      Kvrocks.createMonitor sentinel password name master kvPass).Yields (.sequential (answers mayFail setting)) fail
      (fun _ final ↦ final = monitors.put sentinel name (some master)) monitors := by
  have hremove : (Kvrocks.removeMonitor sentinel password name).handle.Yields (.sequential (answers mayFail setting))
      fail (fun _ final ↦ final = monitors ∨ final = monitors.put sentinel name none) monitors := by
    apply ends_handle
    apply ends_attempt
    intro reply final hreply
    have hfinal : final = monitors ∨ final = monitors.put sentinel name none := hreply.2.symm.imp And.right id
    cases reply with
    | ok _ => exact hfinal
    | error error => exact fun _ ↦ hfinal
  refine hremove.bind fun _ later hlater ↦ ?_
  refine (createMonitor_yields hfail sentinel password name master kvPass).imp fun _ final hfinal ↦ ?_
  rcases hlater with rfl | rfl
  · exact hfinal
  · rw [hfinal, put_put]

theorem ensureMonitorAt_puts (hfail : mayFail → ∀ final, fail final)
    (sentinelPassword master name password sentinel : String) :
    (ensureMonitorAt sentinelPassword master name password sentinel).Yields (.sequential (answers mayFail setting))
      fail (fun _ final ↦ final = monitors.put sentinel name (some master)) monitors := by
  apply ensureMonitorAt_yields
  rintro reply later ⟨hnames, rfl⟩
  refine ⟨fun hok ↦ ?_, fun _ ↦ replaceMonitor_yields hfail sentinel sentinelPassword name master password⟩
  rw [hok] at hnames
  rw [put_self hnames]
  exact resetMonitor_yields hfail sentinel sentinelPassword name password

/-- All sentinels monitor the master under the name. -/
def Monitors.putAll (monitors : Monitors) (sentinels : List String) (name : String) (master : Option String) :
    Monitors :=
  fun other label ↦ if other ∈ sentinels ∧ label = name then master else monitors other label

theorem putAll_nil (monitors : Monitors) (name : String) (master : Option String) :
    monitors.putAll [] name master = monitors := by
  funext other label
  simp [Monitors.putAll]

theorem putAll_concat (monitors : Monitors) (sentinels : List String) (sentinel name : String)
    (master : Option String) :
    monitors.putAll (sentinels ++ [sentinel]) name master =
      (monitors.putAll sentinels name master).put sentinel name master := by
  funext other label
  unfold Monitors.putAll Monitors.put
  by_cases hlabel : label = name <;> by_cases hother : other = sentinel <;> simp [hlabel, hother]

theorem ensureMonitor_yields (hfail : mayFail → ∀ final, fail final) (h : Handler) (master name password : String) :
    (ensureMonitor h master name password).Yields (.sequential (answers mayFail setting)) fail
      (fun _ final ↦ final = monitors.putAll h.pods name (some master)) monitors := by
  refine yields_forEach (fun front final ↦ final = monitors.putAll front name (some master))
    (putAll_nil monitors name (some master)).symm fun front sentinel back current _ hcurrent ↦ ?_
  refine (ensureMonitorAt_puts hfail _ master name password sentinel).imp fun _ final hfinal ↦ ?_
  rw [hfinal, hcurrent, putAll_concat]

theorem findMaster_yields (hfail : mayFail → ∀ final, fail final) (password : String) (pods : List Pod)
    (hmissing : (pods.find? fun pod ↦ decide (setting.role pod.ip = some .master)) = none → ∀ final, fail final) :
    (findMaster password pods).Yields (.sequential (answers mayFail setting)) fail (fun master final ↦
        (pods.find? fun pod ↦ decide (setting.role pod.ip = some .master)).map (·.ip) = some master ∧ final = monitors)
      monitors := by
  induction pods with
  | nil => exact ends_throw _ (hmissing rfl monitors)
  | cons pod pods ih =>
    have hrole : (Go.remote (ask (.node pod.ip password .role))).Yields (.sequential (answers mayFail setting)) fail
        (fun role final ↦ role = setting.role pod.ip ∧ final = monitors) monitors :=
      attempt_yields hfail fun _ _ hreply ↦ hreply
    have hinfo : (Kvrocks.nodeInfo pod.ip password).Yields (.sequential (answers mayFail setting)) fail
        (fun node final ↦ (node.2 = .master ↔ setting.role pod.ip = some .master) ∧
          (node.2 = .master → node.1 = pod.ip) ∧ final = monitors) monitors := by
      refine hrole.bind fun role later hlater ↦ ?_
      obtain ⟨rfl, rfl⟩ := hlater
      cases setting.role pod.ip with
      | none => exact ends_pure (by simp)
      | some role => exact ends_pure (by simp)
    refine hinfo.bind fun (ip, role) later hnode ↦ ?_
    obtain ⟨hmaster, hip, rfl⟩ := hnode
    rw [List.find?_cons] at hmissing ⊢
    by_cases hrole : role = .master
    · rw [decide_eq_true (hmaster.mp hrole)]
      simp only [if_pos hrole]
      exact ends_pure ⟨congrArg some (hip hrole).symm, rfl⟩
    · rw [decide_eq_false fun hmaster' ↦ hrole (hmaster.mpr hmaster')] at hmissing ⊢
      simp only [if_neg hrole]
      exact ih hmissing

theorem getMasterMsg_yields (hfail : mayFail → ∀ final, fail final) (password : String) (key : NamespacedName)
    (hmissing : setting.master key = none → ∀ final, fail final) :
    (getMasterMsg key password).Yields (.sequential (answers mayFail setting)) fail
      (fun master final ↦ setting.master key = some master ∧ final = monitors) monitors := by
  have hpods : (K8s.listStatefulSetPods key).Yields (.sequential (answers mayFail setting)) fail
      (fun pods final ↦ pods = setting.pods (setting.statefulSet key).ns (setting.statefulSet key).matchLabels ∧
        final = monitors) monitors := by
    have hset : (K8s.getStatefulSet key).Yields (.sequential (answers mayFail setting)) fail
        (fun sts final ↦ sts = setting.statefulSet key ∧ final = monitors) monitors :=
      attempt_yields hfail fun _ _ hreply ↦ hreply
    refine hset.bind fun sts later hlater ↦ ?_
    obtain ⟨rfl, rfl⟩ := hlater
    exact attempt_yields hfail fun _ _ hreply ↦ hreply
  refine hpods.bind fun pods later hlater ↦ ?_
  obtain ⟨rfl, rfl⟩ := hlater
  exact findMaster_yields hfail password _ fun hnone ↦ hmissing (Option.map_eq_none_iff.mpr hnone)

/-- The monitors after a target has been registered. -/
def registered (setting : Setting) (sentinels : List String) (monitors : Monitors) (target : Target) : Monitors :=
  monitors.putAll sentinels target.name (setting.master target.key)

theorem monitorMaster_yields (hfail : mayFail → ∀ final, fail final) (h : Handler) (kvrocks : KVRocks)
    (stsName name : String) (hmissing : setting.master ⟨kvrocks.ns, stsName⟩ = none → ∀ final, fail final) :
    (monitorMaster h kvrocks stsName name).Yields (.sequential (answers mayFail setting)) fail
      (fun _ final ↦ (setting.master ⟨kvrocks.ns, stsName⟩).isSome ∧
        final = registered setting h.pods monitors ⟨⟨kvrocks.ns, stsName⟩, name⟩) monitors := by
  refine (getMasterMsg_yields hfail kvrocks.spec.password _ hmissing).bind fun master later hlater ↦ ?_
  obtain ⟨hmaster, rfl⟩ := hlater
  refine (ensureMonitor_yields hfail h master name kvrocks.spec.password).imp fun _ final hfinal ↦ ?_
  rw [registered, hmaster]
  exact ⟨rfl, hfinal⟩

end Target

/-! ## All instances -/

/-- The instances that the loop looks at: those with the label, up to the first standard one that is running. -/
def reached : List KVRocks → List KVRocks
  | [] => []
  | kvrocks :: rest =>
    if (kvrocks.labels.lookup monitoredBy).isNone then reached rest
    else if kvrocks.status.status = .running ∧ kvrocks.spec.type = .standard then [kvrocks]
    else kvrocks :: reached rest

/-- What is registered for the instances that are running. -/
def reachedTargets (kvrockses : List KVRocks) : List Target :=
  ((reached kvrockses).filter fun kvrocks ↦ decide (kvrocks.status.status = .running)).flatMap targets

section Loop

variable {mayFail : Prop} {setting : Setting} {fail : Monitors → Prop} {monitors : Monitors}

/-- The shards of a cluster instance. -/
theorem monitorShards_yields (hfail : mayFail → ∀ final, fail final) (h : Handler) {kvrocks : KVRocks}
    (htype : kvrocks.spec.type ≠ .standard)
    (hmissing : (∃ target ∈ targets kvrocks, setting.master target.key = none) → ∀ final, fail final) :
    (forEach (fun index ↦ monitorMaster h kvrocks (getStatefulSetName kvrocks.name index)
        (clusterMasterName kvrocks.name index)) (List.range kvrocks.spec.master) : Go Unit).Yields
      (.sequential (answers mayFail setting)) fail
      (fun _ final ↦ (∀ target ∈ targets kvrocks, (setting.master target.key).isSome) ∧
        final = (targets kvrocks).foldl (registered setting h.pods) monitors) monitors := by
  have htargets : targets kvrocks = (List.range kvrocks.spec.master).map (shardTarget kvrocks) := if_neg htype
  rw [htargets] at hmissing ⊢
  refine yields_forEach (fun front final ↦
    (∀ target ∈ front.map (shardTarget kvrocks), (setting.master target.key).isSome) ∧
      final = (front.map (shardTarget kvrocks)).foldl (registered setting h.pods) monitors)
    ⟨fun _ htarget ↦ (List.not_mem_nil htarget).elim, rfl⟩ fun front index back current hitems hcurrent ↦ ?_
  have hindex : index ∈ List.range kvrocks.spec.master := hitems ▸ List.mem_append_right front List.mem_cons_self
  refine (monitorMaster_yields hfail h kvrocks _ _ fun hnone ↦
    hmissing ⟨_, List.mem_map_of_mem hindex, hnone⟩).imp fun _ final hfinal ↦ ?_
  rw [List.map_append, List.foldl_append]
  refine ⟨List.forall_mem_append.mpr ⟨hcurrent.1, ?_⟩, ?_⟩
  · exact List.forall_mem_singleton.mpr hfinal.1
  · rw [hfinal.2, hcurrent.2]
    rfl

/-- What the loop leaves behind. -/
structure Registered (setting : Setting) (kvrockses : List KVRocks) (h : Handler) (monitors : Monitors)
    (later : Handler) (final : Monitors) : Prop where
  calm : later.requeue = false ↔ h.requeue = false ∧ ∀ kvrocks ∈ reached kvrockses, kvrocks.status.status = .running
  masters : ∀ target ∈ reachedTargets kvrockses, (setting.master target.key).isSome
  monitors : final = (reachedTargets kvrockses).foldl (registered setting h.pods) monitors

theorem monitorAll_yields (hfail : mayFail → ∀ final, fail final) (kvrockses : List KVRocks) (h : Handler)
    (hmissing : (∃ target ∈ reachedTargets kvrockses, setting.master target.key = none) → ∀ final, fail final) :
    (monitorAll kvrockses).Yields (.sequential (answers mayFail setting)) fail
      (fun _ ↦ Registered setting kvrockses h monitors) h monitors := by
  induction kvrockses generalizing h monitors with
  | nil => exact Method.ends_pure ⟨by simp [reached], fun _ htarget ↦ (List.not_mem_nil htarget).elim, rfl⟩
  | cons kvrocks rest ih =>
    unfold monitorAll
    cases hlabel : kvrocks.labels.lookup monitoredBy with
    | none =>
      have hreached : reached (kvrocks :: rest) = reached rest := by simp [reached, hlabel]
      have htargets : reachedTargets (kvrocks :: rest) = reachedTargets rest := by
        rw [reachedTargets, hreached, reachedTargets]
      rw [htargets] at hmissing
      refine (ih h hmissing).imp fun _ later final hrest ↦ ?_
      exact ⟨hreached ▸ hrest.calm, htargets ▸ hrest.masters, htargets ▸ hrest.monitors⟩
    | some sentinel =>
      by_cases hrunning : kvrocks.status.status = .running
      · by_cases htype : kvrocks.spec.type = .standard
        · have hreached : reached (kvrocks :: rest) = [kvrocks] := by simp [reached, hlabel, hrunning, htype]
          have htargets : reachedTargets (kvrocks :: rest) =
              [⟨⟨kvrocks.ns, kvrocks.name⟩, standardMasterName kvrocks.name⟩] := by
            simp [reachedTargets, hreached, hrunning, targets, htype]
          rw [htargets] at hmissing
          simp only [hrunning, ne_eq, not_true_eq_false, if_false, htype, if_true]
          apply ends_get_bind
          refine Method.ends_lift ((monitorMaster_yields hfail h kvrocks kvrocks.name _ fun hnone ↦
            hmissing ⟨_, List.mem_singleton_self _, hnone⟩).imp fun _ final hfinal ↦ ?_)
          refine ⟨?_, ?_, ?_⟩
          · rw [hreached]
            simp [hrunning]
          · rw [htargets]
            exact List.forall_mem_singleton.mpr hfinal.1
          · rw [htargets]
            exact hfinal.2
        · have hreached : reached (kvrocks :: rest) = kvrocks :: reached rest := by
            simp [reached, hlabel, htype]
          have htargets : reachedTargets (kvrocks :: rest) = targets kvrocks ++ reachedTargets rest := by
            simp [reachedTargets, hreached, hrunning]
          rw [htargets] at hmissing
          simp only [hrunning, ne_eq, not_true_eq_false, if_false, htype]
          apply ends_get_bind
          refine ends_lift_bind (monitorShards_yields hfail h htype fun ⟨target, htarget, hnone⟩ ↦
            hmissing ⟨target, List.mem_append_left _ htarget, hnone⟩) fun _ middle hmiddle ↦ ?_
          refine (ih h fun ⟨target, htarget, hnone⟩ ↦
            hmissing ⟨target, List.mem_append_right _ htarget, hnone⟩).imp fun _ later final hrest ↦ ?_
          refine ⟨?_, ?_, ?_⟩
          · rw [hrest.calm, hreached, List.forall_mem_cons]
            tauto
          · rw [htargets]
            exact List.forall_mem_append.mpr ⟨hmiddle.1, hrest.masters⟩
          · rw [htargets, List.foldl_append, ← hmiddle.2]
            exact hrest.monitors
      · have hreached : reached (kvrocks :: rest) = kvrocks :: reached rest := by
          simp [reached, hlabel, hrunning]
        have htargets : reachedTargets (kvrocks :: rest) = reachedTargets rest := by
          simp [reachedTargets, hreached, hrunning]
        rw [htargets] at hmissing
        simp only [hrunning, ne_eq, not_false_eq_true, if_true]
        apply ends_modify_bind
        refine (ih { h with requeue := true } hmissing).imp fun _ later final hrest ↦ ?_
        refine ⟨?_, htargets ▸ hrest.masters, htargets ▸ hrest.monitors⟩
        rw [hrest.calm, hreached, List.forall_mem_cons]
        tauto

end Loop

/-! ## Who is monitored in the end -/

/-- The target that is registered last under a name. -/
def lastNamed (name : String) (targets : List Target) : Option Target :=
  targets.reverse.find? fun target ↦ target.name == name

/-- A sentinel monitors what has been registered last under a name, and what it monitored before where nothing has
been. -/
theorem foldl_registered (setting : Setting) {sentinels : List String} {sentinel : String}
    (hsentinel : sentinel ∈ sentinels) (targets : List Target) (monitors : Monitors) (name : String) :
    targets.foldl (registered setting sentinels) monitors sentinel name =
      match lastNamed name targets with
      | some target => setting.master target.key
      | none => monitors sentinel name := by
  induction targets using List.reverseRecOn with
  | nil => rfl
  | append_singleton targets target ih =>
    rw [List.foldl_append]
    change (registered setting sentinels (targets.foldl (registered setting sentinels) monitors) target) sentinel
      name = _
    unfold lastNamed at ih ⊢
    rw [List.reverse_append, List.reverse_singleton, List.singleton_append, List.find?_cons]
    unfold registered Monitors.putAll
    by_cases hname : name = target.name
    · rw [if_pos ⟨hsentinel, hname⟩, beq_iff_eq.mpr hname.symm]
    · rw [if_neg fun hplace ↦ hname hplace.2, beq_eq_false_iff_ne.mpr (Ne.symm hname)]
      exact ih

/-- Every instance that the loop looks at is running, and all its StatefulSets have a master. -/
def Ready (setting : Setting) : Prop :=
  (∀ kvrocks ∈ reached setting.listed, kvrocks.status.status = .running) ∧
    ∀ target ∈ reachedTargets setting.listed, (setting.master target.key).isSome

/-- The master of every target is the master of the target that is registered last under its name; where none is, the
sentinels monitor it already. -/
def Covered (setting : Setting) (sentinels : List String) (monitors : Monitors) : Prop :=
  ∀ kvrocks ∈ setting.listed, (kvrocks.labels.lookup monitoredBy).isSome → ∀ target ∈ targets kvrocks,
    ∀ sentinel ∈ sentinels, ∃ master, setting.master target.key = some master ∧
      (match lastNamed target.name (reachedTargets setting.listed) with
        | some last => setting.master last.key
        | none => monitors sentinel target.name) = some master

section Run

variable {setting : Setting} {h : Handler} {monitors : Monitors}

theorem ensureSentinel_yields {mayFail : Prop} {fail : Monitors → Prop} (hfail : mayFail → ∀ final, fail final)
    (hmissing : (∃ target ∈ reachedTargets setting.listed, setting.master target.key = none) → ∀ final, fail final) :
    ensureSentinel.Yields (.sequential (answers mayFail setting)) fail
      (fun _ ↦ Registered setting setting.listed h monitors) h monitors := by
  have hlist (ns : String) (labels : StringMap) : (Go.api (ask (.listKVRocks ns labels))).Yields
      (.sequential (answers mayFail setting)) fail
      (fun listed final ↦ listed = setting.listed ∧ final = monitors) monitors :=
    attempt_yields hfail fun _ _ hreply ↦ hreply
  apply ends_get_bind
  refine ends_lift_bind (hlist h.key.ns (monitorLabels h.key.name)) fun listed later hlater ↦ ?_
  obtain ⟨rfl, rfl⟩ := hlater
  exact monitorAll_yields hfail setting.listed h hmissing

/-- The answer of a sentinel about a name. -/
def queried : Option String → Except GoError String
  | some master => .ok master
  | none => .error (.remote "ERR No such master with that name")

/-- No call fails. -/
def served (setting : Setting) : (request : Call) → Monitors → request.Reply × Monitors
  | .listKVRocks _ _, monitors => (.ok setting.listed, monitors)
  | .getStatefulSet key, monitors => (.ok (setting.statefulSet key), monitors)
  | .listPods ns labels, monitors => (.ok (setting.pods ns labels), monitors)
  | .node ip _ .role, monitors => (.ok (setting.role ip), monitors)
  | .sentinel ip _ (.master name), monitors => (queried (monitors ip name), monitors)
  | .sentinel ip _ (.remove name), monitors => (.ok (), monitors.put ip name none)
  | .sentinel ip _ (.monitor name master _ _), monitors => (.ok (), monitors.put ip name (some master))
  | .sentinel _ _ (.set _ _ _), monitors => (.ok (), monitors)
  | .sentinel _ _ (.reset _), monitors => (.ok (), monitors)
  | request, monitors => (request.failure, monitors)

theorem answers_served (setting : Setting) (request : Call) (monitors : Monitors) :
    answers False setting request monitors (served setting request monitors).1 (served setting request monitors).2 := by
  cases request with
  | listKVRocks ns labels => exact ⟨rfl, rfl⟩
  | getStatefulSet key => exact ⟨rfl, rfl⟩
  | listPods ns labels => exact ⟨rfl, rfl⟩
  | node ip password command => cases command <;> first | exact ⟨rfl, rfl⟩ | exact rfl
  | sentinel ip password command =>
    cases command with
    | master name =>
      have hquery (monitored : Option String) : Names False monitored (queried monitored) := by
        cases monitored with
        | none => exact .inr rfl
        | some master => exact rfl
      exact ⟨hquery (monitors ip name), rfl⟩
    | remove name => exact ⟨rfl, .inl rfl⟩
    | monitor name master port quorum => exact ⟨rfl, .inl rfl⟩
    | set name option value => exact ⟨rfl, rfl⟩
    | reset name => exact ⟨rfl, rfl⟩
  | _ => exact rfl

theorem Reports.of_sure {ε α : Type} {value : α} {reply : Except ε α} (h : Reports False value reply) :
    Reports True value reply := by
  cases reply with
  | ok found => exact h
  | error error => exact h.elim

theorem answers_mono (setting : Setting) (request : Call) (before : Monitors) (reply : request.Reply)
    (after : Monitors) (h : answers False setting request before reply after) :
    answers True setting request before reply after := by
  cases request with
  | listKVRocks ns labels => exact ⟨h.1.of_sure, h.2⟩
  | getStatefulSet key => exact ⟨h.1.of_sure, h.2⟩
  | listPods ns labels => exact ⟨h.1.of_sure, h.2⟩
  | node ip password command => cases command <;> first | exact ⟨Reports.of_sure h.1, h.2⟩ | exact h
  | sentinel ip password command =>
    cases command with
    | master name =>
      cases reply with
      | ok master => exact h
      | error error => exact ⟨.inl trivial, h.2⟩
    | remove name => exact ⟨Reports.of_sure h.1, h.2⟩
    | monitor name master port quorum => exact ⟨Reports.of_sure h.1, h.2⟩
    | set name option value => exact ⟨Reports.of_sure h.1, h.2⟩
    | reset name => exact ⟨Reports.of_sure h.1, h.2⟩
  | _ => exact h

/-- The run in which no call fails returns nil if all is ready. -/
theorem exec_of_ready (hready : Ready setting) (hrequeue : h.requeue = false) (monitors : Monitors) :
    ∃ later final, Exec (answers True setting) (ensureSentinel.on h) monitors (.ok (), later) final ∧
      later.requeue = false ∧
      final = (reachedTargets setting.listed).foldl (registered setting h.pods) monitors := by
  have hexec := exec_run (answers_served setting) (ensureSentinel.on h) monitors
  generalize (ensureSentinel.on h).run (served setting) monitors = result at hexec
  obtain ⟨⟨outcome, later⟩, final⟩ := result
  have hmissing : (∃ target ∈ reachedTargets setting.listed, setting.master target.key = none) → False := by
    rintro ⟨target, htarget, hnone⟩
    have hsome := hready.2 target htarget
    rw [hnone] at hsome
    cases hsome
  have hyields : ensureSentinel.Yields (.sequential (answers False setting)) (fun _ ↦ False)
      (fun _ ↦ Registered setting setting.listed h monitors) h monitors :=
    ensureSentinel_yields (fun hfalse _ ↦ hfalse) fun hnone _ ↦ hmissing hnone
  have hend := hyields.exec hexec
  cases outcome with
  | err error => exact hend.elim
  | panic => exact hend.elim
  | ok _ =>
    have hcalm : later.requeue = false := hend.calm.mpr ⟨hrequeue, hready.1⟩
    exact ⟨later, final, hexec.mono (answers_mono setting), hcalm, hend.monitors⟩

end Run

/-- For every list of instances, every state of the pods and every state of the sentinels: all targets are monitored
exactly if, all being ready, each has the master of the target that is registered last under its name. -/
theorem ensureSentinel_monitored_iff (setting : Setting) (h : Handler) (hrequeue : h.requeue = false)
    (monitors : Monitors) :
    Monitored setting h monitors ↔ (Ready setting → Covered setting h.pods monitors) := by
  constructor
  · intro hmonitored hready kvrocks hkvrocks hlabel target htarget sentinel hsentinel
    obtain ⟨later, final, hexec, hcalm, hfinal⟩ := exec_of_ready hready hrequeue monitors
    obtain ⟨master, hmaster, hvalue⟩ :=
      hmonitored later final hexec hcalm kvrocks hkvrocks hlabel target htarget sentinel hsentinel
    rw [hfinal, foldl_registered setting hsentinel] at hvalue
    exact ⟨master, hmaster, hvalue⟩
  · intro hcovered later final hexec hcalm kvrocks hkvrocks hlabel target htarget sentinel hsentinel
    have hyields : ensureSentinel.Yields (.sequential (answers True setting)) (fun _ ↦ True)
        (fun _ ↦ Registered setting setting.listed h monitors) h monitors :=
      ensureSentinel_yields (fun _ _ ↦ trivial) fun _ _ ↦ trivial
    have hregistered : Registered setting setting.listed h monitors later final := hyields.exec hexec
    have hready : Ready setting := ⟨(hregistered.calm.mp hcalm).2, hregistered.masters⟩
    obtain ⟨master, hmaster, hvalue⟩ := hcovered hready kvrocks hkvrocks hlabel target htarget sentinel hsentinel
    refine ⟨master, hmaster, ?_⟩
    rw [hregistered.monitors, foldl_registered setting hsentinel]
    exact hvalue

/-! ## Two instances -/

/-- A running instance that carries the label. -/
def labelled (type : KVRocksType) (name : String) (master : ℕ) : KVRocks :=
  let created := KVRocks.created ⟨"default", name⟩
    { image := "kvrocks:2.0", type := type, kvrocksConfig := [], replicas := 1, master := master,
      password := "secret", resources := true }
  { created with
    labels := [(monitoredBy, "sentinel-1")]
    status := { created.status with status := .running } }

/-- Every StatefulSet has one pod, which is a master and whose address is the name of the StatefulSet. -/
def onePodEach (listed : List KVRocks) : Setting :=
  { listed := listed
    statefulSet := fun key ↦
      { ns := key.ns, name := key.name, matchLabels := [("sts", key.name)], replicas := 1, reserveOrdinals := []
        image := "kvrocks:2.0", exporterImage := exporterImage, readyReplicas := 1, resourceVersion := 0 }
    pods := fun ns labels ↦
      [{ ns := ns, name := (labels.lookup "sts").getD "" ++ "-0", ip := (labels.lookup "sts").getD "", labels := []
         deletionTimestamp := false }]
    role := fun _ ↦ some .master }

/-- Two sentinels. -/
def sentinels : Handler :=
  { newKVRocksSentinelHandler ⟨"default", "sentinel-1"⟩ (labelled .sentinel "sentinel-1" 0) with
    pods := ["10.0.1.1", "10.0.1.2"] }

/-- A standard instance after a cluster of two shards. -/
theorem cluster_then_standard_monitored : Monitored (onePodEach [labelled .cluster "kvrocks-cluster-1-demo" 2,
      labelled .standard "kvrocks-standard-1-other" 0]) sentinels fun _ _ ↦ none := by
  refine (ensureSentinel_monitored_iff _ sentinels rfl _).mpr fun _ kvrocks hkvrocks _ target htarget sentinel _ ↦ ?_
  have hall : ∀ kvrocks ∈ [labelled .cluster "kvrocks-cluster-1-demo" 2,
      labelled .standard "kvrocks-standard-1-other" 0], ∀ target ∈ targets kvrocks,
      target ∈ ([⟨⟨"default", "kvrocks-cluster-1-demo-0"⟩, "demo-0"⟩,
        ⟨⟨"default", "kvrocks-cluster-1-demo-1"⟩, "demo-1"⟩,
        ⟨⟨"default", "kvrocks-standard-1-other"⟩, "other"⟩] : List Target) := by decide +kernel
  have hcases := hall kvrocks hkvrocks target htarget
  simp only [List.mem_cons, List.not_mem_nil, or_false] at hcases
  rcases hcases with rfl | rfl | rfl
  · exact ⟨"kvrocks-cluster-1-demo-0", by decide +kernel, by decide +kernel⟩
  · exact ⟨"kvrocks-cluster-1-demo-1", by decide +kernel, by decide +kernel⟩
  · exact ⟨"kvrocks-standard-1-other", by decide +kernel, by decide +kernel⟩

/-- Two standard instances: the second one is not monitored. -/
theorem second_standard_unmonitored :
    let setting := onePodEach [labelled .standard "kvrocks-standard-1-demo" 0,
      labelled .standard "kvrocks-standard-1-other" 0]
    let run := (ensureSentinel.on sentinels).run (served setting) fun _ _ ↦ none
    run.1.1 = .ok () ∧ run.1.2.requeue = false ∧ run.2 "10.0.1.1" "other" = none ∧
      ¬ Monitored setting sentinels fun _ _ ↦ none := by
  intro setting run
  have hrun : run.1.1 = .ok () ∧ run.1.2.requeue = false ∧ run.2 "10.0.1.1" "other" = none := by decide +kernel
  refine ⟨hrun.1, hrun.2.1, hrun.2.2, fun hmonitored ↦ ?_⟩
  have hexec : Exec (answers True setting) (ensureSentinel.on sentinels) (fun _ _ ↦ none) (.ok (), run.1.2) run.2 := by
    rw [← hrun.1]
    exact (exec_run (answers_served setting) (ensureSentinel.on sentinels) _).mono (answers_mono setting)
  obtain ⟨master, _, hmaster⟩ := hmonitored run.1.2 run.2 hexec hrun.2.1
    (labelled .standard "kvrocks-standard-1-other" 0) (List.mem_cons_of_mem _ List.mem_cons_self) rfl
    ⟨⟨"default", "kvrocks-standard-1-other"⟩, "other"⟩ (by decide +kernel) "10.0.1.1" List.mem_cons_self
  exact absurd (hmaster.symm.trans hrun.2.2) (Option.some_ne_none master)

end KvrocksOperator.Sentinel
