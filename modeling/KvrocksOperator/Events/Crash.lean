import KvrocksOperator.Cluster.Responses
import KvrocksOperator.Controllers.Writers

/-!
# When the failover handler panics

The shard index of a message was computed against the topology of the pass that sent it, or comes from a sentinel.
`handleFailover` uses it as an index into the topology of the instance as it finds it, after the controller has failed
the shard over, and then uses what `GetNodes` returns without looking whether there is a shard.  A panic in this
goroutine ends the process.

The log of an execution determines both: this module says for which logs `handleFailover` panics, for every message,
every instance and every combination of answers.
-/

namespace KvrocksOperator.Events.Crash

open Interaction Cluster.Responses

/-- The instance that an answer carries. -/
def instanceOf : Entry operator → Option KVRocks
  | ⟨.getKVRocks _, .ok instance_⟩ => some instance_
  | _ => none

/-- The instance that the handler has found; it is read right after the lock has been taken. -/
def handled (log : Log) : Option KVRocks := log[1]?.bind instanceOf

/-- The answer says that the shard has been failed over. -/
def reportsFailover : Entry operator → Bool
  | ⟨.http _ (.failoverShard _ _ _), .ok response⟩ => response.statusCode == statusOK
  | _ => false

/-- The controller has failed the shard of the message over. -/
def FailedOver (log : Log) : Prop := ∃ entry ∈ log, reportsFailover entry = true

/-- The topology has a shard with this index. -/
def HasShard (instance_ : KVRocks) (partition : ℤ) : Prop := 0 ≤ partition ∧ partition < instance_.status.topo.length

/-- If the controller has failed the shard over, the instance that the handler had found has the shard, and the
controller's answer to the read of the shard, if there was one, was 200. -/
structure Harmless (msg : EventMessage) (log : Log) : Prop where
  hasShard : ∀ instance_, handled log = some instance_ → FailedOver log → HasShard instance_ msg.partition
  found : AllFound log

/-! ## Entries that say nothing -/

/-- The calls of the handler that are not to the controller. -/
def neutralKinds : List CallKind :=
  queueKinds ++ [.getKVRocks, .updateKVRocks, .getService, .getWorkload, .listPods, .sentinel]

section Neutral

variable {msg : EventMessage} {log : Log} {entry : Entry operator}

theorem nodeRead_eq_none (h : OfKind neutralKinds entry.1) : nodeRead entry = none := by
  obtain ⟨request, reply⟩ := entry
  cases request with
  | http endPoint request => simp [OfKind, neutralKinds, queueKinds, Call.kind] at h
  | _ => rfl

theorem reportsFailover_eq_false (h : OfKind neutralKinds entry.1) : reportsFailover entry = false := by
  obtain ⟨request, reply⟩ := entry
  cases request with
  | http endPoint request => simp [OfKind, neutralKinds, queueKinds, Call.kind] at h
  | _ => rfl

/-- Once the instance has been read, it stays the one that was found. -/
theorem handled_concat (hlength : 2 ≤ log.length) : handled (log ++ [entry]) = handled log := by
  rw [handled, List.getElem?_append_left (by omega), handled]

theorem failedOver_concat : FailedOver (log ++ [entry]) ↔ FailedOver log ∨ reportsFailover entry = true := by
  simp [FailedOver, or_and_right, exists_or]

theorem harmless_concat (hlength : 2 ≤ log.length) (h : OfKind neutralKinds entry.1) :
    Harmless msg (log ++ [entry]) ↔ Harmless msg log := by
  have hfound : AllFound (log ++ [entry]) ↔ AllFound log := by
    rw [AllFound, nodeReads_concat_of_none (nodeRead_eq_none h), AllFound]
  have hfailed : FailedOver (log ++ [entry]) ↔ FailedOver log := by
    simp [failedOver_concat, reportsFailover_eq_false h]
  constructor
  · intro hlog
    refine ⟨fun instance_ hinstance hfailover ↦ ?_, hfound.mp hlog.found⟩
    exact hlog.hasShard instance_ ((handled_concat hlength).trans hinstance) (hfailed.mpr hfailover)
  · intro hlog
    refine ⟨fun instance_ hinstance hfailover ↦ ?_, hfound.mpr hlog.found⟩
    exact hlog.hasShard instance_ ((handled_concat hlength).symm.trans hinstance) (hfailed.mp hfailover)

end Neutral

/-! ## The stages of the handler -/

/-- The instance has been read, no answer about nodes was bad, and the controller has failed the shard over or not. -/
structure Stage (instance_ : KVRocks) (performed : Prop) (log : Log) : Prop where
  length : 2 ≤ log.length
  handled : handled log = some instance_
  found : AllFound log
  failedOver : FailedOver log ↔ performed

/-- The verdict on a log in which the instance has been read. -/
structure Judged (msg : EventMessage) (harmless : Prop) (log : Log) : Prop where
  length : 2 ≤ log.length
  harmless : Harmless msg log ↔ harmless

section Stages

variable {msg : EventMessage} {log : Log} {instance_ : KVRocks} {performed harmless : Prop} {entry : Entry operator}

theorem Stage.neutral (h : Stage instance_ performed log) (hkind : OfKind neutralKinds entry.1) :
    Stage instance_ performed (log ++ [entry]) where
  length := by simpa using Nat.le_succ_of_le h.length
  handled := (handled_concat h.length).trans h.handled
  found := h.found.neutral (nodeRead_eq_none hkind)
  failedOver := by simp [failedOver_concat, reportsFailover_eq_false hkind, h.failedOver]

theorem Judged.neutral (h : Judged msg harmless log) (hkind : OfKind neutralKinds entry.1) :
    Judged msg harmless (log ++ [entry]) where
  length := by simpa using Nat.le_succ_of_le h.length
  harmless := (harmless_concat h.length hkind).trans h.harmless

/-- Nothing can go wrong before the failover, and nothing does if the instance has the shard. -/
theorem Stage.judged (h : Stage instance_ performed log) :
    Judged msg (performed → HasShard instance_ msg.partition) log where
  length := h.length
  harmless := by
    constructor
    · exact fun hlog hperformed ↦ hlog.hasShard instance_ h.handled (h.failedOver.mpr hperformed)
    · intro hshard
      refine ⟨fun found hfound hfailover ↦ ?_, h.found⟩
      obtain rfl := Option.some.inj (h.handled.symm.trans hfound)
      exact hshard (h.failedOver.mp hfailover)

theorem Judged.of_iff {harmless' : Prop} (h : Judged msg harmless log) (hiff : harmless ↔ harmless') :
    Judged msg harmless' log :=
  ⟨h.length, h.harmless.trans hiff⟩

end Stages

section Handler

variable {client : Controller.Client} {msg : EventMessage} {log : Log} {instance_ : KVRocks}
  {performed : Prop} {crash : Log → Prop}

theorem index_eq_none_iff (partition : ℤ) :
    Go.index instance_.status.topo partition = none ↔ ¬ HasShard instance_ partition := by
  unfold Go.index HasShard
  split
  · rw [List.getElem?_eq_none_iff]
    omega
  · simp_all

/-- A function without calls to the controller keeps the stage. -/
theorem calm_ends {α : Type} {kinds : List CallKind} {fails : Prop} {function : Go α}
    (hcalm : Calm kinds fails function) (hkinds : kinds ⊆ neutralKinds) (h : Stage instance_ performed log) :
    function.Ends (.sequential recorded) (fun log ↦ fails ∧ Stage instance_ performed log) crash
      (fun _ ↦ Stage instance_ performed) log := by
  apply (hcalm.mono hkinds id).ends
  · intro request hkind before reply after hstep hbefore
    rw [show after = before ++ [⟨request, reply⟩] from hstep]
    exact hbefore.neutral hkind
  · exact h

theorem updateKVRocks_ends (h : Stage instance_ performed log) (hshard : performed → HasShard instance_ msg.partition)
    (written : KVRocks) :
    (K8s.updateKVRocks written).Ends (.sequential recorded) (Judged msg True) crash (fun _ ↦ Judged msg True) log := by
  have hjudged (log : Log) (hlog : Stage instance_ performed log) : Judged msg True log :=
    hlog.judged.of_iff (iff_true_intro hshard)
  exact (calm_ends (K8s.updateKVRocks_calm written) (by decide) h).mono
    (fun _ hlog ↦ hjudged _ hlog.2) (fun _ h ↦ h) fun _ _ hlog ↦ hjudged _ hlog

/-- An answer other than 200 to the read of the shard is a nil pointer. -/
theorem storeFailover_ends (h : Stage instance_ True log) (hshard : HasShard instance_ msg.partition) :
    (storeFailover client msg instance_).Ends (.sequential recorded) (Judged msg True) (Judged msg False)
      (fun _ ↦ Judged msg True) log := by
  have hread : (Controller.getNodes client msg.partition).Ends (.sequential recorded) (Judged msg True)
      (Judged msg False)
      (fun result later ↦ if result = none then Judged msg False later else Stage instance_ True later)
      log := by
    have hlength (entry : Entry operator) : 2 ≤ (log ++ [entry]).length := by
      simpa using Nat.le_succ_of_le h.length
    apply getNodes_ends
    · intro reply hfound
      refine ⟨hlength _, (handled_concat h.length).trans h.handled, (allFound_concat rfl).mpr ⟨h.found, hfound⟩, ?_⟩
      exact iff_true_intro (failedOver_concat.mpr (.inl (h.failedOver.mpr trivial)))
    · intro response hstatus
      refine ⟨hlength _, iff_false_intro fun hharmless ↦ ?_⟩
      exact hstatus (((allFound_concat rfl).mp hharmless.found).2 _ rfl)
    · exact fun _ hlog ↦ hlog.judged.of_iff (iff_true_intro fun _ ↦ hshard)
  apply hread.bind
  intro result later hlater
  cases result with
  | none => exact ends_panic hlater
  | some shardData =>
    apply (updateKVRocks_ends hlater (fun _ ↦ hshard) _).bind
    intro _ final hfinal
    exact ends_pure hfinal

theorem recordFailover_ends (h : Stage instance_ True log) :
    (recordFailover client msg instance_).Ends (.sequential recorded) (Judged msg True) (Judged msg False)
      (fun _ ↦ Judged msg True) log := by
  unfold recordFailover
  cases hpartition : Go.index instance_.status.topo msg.partition with
  | none =>
    have hshard := (index_eq_none_iff msg.partition).mp hpartition
    exact ends_panic (h.judged.of_iff (by simp [hshard]))
  | some partition =>
    have hshard : HasShard instance_ msg.partition := by
      by_contra hnone
      rw [(index_eq_none_iff msg.partition).mpr hnone] at hpartition
      cases hpartition
    rw [Fallible.ofOption, Fallible.pure_bind]
    split
    · have hremove : (Common.removeMonitor instance_ (Resources.parseRedisName msg.key.name).2
            msg.partition).Ends (.sequential recorded) (Judged msg True) (Judged msg False)
          (fun _ ↦ Stage instance_ True) log :=
        (calm_ends (Common.removeMonitorNamed_calm instance_ _) (by decide) h).mono
          (fun _ hnever ↦ hnever.1.elim) (fun _ h ↦ h) fun _ _ h ↦ h
      exact hremove.bind fun _ _ hlater ↦ storeFailover_ends hlater hshard
    · exact storeFailover_ends h hshard

/-- The request for a failover, whose error is kept as a value. -/
theorem failoverShard_ends (h : Stage instance_ False log) :
    (Controller.failoverShard client msg.partition).handle.Ends (.sequential recorded) (Judged msg True)
      (Judged msg False)
      (fun reply later ↦
        match reply with
        | .error _ => Stage instance_ False later
        | .ok _ => Stage instance_ True later) log := by
  have hstage (reply : Except GoError (Response Unit)) (performed : Prop)
      (hreply : reportsFailover ⟨.http client.endPoint
        (.failoverShard client.ns client.clusterName msg.partition), reply⟩ = true ↔ performed) :
      Stage instance_ performed (log ++ [⟨.http client.endPoint
        (.failoverShard client.ns client.clusterName msg.partition), reply⟩]) :=
    { length := by simpa using Nat.le_succ_of_le h.length
      handled := (handled_concat h.length).trans h.handled
      found := h.found.neutral rfl
      failedOver := by rw [failedOver_concat, h.failedOver, false_or, hreply] }
  apply ends_handle
  apply ends_once (sendExpecting_program client _ statusOK)
  intro reply
  cases reply with
  | error error => exact fun _ ↦ hstage _ False (by simp [reportsFailover])
  | ok response =>
    by_cases hstatus : response.statusCode = statusOK
    · simp only [expect, ne_eq, hstatus, not_true_eq_false, if_false]
      exact hstage _ True (by simp [reportsFailover, hstatus])
    · simp only [expect, ne_eq, hstatus, not_false_eq_true, if_true]
      exact fun _ ↦ hstage _ False (by simp [reportsFailover, hstatus])

/-- An instance that the handler has nothing to do with. -/
theorem judged_of_error {error : ApiError} : Judged msg True [⟨.lock, ()⟩, ⟨.getKVRocks msg.key, .error error⟩] where
  length := le_rfl
  harmless := iff_true_intro
    { hasShard := fun instance_ hinstance ↦ by simp [handled, instanceOf] at hinstance
      found := by simp [AllFound, nodeReads, nodeRead] }

theorem stage_of_ok : Stage instance_ False [⟨.lock, ()⟩, ⟨.getKVRocks msg.key, .ok instance_⟩] where
  length := le_rfl
  handled := rfl
  found := by simp [AllFound, nodeReads, nodeRead]
  failedOver := by simp [FailedOver, reportsFailover]

theorem failoverBody_ends : (failoverBody client msg).Ends (.sequential recorded) (Judged msg True) (Judged msg False)
      (fun _ ↦ Judged msg True) [⟨.lock, ()⟩] := by
  have hget : (K8s.getKVRocks msg.key).Ends (.sequential recorded) (Judged msg True) (Judged msg False)
      (fun instance_ ↦ Stage instance_ False) [⟨.lock, ()⟩] := by
    apply ends_once (rfl : _ = (ask (.getKVRocks msg.key)).bind fun reply ↦ .done (Fallible.ofReply GoError.api reply))
    intro reply
    cases reply with
    | error error => exact judged_of_error
    | ok instance_ => exact stage_of_ok
  apply (ends_handle_kept hget).bind
  intro reply later hlater
  cases reply with
  | error error => exact ends_pure hlater
  | ok instance_ =>
    have hnothing (log : Log) (hlog : Stage instance_ False log) : Judged msg True log := hlog.judged.of_iff (by simp)
    simp only
    split
    · exact ends_pure (hnothing later hlater)
    split
    · exact ends_pure (hnothing later hlater)
    have hendPoint : (Controller.setEndPoint client instance_.ns).Ends (.sequential recorded)
        (Judged msg True) (Judged msg False) (fun _ ↦ Stage instance_ False) later :=
      (calm_ends (Controller.setEndPoint_calm client instance_.ns) (by decide) hlater).mono
        (fun _ hlog ↦ hnothing _ hlog.2) (fun _ h ↦ h) fun _ _ h ↦ h
    apply hendPoint.bind
    intro client reached hreached
    apply (failoverShard_ends hreached).bind
    intro answer answered hanswered
    cases answer with
    | error error =>
      apply (updateKVRocks_ends hanswered False.elim _).bind
      intro _ final hfinal
      exact ends_pure hfinal
    | ok _ => exact recordFailover_ends hanswered

theorem handleFailover_ensures :
    (handleFailover client msg).program.Ensures recorded (fun outcome log ↦ Judged msg (outcome ≠ .panic) log) [] := by
  rintro ⟨⟩ log rfl
  change ((failoverBody client msg).program.bind (settle msg)).Ensures recorded _ [⟨.lock, ()⟩]
  rw [Program.ensures_bind]
  have hbody : (failoverBody client msg).Ends (.sequential recorded) (Judged msg True) (Judged msg False)
      (fun _ ↦ Judged msg True) [⟨.lock, ()⟩] := failoverBody_ends
  apply Program.Ensures.mono hbody
  intro outcome log hlog
  have hjudged : Judged msg (outcome ≠ .panic) log := by
    cases outcome with
    | ok value => exact hlog.of_iff (by simp)
    | err error => exact hlog.of_iff (by simp)
    | panic => exact hlog.of_iff (by simp)
  have hkeep (request : Call) (hkind : OfKind queueKinds request) (before : Log) (reply : request.Reply)
      (after : Log) (hstep : recorded (I := operator) request before reply after)
      (hbefore : Judged msg (outcome ≠ .panic) before) : Judged msg (outcome ≠ .panic) after := by
    rw [show after = before ++ [⟨request, reply⟩] from hstep]
    exact hbefore.neutral (List.mem_append_left _ hkind)
  apply ((settle_all msg outcome).keeps hkeep hjudged).mono
  intro final later hfinal
  exact hfinal.2.of_iff (not_congr hfinal.1.symm)

end Handler

/-- `handleFailover` does not panic exactly in the executions in which the controller's 200 to the failover finds the
shard in the topology of the instance that was read, and its answer to the read of the shard, if there is one, is 200.
-/
theorem handleFailover_not_panic_iff (client : Controller.Client) (msg : EventMessage)
    (outcome : Outcome GoError Unit) (log : Log)
    (hexec : Exec recorded (handleFailover client msg).program [] outcome log) :
    outcome ≠ .panic ↔ Harmless msg log :=
  ((ensures_iff_exec _ _ _).mp handleFailover_ensures outcome log hexec).harmless.symm

/-! ## A shard that is gone when its message is handled -/

def demoKey : NamespacedName := ⟨"default", "kvrocks-cluster-1-demo"⟩

def sentinelKey : NamespacedName := ⟨"default", "sentinel-1"⟩

/-- A running sentinel instance without pods. -/
def sentinel : KVRocks :=
  let created := KVRocks.created sentinelKey
    { image := "kvrocks:2.0", type := .sentinel, kvrocksConfig := [], replicas := 1, master := 1,
      password := "secret", resources := true }
  { created with status := { created.status with status := .running } }

/-- The matrix of a cluster of four shards with one pod each. -/
def fourShards : Matrix :=
  (List.range 4).map fun index ↦ [{ Kvrocks.Node.fresh ("10.0.0." ++ Text.itoa (index + 1)) 0 with role := .master }]

/-- The running instance of that cluster, of which the user wants so many shards. -/
def demo (master : ℕ) : KVRocks :=
  let created := KVRocks.created demoKey
    { image := "kvrocks:2.0", type := .cluster, kvrocksConfig := [], replicas := 1, master := master,
      password := "secret", resources := true }
  { created with
    labels := [(Resources.monitoredBy, sentinelKey.name)]
    status := { created.status with
      status := .running, topo := Cluster.statusTopo demoKey.name (fourShards.map (·.map some)) } }

/-- A handler in a pass over the instance. -/
def demoHandler (master : ℕ) : Cluster.Handler :=
  { Cluster.newKVRocksClusterHandler demoKey (demo master) Controller.newClient with stsNodes := fourShards }

/-- The message that `ensureFailover` sends for the last shard. -/
def lastShard : EventMessage :=
  { id := 1, ip := "10.0.0.4", port := "6379", key := demoKey, partition := 3, timeout := 30 }

/-- What `ensureShrink` writes when the user wants three shards. -/
def shrunk : KVRocks :=
  { demo 3 with
    status := { (demo 3).status with
      topo := (demo 3).status.topo.take 3, shrink := some { partition := [3], reserveMsg := [] } } }

/-- All calls succeed, but the last pod does not answer a ping, and the reads of shards are answered with a status
code. -/
def answering (found : KVRocks) (code : ℕ) : (request : Call) → Log → request.Reply
  | .getKVRocks key, _ => if key = demoKey then .ok found else .ok sentinel
  | .updateKVRocks _, _ => .ok 1
  | .getService _, _ => .ok "10.96.0.1"
  | .getWorkload _ _, _ => .ok { replicas := 0, readyReplicas := 0, matchLabels := [] }
  | .listPods _ _, _ => .ok []
  | .node ip _ .ping, _ => if ip = "10.0.0.4" then .error (.remote "i/o timeout") else .ok ()
  | .http _ (.failoverShard _ _ _), _ => .ok ⟨statusOK, .ok ()⟩
  | .http _ (.getNodes _ _ _), _ =>
    .ok ⟨code, .ok (some { nodes := [{ id := "node-4", addr := "10.0.0.4:6379", role := .master }]
                           slotRanges := ["12288-16383"] })⟩
  | request, _ => request.failure

/-- How the handler of the message ends, and its log. -/
def handlerRun (found : KVRocks) (code : ℕ) : Outcome GoError Unit × Log :=
  (handleFailover Controller.newClient lastShard).program.run (recording (answering found code)) []

theorem handlerRun_exec (found : KVRocks) (code : ℕ) :
    Exec recorded (handleFailover Controller.newClient lastShard).program []
      (handlerRun found code).1 (handlerRun found code).2 :=
  Program.exec_recording _ _ _

/-- The handler succeeds on the instance of four shards. -/
theorem four_shards_not_panic : (handlerRun (demo 4) statusOK).1 ≠ .panic := by
  apply (handleFailover_not_panic_iff Controller.newClient lastShard _ _ (handlerRun_exec (demo 4) statusOK)).mpr
  refine ⟨fun instance_ hinstance _ ↦ ?_, ?_⟩
  · obtain rfl : demo 4 = instance_ := Option.some.inj hinstance
    exact ⟨by decide, by decide⟩
  · have hreads : nodeReads (handlerRun (demo 4) statusOK).2 = [some statusOK] := rfl
    simp [AllFound, hreads, Found]

/-- `ensureFailover` sends a message for the fourth shard.  Before it is handled, a pass carries out the user's wish
for three shards and writes the shorter topology; the controller still has the fourth shard and fails it over, and the
handler's index is out of range.  Without the shrink, a controller that answers the failover but is unavailable for
the read of the shard is a nil pointer. -/
theorem shrunk_shard_panics :
    (⟨.addMessage lastShard.ip lastShard.port lastShard.key lastShard.partition, ()⟩ : Entry operator) ∈
        ((Cluster.ensureFailover.on (demoHandler 4)).run (recording (answering (demo 4) statusOK)) []).2 ∧
      (⟨.updateKVRocks shrunk, .ok 1⟩ : Entry operator) ∈
        ((Cluster.ensureShrink.on (demoHandler 3)).run (recording (answering (demo 3) statusOK)) []).2 ∧
      Exec recorded (handleFailover Controller.newClient lastShard).program [] .panic
        (handlerRun { shrunk with resourceVersion := 1 } statusOK).2 ∧
      Exec recorded (handleFailover Controller.newClient lastShard).program [] .panic (handlerRun (demo 4) 503).2 := by
  have hshrunk : (handlerRun { shrunk with resourceVersion := 1 } statusOK).1 = .panic := by decide
  have hunavailable : (handlerRun (demo 4) 503).1 = .panic := by decide
  refine ⟨List.mem_of_getElem? (rfl : _[4]? = _), List.mem_of_getElem? (rfl : _[4]? = _), ?_, ?_⟩
  · rw [← hshrunk]
    exact handlerRun_exec _ _
  · rw [← hunavailable]
    exact handlerRun_exec _ _

end KvrocksOperator.Events.Crash
