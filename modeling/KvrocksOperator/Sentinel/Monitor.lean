import KvrocksOperator.Client.K8s

/-!
# Monitoring

`pkg/controllers/sentinel/monitor.go`: a sentinel instance registers the masters of the instances that carry its
label.
-/

namespace KvrocksOperator.Sentinel

open Interaction Text Resources

/-- `KVRocksSentinelHandler` -/
structure Handler where
  instance_ : KVRocks
  key : NamespacedName
  pods : List String
  requeue : Bool
  deriving DecidableEq

abbrev HandlerM (α : Type) := Method operator GoError Handler α

/-- The master name of a standard instance. -/
def standardMasterName (instanceName : String) : String := (parseRedisName instanceName).2

/-- The master name of shard `index` of a cluster instance. -/
def clusterMasterName (instanceName : String) (index : ℕ) : String :=
  (parseRedisName instanceName).2 ++ "-" ++ itoa index

/-- The first pod that reports itself as the master. -/
def findMaster (password : String) : List Pod → Go String
  | [] => Fallible.throw (.text "master not found")
  | pod :: pods => do
    let (ip, role) ← Kvrocks.nodeInfo pod.ip password
    if role = .master then pure ip else findMaster password pods

/-- `getMasterMsg` -/
def getMasterMsg (key : NamespacedName) (password : String) : Go String := do
  let pods ← K8s.listStatefulSetPods key
  findMaster password pods

/-- One sentinel pod of `ensureMonitor`; the error of the removal is ignored. -/
def ensureMonitorAt (sentinelPassword masterIP masterName password sentinelIP : String) : Go Unit := do
  let master ← (Kvrocks.getMasterFromSentinel sentinelIP sentinelPassword masterName).handle
  match master with
  | .ok ip =>
    if ip = masterIP then Kvrocks.resetMonitor sentinelIP sentinelPassword masterName password
    else do
      let _ ← (Kvrocks.removeMonitor sentinelIP sentinelPassword masterName).handle
      Kvrocks.createMonitor sentinelIP sentinelPassword masterName masterIP password
  | .error _ => do
    let _ ← (Kvrocks.removeMonitor sentinelIP sentinelPassword masterName).handle
    Kvrocks.createMonitor sentinelIP sentinelPassword masterName masterIP password

/-- `ensureMonitor` -/
def ensureMonitor (h : Handler) (masterIP masterName password : String) : Go Unit :=
  forEach (ensureMonitorAt h.instance_.spec.password masterIP masterName password) h.pods

/-- Register the master of one StatefulSet under a name. -/
def monitorMaster (h : Handler) (kvrocks : KVRocks) (stsName masterName : String) : Go Unit := do
  let masterIP ← getMasterMsg ⟨kvrocks.ns, stsName⟩ kvrocks.spec.password
  ensureMonitor h masterIP masterName kvrocks.spec.password

/-- The loop of `ensureSentinel`.  A standard instance ends it: the source returns there. -/
def monitorAll : List KVRocks → HandlerM Unit
  | [] => pure ()
  | kvrocks :: rest =>
    match kvrocks.labels.lookup monitoredBy with
    | none => monitorAll rest
    | some _ =>
      if kvrocks.status.status ≠ .running then do
        Method.modify fun h ↦ { h with requeue := true }
        monitorAll rest
      else do
        let h ← Method.get
        if kvrocks.spec.type = .standard then
          Method.lift (monitorMaster h kvrocks kvrocks.name (standardMasterName kvrocks.name))
        else do
          Method.lift (forEach (fun index ↦ monitorMaster h kvrocks (getStatefulSetName kvrocks.name index)
              (clusterMasterName kvrocks.name index))
            (List.range kvrocks.spec.master))
          monitorAll rest

/-- `ensureSentinel` -/
def ensureSentinel : HandlerM Unit := do
  let h ← Method.get
  let kvrockses ← Method.lift (Go.api (ask (.listKVRocks h.key.ns (monitorLabels h.key.name))))
  monitorAll kvrockses

/-- A sentinel that answers with the wanted address has its monitor reset, and any other gets it anew. -/
theorem ensureMonitorAt_yields {W : Type} {M : Meaning operator W} {fail : W → Prop} {post : Unit → W → Prop}
    {sentinelPassword masterIP masterName password sentinelIP : String} {world : W}
    (h : M.wp (ask (.sentinel sentinelIP sentinelPassword (.master masterName)))
      (fun reply later ↦
        (reply = .ok masterIP →
          (Kvrocks.resetMonitor sentinelIP sentinelPassword masterName password).Yields M fail post later) ∧
        (reply ≠ .ok masterIP →
          ((Kvrocks.removeMonitor sentinelIP sentinelPassword masterName).handle >>= fun _ ↦
            Kvrocks.createMonitor sentinelIP sentinelPassword masterName masterIP password).Yields M fail post
            later)) world) :
    (ensureMonitorAt sentinelPassword masterIP masterName password sentinelIP).Yields M fail post world := by
  apply (yields_handle_attempt h).bind
  intro result later hresult
  cases result with
  | error error => exact hresult.2 nofun
  | ok found =>
    by_cases hsame : found = masterIP
    · simp only [if_pos hsame]
      exact hresult.1 (hsame ▸ rfl)
    · simp only [if_neg hsame]
      exact hresult.2 fun hok ↦ hsame (Except.ok.inj hok)

end KvrocksOperator.Sentinel
