import KvrocksOperator.Controllers.Footprint
import KvrocksOperator.Interaction.Recorded

/-!
# What a finished reconciliation leaves behind

`Reconcile` is finished when it returns neither an error nor a wish to be called again.  A log of its calls is
accounted for if the object is gone, released or failed, if the handler was refused, or if its pass was completed.
Three places end `Reconcile` without any of these: an update that `checkSpecification` or `runIfInitialize` could not
make, a finalizer whose error is neither NotFound nor Conflict, and a refused update that was to take the finalizer
off.
-/

namespace KvrocksOperator.Controllers

open Interaction Resources

/-- The calls of an execution with their replies. -/
abbrev Log := List (Entry operator)

/-! ## Failed calls -/

/-- The error of a Kubernetes reply. -/
def apiFailure {α : Type} : ApiResult α → Option GoError
  | .ok _ => none
  | .error error => some (.api error)

/-- The error of a reply from a node, a sentinel or the controller. -/
def remoteFailure {α : Type} : Except GoError α → Option GoError
  | .ok _ => none
  | .error error => some error

/-- The error that a reply carries. -/
def failure : Entry operator → Option GoError
  | ⟨.getKVRocks _, reply⟩ | ⟨.updateKVRocks _, reply⟩ | ⟨.listKVRocks _ _, reply⟩
  | ⟨.createObject _ _, reply⟩ | ⟨.deleteObject _ _, reply⟩ | ⟨.getService _, reply⟩
  | ⟨.getWorkload _ _, reply⟩ | ⟨.createConfigMap _, reply⟩ | ⟨.getConfigMap _, reply⟩
  | ⟨.updateConfigMap _, reply⟩ | ⟨.deleteConfigMap _, reply⟩ | ⟨.createStatefulSet _, reply⟩
  | ⟨.getStatefulSet _, reply⟩ | ⟨.updateStatefulSet _, reply⟩ | ⟨.deleteStatefulSet _, reply⟩
  | ⟨.listStatefulSets _ _, reply⟩ | ⟨.listPods _ _, reply⟩ | ⟨.getPod _, reply⟩
  | ⟨.updatePod _, reply⟩ | ⟨.deletePod _, reply⟩ | ⟨.listPVC _ _, reply⟩ | ⟨.getPVC _, reply⟩
  | ⟨.deletePVC _, reply⟩ => apiFailure reply
  | ⟨.http _ _, reply⟩ => remoteFailure reply
  | ⟨.node _ _ .ping, reply⟩ | ⟨.node _ _ .role, reply⟩ | ⟨.node _ _ (.configGet _), reply⟩
  | ⟨.node _ _ (.configSet _ _), reply⟩ | ⟨.node _ _ (.changePassword _), reply⟩
  | ⟨.replication _ _ .masterHost, reply⟩ | ⟨.replication _ _ (.slaveOf _ _), reply⟩
  | ⟨.sentinel _ _ (.master _), reply⟩ | ⟨.sentinel _ _ (.remove _), reply⟩
  | ⟨.sentinel _ _ (.monitor _ _ _ _), reply⟩ | ⟨.sentinel _ _ (.set _ _ _), reply⟩
  | ⟨.sentinel _ _ (.reset _), reply⟩ => remoteFailure reply
  | ⟨.lock, _⟩ | ⟨.unlock, _⟩ | ⟨.addMessage _ _ _ _, _⟩ | ⟨.resendMessage _, _⟩ | ⟨.deleteKey _, _⟩
  | ⟨.beforeTimeout _, _⟩ | ⟨.enter _, _⟩ | ⟨.returned, _⟩ => none

/-- Whether the call writes a custom resource. -/
def isUpdate : Entry operator → Bool
  | ⟨.updateKVRocks _, _⟩ => true
  | _ => false

/-- An error after which `Reconcile` may give up on purpose. -/
def IsRefusal (error : GoError) : Prop := error.isForbidden = true ∨ error.isInvalid = true

/-! ## Logs that are accounted for -/

/-- An update of the object that a log shows to be persisted. -/
def Persisted (log : Log) (instance_ : KVRocks) (holds : KVRocks → Prop) : Prop :=
  ∃ object version, ⟨.updateKVRocks object, .ok version⟩ ∈ log ∧ object.key = instance_.key ∧ holds object

/-- An update was answered with NotFound: the object is gone. -/
def Vanished (log : Log) (instance_ : KVRocks) : Prop :=
  ∃ object, ⟨.updateKVRocks object, .error .notFound⟩ ∈ log ∧ object.key = instance_.key

/-- The handler's `Finializer` was called after the read and returned the result at the end of the log. -/
def FinalizerEnded (handler : KVRocksHandler) (read : Log) (instance_ : KVRocks) (log : Log)
    (result : Except GoError Unit) : Prop :=
  ∃ requeue, Exec recorded (handler.finializer instance_).program read (.ok (result, requeue)) log

/-- The handler's `Handle` was called on the initialized instance and returned the result at the end of the log. -/
def PassEnded (handler : KVRocksHandler) (read : Log) (instance_ : KVRocks) (log : Log)
    (result : Except GoError Bool) : Prop :=
  ∃ initialized before requeue, Exec recorded (runIfInitialize instance_).program read (.ok initialized) before ∧
      Exec recorded (handler.handle initialized).program before (.ok (result, requeue)) log

/-- Why an object that could be read needs no further call of `Reconcile`. -/
inductive AccountedFor (handler : KVRocksHandler) (read : Log) (instance_ : KVRocks) (log : Log) : Prop where
  | vanished (h : Vanished log instance_)
  | unfinalized (hdeleted : instance_.deletionTimestamp = true) (h : kvrocksFinalizer ∉ instance_.finalizers)
  | released (hdeleted : instance_.deletionTimestamp = true)
      (h : Persisted log instance_ fun object ↦ kvrocksFinalizer ∉ object.finalizers)
  | wasFailed (h : instance_.status.status = .failed)
  | markedFailed (h : Persisted log instance_ fun object ↦ object.status.status = .failed)
  | finalizerRefused (hdeleted : instance_.deletionTimestamp = true) (error : GoError)
      (hrefusal : IsRefusal error) (h : FinalizerEnded handler read instance_ log (.error error))
  | passRefused (hlive : instance_.deletionTimestamp = false) (hvalid : validateKVRocks instance_ = none)
      (error : GoError) (hrefusal : IsRefusal error)
      (h : PassEnded handler read instance_ log (.error error))
  | completed (hlive : instance_.deletionTimestamp = false) (hvalid : validateKVRocks instance_ = none)
      (h : PassEnded handler read instance_ log (.ok true))

/-- Nothing is left to do, or nothing can be done. -/
def Accounted (key : NamespacedName) : Log → Prop
  | ⟨.getKVRocks _, .error error⟩ :: _ => error = .notFound
  | ⟨.getKVRocks asked, .ok instance_⟩ :: rest =>
    AccountedFor (handlerOf key instance_.spec.type) [⟨.getKVRocks asked, .ok instance_⟩] instance_
      (⟨.getKVRocks asked, .ok instance_⟩ :: rest)
  | _ => False

/-! ## The condition -/

/-- A call with which a deletion may end: it did not fail, or it is one of the finalizer's and was refused. -/
def Tolerable (entry : Entry operator) : Prop :=
  ∀ error, failure entry = some error → isUpdate entry = false ∧ IsRefusal error

/-- The calls that `Reconcile` makes by itself are honoured.  An object that is being deleted and has not failed: the
last call is tolerable.  Any other object: the updates before the first call of the handler fail only because the
object is gone. -/
def Honoured : Log → Prop
  | ⟨.getKVRocks asked, .ok instance_⟩ :: rest =>
    if instance_.deletionTimestamp = true then
      instance_.status.status ≠ .failed →
        ∀ entry, (⟨.getKVRocks asked, .ok instance_⟩ :: rest : Log).getLast? = some entry → Tolerable entry
    else
      ∀ entry ∈ rest.takeWhile isUpdate, ∀ error, failure entry = some error → error = .api .notFound
  | _ => True

/-! ## Errors of the finalizers -/

/-- The error of a reply to anything but an update of a custom resource. -/
def otherFailure (entry : Entry operator) : Option GoError :=
  if isUpdate entry then none else failure entry

variable {before log : Log} {error : GoError}

theorem endsIn_otherFailure (h : EndsIn otherFailure error log) :
    ∃ front entry, log = front ++ [entry] ∧ isUpdate entry = false ∧ failure entry = some error := by
  obtain ⟨front, entry, hlog, hentry⟩ := h
  unfold otherFailure at hentry
  split at hentry
  · cases hentry
  · rename_i hupdate
    exact ⟨front, entry, hlog, by simpa using hupdate, hentry⟩

theorem getWorkload_blames (kind : Kind) (key : NamespacedName) : (K8s.getWorkload kind key).Blames otherFailure :=
  blames_attempt fun before _ _ h ↦ ⟨before, _, exec_perform_iff.mp h, rfl⟩

theorem getService_blames (key : NamespacedName) : (K8s.getService key).Blames otherFailure :=
  blames_attempt fun before _ _ h ↦ ⟨before, _, exec_perform_iff.mp h, rfl⟩

theorem getConfigMap_blames (key : NamespacedName) : (K8s.getConfigMap key).Blames otherFailure :=
  blames_attempt fun before _ _ h ↦ ⟨before, _, exec_perform_iff.mp h, rfl⟩

theorem deleteObject_blames (kind : Kind) (key : NamespacedName) :
    (Go.api (ask (.deleteObject kind key))).Blames otherFailure :=
  blames_attempt fun before _ _ h ↦ ⟨before, _, exec_perform_iff.mp h, rfl⟩

theorem deleteWorkload_blames (kind : Kind) (key : NamespacedName) :
    (K8s.deleteWorkload kind key).Blames otherFailure :=
  (getWorkload_blames kind key).bind fun _ ↦ deleteObject_blames kind key

theorem deleteService_blames (key : NamespacedName) : (K8s.deleteService key).Blames otherFailure :=
  (getService_blames key).bind fun _ ↦ deleteObject_blames .service key

theorem deleteConfigMap_blames (key : NamespacedName) : (K8s.deleteConfigMap key).Blames otherFailure := by
  apply (getConfigMap_blames key).bind
  intro _
  exact blames_attempt fun before _ _ h ↦ ⟨before, _, exec_perform_iff.mp h, rfl⟩

theorem removeController_blames (ns : String) : (Cluster.removeController ns).Blames otherFailure := by
  apply (deleteWorkload_blames _ _).bind
  intro _
  apply (deleteService_blames _).bind
  intro _
  apply (deleteConfigMap_blames _).bind
  intro _
  apply (deleteWorkload_blames _ _).bind
  intro _
  exact deleteService_blames _

theorem listDeploymentPods_blames (key : NamespacedName) : (K8s.listDeploymentPods key).Blames otherFailure := by
  apply (getWorkload_blames .deployment key).bind
  intro deployment
  exact blames_attempt fun before _ _ h ↦ ⟨before, _, exec_perform_iff.mp h, rfl⟩

/-- A failed query is no error. -/
theorem removeMonitorFrom_blames (sentinelPassword name : String) (sentinel : Pod) :
    (Common.removeMonitorFrom sentinelPassword name sentinel).Blames otherFailure := by
  apply (blames_handle _).bind
  intro master
  cases master with
  | error error => exact blames_pure ()
  | ok ip =>
    exact blames_attempt fun before _ _ h ↦ ⟨before, _, exec_perform_iff.mp h, rfl⟩

theorem getKVRocks_blames (key : NamespacedName) : (K8s.getKVRocks key).Blames otherFailure :=
  blames_attempt fun before _ _ h ↦ ⟨before, _, exec_perform_iff.mp h, rfl⟩

variable {requeue : Bool}

/-- An error that `GetSentinel` reports is that of its last call. -/
theorem getSentinel_reports {key : NamespacedName} {after : Log}
    (h : Exec recorded (Common.getSentinel key).program before (.ok (.error (requeue, some error))) after) :
    EndsIn otherFailure error after := by
  obtain ⟨reply, middle, hread, hrest⟩ := exec_bind_ok_iff.mp h
  cases reply with
  | error failed =>
    have hvalue := exec_pure_iff.mp hrest
    have hfailed : error = failed := by
      simp only [Outcome.ok.injEq, Except.error.injEq, Prod.mk.injEq, Option.some.injEq] at hvalue
      exact hvalue.1.2
    rw [hfailed, hvalue.2]
    exact getKVRocks_blames key before middle failed (exec_handle_error_iff.mp hread)
  | ok sentinel =>
    by_cases hrunning : sentinel.status.status ≠ .running
    · simp only [hrunning, ne_eq, not_false_eq_true, if_true] at hrest
      have hvalue := exec_pure_iff.mp hrest
      simp at hvalue
    · simp only [hrunning, if_false] at hrest
      obtain ⟨pods, later, hlist, hreturn⟩ := exec_bind_ok_iff.mp hrest
      cases pods with
      | ok pods => simp at hreturn
      | error failed =>
        have hvalue := exec_pure_iff.mp hreturn
        have hfailed : error = failed := by
          simp only [Outcome.ok.injEq, Except.error.injEq, Prod.mk.injEq, Option.some.injEq] at hvalue
          exact hvalue.1.2
        rw [hfailed, hvalue.2]
        exact listDeploymentPods_blames key middle later failed (exec_handle_error_iff.mp hlist)

theorem getSentinel_blames (key : NamespacedName) : (Common.getSentinel key).Blames otherFailure := by
  apply (blames_handle _).bind
  intro reply
  cases reply with
  | error error => exact blames_pure _
  | ok sentinel =>
    by_cases hrunning : sentinel.status.status ≠ .running
    · simp only [hrunning, ne_eq, not_false_eq_true, if_true]
      exact blames_pure _
    · simp only [hrunning, if_false]
      apply (blames_handle _).bind
      intro pods
      cases pods with
      | error error => exact blames_pure _
      | ok pods => exact blames_pure _

variable {instance_ object : KVRocks}

/-- An error that `RemoveMonitor` reports is that of its last call. -/
theorem removeMonitorNamed_reports {name : String} {after : Log}
    (h : Exec recorded (Common.removeMonitorNamed instance_ name).program before (.ok (requeue, some error)) after) :
    EndsIn otherFailure error after := by
  obtain ⟨found, middle, hsentinel, hrest⟩ := exec_bind_ok_iff.mp h
  cases found with
  | error result =>
    have hvalue := exec_pure_iff.mp hrest
    rw [← Outcome.ok.inj hvalue.1] at hsentinel
    rw [hvalue.2]
    exact getSentinel_reports hsentinel
  | ok sentinel =>
    obtain ⟨removed, later, hloop, hreturn⟩ := exec_bind_ok_iff.mp hrest
    cases removed with
    | ok _ => simp at hreturn
    | error failed =>
      have hvalue := exec_pure_iff.mp hreturn
      have hfailed : error = failed := by simpa using (Prod.mk.inj (Outcome.ok.inj hvalue.1)).2
      rw [hfailed, hvalue.2]
      exact blames_forEach (removeMonitorFrom_blames sentinel.2 name) sentinel.1 middle later
        failed (exec_handle_error_iff.mp hloop)

theorem removeMonitorNamed_blames (instance_ : KVRocks) (name : String) :
    (Common.removeMonitorNamed instance_ name).Blames otherFailure := by
  apply (getSentinel_blames _).bind
  intro found
  cases found with
  | error result => exact blames_pure result
  | ok sentinel =>
    apply (blames_handle _).bind
    intro removed
    cases removed with
    | error error => exact blames_pure _
    | ok _ => exact blames_pure _

/-- What follows `RemoveMonitor` in a handler: the requeue flag is kept and a reported error returned. -/
theorem removeMonitor_then_blames {σ : Type} (instance_ : KVRocks) (name : String) (keep : Bool → σ → σ) :
    (Method.lift (Common.removeMonitorNamed instance_ name) >>= fun (reported : Bool × Option GoError) ↦ (do
        Method.modify (keep reported.1)
        match reported.2 with
        | some error => Method.throw error
        | none => pure () : Method operator GoError σ Unit)).Blames otherFailure := by
  apply Method.blames_lift_bind (removeMonitorNamed_blames instance_ name)
  intro reported before middle hreported state after error later hrest
  obtain ⟨requeue, failed⟩ := reported
  cases failed with
  | none => cases (exec_done_iff.mp hrest).1
  | some failed =>
    have hdone := exec_done_iff.mp hrest
    have hfailed : error = failed := by simpa using (Prod.mk.inj hdone.1).1
    rw [hfailed, hdone.2]
    exact removeMonitorNamed_reports hreported

theorem removeShardMonitor_blames (index : ℕ) : (Cluster.removeShardMonitor index).Blames otherFailure := by
  apply Method.blames_get.bind
  intro h
  exact removeMonitor_then_blames h.instance_ _ fun requeue (h : Cluster.Handler) ↦ { h with requeue := requeue }

theorem clusterFinializer_blames : Cluster.finializer.Blames otherFailure := by
  apply Method.blames_get.bind
  intro h
  cases h.instance_.labels.lookup monitoredBy with
  | none => exact Method.blames_pure ()
  | some sentinel =>
    apply (Method.blames_forEach removeShardMonitor_blames _).bind
    intro _
    apply (Method.blames_modify _).bind
    intro _
    exact Method.blames_lift (removeController_blames h.instance_.ns)

theorem standardFinializer_blames : Standard.finializer.Blames otherFailure := by
  apply Method.blames_get.bind
  intro h
  cases h.instance_.labels.lookup monitoredBy with
  | none => exact Method.blames_pure ()
  | some sentinel =>
    exact removeMonitor_then_blames h.instance_ _
      fun requeue (h : Standard.KVRocksStandardHandler) ↦ { h with requeue := requeue }

variable {type : KVRocksType}

/-- An error that `Finializer` of any handler returns is that of its last call. -/
theorem finializer_blames {key : NamespacedName} {after : Log}
    (h : Exec recorded ((handlerOf key type).finializer instance_).program before (.ok (.error error, requeue)) after) :
    EndsIn otherFailure error after := by
  cases type with
  | sentinel =>
    obtain ⟨later, _, hexec⟩ := exec_finish_read_iff.mp h
    cases (exec_done_iff.mp hexec).1
  | standard =>
    obtain ⟨later, _, hexec⟩ := exec_finish_read_iff.mp h
    exact standardFinializer_blames _ before after error later hexec
  | cluster =>
    obtain ⟨later, _, hexec⟩ := exec_finish_read_iff.mp h
    exact clusterFinializer_blames _ before after error later hexec

/-- `Finializer` of any handler leaves the custom resources alone. -/
theorem finializer_no_update {key asked : NamespacedName} {outcome : Outcome GoError (Except GoError Unit × Bool)}
    (h : Exec recorded ((handlerOf key type).finializer instance_).program
      [⟨.getKVRocks asked, .ok instance_⟩] outcome log) :
    ∀ entry ∈ log, isUpdate entry = false := by
  obtain ⟨calls, hcalls, hkinds⟩ := h.log_allowed (handlerOf_finializer_makes key type instance_)
  intro entry hentry
  rw [hcalls] at hentry
  rcases List.mem_append.mp hentry with hread | hcall
  · rw [List.mem_singleton.mp hread]
    rfl
  · have hkind := hkinds entry hcall
    obtain ⟨request, reply⟩ := entry
    cases request with
    | updateKVRocks object => simp [OfKind, Call.kind] at hkind
    | _ => rfl

/-! ## The passes -/

section Passes

variable {σ : Type} {flag : σ → Bool}

/-- A pass that returns without a wish to be called again is finished. -/
def Completes (flag : σ → Bool) (pass : Method operator GoError σ Bool) : Prop :=
  ∀ state before after finished later,
    Exec recorded (pass.on state) before (.ok finished, later) after → flag later = false → finished = true

theorem completes_pure : Completes flag (pure true) := by
  intro state before after finished later h _
  exact Outcome.ok.inj (Prod.mk.inj (exec_done_iff.mp h).1).1

theorem Completes.bind {α : Type} {pass : α → Method operator GoError σ Bool}
    (hpass : ∀ value, Completes flag (pass value)) (first : Method operator GoError σ α) :
    Completes flag (first >>= pass) := by
  intro state before after finished later h hflag
  obtain ⟨value, reached, middle, _, hrest⟩ | ⟨_, _, heq, _⟩ | ⟨_, heq, _⟩ := Method.exec_bind_iff.mp h
  · exact hpass value reached middle after finished later hrest hflag
  · cases heq
  · cases heq

/-- One phase more in front of a pass. -/
theorem Completes.after_phase {pass : Method operator GoError σ Bool} (hpass : Completes flag pass)
    (phase : Method operator GoError σ Unit) : Completes flag (phase.thenUnless flag pass) := by
  intro state before after finished later h hflag
  obtain ⟨_, reached, middle, _, hrest⟩ | ⟨_, _, heq, _⟩ | ⟨_, heq, _⟩ := Method.exec_bind_iff.mp h
  · have hrest' : Exec recorded
        (((if flag reached then pure false else pass) : Method operator GoError σ Bool).on reached) middle
        (.ok finished, later) after := hrest
    by_cases hrequeue : flag reached = true
    · rw [if_pos hrequeue] at hrest'
      have hlater := (Prod.mk.inj (exec_done_iff.mp hrest').1).2
      rw [hlater, hrequeue] at hflag
      cases hflag
    · rw [if_neg hrequeue] at hrest'
      exact hpass reached middle after finished later hrest' hflag
  · cases heq
  · cases heq

/-- A cluster's `Handle` finishes only without a requeue. -/
theorem clusterHandle_completes : Completes Cluster.Handler.requeue Cluster.handle := by
  iterate 9 apply Completes.after_phase
  exact completes_pure

theorem standardHandle_completes : Completes Standard.KVRocksStandardHandler.requeue Standard.handle := by
  iterate 4 apply Completes.after_phase
  exact completes_pure

theorem sentinelHandle_completes : Completes Sentinel.Handler.requeue Sentinel.handle := by
  iterate 2 apply Completes.after_phase
  iterate 2 apply Completes.bind; intro _
  exact completes_pure

end Passes

/-- A pass of any handler that returns without an error and without a wish to be called again is finished. -/
theorem handle_completes {key : NamespacedName} {after : Log} {finished : Bool}
    (h : Exec recorded ((handlerOf key type).handle instance_).program before (.ok (.ok finished, false)) after) :
    finished = true := by
  cases type with
  | sentinel =>
    obtain ⟨later, hflag, hexec⟩ := exec_finish_read_iff.mp h
    exact sentinelHandle_completes _ before after finished later hexec hflag.symm
  | standard =>
    obtain ⟨later, hflag, hexec⟩ := exec_finish_read_iff.mp h
    exact standardHandle_completes _ before after finished later hexec hflag.symm
  | cluster =>
    obtain ⟨later, hflag, hexec⟩ := exec_finish_read_iff.mp h
    exact clusterHandle_completes _ before after finished later hexec hflag.symm

/-- Every pass starts with a call that is no update of a custom resource. -/
theorem handle_starts (key : NamespacedName) (type : KVRocksType) (instance_ : KVRocks) :
    ∃ request resume, ((handlerOf key type).handle instance_).program = .call request resume ∧
      ∀ reply, isUpdate ⟨request, reply⟩ = false := by
  cases type with
  | sentinel => exact ⟨_, _, rfl, fun _ ↦ rfl⟩
  | standard => exact ⟨_, _, rfl, fun _ ↦ rfl⟩
  | cluster => exact ⟨_, _, rfl, fun _ ↦ rfl⟩

/-! ## The updates of `Reconcile` itself -/

variable {outcome : Outcome GoError KVRocks}

theorem exec_updateKVRocks_iff {after : Log} : Exec recorded (K8s.updateKVRocks object).program before outcome after ↔
      ∃ reply : ApiResult ℕ, after = before ++ [⟨.updateKVRocks object, reply⟩] ∧ outcome = Fallible.ofReply GoError.api
          (reply.map fun version ↦ { object with resourceVersion := version }) := by
  constructor
  · intro h
    obtain ⟨version, middle, hask, hrest⟩ | ⟨error, heq, hask⟩ | ⟨heq, hask⟩ := Fallible.exec_bind_iff.mp h
    · obtain ⟨reply, hreply, hcall⟩ := exec_attempt_iff.mp hask
      obtain ⟨houtcome, rfl⟩ := exec_pure_iff.mp hrest
      cases reply with
      | ok written =>
        cases hreply
        exact ⟨.ok version, exec_perform_iff.mp hcall, houtcome⟩
      | error _ => cases hreply
    · obtain ⟨reply, hreply, hcall⟩ := exec_attempt_iff.mp hask
      cases reply with
      | ok _ => cases hreply
      | error failed =>
        cases hreply
        exact ⟨.error failed, exec_perform_iff.mp hcall, heq⟩
    · obtain ⟨reply, hreply, _⟩ := exec_attempt_iff.mp hask
      cases reply <;> cases hreply
  · rintro ⟨reply, rfl, rfl⟩
    apply exec_call_iff.mpr
    refine ⟨reply, _, rfl, ?_⟩
    cases reply <;> exact .done _ _

/-- An update of the object that does not fail it was accepted. -/
def Accepted (instance_ : KVRocks) (entry : Entry operator) : Prop :=
  ∃ object version, entry = ⟨.updateKVRocks object, .ok version⟩ ∧ object.key = instance_.key ∧
    object.status.status ≠ .failed

/-- An update of the object that would not fail it was answered with the error. -/
def Declined (instance_ : KVRocks) (error : ApiError) (entry : Entry operator) : Prop :=
  ∃ object, entry = ⟨.updateKVRocks object, .error error⟩ ∧ object.key = instance_.key ∧ object.status.status ≠ .failed

/-- What `runIfInitialize` leaves in the log: updates that do not fail the object, all of them accepted but the one
whose error it returns. -/
def Initializes (instance_ : KVRocks) (before : Log) (outcome : Outcome GoError KVRocks) (after : Log) :
    Prop :=
  ∃ accepted, (∀ entry ∈ accepted, Accepted instance_ entry) ∧
    ((∃ initialized, outcome = .ok initialized ∧ after = before ++ accepted) ∨
      ∃ error entry, outcome = .err (.api error) ∧ after = before ++ accepted ++ [entry] ∧
        Declined instance_ error entry)

variable {entry : Entry operator}

theorem Initializes.after_update {after : Log} (h : Initializes instance_ (before ++ [entry]) outcome after)
    (hentry : Accepted instance_ entry) : Initializes instance_ before outcome after := by
  obtain ⟨accepted, haccepted, hends⟩ := h
  refine ⟨entry :: accepted, ?_, by simpa using hends⟩
  intro later hlater
  rcases List.mem_cons.mp hlater with rfl | hrest
  · exact hentry
  · exact haccepted later hrest

theorem updateKVRocks_initializes {after : Log}
    (h : Exec recorded (K8s.updateKVRocks object).program before outcome after)
    (hkey : object.key = instance_.key) (hstatus : object.status.status ≠ .failed) :
    Initializes instance_ before outcome after := by
  obtain ⟨reply, hafter, houtcome⟩ := exec_updateKVRocks_iff.mp h
  cases reply with
  | ok version =>
    rw [hafter]
    have hrest : Initializes instance_ (before ++ [⟨.updateKVRocks object, .ok version⟩]) outcome
        (before ++ [⟨.updateKVRocks object, .ok version⟩]) := ⟨[], by simp, .inl ⟨_, houtcome, by simp⟩⟩
    exact hrest.after_update ⟨object, version, rfl, hkey, hstatus⟩
  | error error =>
    exact ⟨[], by simp, .inr ⟨error, _, houtcome, by simpa using hafter, object, rfl, hkey, hstatus⟩⟩

/-- The updates of `runIfInitialize`. -/
theorem runIfInitialize_initializes (hlive : instance_.status.status ≠ .failed) {after : Log}
    (h : Exec recorded (runIfInitialize instance_).program before outcome after) :
    Initializes instance_ before outcome after := by
  -- the second update, which follows whatever the first one left
  have hsecond : ∀ labelled : KVRocks, labelled.key = instance_.key → labelled.status.status ≠ .failed →
      ∀ middle, Exec recorded (if labelled.status.status = .none then
          K8s.updateKVRocks { labelled with status := { labelled.status with status := .creating } }
        else pure labelled : Go KVRocks).program middle outcome after →
      Initializes instance_ middle outcome after := by
    intro labelled hkey hstatus middle hexec
    by_cases hnone : labelled.status.status = .none
    · rw [if_pos hnone] at hexec
      exact updateKVRocks_initializes hexec hkey (by simp)
    · rw [if_neg hnone] at hexec
      obtain ⟨houtcome, hafter⟩ := exec_pure_iff.mp hexec
      exact ⟨[], by simp, .inl ⟨labelled, houtcome, by simpa using hafter⟩⟩
  unfold runIfInitialize at h
  by_cases hlabels : (wantedLabels instance_).deepEqual instance_.labels = true
  · rw [if_pos hlabels] at h
    exact hsecond instance_ rfl hlive before h
  · rw [if_neg hlabels] at h
    obtain ⟨labelled, middle, hfirst, hrest⟩ | ⟨error, heq, hfirst⟩ | ⟨heq, hfirst⟩ := Fallible.exec_bind_iff.mp h
    · obtain ⟨reply, rfl, hlabelled⟩ := exec_updateKVRocks_iff.mp hfirst
      cases reply with
      | error error => cases hlabelled
      | ok version =>
        have hvalue := Outcome.ok.inj hlabelled
        have hinit := hsecond labelled (by rw [hvalue]; rfl) (by rw [hvalue]; exact hlive) _ hrest
        exact hinit.after_update ⟨_, version, rfl, rfl, hlive⟩
    · have hinit := updateKVRocks_initializes hfirst (rfl : _ = instance_.key) hlive
      obtain ⟨accepted, haccepted, ⟨_, hok, _⟩ | ⟨failed, entry, hfailed, hlog⟩⟩ := hinit
      · cases hok
      · cases hfailed
        exact ⟨accepted, haccepted, .inr ⟨failed, entry, heq, hlog⟩⟩
    · obtain ⟨accepted, _, ⟨_, hok, _⟩ | ⟨_, _, hfailed, _⟩⟩ :=
        updateKVRocks_initializes hfirst (rfl : _ = instance_.key) hlive
      · cases hok
      · cases hfailed

theorem Accepted.isUpdate_eq (h : Accepted instance_ entry) : isUpdate entry = true := by
  obtain ⟨object, version, rfl, _⟩ := h
  rfl

theorem Accepted.failure_eq (h : Accepted instance_ entry) : failure entry = none := by
  obtain ⟨object, version, rfl, _⟩ := h
  rfl

/-! ## Logs without an account -/

/-- A log without updates persists nothing. -/
theorem not_persisted_of_no_update {holds : KVRocks → Prop} (h : ∀ entry ∈ log, isUpdate entry = false) :
    ¬ Persisted log instance_ holds := by
  rintro ⟨object, version, hmem, _⟩
  cases h _ hmem

/-- Only an update can show that the object is gone. -/
theorem not_vanished_of_no_update (h : ∀ entry ∈ log, isUpdate entry = false) : ¬ Vanished log instance_ := by
  rintro ⟨object, hmem, _⟩
  cases h _ hmem

/-! ## Deletions -/

variable {reply : ApiResult ℕ}

section Deletion

variable {key asked : NamespacedName} {type : KVRocksType} {instance_ : KVRocks} {log : Log}

/-- A finalizer that returned an error other than a refusal leaves nothing to account for the end of `Reconcile` but a
failed status that was there before. -/
theorem finalizer_failed_accounted_iff (hdeleted : instance_.deletionTimestamp = true)
    (hfinalizer : kvrocksFinalizer ∈ instance_.finalizers) {error : GoError} {requeue : Bool}
    (h : Exec recorded ((handlerOf key type).finializer instance_).program
      [⟨.getKVRocks asked, .ok instance_⟩] (.ok (.error error, requeue)) log) :
    AccountedFor (handlerOf key type) [⟨.getKVRocks asked, .ok instance_⟩] instance_ log ↔
      (instance_.status.status ≠ .failed → ∀ entry, log.getLast? = some entry → Tolerable entry) := by
  obtain ⟨front, last, hlast, hupdate, hfailure⟩ := endsIn_otherFailure (finializer_blames h)
  have hgetLast : log.getLast? = some last := by simp [hlast]
  have hno := finializer_no_update h
  constructor
  · intro haccounted hstatus entry hentry failed hfailed
    rw [hgetLast] at hentry
    cases hentry
    rw [hfailure] at hfailed
    cases hfailed
    refine ⟨hupdate, ?_⟩
    cases haccounted with
    | vanished hvanished => exact absurd hvanished (not_vanished_of_no_update hno)
    | unfinalized _ hnone => exact absurd hfinalizer hnone
    | released _ hreleased => exact absurd hreleased (not_persisted_of_no_update hno)
    | wasFailed hfailed => exact absurd hfailed hstatus
    | markedFailed hmarked => exact absurd hmarked (not_persisted_of_no_update hno)
    | finalizerRefused _ refused hrefusal hended =>
      obtain ⟨requeue', hended⟩ := hended
      have hsame := (h.log_unique hended List.prefix_rfl List.prefix_rfl).1
      simp only [Outcome.ok.injEq, Prod.mk.injEq, Except.error.injEq] at hsame
      exact hsame.1 ▸ hrefusal
    | passRefused hlive => rw [hdeleted] at hlive; cases hlive
    | completed hlive => rw [hdeleted] at hlive; cases hlive
  · intro htolerable
    by_cases hstatus : instance_.status.status = .failed
    · exact .wasFailed hstatus
    · exact .finalizerRefused hdeleted error (htolerable hstatus last hgetLast error hfailure).2 ⟨requeue, h⟩

/-- The end of a deletion whose finalizer has succeeded is accounted for if the update that takes the finalizer off
was accepted. -/
theorem finalizer_removed_accounted_iff (hdeleted : instance_.deletionTimestamp = true)
    (hfinalizer : kvrocksFinalizer ∈ instance_.finalizers) {requeue : Bool} {middle : Log}
    (h : Exec recorded ((handlerOf key type).finializer instance_).program
      [⟨.getKVRocks asked, .ok instance_⟩] (.ok (.ok (), requeue)) middle)
    {object : KVRocks} {reply : ApiResult ℕ} (hlog : log = middle ++ [⟨.updateKVRocks object, reply⟩])
    (hkey : object.key = instance_.key) (hobject : kvrocksFinalizer ∉ object.finalizers)
    (hretry : reply ≠ .error .notFound) :
    AccountedFor (handlerOf key type) [⟨.getKVRocks asked, .ok instance_⟩] instance_ log ↔
      (instance_.status.status ≠ .failed → ∀ entry, log.getLast? = some entry → Tolerable entry) := by
  have hgetLast : log.getLast? = some ⟨.updateKVRocks object, reply⟩ := by simp [hlog]
  cases reply with
  | ok version =>
    have hreleased : AccountedFor (handlerOf key type) [⟨.getKVRocks asked, .ok instance_⟩] instance_
        log := by
      apply AccountedFor.released hdeleted
      exact ⟨object, version, by simp [hlog], hkey, hobject⟩
    refine iff_of_true hreleased fun _ entry hentry error herror ↦ ?_
    rw [hgetLast] at hentry
    cases hentry
    cases herror
  | error error =>
    have hno := finializer_no_update h
    have hpersisted : ∀ holds, ¬ Persisted log instance_ holds := by
      rintro holds ⟨written, version, hmem, _⟩
      rw [hlog] at hmem
      rcases List.mem_append.mp hmem with hmiddle | hlast
      · cases hno _ hmiddle
      · cases List.mem_singleton.mp hlast
    constructor
    · intro haccounted hlive
      cases haccounted with
      | vanished hvanished =>
        obtain ⟨written, hmem, _⟩ := hvanished
        rw [hlog] at hmem
        rcases List.mem_append.mp hmem with hmiddle | hlast
        · cases hno _ hmiddle
        · cases List.mem_singleton.mp hlast
          exact absurd rfl hretry
      | unfinalized _ hnone => exact absurd hfinalizer hnone
      | released _ hreleased => exact absurd hreleased (hpersisted _)
      | wasFailed hfailed => exact absurd hfailed hlive
      | markedFailed hmarked => exact absurd hmarked (hpersisted _)
      | finalizerRefused _ refused hrefusal hended =>
        obtain ⟨requeue', hended⟩ := hended
        have hprefix : middle <+: log := hlog ▸ List.prefix_append middle _
        cases (h.log_unique hended hprefix List.prefix_rfl).1
      | passRefused halive => rw [hdeleted] at halive; cases halive
      | completed halive => rw [hdeleted] at halive; cases halive
    · intro htolerable
      by_cases hfailed : instance_.status.status = .failed
      · exact .wasFailed hfailed
      · cases (htolerable hfailed _ hgetLast (.api error) rfl).1

/-- The end of a deletion. -/
theorem deletion_accounted_iff (hdeleted : instance_.deletionTimestamp = true)
    (h : Exec recorded (reconcileDeletion (handlerOf key type) instance_).program
      [⟨.getKVRocks asked, .ok instance_⟩] (.ok .finished) log) :
    AccountedFor (handlerOf key type) [⟨.getKVRocks asked, .ok instance_⟩] instance_ log ↔
      (instance_.status.status ≠ .failed → ∀ entry, log.getLast? = some entry → Tolerable entry) := by
  unfold reconcileDeletion at h
  by_cases hfinalizer : kvrocksFinalizer ∉ instance_.finalizers
  · rw [if_pos hfinalizer] at h
    obtain ⟨_, rfl⟩ := exec_pure_iff.mp h
    refine iff_of_true (.unfinalized hdeleted hfinalizer) fun _ entry hentry error herror ↦ ?_
    cases hentry
    cases herror
  · rw [if_neg hfinalizer] at h
    obtain ⟨⟨result, requeue⟩, middle, hended, hrest⟩ := exec_bind_ok_iff.mp h
    by_cases hretry : (requeue || shouldRetry result) = true
    · simp only [hretry, if_true] at hrest
      cases (exec_pure_iff.mp hrest).1
    · simp only [hretry] at hrest
      cases result with
      | error error =>
        obtain ⟨_, rfl⟩ := exec_pure_iff.mp hrest
        exact finalizer_failed_accounted_iff hdeleted (not_not.mp hfinalizer) hended
      | ok _ =>
        obtain ⟨removed, later, hupdate, hreturn⟩ := exec_bind_ok_iff.mp hrest
        by_cases hagain : shouldRetry removed = true
        · rw [if_pos hagain] at hreturn
          cases (exec_pure_iff.mp hreturn).1
        · rw [if_neg hagain] at hreturn
          obtain ⟨_, rfl⟩ := exec_pure_iff.mp hreturn
          obtain ⟨inner, hinner, hwrite⟩ := exec_handle_iff.mp hupdate
          obtain ⟨reply, hlog, houtcome⟩ := exec_updateKVRocks_iff.mp hwrite
          apply finalizer_removed_accounted_iff hdeleted (not_not.mp hfinalizer) hended hlog rfl (by simp)
          rintro rfl
          rw [houtcome] at hinner
          cases hinner
          exact hagain rfl

end Deletion

/-! ## Objects that are not being deleted -/

section Live

variable {key asked : NamespacedName} {type : KVRocksType} {instance_ : KVRocks} {log : Log}

/-- The updates before the first call of the handler fail only because the object is gone. -/
def UpdatesHonoured (rest : Log) : Prop :=
  ∀ entry ∈ rest.takeWhile isUpdate, ∀ error, failure entry = some error → error = .api .notFound

/-- Only the last update can have failed. -/
theorem updatesHonoured_append_iff {accepted : Log} (haccepted : ∀ entry ∈ accepted, Accepted instance_ entry) :
    UpdatesHonoured (accepted ++ [⟨.updateKVRocks object, reply⟩]) ↔
      ∀ error, apiFailure reply = some error → error = .api .notFound := by
  have hall : (accepted ++ [⟨.updateKVRocks object, reply⟩] : Log).takeWhile isUpdate =
      accepted ++ [⟨.updateKVRocks object, reply⟩] := by
    rw [List.takeWhile_append_of_pos fun entry hentry ↦ (haccepted entry hentry).isUpdate_eq]
    rfl
  unfold UpdatesHonoured
  rw [hall]
  constructor
  · intro hupdates
    exact hupdates ⟨.updateKVRocks object, reply⟩ (by simp)
  · intro hreply entry hentry error herror
    rcases List.mem_append.mp hentry with hearlier | hlast
    · rw [(haccepted entry hearlier).failure_eq] at herror
      cases herror
    · rw [List.mem_singleton.mp hlast] at herror
      exact hreply error herror

/-- The end of a reconciliation whose specification is unreasonable: the update that marks the object as failed is all
that happens. -/
theorem unreasonable_accounted_iff (hstatus : instance_.status.status ≠ .failed)
    (hlive : instance_.deletionTimestamp = false) {reason : String}
    (hinvalid : validateKVRocks instance_ = some reason) (hkey : object.key = instance_.key)
    (hfailed : object.status.status = .failed) :
    AccountedFor (handlerOf key type) [⟨.getKVRocks asked, .ok instance_⟩] instance_
        [⟨.getKVRocks asked, .ok instance_⟩, ⟨.updateKVRocks object, reply⟩] ↔
      UpdatesHonoured [⟨.updateKVRocks object, reply⟩] := by
  have hhonoured : UpdatesHonoured [⟨.updateKVRocks object, reply⟩] ↔
      ∀ error, apiFailure reply = some error → error = .api .notFound :=
    updatesHonoured_append_iff (List.forall_mem_nil (Accepted instance_))
  rw [hhonoured]
  cases reply with
  | ok version =>
    apply iff_of_true
    · exact .markedFailed ⟨object, version, by simp, hkey, hfailed⟩
    · intro error herror
      cases herror
  | error error =>
    have hpersisted : ∀ holds, ¬ Persisted [⟨.getKVRocks asked, .ok instance_⟩,
        ⟨.updateKVRocks object, .error error⟩] instance_ holds := by
      rintro holds ⟨written, version, hmem, _⟩
      simp at hmem
    constructor
    · intro haccounted failed hfailure
      cases hfailure
      cases haccounted with
      | vanished hvanished =>
        obtain ⟨written, hmem, _⟩ := hvanished
        simp only [List.mem_cons, List.not_mem_nil, or_false] at hmem
        rcases hmem with hread | hwrite
        · cases hread
        · cases hwrite
          rfl
      | unfinalized hdeleted => rw [hlive] at hdeleted; cases hdeleted
      | released _ hreleased => exact absurd hreleased (hpersisted _)
      | wasFailed hwas => exact absurd hwas hstatus
      | markedFailed hmarked => exact absurd hmarked (hpersisted _)
      | finalizerRefused hdeleted => rw [hlive] at hdeleted; cases hdeleted
      | passRefused _ hvalid => rw [hinvalid] at hvalid; cases hvalid
      | completed _ hvalid => rw [hinvalid] at hvalid; cases hvalid
    · intro hgone
      cases hgone (.api error) rfl
      exact .vanished ⟨object, by simp, hkey⟩

/-- The end of a reconciliation that could not initialize the object. -/
theorem uninitialized_accounted_iff (hstatus : instance_.status.status ≠ .failed)
    (hlive : instance_.deletionTimestamp = false) {error : GoError} {rest : Log}
    (h : Exec recorded (runIfInitialize instance_).program [⟨.getKVRocks asked, .ok instance_⟩]
      (.err error) (⟨.getKVRocks asked, .ok instance_⟩ :: rest)) :
    AccountedFor (handlerOf key type) [⟨.getKVRocks asked, .ok instance_⟩] instance_
        (⟨.getKVRocks asked, .ok instance_⟩ :: rest) ↔
      UpdatesHonoured rest := by
  obtain ⟨accepted, haccepted, ⟨_, hok, _⟩ | ⟨failed, entry, heq, hrest, object, rfl, hkey, hobject⟩⟩ :=
    runIfInitialize_initializes hstatus h
  · cases hok
  · obtain rfl : error = .api failed := Outcome.err.inj heq
    obtain rfl : rest = accepted ++ [⟨.updateKVRocks object, .error failed⟩] := by simpa using hrest
    have hhonoured : UpdatesHonoured (accepted ++ [⟨.updateKVRocks object, .error failed⟩]) ↔ failed = .notFound := by
      rw [updatesHonoured_append_iff haccepted]
      simp [apiFailure]
    rw [hhonoured]
    constructor
    · intro haccounted
      cases haccounted with
      | vanished hvanished =>
        obtain ⟨written, hmem, _⟩ := hvanished
        rcases List.mem_cons.mp hmem with hread | hlater
        · cases hread
        · rcases List.mem_append.mp hlater with hearlier | hlast
          · have hnone := (haccepted _ hearlier).failure_eq
            cases hnone
          · cases List.mem_singleton.mp hlast
            rfl
      | unfinalized hdeleted => rw [hlive] at hdeleted; cases hdeleted
      | released hdeleted => rw [hlive] at hdeleted; cases hdeleted
      | wasFailed hwas => exact absurd hwas hstatus
      | markedFailed hmarked =>
        obtain ⟨written, version, hmem, _, hwritten⟩ := hmarked
        rcases List.mem_cons.mp hmem with hread | hlater
        · cases hread
        · rcases List.mem_append.mp hlater with hearlier | hlast
          · obtain ⟨other, otherVersion, heq, _, hother⟩ := haccepted _ hearlier
            cases heq
            exact absurd hwritten hother
          · cases List.mem_singleton.mp hlast
      | finalizerRefused hdeleted => rw [hlive] at hdeleted; cases hdeleted
      | passRefused _ _ _ _ hended =>
        obtain ⟨initialized, before, _, hinit, hpass⟩ := hended
        cases (h.log_unique hinit List.prefix_rfl hpass.log_prefix).1
      | completed _ _ hended =>
        obtain ⟨initialized, before, _, hinit, hpass⟩ := hended
        cases (h.log_unique hinit List.prefix_rfl hpass.log_prefix).1
    · rintro rfl
      exact .vanished ⟨object, by simp, hkey⟩

/-- The updates before a pass of the handler were all accepted. -/
theorem updatesHonoured_of_pass (hstatus : instance_.status.status ≠ .failed) {initialized : KVRocks} {rest : Log}
    {outcome : Outcome GoError (Except GoError Bool × Bool)}
    (hinit : Exec recorded (runIfInitialize instance_).program [⟨.getKVRocks asked, .ok instance_⟩]
      (.ok initialized) before)
    (hpass : Exec recorded ((handlerOf key type).handle initialized).program before outcome
      (⟨.getKVRocks asked, .ok instance_⟩ :: rest)) :
    UpdatesHonoured rest := by
  obtain ⟨accepted, haccepted, ⟨_, _, hbefore⟩ | ⟨_, _, heq, _⟩⟩ := runIfInitialize_initializes hstatus hinit
  · obtain ⟨request, resume, hprogram, hrequest⟩ := handle_starts key type initialized
    rw [hprogram] at hpass
    obtain ⟨reply, middle, hstep, hrest⟩ := exec_call_iff.mp hpass
    have hmiddle : middle = before ++ [⟨request, reply⟩] := hstep
    obtain ⟨later, hlater⟩ := hrest.log_prefix
    have hsplit : rest = accepted ++ ⟨request, reply⟩ :: later := by
      rw [hmiddle, hbefore] at hlater
      simpa using hlater.symm
    have htake : rest.takeWhile isUpdate = accepted := by
      rw [hsplit, List.takeWhile_append_of_pos fun entry hentry ↦ (haccepted entry hentry).isUpdate_eq,
        List.takeWhile_cons_of_neg (by simp [hrequest reply]), List.append_nil]
    intro entry hentry error herror
    rw [htake] at hentry
    rw [(haccepted entry hentry).failure_eq] at herror
    cases herror
  · cases heq

/-- The end of a pass that returns without a wish to be called again. -/
theorem pass_accounted (hlive : instance_.deletionTimestamp = false) (hvalid : validateKVRocks instance_ = none)
    {initialized : KVRocks} {result : Except GoError Bool}
    (hinit : Exec recorded (runIfInitialize instance_).program [⟨.getKVRocks asked, .ok instance_⟩]
      (.ok initialized) before)
    (hpass : Exec recorded ((handlerOf key type).handle initialized).program before (.ok (result, requeue)) log)
    (hflag : requeue = false) (hresult : shouldNotRetry result = true ∨ ∃ finished, result = .ok finished) :
    AccountedFor (handlerOf key type) [⟨.getKVRocks asked, .ok instance_⟩] instance_ log := by
  subst hflag
  rcases hresult with hrefused | ⟨finished, rfl⟩
  · cases result with
    | ok _ => cases hrefused
    | error error =>
      apply AccountedFor.passRefused hlive hvalid error
      · simpa [shouldNotRetry, IsRefusal] using hrefused
      · exact ⟨initialized, before, false, hinit, hpass⟩
  · cases handle_completes hpass
    exact .completed hlive hvalid ⟨initialized, before, false, hinit, hpass⟩

/-- The end of a reconciliation of an object that has neither failed nor is being deleted. -/
theorem live_accounted_iff (hstatus : instance_.status.status ≠ .failed)
    (hlive : instance_.deletionTimestamp = false) {rest : Log}
    (h : Exec recorded (reconcileInstance (handlerOf key type) instance_).program
      [⟨.getKVRocks asked, .ok instance_⟩] (.ok .finished) (⟨.getKVRocks asked, .ok instance_⟩ :: rest)) :
    AccountedFor (handlerOf key type) [⟨.getKVRocks asked, .ok instance_⟩] instance_
        (⟨.getKVRocks asked, .ok instance_⟩ :: rest) ↔
      UpdatesHonoured rest := by
  unfold reconcileInstance at h
  obtain ⟨reasonable, middle, hcheck, hrest⟩ := exec_bind_ok_iff.mp h
  unfold checkSpecification at hcheck
  cases hvalid : validateKVRocks instance_ with
  | some reason =>
    rw [hvalid] at hcheck
    obtain ⟨reply, later, hupdate, hreturn⟩ := exec_bind_ok_iff.mp hcheck
    obtain ⟨hfalse, rfl⟩ := exec_pure_iff.mp hreturn
    obtain rfl : reasonable = false := Outcome.ok.inj hfalse
    obtain ⟨_, hlog⟩ := exec_pure_iff.mp hrest
    obtain ⟨inner, _, hwrite⟩ := exec_handle_iff.mp hupdate
    obtain ⟨answer, hmiddle, _⟩ := exec_updateKVRocks_iff.mp hwrite
    rw [hmiddle] at hlog
    obtain rfl : rest = [⟨.updateKVRocks _, answer⟩] := (List.cons.inj hlog).2
    exact unreasonable_accounted_iff hstatus hlive hvalid rfl rfl
  | none =>
    rw [hvalid] at hcheck
    obtain ⟨htrue, rfl⟩ := exec_pure_iff.mp hcheck
    obtain rfl : reasonable = true := Outcome.ok.inj htrue
    obtain ⟨initialized, before, hhandled, hpass⟩ := exec_bind_ok_iff.mp hrest
    cases initialized with
    | error error =>
      obtain ⟨_, rfl⟩ := exec_pure_iff.mp hpass
      exact uninitialized_accounted_iff hstatus hlive (exec_handle_error_iff.mp hhandled)
    | ok initialized =>
      have hinit := exec_handle_ok_iff.mp hhandled
      obtain ⟨⟨result, requeue⟩, later, hhandle, hreturn⟩ := exec_bind_ok_iff.mp hpass
      by_cases hretry : (requeue || shouldRetry result) = true
      · simp only [hretry, if_true] at hreturn
        cases (exec_pure_iff.mp hreturn).1
      · have hflag : requeue = false := by
          cases requeue with
          | false => rfl
          | true => exact absurd rfl hretry
        simp only [hretry] at hreturn
        by_cases hrefused : shouldNotRetry result = true
        · simp only [hrefused, if_true] at hreturn
          obtain ⟨_, rfl⟩ := exec_pure_iff.mp hreturn
          exact iff_of_true (pass_accounted hlive hvalid hinit hhandle hflag (.inl hrefused))
            (updatesHonoured_of_pass hstatus hinit hhandle)
        · simp only [hrefused] at hreturn
          cases result with
          | error error => cases (exec_pure_iff.mp hreturn).1
          | ok finished =>
            obtain ⟨_, rfl⟩ := exec_pure_iff.mp hreturn
            exact iff_of_true (pass_accounted hlive hvalid hinit hhandle hflag (.inr ⟨finished, rfl⟩))
              (updatesHonoured_of_pass hstatus hinit hhandle)

end Live

/-- `Reconcile` returns neither an error nor a wish to be called again.  Then its end is accounted for exactly if the
calls it makes by itself were honoured. -/
theorem finished_accounted_iff {key : NamespacedName} {log : Log}
    (h : Exec recorded (reconcile (handlerOf key) key).program [] (.ok .finished) log) :
    Accounted key log ↔ Honoured log := by
  unfold reconcile at h
  obtain ⟨reply, middle, hread, hrest⟩ := exec_bind_ok_iff.mp h
  cases reply with
  | error error =>
    obtain ⟨answer, hanswer, hcall⟩ := exec_attempt_iff.mp (exec_handle_error_iff.mp hread)
    have hmiddle := exec_perform_iff.mp hcall
    cases answer with
    | ok _ => cases hanswer
    | error failed =>
      obtain rfl : error = .api failed := Outcome.err.inj hanswer
      by_cases hgone : (GoError.api failed).isNotFound = true
      · simp only [hgone, if_true] at hrest
        obtain ⟨_, rfl⟩ := exec_pure_iff.mp hrest
        rw [hmiddle]
        cases failed <;> simp_all [Accounted, Honoured, GoError.isNotFound]
      · simp only [hgone] at hrest
        cases (exec_pure_iff.mp hrest).1
  | ok instance_ =>
    obtain ⟨answer, hanswer, hcall⟩ := exec_attempt_iff.mp (exec_handle_ok_iff.mp hread)
    have hmiddle := exec_perform_iff.mp hcall
    cases answer with
    | error _ => cases hanswer
    | ok found =>
      obtain rfl : instance_ = found := Outcome.ok.inj hanswer
      obtain ⟨rest, rfl⟩ := hrest.log_prefix
      rw [hmiddle] at hrest ⊢
      by_cases hdeleted : instance_.deletionTimestamp = true
      · simp only [hdeleted, if_true] at hrest
        simpa [Accounted, Honoured, hdeleted] using deletion_accounted_iff hdeleted hrest
      · have hlive : instance_.deletionTimestamp = false := by simpa using hdeleted
        simp only [hdeleted] at hrest
        by_cases hfailed : instance_.status.status = .failed
        · simp only [hfailed, if_true] at hrest
          obtain ⟨_, hlog⟩ := exec_pure_iff.mp hrest
          obtain rfl : rest = [] := by simpa using hlog
          exact iff_of_true (.wasFailed hfailed) (by simp [Honoured, hlive])
        · simp only [hfailed] at hrest
          simpa [Accounted, Honoured, hlive, UpdatesHonoured] using live_accounted_iff hfailed hlive hrest

/-- A standard instance that has just been created. -/
def newStandard (password : String) : KVRocks :=
  .created ⟨"default", "kvrocks-standard-1-demo"⟩
    { image := "kvrocks:2.0", type := .standard, kvrocksConfig := [], replicas := 3, master := 1,
      password := password, resources := true }

/-- The calls of a reconciliation of the instance that ends with its first update. -/
def firstUpdate (found written : KVRocks) (reply : ApiResult ℕ) : Log :=
  [⟨.getKVRocks found.key, .ok found⟩, ⟨.updateKVRocks written, reply⟩]

/-- Without a password the instance is marked as failed. -/
def unreasonableUpdate : Log :=
  firstUpdate (newStandard "")
    { newStandard "" with
      status := { (newStandard "").status with status := .failed, reason := errorPasswordEmpty } } (.ok 1)

/-- The labels of the new instance are set, but somebody else has changed it in between. -/
def conflictingUpdate : Log :=
  firstUpdate (newStandard "secret")
    { newStandard "secret" with labels := wantedLabels (newStandard "secret") } (.error .conflict)

/-- A specification without a password is marked as failed. -/
theorem unreasonable_finished : Exec recorded
        (reconcile (handlerOf (newStandard "").key) (newStandard "").key).program [] (.ok .finished)
        unreasonableUpdate ∧
      Accounted (newStandard "").key unreasonableUpdate := by
  have hexec : Exec recorded
      (reconcile (handlerOf (newStandard "").key) (newStandard "").key).program [] (.ok .finished)
      unreasonableUpdate :=
    exec_call_iff.mpr ⟨.ok (newStandard ""), _, rfl, exec_call_iff.mpr ⟨.ok 1, _, rfl, .done _ _⟩⟩
  refine ⟨hexec, (finished_accounted_iff hexec).mpr ?_⟩
  have hhonoured : ∀ object, UpdatesHonoured [⟨.updateKVRocks object, .ok 1⟩] := by
    intro object
    apply (updatesHonoured_append_iff (List.forall_mem_nil (Accepted (newStandard "")))).mpr
    intro error herror
    cases herror
  exact hhonoured _

/-- `Reconcile` returns as if it were done although the labels were not written, and nothing that the operator does
wakes it up again. -/
theorem conflict_finished_unaccounted : Exec recorded
        (reconcile (handlerOf (newStandard "secret").key) (newStandard "secret").key).program []
        (.ok .finished) conflictingUpdate ∧
      ¬ Accounted (newStandard "secret").key conflictingUpdate := by
  have hinit : Exec recorded (runIfInitialize (newStandard "secret")).program
      [⟨.getKVRocks (newStandard "secret").key, .ok (newStandard "secret")⟩] (.err (.api .conflict))
      conflictingUpdate :=
    exec_call_iff.mpr ⟨.error .conflict, _, rfl, .done _ _⟩
  have hexec : Exec recorded (reconcile (handlerOf (newStandard "secret").key) (newStandard "secret").key).program []
      (.ok .finished) conflictingUpdate :=
    exec_call_iff.mpr ⟨.ok (newStandard "secret"), _, rfl, exec_call_iff.mpr ⟨.error .conflict, _, rfl, .done _ _⟩⟩
  refine ⟨hexec, fun haccounted ↦ ?_⟩
  have hhonoured := (uninitialized_accounted_iff (by decide) rfl hinit).mp haccounted
  have hconflict := (updatesHonoured_append_iff
    (List.forall_mem_nil (Accepted (newStandard "secret")))).mp hhonoured (.api .conflict) rfl
  cases hconflict

end KvrocksOperator.Controllers
