import KvrocksOperator.Controllers.Footprint
import KvrocksOperator.Controllers.Reconcile
import KvrocksOperator.Events.Failover

/-!
# How often one message fails a shard over

The executions of `handleFailover` on one message of the queue, interleaved with passes of `Reconcile` over the same
instance and with everything else that writes it.  `handleFailover` asks the controller for the failover before it
writes the instance.  An error after that request sends the message back to the queue, and the next execution asks for
a failover again: a write of the instance by anybody else between the handler's read and its own write is enough.

`performed_le_one` says that the controller fails the shard over at most once for the message in every run in which an
execution that has had its failover either meets no further error or ends after the time of the message.
-/

namespace KvrocksOperator.Events

open Interaction

namespace Once

/-- The consumer that handles the message, and a worker of the reconciler. -/
inductive Thread where
  | handler
  | reconciler
  deriving DecidableEq

structure World where
  /-- The instance of the message as it is stored. -/
  current : KVRocks
  /-- The versions stored before, which a cached read can still return. -/
  earlier : List KVRocks
  /-- The message is in the channel. -/
  queued : Bool
  /-- The time within which the message is sent again has passed. -/
  expired : Bool
  /-- How many requests for a failover the controller has carried out for the message. -/
  performed : ℕ
  /-- The execution that runs has had one of them. -/
  failedOver : Bool
  /-- After that, it could not read the nodes of the shard or could not write the instance. -/
  stumbled : Bool

namespace World

/-- `add` has accepted the message. -/
def accepted (instance_ : KVRocks) : World :=
  { current := instance_, earlier := [], queued := true, expired := false, performed := 0,
    failedOver := false, stumbled := false }

/-- The message is taken from the channel. -/
def received (world : World) : World := { world with queued := false, failedOver := false, stumbled := false }

/-- The controller carries the failover out. -/
def perform (world : World) : World := { world with performed := world.performed + 1, failedOver := true }

/-- An error is returned to the handler. -/
def stumble (world : World) : World := { world with stumbled := world.stumbled || world.failedOver }

/-- A new version of the instance is stored. -/
def store (world : World) (instance_ : KVRocks) : World :=
  { world with
    current := { instance_ with resourceVersion := world.current.resourceVersion + 1 }
    earlier := world.current :: world.earlier }

end World

/-- The API server: a read returns a version that has been stored, and a write is accepted only for the current
version. -/
def Stores (key : NamespacedName) : Program.Answers operator World
  | .getKVRocks wanted, before, reply, after =>
    after = before ∧ (wanted = key → ∀ instance_, reply = .ok instance_ → instance_ ∈ before.current :: before.earlier)
  | .updateKVRocks instance_, before, reply, after =>
    match reply with
    | .error _ => after = before
    | .ok version =>
      if instance_.key = key then
        instance_.resourceVersion = before.current.resourceVersion ∧
          version = before.current.resourceVersion + 1 ∧ after = before.store instance_
      else after = before
  | _, before, _, after => after = before

/-- `GetNodes` returns an error for this answer. -/
def nodesFailed : Except GoError (Response (Option ShardData)) → Bool
  | .error _ => true
  | .ok response =>
    response.statusCode == statusOK &&
      match response.body with
      | .ok (some _) => false
      | _ => true

/-- The answer reports success. -/
def isOK : Except GoError (Response Unit) → Bool
  | .error _ => false
  | .ok response => response.statusCode == statusOK

/-- What the handler's calls do.  The controller can carry a failover out although its answer does not say so. -/
def Handles (msg : EventMessage) : Program.Answers operator World
  | .lock, before, _, after => after = before.received
  | .http _ (.failoverShard _ _ _), before, reply, after =>
    after = before.perform ∨ after = before ∧ isOK reply = false
  | .http _ (.getNodes _ _ _), before, reply, after =>
    after = if nodesFailed reply then before.stumble else before
  | .updateKVRocks instance_, before, reply, after =>
    match reply with
    | .error _ => after = before.stumble
    | .ok version => Stores msg.key (.updateKVRocks instance_) before (.ok version) after
  | .beforeTimeout message, before, reply, after =>
    after = before ∧ (message = msg → reply = !before.expired)
  | .resendMessage message, before, _, after =>
    after = if message = msg then { before with queued := true } else before
  | request, before, reply, after => Stores msg.key request before reply after

/-- Others write the instance, and time passes. -/
inductive Moves : World → World → Prop where
  | write (world : World) (instance_ : KVRocks) : Moves world (world.store instance_)
  | expire (world : World) : Moves world { world with expired := true }

/-- All that runs, where each call of the handler is made in a world that meets a condition. -/
def system (client : Controller.Client) (handlerOf : KVRocksType → Controllers.KVRocksHandler)
    (msg : EventMessage) (condition : Call → World → Prop) : System operator Thread World where
  answers
    | .handler, request, before, reply, after =>
      condition request before ∧ Handles msg request before reply after
    | .reconciler, request, before, reply, after => Stores msg.key request before reply after
  starts
    | .handler, world, program =>
      world.queued = true ∧ program = (handleFailover client msg).program.bind fun _ ↦ .done ()
    | .reconciler, _, program =>
      program = (Controllers.reconcile handlerOf msg.key).program.bind fun _ ↦ .done ()
  moves := Moves

/-- When the handler looks at the time of its message after it has had its failover and has met an error since, the
time has passed. -/
def SmoothOrLate (msg : EventMessage) (request : Call) (world : World) : Prop :=
  request = .beforeTimeout msg → world.stumbled = true → world.expired = true

/-! ## Contracts -/

/-- What only the handler of the message changes is unchanged. -/
structure Frame (before after : World) : Prop where
  queued : after.queued = before.queued
  performed : after.performed = before.performed
  failedOver : after.failedOver = before.failedOver
  stumbled : after.stumbled = before.stumbled

theorem Frame.refl (world : World) : Frame world world := ⟨rfl, rfl, rfl, rfl⟩

theorem Frame.trans {first second third : World} (h : Frame first second) (h' : Frame second third) :
    Frame first third where
  queued := h'.queued.trans h.queued
  performed := h'.performed.trans h.performed
  failedOver := h'.failedOver.trans h.failedOver
  stumbled := h'.stumbled.trans h.stumbled

variable {request : Call}

/-- The API server does not touch the queue. -/
theorem Stores.frame {key : NamespacedName} {before after : World} {reply : request.Reply}
    (h : Stores key request before reply after) : Frame before after := by
  unfold Stores at h
  split at h
  · rw [h.1]
    exact Frame.refl before
  · split at h
    · rw [h]
      exact Frame.refl before
    · split at h
      · rw [h.2.2]
        exact ⟨rfl, rfl, rfl, rfl⟩
      · rw [h]
        exact Frame.refl before
  · rw [h]
    exact Frame.refl before

theorem Moves.frame {before after : World} (h : Moves before after) : Frame before after := by
  cases h with
  | write instance_ => exact ⟨rfl, rfl, rfl, rfl⟩
  | expire => exact ⟨rfl, rfl, rfl, rfl⟩

/-- The invariant of all runs: a message that waits has had no failover. -/
structure Inv (world : World) : Prop where
  le_one : world.performed ≤ 1
  queued : world.queued = true → world.performed = 0

theorem Inv.frame {before after : World} (h : Inv before) (hframe : Frame before after) : Inv after where
  le_one := hframe.performed.le.trans h.le_one
  queued hqueued := hframe.performed.trans (h.queued (hframe.queued.symm.trans hqueued))

/-- The handler relies on being the only one that handles its message. -/
def handlerContract (msg : EventMessage) : Contract operator World where
  answers request before reply after := SmoothOrLate msg request before ∧ Handles msg request before reply after
  inv := Inv
  rely := Frame
  guarantee _ _ := True
  guard _ _ := True
  rely_refl := Frame.refl
  rely_trans := Frame.trans

/-- A pass does not touch the message. -/
def reconcilerContract (key : NamespacedName) : Contract operator World where
  answers := Stores key
  inv := Inv
  rely _ _ := True
  guarantee := Frame
  guard _ _ := True
  rely_refl _ := trivial
  rely_trans _ _ := trivial

/-- The contract of each thread. -/
def contract (msg : EventMessage) : Thread → Contract operator World
  | .handler => handlerContract msg
  | .reconciler => reconcilerContract msg.key

/-- Whatever the reconciler runs keeps its contract. -/
theorem reconciler_safe {key : NamespacedName} (program : Program operator Unit) (world : World) :
    (reconcilerContract key).Safe program (fun _ _ ↦ True) world := by
  induction program generalizing world with
  | done value => trivial
  | call request resume ih =>
    intro before _ hinv reply after hanswer
    exact ⟨trivial, hinv.frame hanswer.frame, hanswer.frame, ih reply after⟩

/-! ## One execution of the handler -/

/-- The message is with the handler and no failover has been carried out for it. -/
structure Fresh (world : World) : Prop where
  taken : world.queued = false
  performed : world.performed = 0

/-- The message is with the handler, and a failover that has been carried out is one of this execution. -/
structure Covered (world : World) : Prop where
  taken : world.queued = false
  own : world.performed = 0 ∨ world.failedOver = true

/-- The handler may return an error: either no failover has been carried out, or the error counts as one after it. -/
structure Excused (world : World) : Prop where
  taken : world.queued = false
  reason : world.performed = 0 ∨ world.stumbled = true

/-- The message is with the handler. -/
def Taken (world : World) : Prop := world.queued = false

section Handler

variable {msg : EventMessage} {world : World}

theorem Fresh.frame {later : World} (h : Fresh world) (hframe : Frame world later) : Fresh later :=
  ⟨hframe.queued.trans h.taken, hframe.performed.trans h.performed⟩

theorem Fresh.excused (h : Fresh world) : Excused world := ⟨h.taken, .inl h.performed⟩

theorem Covered.frame {later : World} (h : Covered world) (hframe : Frame world later) : Covered later := by
  refine ⟨hframe.queued.trans h.taken, ?_⟩
  rw [hframe.performed, hframe.failedOver]
  exact h.own

/-- A failure after the failover is excused. -/
theorem Covered.stumble (h : Covered world) : Excused world.stumble := by
  refine ⟨h.taken, h.own.imp id fun hown ↦ ?_⟩
  simp [World.stumble, hown]

/-- The first failover. -/
theorem Fresh.perform_inv (h : Fresh world) : Inv world.perform where
  le_one := by simp [World.perform, h.performed]
  queued hqueued := by simp [World.perform, h.taken] at hqueued

/-- One call of the handler, after whatever the others have done. -/
theorem handler_ask {post : request.Reply → World → Prop}
    (h : ∀ before, Frame world before → Inv before → ∀ reply after, SmoothOrLate msg request before →
      Handles msg request before reply after → Inv after ∧ post reply after) :
    (handlerContract msg).meaning.wp (ask request) post world := by
  intro before hframe hinv reply after hanswer
  have hafter := h before hframe hinv reply after hanswer.1 hanswer.2
  exact ⟨trivial, hafter.1, trivial, hafter.2⟩

/-- The kinds of the handler's calls that leave the world alone. -/
def silentKinds : List CallKind := [.getKVRocks, .getService, .getWorkload, .listPods, .sentinel]

theorem silent_of_kind (h : OfKind silentKinds request) : (handlerContract msg).Silent request := by
  intro before reply after hanswer
  have hhandles : Handles msg request before reply after := hanswer.2
  cases request with
  | getKVRocks key => exact ⟨hhandles.1, trivial, trivial⟩
  | getService key => exact ⟨hhandles, trivial, trivial⟩
  | getWorkload kind key => exact ⟨hhandles, trivial, trivial⟩
  | listPods ns labels => exact ⟨hhandles, trivial, trivial⟩
  | sentinel ip password command => exact ⟨hhandles, trivial, trivial⟩
  | _ => simp [OfKind, silentKinds, Call.kind] at h

/-! ### Calls after which the failover counts -/

/-- The failover is asked for once. -/
theorem failoverShard_ends (client : Controller.Client) (shardIndex : ℤ) (h : Fresh world) :
    (Controller.failoverShard client shardIndex).Ends (handlerContract msg).meaning
      (fun final ↦ Inv final ∧ Covered final) Taken (fun _ final ↦ Inv final ∧ Covered final)
      world := by
  have hsend : (Controller.send client
        (.failoverShard client.ns client.clusterName shardIndex)).Ends (handlerContract msg).meaning
      (fun final ↦ Inv final ∧ Covered final) Taken (fun _ final ↦ Inv final ∧ Covered final)
      world := by
    apply ends_attempt
    apply handler_ask
    intro before hframe hinv reply after _ hanswer
    have hbefore := h.frame hframe
    have hafter : Inv after ∧ Covered after := by
      apply hanswer.elim
      · intro hperform
        rw [hperform]
        exact ⟨hbefore.perform_inv, ⟨hbefore.taken, .inr rfl⟩⟩
      · intro hsame
        rw [hsame.1]
        exact ⟨hinv, ⟨hbefore.taken, .inl hbefore.performed⟩⟩
    cases reply with
    | ok response => exact ⟨hafter.1, hafter⟩
    | error error => exact ⟨hafter.1, hafter⟩
  apply hsend.bind
  intro response later hlater
  by_cases hstatus : response.statusCode ≠ statusOK
  · simp only [hstatus, if_true, ne_eq, not_false_eq_true]
    exact ends_throw _ hlater
  · simp only [hstatus, if_false]
    exact ends_pure hlater

theorem getNodes_ends (client : Controller.Client) (shardIndex : ℤ) (h : Covered world) :
    (Controller.getNodes client shardIndex).Ends (handlerContract msg).meaning Excused Taken
      (fun _ ↦ Covered) world := by
  have hsend : (Controller.send client
        (.getNodes client.ns client.clusterName shardIndex)).Ends (handlerContract msg).meaning
      Excused Taken
      (fun response final ↦
        if nodesFailed (.ok response) then Excused final else Covered final) world := by
    apply ends_attempt
    apply handler_ask
    intro before hframe hinv reply after _ hanswer
    have hbefore := h.frame hframe
    change after = if nodesFailed reply then before.stumble else before at hanswer
    rw [hanswer]
    cases reply with
    | error error => exact ⟨⟨hinv.le_one, hinv.queued⟩, hbefore.stumble⟩
    | ok response =>
      by_cases hfailed : nodesFailed (.ok response) = true
      · simp only [hfailed, if_true, Fallible.ofReply, Outcome.Ends]
        exact ⟨⟨hinv.le_one, hinv.queued⟩, hbefore.stumble⟩
      · simp only [hfailed, Fallible.ofReply, Outcome.Ends]
        exact ⟨hinv, hbefore⟩
  apply hsend.bind
  intro response later hlater
  by_cases hstatus : response.statusCode ≠ statusOK
  · have hgood : nodesFailed (.ok response) = false := by simp [nodesFailed, hstatus]
    rw [hgood] at hlater
    simp only [hstatus, if_true, ne_eq, not_false_eq_true]
    exact ends_pure hlater
  · have hok : (response.statusCode == statusOK) = true := by simpa using hstatus
    simp only [hstatus, if_false]
    simp only [nodesFailed, hok, Bool.true_and] at hlater
    revert hlater
    cases response.body with
    | error error => exact fun hlater ↦ ends_throw _ hlater
    | ok body =>
      cases body with
      | none => exact fun hlater ↦ ends_throw _ hlater
      | some shard => exact fun hlater ↦ ends_pure hlater

theorem updateKVRocks_ends (instance_ : KVRocks) (h : Covered world) :
    (K8s.updateKVRocks instance_).Ends (handlerContract msg).meaning Excused Taken (fun _ ↦ Taken) world := by
  have hsend : (Go.api (ask (.updateKVRocks instance_))).Ends (handlerContract msg).meaning Excused
      Taken (fun _ ↦ Taken) world := by
    apply ends_attempt
    apply handler_ask
    intro before hframe hinv reply after _ hanswer
    have hbefore := h.frame hframe
    cases reply with
    | error error =>
      have hafter : after = before.stumble := hanswer
      rw [hafter]
      exact ⟨⟨hinv.le_one, hinv.queued⟩, hbefore.stumble⟩
    | ok version =>
      have hstores : Stores msg.key (.updateKVRocks instance_) before (.ok version) after := hanswer
      exact ⟨hinv.frame hstores.frame, hstores.frame.queued.trans hbefore.taken⟩
  apply hsend.bind
  intro version later hlater
  exact ends_pure hlater

/-! ### The whole execution -/

theorem storeFailover_ends (client : Controller.Client) (instance_ : KVRocks) (h : Covered world) :
    (storeFailover client msg instance_).Ends (handlerContract msg).meaning Excused Taken (fun _ ↦ Taken) world := by
  apply (getNodes_ends client msg.partition h).bind
  intro shard later hlater
  cases shard with
  | none => exact ends_panic hlater.taken
  | some shard =>
    apply (updateKVRocks_ends _ hlater).bind
    intro _ final hfinal
    exact ends_pure hfinal

theorem recordFailover_ends (client : Controller.Client) (instance_ : KVRocks) (hinv : Inv world) (h : Covered world) :
    (recordFailover client msg instance_).Ends (handlerContract msg).meaning Excused Taken (fun _ ↦ Taken) world := by
  unfold recordFailover
  cases hpartition : Go.index instance_.status.topo msg.partition with
  | none => exact ends_panic h.taken
  | some partition =>
    rw [Fallible.ofOption, Fallible.pure_bind]
    split
    · have hremove : (Common.removeMonitor instance_ (Resources.parseRedisName msg.key.name).2
            msg.partition).Ends (handlerContract msg).meaning Excused Taken (fun _ ↦ Covered) world :=
        ((Common.removeMonitorNamed_calm instance_ _).mono (by decide) id).silent
          (fun _ ↦ silent_of_kind) hinv (fun _ _ hframe _ ↦ h.frame hframe) fun _ _ _ ↦ False.elim
      exact hremove.bind fun _ _ hlater ↦ storeFailover_ends client instance_ hlater
    · exact storeFailover_ends client instance_ h

theorem failoverBody_ends (client : Controller.Client) (hinv : Inv world) (h : Fresh world) :
    (failoverBody client msg).Ends (handlerContract msg).meaning Excused Taken (fun _ ↦ Taken) world := by
  have hread : (K8s.getKVRocks msg.key).handle.Ends (handlerContract msg).meaning Excused Taken
      (fun _ final ↦ Inv final ∧ Fresh final) world :=
    ((K8s.getKVRocks_calm msg.key).handle.mono (by decide) id).silent (fun _ ↦ silent_of_kind) hinv
      (fun _ _ hframe hlater ↦ ⟨hlater, h.frame hframe⟩) fun _ _ _ ↦ False.elim
  apply hread.bind
  intro reply later hlater
  cases reply with
  | error error => exact ends_pure hlater.2.taken
  | ok instance_ =>
    simp only
    split
    · exact ends_pure hlater.2.taken
    split
    · exact ends_pure hlater.2.taken
    have hendPoint : (Controller.setEndPoint client instance_.ns).Ends (handlerContract msg).meaning
        Excused Taken (fun _ ↦ Fresh) later :=
      ((Controller.setEndPoint_calm client instance_.ns).mono (by decide) id).silent
        (fun _ ↦ silent_of_kind) hlater.1 (fun _ _ hframe _ ↦ hlater.2.frame hframe)
        fun _ hframe _ _ ↦ (hlater.2.frame hframe).excused
    apply hendPoint.bind
    intro client reached hreached
    have hfailover : (Controller.failoverShard client msg.partition).handle.Ends
        (handlerContract msg).meaning Excused Taken (fun _ final ↦ Inv final ∧ Covered final)
        reached := by
      apply ends_handle
      exact (failoverShard_ends client msg.partition hreached).mono (fun _ hfailed _ ↦ hfailed)
        (fun _ h ↦ h) fun _ _ h ↦ h
    apply hfailover.bind
    intro answer answered hanswered
    cases answer with
    | error error =>
      apply (updateKVRocks_ends _ hanswered.2).bind
      intro _ final hfinal
      exact ends_pure hfinal
    | ok _ => exact recordFailover_ends client instance_ hanswered.1 hanswered.2

/-- A call about the queue or the lock other than those that take or send the message. -/
theorem handler_ask_same {post : request.Reply → World → Prop}
    (hsame : ∀ before reply after, Handles msg request before reply after → after = before)
    (h : ∀ before, Frame world before → ∀ reply, post reply before) :
    (handlerContract msg).meaning.wp (ask request) post world := by
  apply handler_ask
  intro before hframe hinv reply after _ hanswer
  rw [hsame before reply after hanswer]
  exact ⟨hinv, h before hframe reply⟩

variable {outcome : Outcome GoError Unit}

/-- The message is forgotten. -/
theorem forget_safe : (handlerContract msg).meaning.wp
      (do ask (.deleteKey msg.ip); ask .unlock; pure outcome : Program operator _)
      (fun _ _ ↦ True) world := by
  apply ((handlerContract msg).meaning.wp_bind _ _ _ _).mpr
  apply handler_ask_same
  · exact fun _ _ _ hanswer ↦ hanswer
  intro forgotten _ _
  apply ((handlerContract msg).meaning.wp_bind _ _ _ _).mpr
  apply handler_ask_same
  · exact fun _ _ _ hanswer ↦ hanswer
  intro unlocked _ _
  exact ((handlerContract msg).meaning.wp_done _ _ _).mpr trivial

/-- The message is sent again. -/
theorem resend_safe (h : Fresh world) : (handlerContract msg).meaning.wp
      (do ask (.resendMessage msg); ask .unlock; pure outcome : Program operator _)
      (fun _ _ ↦ True) world := by
  apply ((handlerContract msg).meaning.wp_bind _ _ _ _).mpr
  apply handler_ask
  intro before hframe hinv _ after _ hanswer
  have hafter : after = { before with queued := true } := by simpa [Handles] using hanswer
  have hperformed : after.performed = 0 := by
    rw [hafter]
    exact hframe.performed.trans h.performed
  refine ⟨⟨by omega, fun _ ↦ hperformed⟩, ?_⟩
  apply ((handlerContract msg).meaning.wp_bind _ _ _ _).mpr
  apply handler_ask_same
  · exact fun _ _ _ hanswer ↦ hanswer
  intro unlocked _ _
  exact ((handlerContract msg).meaning.wp_done _ _ _).mpr trivial

/-- The deferred functions send the message again only if no failover has been carried out. -/
theorem settle_safe (h : outcome.Ends (Excused world) (Taken world) fun _ ↦ Taken world) :
    (handlerContract msg).meaning.wp (settle msg outcome) (fun _ _ ↦ True) world := by
  cases outcome with
  | ok value => exact forget_safe
  | panic => exact forget_safe
  | err error =>
    have hexcused : Excused world := h
    apply ((handlerContract msg).meaning.wp_bind _ _ _ _).mpr
    apply handler_ask
    intro before hframe hinv inTime after hcondition hanswer
    have hafter : after = before := hanswer.1
    have htime : inTime = !before.expired := hanswer.2 rfl
    rw [hafter]
    refine ⟨hinv, ?_⟩
    cases inTime with
    | false => exact forget_safe
    | true =>
      have hopen : before.expired = false := by simpa using htime.symm
      have hsteady : before.stumbled ≠ true := by
        intro hstumbled
        have := hcondition rfl hstumbled
        simp [hopen] at this
      have hfresh : before.performed = 0 := by
        rw [hframe.performed]
        apply hexcused.reason.resolve_right
        rw [← hframe.stumbled]
        exact hsteady
      exact resend_safe ⟨hframe.queued.trans hexcused.taken, hfresh⟩

/-- An execution of the handler on a message that waits keeps its contract. -/
theorem handleFailover_safe (client : Controller.Client) (hinv : Inv world) (hqueued : world.queued = true) :
    (handlerContract msg).meaning.wp ((handleFailover client msg).program.bind fun _ ↦ .done ())
      (fun _ _ ↦ True) world := by
  apply ((handlerContract msg).meaning.wp_bind _ _ _ _).mpr
  apply ((handlerContract msg).meaning.wp_bind _ _ _ _).mpr
  apply handler_ask
  intro before hframe _ _ after _ hanswer
  have hafter : after = before.received := hanswer
  have hfresh : Fresh after := by
    rw [hafter]
    exact ⟨rfl, hframe.performed.trans (hinv.queued hqueued)⟩
  have hinv' : Inv after := ⟨by simp [hfresh.performed], fun _ ↦ hfresh.performed⟩
  refine ⟨hinv', ?_⟩
  apply ((handlerContract msg).meaning.wp_bind _ _ _ _).mpr
  apply (handlerContract msg).meaning.wp_mono (failoverBody_ends client hinv' hfresh)
  intro outcome final houtcome
  apply (handlerContract msg).meaning.wp_mono (settle_safe houtcome)
  intro _ _ _
  exact ((handlerContract msg).meaning.wp_done _ _ _).mpr trivial

end Handler

/-! ## All runs -/

variable (client : Controller.Client) (handlerOf : KVRocksType → Controllers.KVRocksHandler) (msg : EventMessage)

theorem certified : (system client handlerOf msg (SmoothOrLate msg)).Certified Inv (contract msg) where
  answers_eq thread := by cases thread <;> rfl
  inv_eq thread := by cases thread <;> rfl
  rely_of_guarantee thread other hne before after h := by
    cases thread with
    | handler =>
      cases other with
      | handler => exact absurd rfl hne
      | reconciler => trivial
    | reconciler =>
      cases other with
      | handler => exact h
      | reconciler => exact absurd rfl hne
  move before after hinv hmove := by
    refine ⟨hinv.frame hmove.frame, fun thread ↦ ?_⟩
    cases thread with
    | handler => exact hmove.frame
    | reconciler => trivial
  start thread world program hinv hstart := by
    cases thread with
    | handler =>
      rw [hstart.2]
      exact handleFailover_safe client hinv hstart.1
    | reconciler => exact reconciler_safe program world

/-- In every interleaving in which an execution that has had its failover meets no later error within the time of the
message, the controller carries at most one failover out for the message. -/
theorem performed_le_one {instance_ : KVRocks} {config : System.Config operator Thread World}
    (hrun : (system client handlerOf msg (SmoothOrLate msg)).Reaches
      (System.initial (World.accepted instance_)) config) :
    config.world.performed ≤ 1 := by
  have hinit : Inv (World.accepted instance_) := ⟨Nat.zero_le 1, fun _ ↦ rfl⟩
  have hsound := System.reaches_sound (certified client handlerOf msg) hinit hrun
  exact hsound.inv.le_one

/-! ## Two runs

The master of the first shard is reported down, while a label of the instance is missing that the next pass of
`Reconcile` writes. -/

/-- The record of one pod. -/
def record (shard ordinal : ℕ) (role : Role) (nodeId ip : String) : KVRocksTopology :=
  { pod := Resources.podName (Resources.getStatefulSetName "kvrocks-cluster-1-demo" shard) ordinal
    role := role, nodeId := nodeId, ip := ip, port := 6379, slots := [], masterId := "",
    migrate := [], failover := false }

/-- A cluster of three shards. -/
def threeShards : KVRocks :=
  { KVRocks.created ⟨"default", "kvrocks-cluster-1-demo"⟩
      { image := "", type := .cluster, kvrocksConfig := [], replicas := 2, master := 3,
        password := "secret", resources := true } with
    status :=
      { status := .running, reason := "", version := 1, rebalance := false
        topo :=
          [⟨"", 0, [record 0 0 .master "a" "10.0.0.1", record 0 1 .slave "b" "10.0.0.2"]⟩,
            ⟨"", 1, [record 1 0 .master "c" "10.0.0.3", record 1 1 .slave "d" "10.0.0.4"]⟩,
            ⟨"", 2, [record 2 0 .master "e" "10.0.0.5", record 2 1 .slave "f" "10.0.0.6"]⟩]
        shrink := none } }

/-- The master of the first shard is down. -/
def masterDown : EventMessage :=
  { id := 0, ip := "10.0.0.1", port := "6379", key := threeShards.key, partition := 0, timeout := 0 }

/-- An API server that knows one instance and never fails. -/
def apiServer : (request : Call) → World → request.Reply × World
  | .getKVRocks key, world =>
    (if key = masterDown.key then .ok world.current else .error .notFound, world)
  | .updateKVRocks instance_, world =>
    if instance_.key = masterDown.key ∧ instance_.resourceVersion = world.current.resourceVersion then
      (.ok (world.current.resourceVersion + 1), world.store instance_)
    else (.error .conflict, world)
  | .getService _, world => (.ok "10.0.0.100", world)
  | request, world => (request.failure, world)

/-- The calls of the handler, with a controller that carries every failover out. -/
def queueServer : (request : Call) → World → request.Reply × World
  | .lock, world => ((), world.received)
  | .http _ (.failoverShard _ _ _), world => (.ok ⟨statusOK, .ok ()⟩, world.perform)
  | .http _ (.getNodes _ _ _), world =>
    (.ok ⟨statusOK, .ok (some ⟨[⟨"b", "10.0.0.2:6379", .master⟩, ⟨"a", "10.0.0.1:6379", .slave⟩], ["0-5460"]⟩)⟩, world)
  | .updateKVRocks instance_, world =>
    match apiServer (.updateKVRocks instance_) world with
    | (.ok version, after) => (.ok version, after)
    | (.error error, _) => (.error error, world.stumble)
  | .beforeTimeout _, world => (!world.expired, world)
  | .resendMessage message, world =>
    ((), if message = masterDown then { world with queued := true } else world)
  | request, world => apiServer request world

/-- The threads with these servers; a call that breaks the condition is not answered. -/
def player (condition : Call → World → Bool) : System.Player operator Thread World where
  program
    | .handler => (handleFailover Controller.newClient masterDown).program.bind fun _ ↦ .done ()
    | .reconciler =>
      (Controllers.reconcile (fun _ ↦ Controllers.clusterHandler masterDown.key)
        masterDown.key).program.bind fun _ ↦ .done ()
  startable
    | .handler, world => world.queued
    | .reconciler, _ => true
  serve
    | .handler, request, world =>
      if condition request world then some (queueServer request world) else none
    | .reconciler, request, world => some (apiServer request world)

theorem apiServer_stores (request : Call) (world : World) :
    Stores masterDown.key request world (apiServer request world).1 (apiServer request world).2 := by
  cases request with
  | getKVRocks key =>
    refine ⟨rfl, fun hkey instance_ hreply ↦ ?_⟩
    simp only [apiServer, hkey, if_true, Except.ok.injEq] at hreply
    rw [← hreply]
    exact List.mem_cons_self
  | updateKVRocks instance_ =>
    by_cases hfits : instance_.key = masterDown.key ∧ instance_.resourceVersion = world.current.resourceVersion
    · simp only [apiServer, hfits, and_self, if_true, Stores]
    · simp only [apiServer, hfits, if_false, Stores]
  | _ => rfl

theorem queueServer_handles (request : Call) (world : World) :
    Handles masterDown request world (queueServer request world).1 (queueServer request world).2 := by
  cases request with
  | lock => rfl
  | http endPoint request =>
    cases request with
    | failoverShard ns cluster shardIndex => exact .inl rfl
    | _ => rfl
  | updateKVRocks instance_ =>
    by_cases hfits : instance_.key = masterDown.key ∧ instance_.resourceVersion = world.current.resourceVersion
    · simp only [queueServer, apiServer, hfits, and_self, if_true, Handles, Stores]
    · simp only [queueServer, apiServer, hfits, if_false, Handles]
  | beforeTimeout message => exact ⟨rfl, fun _ ↦ rfl⟩
  | resendMessage message => rfl
  | getKVRocks key => exact apiServer_stores (.getKVRocks key) world
  | _ => rfl

theorem player_plays {allowed : Call → World → Bool} {condition : Call → World → Prop}
    (h : ∀ request world, allowed request world = true → condition request world) :
    (player allowed).Plays (system Controller.newClient
      (fun _ ↦ Controllers.clusterHandler masterDown.key) masterDown condition) where
  start thread world hstart := by
    cases thread with
    | handler => exact ⟨hstart, rfl⟩
    | reconciler => rfl
  serve thread request world answer hserve := by
    cases thread with
    | handler =>
      by_cases hallowed : allowed request world = true
      · simp only [player, hallowed, if_true, Option.some.injEq] at hserve
        rw [← hserve]
        exact ⟨h request world hallowed, queueServer_handles request world⟩
      · simp [player, hallowed] at hserve
    | reconciler =>
      simp only [player, Option.some.injEq] at hserve
      rw [← hserve]
      exact apiServer_stores request world

/-- The handler takes the message and gets its failover. -/
def failOver : List (System.Action Thread) := .start .handler :: List.replicate 4 (.answer .handler)

/-- The handler finishes after its failover, undisturbed. -/
theorem performed_le_one_masterDown : ∃ config : System.Config operator Thread World,
      (system Controller.newClient (fun _ ↦ Controllers.clusterHandler masterDown.key) masterDown
        (SmoothOrLate masterDown)).Reaches (System.initial (World.accepted threeShards)) config ∧
      config.world.performed = 1 ∧ config.world.performed ≤ 1 := by
  have hplays : (player fun request _ ↦ request ≠ .beforeTimeout masterDown).Plays
      (system Controller.newClient (fun _ ↦ Controllers.clusterHandler masterDown.key) masterDown
        (SmoothOrLate masterDown)) :=
    player_plays fun _ _ hallowed hrequest ↦ absurd hrequest (of_decide_eq_true hallowed)
  have hplay : ((player fun request _ ↦ request ≠ .beforeTimeout masterDown).play
      (failOver ++ List.replicate 5 (.answer .handler) ++ [.stop .handler])
      (System.initial (World.accepted threeShards))).map (·.world.performed) = some 1 := by decide
  obtain ⟨config, hconfig, hperformed⟩ := Option.map_eq_some_iff.mp hplay
  have hreaches := System.Player.play_reaches hplays hconfig
  exact ⟨config, hreaches, hperformed, performed_le_one _ _ _ hreaches⟩

/-- A pass of `Reconcile` writes the instance between the handler's read and its write.  The write of the handler is
refused, the message goes back to the queue, and the controller fails the shard over a second time. -/
theorem performed_twice_after_conflict : ∃ config : System.Config operator Thread World,
      (system Controller.newClient (fun _ ↦ Controllers.clusterHandler masterDown.key) masterDown
        (fun _ _ ↦ True)).Reaches (System.initial (World.accepted threeShards)) config ∧
      config.world.performed = 2 := by
  have hplays : (player fun _ _ ↦ true).Plays
      (system Controller.newClient (fun _ ↦ Controllers.clusterHandler masterDown.key) masterDown (fun _ _ ↦ True)) :=
    player_plays fun _ _ _ ↦ trivial
  let actions : List (System.Action Thread) :=
    failOver ++ List.replicate 2 (.answer .handler) ++ .start .reconciler :: List.replicate 2 (.answer .reconciler) ++
      List.replicate 4 (.answer .handler) ++ .stop .handler :: failOver
  have hplay : ((player fun _ _ ↦ true).play actions
      (System.initial (World.accepted threeShards))).map (·.world.performed) = some 2 := by decide
  obtain ⟨config, hconfig, hperformed⟩ := Option.map_eq_some_iff.mp hplay
  exact ⟨config, System.Player.play_reaches hplays hconfig, hperformed⟩

end Once

end KvrocksOperator.Events
