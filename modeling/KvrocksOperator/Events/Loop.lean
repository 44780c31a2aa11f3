import Mathlib.Data.Finset.Basic
import KvrocksOperator.Controllers.Writers
import KvrocksOperator.Interaction.Mutex

/-!
# The goroutines of the event loop

`Run` starts a cron job, `producer`, that subscribes to the pods of all running sentinels, and the consumer of the
message queue.  Each subscription has a goroutine, `listen`, that turns what the sentinel publishes into messages;
each message has a goroutine, `handleFailover`.  Passes of the reconciler send messages of their own.  The goroutines
of the event loop share a mutex, and all of them share a channel whose `send` blocks while it is full, also for a
goroutine that holds the mutex.

The programs of the reconciler and of `events/handler.go` are those of the rest of the development: `implement` says
what their operations on the queue are made of.

No goroutine is shut out: it never waits for a mutex that it holds itself, it releases the mutex only while it holds
it, and whatever it waits for, the others can take steps after which it gets it (`system_lets_on`).
-/

namespace KvrocksOperator.Events.Loop

open Interaction Text Resources

/-! ## Calls -/

/-- `produceMessage` -/
structure ProduceMessage where
  ip : String
  password : String
  key : String
  systemId : String
  deriving DecidableEq

/-- The steps of the goroutines.  As in the other models of the queue, the test of a key and its insertion are one
step. -/
inductive LoopCall where
  | lock
  | unlock
  /-- A new message, with a timeout half a minute from now. -/
  | newMessage (ip port : String) (key : NamespacedName) (partition : ℤ)
  /-- Insert the key, and say whether it is a new one. -/
  | insertKey (ip : String)
  | deleteKey (ip : String)
  | send (msg : EventMessage)
  | beforeTimeout (msg : EventMessage)
  /-- Look the pod up in `producerSentinels`. -/
  | hasProducer (key : String)
  /-- Put the pod into `producerSentinels` and call `sentDownMessage`, which subscribes and starts `listen`. -/
  | sentDownMessage (msg : ProduceMessage)
  /-- Delete the pod from `producerSentinels`. -/
  | deleteProducer (key : String)
  /-- A call to the API server, the controller, a node or a sentinel. -/
  | remote (request : Call)

abbrev LoopCall.Reply : LoopCall → Type
  | .newMessage .. => EventMessage
  | .insertKey _ | .beforeTimeout _ | .hasProducer _ => Bool
  | .remote request => request.Reply
  | _ => Unit

abbrev loop : Interface := { Call := LoopCall, Reply := LoopCall.Reply }

abbrev step (request : LoopCall) : Program loop request.Reply := Program.perform (I := loop) request

/-- Functions of the event loop. -/
abbrev LoopGo := Fallible loop GoError

/-! ## Programs -/

/-- `messageQueue.add` -/
def add (msg : EventMessage) : Program loop Unit := do
  if ← step (.insertKey msg.ip) then step (.send msg) else pure ()

/-- What the operations of the other models are made of. -/
def implement : (request : Call) → Program loop request.Reply
  | .lock => step .lock
  | .unlock => step .unlock
  | .addMessage ip port key partition => do add (← step (.newMessage ip port key partition))
  | .resendMessage msg => step (.send msg)
  | .deleteKey ip => step (.deleteKey ip)
  | .beforeTimeout msg => step (.beforeTimeout msg)
  | request => step (.remote request)

/-- `key.String()` of a pod. -/
def podKey (pod : Pod) : String := pod.ns ++ "/" ++ pod.name

/-- The body of the inner loop of `producer`. -/
def producePod (password systemId : String) (pod : Pod) : LoopGo Unit := do
  Fallible.lift (step .lock)
  if ← Fallible.lift (step (.hasProducer (podKey pod))) then Fallible.lift (step .unlock)
  else do
    Fallible.lift (step (.sentDownMessage
      { ip := pod.ip, password := password, key := podKey pod, systemId := systemId }))
    Fallible.lift (step .unlock)

/-- The body of the outer loop of `producer`.  An error ends the run. -/
def produceSentinel (sentinel : KVRocks) : LoopGo Unit :=
  if sentinel.status.status ≠ .running then pure ()
  else do
    let systemId ← Fallible.ofOption (systemId sentinel.name)
    let pods ← (K8s.listDeploymentPods ⟨sentinel.ns, sentinel.name⟩).translate implement
    forEach (producePod sentinel.spec.password systemId) pods

/-- `producer`, with the error that makes it return. -/
def producer : LoopGo Unit := do
  let sentinels ← (Go.api (ask (.listKVRocks "" sentinelLabels))).translate implement
  forEach produceSentinel sentinels

/-- `listen`, for a subscription on which the payloads arrive before its channel is closed. -/
def listen (msg : ProduceMessage) (payloads : List String) : LoopGo Unit := do
  forEach (fun payload ↦ (listenMessage msg.systemId msg.key payload).translate implement) payloads
  Fallible.lift (step .lock)
  Fallible.lift (step (.deleteProducer msg.key))
  Fallible.lift (step .unlock)

/-! ## The system -/

inductive Thread where
  | reconciler (index : ℕ)
  | producer (index : ℕ)
  | listener (id : ℕ)
  | handler (id : ℕ)
  deriving DecidableEq

structure World where
  /-- Who holds the mutex. -/
  mutex : Option Thread
  /-- The keys of `messageQueue`. -/
  keys : Finset String
  /-- The messages in the channel, oldest first. -/
  channel : List EventMessage
  /-- The goroutines that the consumer has started and that have not come to their end, with their messages. -/
  handlers : List (ℕ × EventMessage)
  /-- The keys of `producerSentinels`. -/
  producerSentinels : Finset String
  /-- The goroutines that `sentDownMessage` has started, up to the deletion of their pods. -/
  listeners : List (ℕ × ProduceMessage)
  /-- How many goroutines have been started. -/
  started : ℕ
  now : ℕ

/-- The capacity of the channel. -/
def capacity : ℕ := 1000

/-- How long a message may be sent again, in seconds. -/
def lifetime : ℕ := 30

namespace World

/-- Nothing has happened yet. -/
def empty (now : ℕ) : World :=
  { mutex := none, keys := ∅, channel := [], handlers := [], producerSentinels := ∅, listeners := [], started := 0,
    now := now }

/-- The mutex is free again; a handler that releases it is done. -/
def released (thread : Thread) (world : World) : World :=
  { world with
    mutex := none
    handlers := world.handlers.filter fun handler ↦ thread ≠ .handler handler.1 }

/-- A new goroutine listens. -/
def subscribed (msg : ProduceMessage) (world : World) : World :=
  { world with
    producerSentinels := insert msg.key world.producerSentinels
    listeners := (world.started, msg) :: world.listeners
    started := world.started + 1 }

/-- The pod is deleted; a listener that deletes it has stopped to listen. -/
def unsubscribed (thread : Thread) (key : String) (world : World) : World :=
  { world with
    producerSentinels := world.producerSentinels.erase key
    listeners := world.listeners.filter fun listener ↦ thread ≠ .listener listener.1 }

/-- The consumer starts a goroutine for the oldest message. -/
def received (msg : EventMessage) (rest : List EventMessage) (world : World) : World :=
  { world with
    channel := rest
    handlers := (world.started, msg) :: world.handlers
    started := world.started + 1 }

end World

/-- How a step of a goroutine is answered.  A mutex that is taken and a channel that is full give no answer. -/
def Answers (thread : Thread) : Program.Answers loop World
  | .lock, before, _, after => before.mutex = none ∧ after = { before with mutex := some thread }
  | .unlock, before, _, after => after = before.released thread
  | .newMessage ip port key partition, before, reply, after =>
    after = before ∧ ∃ id, reply = { id := id, ip := ip, port := port, key := key, partition := partition,
                                     timeout := before.now + lifetime }
  | .insertKey ip, before, reply, after =>
    reply = decide (ip ∉ before.keys) ∧ after = { before with keys := insert ip before.keys }
  | .deleteKey ip, before, _, after => after = { before with keys := before.keys.erase ip }
  | .send msg, before, _, after =>
    before.channel.length < capacity ∧ after = { before with channel := before.channel ++ [msg] }
  | .beforeTimeout msg, before, reply, after => reply = decide (before.now < msg.timeout) ∧ after = before
  | .hasProducer key, before, reply, after => reply = decide (key ∈ before.producerSentinels) ∧ after = before
  | .sentDownMessage msg, before, _, after => after = before.subscribed msg
  | .deleteProducer key, before, _, after => after = before.unsubscribed thread key
  | .remote _, before, _, after => after = before

/-- The consumer receives a message, and time passes. -/
inductive Moves : World → World → Prop where
  | receive (world : World) (msg : EventMessage) (rest : List EventMessage) (hchannel : world.channel = msg :: rest) :
      Moves world (world.received msg rest)
  | elapse (world : World) (later : ℕ) (hlater : world.now ≤ later) : Moves world { world with now := later }

/-- Forget what a function returns. -/
def run (function : LoopGo Unit) : Program loop Unit := function.program.bind fun _ ↦ .done ()

/-- Passes over any object, runs of the cron job, and the goroutines that have been started. -/
inductive Starts : Thread → World → Program loop Unit → Prop where
  | reconcile (index : ℕ) (world : World) (key : NamespacedName) : Starts (.reconciler index) world
        (run ((Controllers.reconcile (Controllers.handlerOf key) key).translate implement >>= fun _ ↦ pure ()))
  | produce (index : ℕ) (world : World) : Starts (.producer index) world (run producer)
  | listen (id : ℕ) (world : World) (msg : ProduceMessage) (payloads : List String)
      (hlistener : (id, msg) ∈ world.listeners) : Starts (.listener id) world (run (listen msg payloads))
  | handleFailover (id : ℕ) (world : World) (client : Controller.Client) (msg : EventMessage)
      (hhandler : (id, msg) ∈ world.handlers) :
      Starts (.handler id) world (run ((handleFailover client msg).translate implement))

def system : System loop Thread World where
  answers := Answers
  starts := Starts
  moves := Moves

/-! ## The mutex -/

def locking : loop.Call → Locking
  | .lock => .acquire
  | .unlock => .release
  | _ => .neither

/-- Taking and releasing the mutex in turn. -/
abbrev discipline : Meaning loop Bool := .disciplined locking

/-- The mutex is taken and released in turn.  The caller holds it as `held` says before the function, and as `later`
says after it, however it ends. -/
def Obeys {α : Type} (function : LoopGo α) (held later : Bool) : Prop :=
  function.Ends discipline (· = later) (· = later) (fun _ final ↦ final = later) held

section Discipline

variable {α β : Type} {held later : Bool}

theorem Obeys.bind {first : LoopGo α} {next : α → LoopGo β} (hfirst : Obeys first held later)
    (hnext : ∀ value, Obeys (next value) later later) : Obeys (first >>= next) held later := by
  apply Fallible.Ends.bind hfirst
  intro value final hfinal
  rw [hfinal]
  exact hnext value

theorem obeys_pure (value : α) : Obeys (pure value) held held := ends_pure rfl

theorem obeys_ofOption (value : Option α) : Obeys (Fallible.ofOption value) held held :=
  yields_ofOption (fun _ _ ↦ rfl) fun _ ↦ rfl

theorem obeys_forEach {body : α → LoopGo Unit} {items : List α} (hbody : ∀ item, Obeys (body item) held held) :
    Obeys (forEach body items) held held := by
  apply ends_forEach_const (· = held) rfl
  intro item _ world hworld
  rw [hworld]
  exact hbody item

variable {request : LoopCall}

/-- A step that takes or releases the mutex, or leaves it alone. -/
theorem discipline_step (hnext : (locking request).next held = some later) :
    discipline.wp (step request) (fun _ final ↦ final = later) held :=
  Meaning.disciplined_perform hnext fun _ ↦ rfl

theorem discipline_neither (hrequest : locking request = .neither) :
    discipline.wp (step request) (fun _ final ↦ final = held) held := by
  apply discipline_step
  rw [hrequest]
  cases held <;> rfl

theorem obeys_step (hnext : (locking request).next held = some later) :
    Obeys (Fallible.lift (step request)) held later :=
  ends_lift (discipline_step hnext)

theorem obeys_step_bind {middle : Bool} {next : request.Reply → LoopGo α}
    (hnext : (locking request).next held = some middle) (hrest : ∀ reply, Obeys (next reply) middle later) :
    Obeys (Fallible.lift (step request) >>= next) held later := by
  apply Fallible.ends_lift_bind
  apply discipline.wp_mono (discipline_step hnext)
  intro reply final hfinal
  rw [hfinal]
  exact hrest reply

theorem add_disciplined (msg : EventMessage) : discipline.wp (add msg) (fun _ final ↦ final = held) held := by
  unfold add
  rw [Program.bind_eq]
  apply (discipline.wp_bind ..).mpr
  apply discipline.wp_mono (discipline_neither rfl)
  intro new final hfinal
  rw [hfinal]
  cases new with
  | true => exact discipline_neither rfl
  | false => exact rfl

theorem addMessage_disciplined (ip port : String) (key : NamespacedName) (partition : ℤ) :
    discipline.wp (implement (.addMessage ip port key partition)) (fun _ final ↦ final = held) held := by
  apply (discipline.wp_bind (step (.newMessage ip port key partition)) add _ _).mpr
  apply discipline.wp_mono (discipline_neither rfl)
  intro msg final hfinal
  rw [hfinal]
  exact add_disciplined msg

/-- The calls of a pass, and of a handler between taking and releasing the mutex, leave the mutex alone. -/
theorem implement_disciplined {request : Call} (hkind : OfKind (.updateKVRocks :: quietKinds) request) :
    discipline.wp (implement request) (fun _ final ↦ final = held) held := by
  cases request with
  | addMessage ip port key partition => exact addMessage_disciplined ip port key partition
  | lock | unlock | resendMessage | deleteKey | beforeTimeout => simp [OfKind, quietKinds, Call.kind] at hkind
  | _ => exact discipline_neither rfl

/-- A function with such a footprint. -/
theorem obeys_translate {function : Go α} (h : Makes (.updateKVRocks :: quietKinds) function) :
    Obeys (function.translate implement) held held := by
  have himplement : ∀ request, OfKind (.updateKVRocks :: quietKinds) request → ∀ world, held = world →
      discipline.wp (implement request) (fun _ final ↦ held = final) world := by
    intro request hkind world hworld
    rw [← hworld]
    exact discipline.wp_mono (implement_disciplined hkind) fun _ _ hfinal ↦ hfinal.symm
  apply discipline.wp_mono (discipline.wp_translate himplement h rfl)
  intro outcome final hfinal
  cases outcome <;> exact hfinal.2.symm

end Discipline

/-! ### The programs of the goroutines -/

theorem listenMessage_obeys (systemId namespaceName payload : String) :
    Obeys ((listenMessage systemId namespaceName payload).translate implement) false false := by
  unfold listenMessage
  rw [Fallible.translate_bind]
  have hdecode : Obeys ((Fallible.ofOption (decode systemId namespaceName payload) : Go Decoded).translate implement)
      false false := obeys_translate (makes_ofOption _)
  apply hdecode.bind
  intro decoded
  cases decoded with
  | skip => exact obeys_pure ()
  | add ip port key partition =>
    simp only [Fallible.translate_bind]
    apply obeys_step_bind rfl
    intro _
    apply Fallible.ends_lift_bind
    apply discipline.wp_mono (addMessage_disciplined ip port key partition)
    intro _ final hfinal
    rw [hfinal]
    exact obeys_step rfl

theorem producePod_obeys (password systemId : String) (pod : Pod) :
    Obeys (producePod password systemId pod) false false := by
  unfold producePod
  apply obeys_step_bind rfl
  intro _
  apply obeys_step_bind rfl
  intro found
  cases found with
  | true => exact obeys_step rfl
  | false =>
    apply obeys_step_bind rfl
    intro _
    exact obeys_step rfl

theorem produceSentinel_obeys (sentinel : KVRocks) : Obeys (produceSentinel sentinel) false false := by
  unfold produceSentinel
  split
  · exact obeys_pure ()
  · apply (obeys_ofOption _).bind
    intro systemId
    apply (obeys_translate ((K8s.listDeploymentPods_makes _).mono (by decide))).bind
    intro pods
    exact obeys_forEach (producePod_obeys sentinel.spec.password systemId)

theorem producer_obeys : Obeys producer false false := by
  apply (obeys_translate (makes_api (all_ask (by decide)))).bind
  intro sentinels
  exact obeys_forEach produceSentinel_obeys

theorem listen_obeys (msg : ProduceMessage) (payloads : List String) : Obeys (listen msg payloads) false false := by
  unfold listen
  apply (obeys_forEach fun payload ↦ listenMessage_obeys msg.systemId msg.key payload).bind
  intro _
  apply obeys_step_bind rfl
  intro _
  apply obeys_step_bind rfl
  intro _
  exact obeys_step rfl

/-- The deferred functions of a handler release the mutex. -/
theorem settle_disciplined (msg : EventMessage) (outcome : Outcome GoError Unit) :
    discipline.wp ((settle msg outcome).translate implement) (fun _ final ↦ final = false) true := by
  cases outcome with
  | err error =>
    refine ⟨true, rfl, fun inTime ↦ ?_⟩
    cases inTime with
    | true => exact ⟨true, rfl, fun _ ↦ ⟨false, rfl, fun _ ↦ rfl⟩⟩
    | false => exact ⟨true, rfl, fun _ ↦ ⟨false, rfl, fun _ ↦ rfl⟩⟩
  | ok value => exact ⟨true, rfl, fun _ ↦ ⟨false, rfl, fun _ ↦ rfl⟩⟩
  | panic => exact ⟨true, rfl, fun _ ↦ ⟨false, rfl, fun _ ↦ rfl⟩⟩

theorem handleFailover_disciplined (client : Controller.Client) (msg : EventMessage) :
    discipline.wp ((handleFailover client msg).translate implement).program (fun _ final ↦ final = false) false := by
  refine ⟨true, rfl, fun _ ↦ ?_⟩
  have hbody : Obeys ((failoverBody client msg).translate implement) true true :=
    obeys_translate (failoverBody_makes client msg)
  change discipline.wp
    (((failoverBody client msg).program.bind (settle msg)).translate implement) (fun _ final ↦ final = false) true
  rw [Program.translate_bind]
  apply (discipline.wp_bind ..).mpr
  apply discipline.wp_mono hbody
  intro outcome final hfinal
  have hheld : final = true := by cases outcome <;> exact hfinal
  rw [hheld]
  exact settle_disciplined msg outcome

/-- A function whose result is forgotten. -/
theorem run_disciplined {function : LoopGo Unit}
    (h : discipline.wp function.program (fun _ final ↦ final = false) false) :
    (run function).Disciplined locking (fun _ held ↦ held = false) false := by
  apply (discipline.wp_bind function.program (fun _ ↦ .done ()) _ _).mpr
  apply discipline.wp_mono h
  exact fun _ _ hfinal ↦ hfinal

theorem Obeys.run {function : LoopGo Unit} (h : Obeys function false false) :
    (run function).Disciplined locking (fun _ held ↦ held = false) false := by
  apply run_disciplined
  apply discipline.wp_mono h
  intro outcome final hfinal
  cases outcome <;> exact hfinal

/-- Every goroutine takes and releases the mutex in turn, and does not hold it at its end. -/
theorem Starts.disciplined {thread : Thread} {world : World} {program : Program loop Unit}
    (hstart : Starts thread world program) : program.Disciplined locking (fun _ held ↦ held = false) false := by
  cases hstart with
  | reconcile index world key =>
    apply Obeys.run
    apply (obeys_translate (Controllers.reconcile_makes key)).bind
    exact fun _ ↦ obeys_pure ()
  | produce index world => exact producer_obeys.run
  | listen id world msg payloads hlistener => exact (listen_obeys msg payloads).run
  | handleFailover id world client msg hhandler => exact run_disciplined (handleFailover_disciplined client msg)

/-! ### Nobody is shut out -/

theorem system_locks : system.Locks locking World.mutex where
  acquire := by
    intro thread request before reply after hlocking hanswer
    cases request with
    | lock =>
      obtain ⟨hfree, rfl⟩ := hanswer
      exact ⟨hfree, rfl⟩
    | _ => cases hlocking
  release := by
    intro thread request before reply after hlocking hanswer
    cases request with
    | unlock => exact congrArg World.mutex hanswer
    | _ => cases hlocking
  neither := by
    intro thread request before reply after hlocking hanswer
    cases request with
    | lock | unlock => cases hlocking
    | newMessage => exact congrArg World.mutex hanswer.1
    | insertKey | send | beforeTimeout | hasProducer =>
      obtain ⟨-, rfl⟩ := hanswer
      rfl
    | _ =>
      cases hanswer
      rfl
  move := by
    intro before after hmove
    cases hmove <;> rfl
  start := Starts.disciplined

/-- The consumer can empty the channel. -/
theorem moves_drain (world : World) : ∃ later, Relation.ReflTransGen Moves world later ∧ later.channel = [] := by
  obtain ⟨channel, hchannel⟩ : ∃ channel, world.channel = channel := ⟨_, rfl⟩
  induction channel generalizing world with
  | nil => exact ⟨world, .refl, hchannel⟩
  | cons msg rest ih =>
    obtain ⟨later, hmoves, hempty⟩ := ih (world.received msg rest) rfl
    exact ⟨later, .head (.receive world msg rest hchannel) hmoves, hempty⟩

/-- Only a send into a full channel needs the consumer. -/
theorem system_answered : system.Answered locking World.mutex where
  free := by
    intro thread request world hlocking hfree
    cases request with
    | lock => exact ⟨(), _, hfree, rfl⟩
    | _ => cases hlocking
  other := by
    intro thread request world hlocking
    cases request with
    | lock => exact absurd rfl hlocking
    | send msg =>
      obtain ⟨later, hmoves, hempty⟩ := moves_drain world
      have hroom : later.channel.length < capacity := by
        rw [hempty]
        decide
      exact ⟨later, hmoves, (), _, hroom, rfl⟩
    | newMessage ip port key partition =>
      exact ⟨world, .refl, { id := 0, ip, port, key, partition, timeout := world.now + lifetime }, world, rfl, 0, rfl⟩
    | insertKey | beforeTimeout | hasProducer => exact ⟨world, .refl, _, _, rfl, rfl⟩
    | remote request => exact ⟨world, .refl, request.failure, world, rfl⟩
    | _ => exact ⟨world, .refl, (), _, rfl⟩

/-- However the goroutines are interleaved, a goroutine releases the mutex only while it holds it and waits for the
mutex only while it does not, and whatever it waits for, it can get it after steps of the others. -/
theorem system_lets_on {start : World} (hfree : start.mutex = none) {config : System.Config loop Thread World}
    (hruns : system.Runs (System.initial start) config) {thread : Thread} {request : LoopCall}
    {resume : request.Reply → Program loop Unit} (hwaits : config.running thread = some (.call request resume)) :
    (request = .unlock → config.world.mutex = some thread) ∧ (request = .lock → config.world.mutex ≠ some thread) ∧
      ∃ later, system.Runs config later ∧ later.running thread = some (.call request resume) ∧
        ∃ reply after, Answers thread request later.world reply after := by
  have horderly := (System.orderly_initial hfree).runs system_locks hruns
  obtain ⟨held, hheld, -⟩ := horderly.disciplined thread _ hwaits
  refine ⟨?_, ?_, horderly.admitted system_locks system_answered hwaits⟩
  · intro hunlock
    rw [hunlock] at hheld
    exact of_decide_eq_true (Locking.next_release hheld).1
  · intro hlock
    rw [hlock] at hheld
    exact of_decide_eq_false (Locking.next_acquire hheld).1

section Contention

/-- A message about the master of the first shard of `demo`. -/
def demoMessage (id : ℕ) : EventMessage :=
  { id := id, ip := "10.0.0.1", port := "6379", key := ⟨"default", "demo"⟩, partition := 0, timeout := 30 }

/-- The consumer has started the goroutines of two messages. -/
def twoHandlers : World := { World.empty 0 with handlers := [(1, demoMessage 1), (0, demoMessage 0)], started := 2 }

def handler (id : ℕ) : Program loop Unit :=
  run ((handleFailover Controller.newClient (demoMessage id)).translate implement)

/-- What remains of a handler that has just taken the mutex. -/
def lockedHandler (id : ℕ) : Program loop Unit :=
  (((failoverBody Controller.newClient (demoMessage id)).program.bind (settle (demoMessage id))).translate
    implement).bind fun _ ↦ .done ()

/-- The first goroutine has been started. -/
def firstStarted : System.Config loop Thread World :=
  { world := twoHandlers, running := Function.update (fun _ ↦ none) (.handler 0) (some (handler 0)) }

/-- It has taken the mutex. -/
def firstLocked : System.Config loop Thread World :=
  { world := { twoHandlers with mutex := some (.handler 0) }
    running := Function.update firstStarted.running (.handler 0) (some (lockedHandler 0)) }

/-- The second goroutine has been started, and waits for the mutex. -/
def contended : System.Config loop Thread World :=
  { firstLocked with running := Function.update firstLocked.running (.handler 1) (some (handler 1)) }

theorem runs_contended : system.Runs (System.initial twoHandlers) contended := by
  have hstart : system.Works (System.initial twoHandlers) firstStarted :=
    .start (Thread.handler 0) rfl (.handleFailover 0 _ _ _ (by decide))
  have hnext : firstStarted.running (.handler 0) = some (.call .lock fun _ ↦ lockedHandler 0) := rfl
  have hanswer : system.answers (.handler 0) .lock firstStarted.world () firstLocked.world := ⟨rfl, rfl⟩
  have hlock : system.Works firstStarted firstLocked := .call (Thread.handler 0) hnext hanswer
  have hsecond : system.Works firstLocked contended :=
    .start (Thread.handler 1) rfl (.handleFailover 1 _ _ _ (by decide))
  exact ((Relation.ReflTransGen.single hstart).tail hlock).tail hsecond

/-- The second goroutine gets the mutex in the end. -/
theorem system_lets_on_contended : contended.world.mutex = some (.handler 0) ∧
      ∃ later, system.Runs contended later ∧ ∃ reply after, Answers (.handler 1) .lock later.world reply after := by
  have hwaits : contended.running (.handler 1) = some (.call .lock fun _ ↦ lockedHandler 1) := rfl
  obtain ⟨-, -, later, hruns, -, hanswer⟩ := system_lets_on rfl runs_contended hwaits
  exact ⟨rfl, later, hruns, hanswer⟩

end Contention

end KvrocksOperator.Events.Loop
