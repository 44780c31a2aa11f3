import KvrocksOperator.Events.Loop

/-!
# The subscriptions of the event loop

What the mutex of the event loop is for.  `producerSentinels` is read and changed only by the holder of the mutex, so
that nobody subscribes to a pod between a look-up that does not find it and its insertion.  In every interleaving,
with goroutines dying at any point, its keys are the pods that are listened to, and there is one listener for each
(`one_listener_per_pod`).  A handler of a message calls the API server, the controller and the sentinels only while it
holds the mutex, so that failovers are never handled side by side (`mutex_guards`).
-/

namespace KvrocksOperator.Events.Loop

open Interaction

/-- The keys of `producerSentinels` are the pods of the goroutines that listen, which are distinct. -/
structure Subscribed (world : World) : Prop where
  keys : ∀ key, key ∈ world.producerSentinels ↔ key ∈ world.listeners.map (·.2.key)
  pods : (world.listeners.map (·.2.key)).Nodup
  ids : (world.listeners.map (·.1)).Nodup
  started : ∀ listener ∈ world.listeners, listener.1 < world.started

theorem empty_subscribed (now : ℕ) : Subscribed (World.empty now) :=
  ⟨fun _ ↦ Iff.rfl, List.nodup_nil, List.nodup_nil, nofun⟩

/-- Goroutines that do everything but wait under the mutex. -/
def Thread.locks : Thread → Bool
  | .listener _ | .handler _ => true
  | .reconciler _ | .producer _ => false

/-- The steps that a goroutine takes only while it holds the mutex. -/
def Thread.needsMutex : Thread → LoopCall → Bool
  | thread, .insertKey _ | thread, .send _ | thread, .remote _ => thread.locks
  | _, .lock | _, .newMessage .. | _, .beforeTimeout _ => false
  | _, _ => true

/-- A new subscription is to a pod that has none, and a listener deletes its own pod. -/
def Proper (thread : Thread) : LoopCall → World → Prop
  | .sentDownMessage msg, world => msg.key ∉ world.producerSentinels
  | .deleteProducer key, world => ∃ id msg, thread = .listener id ∧ (id, msg) ∈ world.listeners ∧ msg.key = key
  | _, _ => True

/-- When a goroutine may take a step. -/
def Guard (thread : Thread) (request : LoopCall) (world : World) : Prop :=
  (thread.needsMutex request = true → world.mutex = some thread) ∧ Proper thread request world

/-- What a goroutine relies on: the others keep away from its mutex, from the pods while it holds the mutex, and from
its entry among the listeners. -/
structure Undisturbed (thread : Thread) (before after : World) : Prop where
  respects : Respects World.mutex World.producerSentinels thread before after
  listens : ∀ id msg, thread = .listener id → (id, msg) ∈ before.listeners → (id, msg) ∈ after.listeners

theorem Undisturbed.refl (thread : Thread) (world : World) : Undisturbed thread world world :=
  ⟨respects_refl world, fun _ _ _ h ↦ h⟩

variable {thread : Thread}

theorem Undisturbed.trans {first second third : World} (h : Undisturbed thread first second)
    (h' : Undisturbed thread second third) : Undisturbed thread first third :=
  ⟨h.respects.trans h'.respects, fun id msg hthread hmem ↦ h'.listens id msg hthread (h.listens id msg hthread hmem)⟩

/-- The mutex stays with its holder. -/
theorem Undisturbed.held {before after : World} (h : Undisturbed thread before after)
    (hheld : before.mutex = some thread) : after.mutex = some thread :=
  h.respects.1.mpr hheld

/-- Nothing that a goroutine relies on has changed. -/
theorem undisturbed_of_same {before after : World} (hmutex : after.mutex = before.mutex)
    (hproducers : after.producerSentinels = before.producerSentinels)
    (hlisteners : after.listeners = before.listeners) : Undisturbed thread before after :=
  ⟨respects_of_same hmutex hproducers, fun _ _ _ hmem ↦ hlisteners ▸ hmem⟩

/-- Nothing that the invariant is about has changed. -/
theorem Subscribed.of_same {before after : World} (h : Subscribed before)
    (hproducers : after.producerSentinels = before.producerSentinels)
    (hlisteners : after.listeners = before.listeners) (hstarted : before.started ≤ after.started) :
    Subscribed after where
  keys := by rw [hproducers, hlisteners]; exact h.keys
  pods := hlisteners ▸ h.pods
  ids := hlisteners ▸ h.ids
  started := fun listener hmem ↦ (h.started listener (hlisteners ▸ hmem)).trans_le hstarted

/-! ## Steps -/

variable {msg : ProduceMessage} {id : ℕ}

section Steps

variable {thread : Thread} {before after : World}

/-- A new listener for a pod that has none. -/
theorem Subscribed.subscribed (h : Subscribed before) (hnew : msg.key ∉ before.producerSentinels) :
    Subscribed (before.subscribed msg) where
  keys := by
    intro key
    simp only [World.subscribed, Finset.mem_insert, List.map_cons, List.mem_cons, h.keys key]
  pods := List.nodup_cons.mpr ⟨fun hmem ↦ hnew ((h.keys msg.key).mpr hmem), h.pods⟩
  ids := by
    apply List.nodup_cons.mpr
    refine ⟨fun hmem ↦ ?_, h.ids⟩
    obtain ⟨listener, hlistener, hid⟩ := List.mem_map.mp hmem
    exact absurd hid (Nat.ne_of_lt (h.started listener hlistener))
  started := by
    intro listener hmem
    rcases List.mem_cons.mp hmem with rfl | hold
    · exact Nat.lt_succ_self before.started
    · exact Nat.lt_succ_of_lt (h.started listener hold)

/-- The listener's own entry is the one with its number, and the one with its pod. -/
theorem Subscribed.own (h : Subscribed before) (hmem : (id, msg) ∈ before.listeners) {listener : ℕ × ProduceMessage}
    (hlistener : listener ∈ before.listeners) : listener.1 = id ↔ listener.2.key = msg.key := by
  constructor
  · intro hid
    rw [List.inj_on_of_nodup_map h.ids hlistener hmem hid]
  · intro hkey
    rw [List.inj_on_of_nodup_map h.pods hlistener hmem hkey]

/-- A listener ends and gives its key back. -/
theorem Subscribed.unsubscribed (h : Subscribed before) (hmem : (id, msg) ∈ before.listeners) :
    Subscribed (before.unsubscribed (.listener id) msg.key) where
  keys := by
    intro key
    have hothers : key ∈ (before.listeners.filter fun listener ↦ Thread.listener id ≠ .listener listener.1).map
        (·.2.key) ↔ key ≠ msg.key ∧ key ∈ before.listeners.map (·.2.key) := by
      simp only [List.mem_map, List.mem_filter, decide_eq_true_eq]
      constructor
      · rintro ⟨listener, ⟨hlistener, hid⟩, rfl⟩
        refine ⟨fun hkey ↦ hid ?_, listener, hlistener, rfl⟩
        rw [(h.own hmem hlistener).mpr hkey]
      · rintro ⟨hkey, listener, hlistener, rfl⟩
        refine ⟨listener, ⟨hlistener, fun hid ↦ hkey ?_⟩, rfl⟩
        exact (h.own hmem hlistener).mp (Thread.listener.inj hid).symm
    exact Finset.mem_erase.trans ((and_congr_right fun _ ↦ h.keys key).trans hothers.symm)
  pods := h.pods.sublist (List.filter_sublist.map _)
  ids := h.ids.sublist (List.filter_sublist.map _)
  started := fun listener hlistener ↦ h.started listener (List.mem_of_mem_filter hlistener)

variable {request : LoopCall} {reply : request.Reply}

/-- A step that passes its guard keeps the invariant. -/
theorem Answers.subscribed (h : Subscribed before) (hguard : Guard thread request before)
    (hanswer : Answers thread request before reply after) : Subscribed after := by
  cases request with
  | sentDownMessage msg =>
    rw [show after = before.subscribed msg from hanswer]
    exact h.subscribed hguard.2
  | deleteProducer key =>
    obtain ⟨id, msg, rfl, hmem, rfl⟩ := hguard.2
    rw [show after = before.unsubscribed (.listener id) msg.key from hanswer]
    exact h.unsubscribed hmem
  | newMessage =>
    rw [hanswer.1]
    exact h
  | lock | insertKey | send | beforeTimeout | hasProducer =>
    obtain ⟨-, rfl⟩ := hanswer
    exact h.of_same rfl rfl le_rfl
  | unlock | deleteKey | remote =>
    cases hanswer
    exact h.of_same rfl rfl le_rfl

/-- A step that passes its guard does not disturb the others. -/
theorem Answers.undisturbed {other : Thread} (hother : thread ≠ other) (hguard : Guard thread request before)
    (hanswer : Answers thread request before reply after) : Undisturbed other before after := by
  have hforeign : some thread ≠ some other := fun h ↦ hother (Option.some.inj h)
  cases request with
  | lock =>
    obtain ⟨hfree, rfl⟩ := hanswer
    refine ⟨⟨?_, fun _ ↦ rfl⟩, fun _ _ _ hmem ↦ hmem⟩
    rw [hfree]
    exact iff_of_false hforeign nofun
  | unlock =>
    have hheld := hguard.1 rfl
    rw [show after = before.released thread from hanswer]
    refine ⟨⟨?_, fun _ ↦ rfl⟩, fun _ _ _ hmem ↦ hmem⟩
    rw [hheld]
    exact iff_of_false nofun hforeign
  | sentDownMessage msg =>
    have hheld := hguard.1 rfl
    rw [show after = before.subscribed msg from hanswer]
    refine ⟨⟨Iff.rfl, fun hholds ↦ absurd (hheld.symm.trans hholds) hforeign⟩, ?_⟩
    exact fun _ _ _ hmem ↦ List.mem_cons_of_mem _ hmem
  | deleteProducer key =>
    have hheld := hguard.1 rfl
    rw [show after = before.unsubscribed thread key from hanswer]
    refine ⟨⟨Iff.rfl, fun hholds ↦ absurd (hheld.symm.trans hholds) hforeign⟩, ?_⟩
    rintro id msg rfl hmem
    exact List.mem_filter.mpr ⟨hmem, decide_eq_true hother⟩
  | newMessage =>
    rw [hanswer.1]
    exact .refl other before
  | insertKey | send | beforeTimeout | hasProducer =>
    obtain ⟨-, rfl⟩ := hanswer
    exact undisturbed_of_same rfl rfl rfl
  | deleteKey | remote =>
    cases hanswer
    exact undisturbed_of_same rfl rfl rfl

theorem Moves.undisturbed (hmove : Moves before after) : Undisturbed thread before after := by
  cases hmove <;> exact undisturbed_of_same rfl rfl rfl

/-- The channel, the consumer and the clock touch no listener. -/
theorem Moves.subscribed (h : Subscribed before) (hmove : Moves before after) : Subscribed after := by
  cases hmove with
  | receive msg rest hchannel => exact h.of_same rfl rfl (Nat.le_succ _)
  | elapse later hlater => exact h.of_same rfl rfl le_rfl

end Steps

/-! ## Contracts -/

/-- A goroutine takes no step without its guard and does not disturb the others. -/
def contract (thread : Thread) : Contract loop World where
  answers := Answers thread
  inv := Subscribed
  rely := Undisturbed thread
  guarantee before after := ∀ other, thread ≠ other → Undisturbed other before after
  guard := Guard thread
  rely_refl := .refl thread
  rely_trans := .trans

variable {request : LoopCall}

section Contracts

variable {thread : Thread} {world : World}

theorem step_safe {post : request.Reply → World → Prop}
    (hguard : ∀ before, Undisturbed thread world before → Guard thread request before)
    (hpost : ∀ before reply after, Undisturbed thread world before →
      Answers thread request before reply after → post reply after) :
    (contract thread).meaning.wp (step request) post world := by
  intro before hbefore hinv reply after hanswer
  have hpasses := hguard before hbefore
  exact ⟨hpasses, Answers.subscribed hinv hpasses hanswer,
    fun other hother ↦ Answers.undisturbed hother hpasses hanswer, hpost before reply after hbefore hanswer⟩

/-- What a goroutine knows while it neither takes nor releases the mutex, nor changes the subscriptions.  It suffices
for the guards of its operations on the queue and of its remote calls. -/
structure Lasting (thread : Thread) (P : World → Prop) : Prop where
  stable : ∀ {before after}, Undisturbed thread before after → P before → P after
  own : ∀ before after : World, after.mutex = before.mutex → after.listeners = before.listeners → P before → P after
  ready : ∀ {world}, P world → thread.locks = true → world.mutex = some thread

variable {P : World → Prop}

/-- The operations on the queue that add a message, and remote calls. -/
def LoopCall.plain : LoopCall → Bool
  | .newMessage .. | .insertKey _ | .send _ | .remote _ => true
  | _ => false

theorem Lasting.guard (hP : Lasting thread P) (hplain : request.plain = true) (h : P world) :
    Guard thread request world := by
  cases request with
  | newMessage => exact ⟨nofun, trivial⟩
  | insertKey | send | remote => exact ⟨hP.ready h, trivial⟩
  | _ => cases hplain

theorem Lasting.step (hP : Lasting thread P) (hplain : request.plain = true) (h : P world) :
    (contract thread).meaning.wp (Loop.step request) (fun _ ↦ P) world := by
  apply step_safe
  · exact fun before hbefore ↦ hP.guard hplain (hP.stable hbefore h)
  · intro before reply after hbefore hanswer
    have hkept : P before := hP.stable hbefore h
    cases request with
    | newMessage => exact hP.own before after (by rw [hanswer.1]) (by rw [hanswer.1]) hkept
    | insertKey | send => exact hP.own before after (by rw [hanswer.2]) (by rw [hanswer.2]) hkept
    | remote =>
      cases hanswer
      exact hkept
    | _ => cases hplain

theorem Lasting.addMessage (hP : Lasting thread P) (ip port : String) (key : NamespacedName) (partition : ℤ)
    (h : P world) : (contract thread).meaning.wp (implement (.addMessage ip port key partition)) (fun _ ↦ P) world := by
  let M := (contract thread).meaning
  apply (M.wp_bind (Loop.step (.newMessage ip port key partition)) add _ _).mpr
  apply M.wp_mono (hP.step rfl h)
  intro msg later hlater
  unfold add
  rw [Program.bind_eq]
  apply (M.wp_bind ..).mpr
  apply M.wp_mono (hP.step rfl hlater)
  intro new final hfinal
  cases new with
  | true => exact hP.step rfl hfinal
  | false => exact hfinal

theorem Lasting.implement (hP : Lasting thread P) {request : Call}
    (hkind : OfKind (.updateKVRocks :: quietKinds) request) (h : P world) :
    (contract thread).meaning.wp (Loop.implement request) (fun _ ↦ P) world := by
  cases request with
  | addMessage ip port key partition => exact hP.addMessage ip port key partition h
  | lock | unlock | resendMessage | deleteKey | beforeTimeout => simp [OfKind, quietKinds, Call.kind] at hkind
  | _ => exact hP.step rfl h

/-- A function of the rest of the operator. -/
theorem Lasting.translate {α : Type} (hP : Lasting thread P) {function : Go α}
    (hmakes : Makes (.updateKVRocks :: quietKinds) function) (h : P world) :
    (function.translate Loop.implement).Ends (contract thread).meaning P P (fun _ ↦ P) world := by
  have himplement : ∀ request, OfKind (.updateKVRocks :: quietKinds) request → ∀ world, P world →
      (contract thread).meaning.wp (Loop.implement request) (fun _ ↦ P) world :=
    fun request hkind world hworld ↦ hP.implement hkind hworld
  apply (contract thread).meaning.wp_mono ((contract thread).meaning.wp_translate himplement hmakes h)
  intro outcome final hfinal
  cases outcome <;> exact hfinal.2

/-- A goroutine that needs no mutex for its remote calls. -/
theorem lasting_true (hthread : thread.locks = false) : Lasting thread fun _ ↦ True where
  stable _ _ := trivial
  own _ _ _ _ _ := trivial
  ready _ hlocks := absurd hlocks (by rw [hthread]; nofun)

/-- The holder of the mutex. -/
theorem lasting_holder : Lasting thread fun world ↦ world.mutex = some thread where
  stable hundisturbed hholds := hundisturbed.held hholds
  own _ _ hmutex _ hholds := hmutex.trans hholds
  ready hholds _ := hholds

/-- A listener is known as one. -/
def Listens (id : ℕ) (msg : ProduceMessage) (world : World) : Prop := (id, msg) ∈ world.listeners

/-- A listener that holds the mutex. -/
theorem lasting_listener (id : ℕ) (msg : ProduceMessage) :
    Lasting (.listener id) fun world ↦ world.mutex = some (.listener id) ∧ Listens id msg world where
  stable hundisturbed h := ⟨hundisturbed.held h.1, hundisturbed.listens id msg rfl h.2⟩
  own _ _ hmutex hlisteners h := ⟨hmutex.trans h.1, by rw [Listens, hlisteners]; exact h.2⟩
  ready h _ := h.1

/-- What a goroutine knows across a lock: what it knows before, now as the holder. -/
theorem lock_safe {Q : World → Prop}
    (htake : ∀ before, Undisturbed thread world before → Q { before with mutex := some thread }) :
    (contract thread).meaning.wp (step .lock) (fun _ ↦ Q) world := by
  apply step_safe
  · exact fun before _ ↦ ⟨nofun, trivial⟩
  · intro before reply after hbefore hanswer
    rw [hanswer.2]
    exact htake before hbefore

theorem unlock_safe {Q : World → Prop} (hP : Lasting thread P) (hholds : ∀ {world}, P world → world.mutex = some thread)
    (hrelease : ∀ before, P before → Q (before.released thread)) (h : P world) :
    (contract thread).meaning.wp (step .unlock) (fun _ ↦ Q) world := by
  apply step_safe
  · exact fun before hbefore ↦ ⟨fun _ ↦ hholds (hP.stable hbefore h), trivial⟩
  · intro before reply after hbefore hanswer
    rw [show after = before.released thread from hanswer]
    exact hrelease before (hP.stable hbefore h)

theorem holder_lock_safe : (contract thread).meaning.wp (step .lock) (fun _ final ↦ final.mutex = some thread) world :=
  lock_safe fun _ _ ↦ rfl

theorem listener_lock_safe (h : Listens id msg world) : (contract (.listener id)).meaning.wp (step .lock)
      (fun _ final ↦ final.mutex = some (.listener id) ∧ Listens id msg final) world :=
  lock_safe fun _ hbefore ↦ ⟨rfl, hbefore.listens id msg rfl h⟩

theorem holder_unlock_safe (h : world.mutex = some thread) :
    (contract thread).meaning.wp (step .unlock) (fun _ _ ↦ True) world :=
  unlock_safe lasting_holder id (fun _ _ ↦ trivial) h

end Contracts

/-! ## The goroutines -/

section Programs

variable {world : World}

/-- A function that is safe from any world on. -/
def Safe {α : Type} (thread : Thread) (function : LoopGo α) : Prop :=
  ∀ world, function.Ends (contract thread).meaning (fun _ ↦ True) (fun _ ↦ True) (fun _ _ ↦ True) world

/-- Safe functions compose. -/
theorem Safe.bind {α β : Type} {first : LoopGo α} {next : α → LoopGo β} (hfirst : Safe thread first)
    (hnext : ∀ value, Safe thread (next value)) : Safe thread (first >>= next) :=
  fun world ↦ (hfirst world).bind fun value later _ ↦ hnext value later

theorem Safe.forEach {α : Type} {body : α → LoopGo Unit} (hbody : ∀ item, Safe thread (body item)) (items : List α) :
    Safe thread (Interaction.forEach body items) :=
  fun _ ↦ ends_forEach_const (fun _ ↦ True) trivial fun item _ world _ ↦ hbody item world

/-- The look-up and the insertion happen under one lock. -/
theorem producePod_safe (index : ℕ) (password systemId : String) (pod : Pod) :
    Safe (.producer index) (producePod password systemId pod) := by
  intro world
  unfold producePod
  apply Fallible.ends_lift_bind
  apply (contract (.producer index)).meaning.wp_mono holder_lock_safe
  intro _ locked hlocked
  apply Fallible.ends_lift_bind
  apply step_safe
  · exact fun before hbefore ↦ ⟨fun _ ↦ hbefore.held hlocked, trivial⟩
  intro before found after hbefore hanswer
  obtain ⟨hfound, rfl⟩ := hanswer
  have hheld : after.mutex = some (.producer index) := hbefore.held hlocked
  cases found with
  | true => exact ends_lift (holder_unlock_safe hheld)
  | false =>
    have hnew : podKey pod ∉ after.producerSentinels := of_decide_eq_false hfound.symm
    apply Fallible.ends_lift_bind
    apply step_safe
    · intro later hlater
      refine ⟨fun _ ↦ hlater.held hheld, ?_⟩
      rw [Proper, hlater.respects.2 hheld]
      exact hnew
    · intro later _ final hlater hsubscribed
      apply ends_lift
      apply holder_unlock_safe
      rw [show final = later.subscribed _ from hsubscribed]
      exact hlater.held hheld

theorem translate_safe {α : Type} {function : Go α} (hthread : thread.locks = false)
    (hmakes : Makes (.updateKVRocks :: quietKinds) function) : Safe thread (function.translate implement) :=
  fun _ ↦ (lasting_true hthread).translate hmakes trivial

/-- A cron run subscribes under the mutex. -/
theorem producer_safe (index : ℕ) : Safe (.producer index) producer := by
  apply (translate_safe rfl (makes_api (all_ask (by decide)))).bind
  intro sentinels
  apply Safe.forEach
  intro sentinel
  unfold produceSentinel
  split
  · exact fun _ ↦ ends_pure trivial
  · have hname : Safe (.producer index) (Fallible.ofOption (systemId sentinel.name)) :=
      fun _ ↦ yields_ofOption (fun _ _ ↦ trivial) fun _ ↦ trivial
    apply hname.bind
    intro systemId
    apply (translate_safe rfl ((K8s.listDeploymentPods_makes _).mono (by decide))).bind
    intro pods
    exact Safe.forEach (producePod_safe index sentinel.spec.password systemId) pods

theorem listenMessage_safe (payload : String) (h : Listens id msg world) :
    ((listenMessage msg.systemId msg.key payload).translate implement).Ends (contract (.listener id)).meaning
      (fun _ ↦ True) (fun _ ↦ True) (fun _ ↦ Listens id msg) world := by
  unfold listenMessage
  rw [Fallible.translate_bind]
  have hdecode : ((Fallible.ofOption (decode msg.systemId msg.key payload) : Go Decoded).translate implement).Ends
      (contract (.listener id)).meaning (fun _ ↦ True) (fun _ ↦ True) (fun _ ↦ Listens id msg) world := by
    cases decode msg.systemId msg.key payload with
    | none => exact ends_panic trivial
    | some decoded => exact ends_pure h
  apply hdecode.bind
  intro decoded later hlater
  cases decoded with
  | skip => exact ends_pure hlater
  | add ip port key partition =>
    simp only [Fallible.translate_bind]
    have hlasting := lasting_listener id msg
    apply Fallible.ends_lift_bind
    apply (contract (.listener id)).meaning.wp_mono (listener_lock_safe hlater)
    intro _ locked hlocked
    apply Fallible.ends_lift_bind
    apply (contract (.listener id)).meaning.wp_mono (hlasting.addMessage ip port key partition hlocked)
    intro _ added hadded
    apply ends_lift
    exact unlock_safe hlasting (fun h ↦ h.1) (fun before hbefore ↦ hbefore.2) hadded

/-- A listener until it ends. -/
theorem listen_safe (payloads : List String) (h : Listens id msg world) :
    (listen msg payloads).Ends (contract (.listener id)).meaning (fun _ ↦ True) (fun _ ↦ True) (fun _ _ ↦ True)
      world := by
  unfold listen
  apply Fallible.Ends.bind (ends_forEach_const (Listens id msg) h
    fun payload _ later hlater ↦ listenMessage_safe payload hlater)
  intro _ later hlater
  apply Fallible.ends_lift_bind
  apply (contract (.listener id)).meaning.wp_mono (listener_lock_safe hlater)
  intro _ locked hlocked
  have hlasting := lasting_listener id msg
  apply Fallible.ends_lift_bind
  apply step_safe
  · intro before hbefore
    obtain ⟨hheld, hlistens⟩ := hlasting.stable hbefore hlocked
    exact ⟨fun _ ↦ hheld, id, msg, rfl, hlistens, rfl⟩
  · intro before _ after hbefore hanswer
    apply ends_lift
    apply holder_unlock_safe
    rw [show after = before.unsubscribed (.listener id) msg.key from hanswer]
    exact (hlasting.stable hbefore hlocked).1

/-- The key of the message is deleted under the mutex, which is then released. -/
theorem forget_safe (ip : String) (outcome : Outcome GoError Unit) (h : world.mutex = some thread) :
    (contract thread).meaning.wp
      ((step (.deleteKey ip)).bind fun _ ↦ (step .unlock).bind fun _ ↦ .done outcome) (fun _ _ ↦ True) world := by
  apply ((contract thread).meaning.wp_bind ..).mpr
  apply step_safe
  · exact fun before hbefore ↦ ⟨fun _ ↦ hbefore.held h, trivial⟩
  · intro before _ after hbefore hanswer
    have hheld : after.mutex = some thread := by
      rw [show after = { before with keys := before.keys.erase ip } from hanswer]
      exact hbefore.held h
    apply ((contract thread).meaning.wp_bind ..).mpr
    exact (contract thread).meaning.wp_mono (holder_unlock_safe hheld) fun _ _ _ ↦ trivial

/-- The deferred functions give the mutex back. -/
theorem settle_safe (msg : EventMessage) (outcome : Outcome GoError Unit) (h : world.mutex = some thread) :
    (contract thread).meaning.wp ((settle msg outcome).translate implement) (fun _ _ ↦ True) world := by
  cases outcome with
  | err error =>
    let later (inTime : Bool) : Program loop (Outcome GoError Unit) :=
      if inTime then (step (.send msg)).bind fun _ ↦ (step .unlock).bind fun _ ↦ .done (.ok ())
      else (step (.deleteKey msg.ip)).bind fun _ ↦ (step .unlock).bind fun _ ↦ .done (.ok ())
    have hsettle : (settle msg (.err error)).translate implement = (step (.beforeTimeout msg)).bind later := by
      apply congrArg (Program.call (I := loop) (.beforeTimeout msg))
      funext inTime
      cases inTime <;> rfl
    rw [hsettle]
    apply ((contract thread).meaning.wp_bind ..).mpr
    apply step_safe
    · exact fun before _ ↦ ⟨nofun, trivial⟩
    · intro before inTime after hbefore hanswer
      have hheld : after.mutex = some thread := by
        rw [hanswer.2]
        exact hbefore.held h
      cases inTime with
      | false => exact forget_safe msg.ip (.ok ()) hheld
      | true =>
        apply ((contract thread).meaning.wp_bind (step (.send msg)) _ _ _).mpr
        apply (contract thread).meaning.wp_mono (lasting_holder.step rfl hheld)
        intro _ sent hsent
        apply ((contract thread).meaning.wp_bind ..).mpr
        exact (contract thread).meaning.wp_mono (holder_unlock_safe hsent) fun _ _ _ ↦ trivial
  | ok value => exact forget_safe msg.ip (.ok value) h
  | panic => exact forget_safe msg.ip .panic h

/-- A handler holds the mutex to its end. -/
theorem handleFailover_safe (client : Controller.Client) (msg : EventMessage) :
    (contract thread).meaning.wp ((handleFailover client msg).translate implement).program (fun _ _ ↦ True) world := by
  let M := (contract thread).meaning
  apply (M.wp_bind (step .lock)
    (fun _ ↦ ((failoverBody client msg).program.bind (settle msg)).translate implement) _ _).mpr
  apply M.wp_mono holder_lock_safe
  intro _ locked hlocked
  rw [Program.translate_bind]
  apply (M.wp_bind ..).mpr
  apply M.wp_mono (lasting_holder.translate (failoverBody_makes client msg) hlocked)
  intro outcome final hfinal
  have hheld : final.mutex = some thread := by cases outcome <;> exact hfinal
  exact settle_safe msg outcome hheld

/-- A function whose result is forgotten. -/
theorem run_safe {function : LoopGo Unit} (h : (contract thread).meaning.wp function.program (fun _ _ ↦ True) world) :
    (contract thread).Safe (run function) (fun _ _ ↦ True) world := by
  apply ((contract thread).meaning.wp_bind function.program (fun _ ↦ .done ()) _ _).mpr
  exact (contract thread).meaning.wp_mono h fun _ _ _ ↦ trivial

/-- Every goroutine keeps its contract. -/
theorem system_certified : system.Certified Subscribed contract where
  answers_eq _ := rfl
  inv_eq _ := rfl
  rely_of_guarantee thread other hother before after hguarantee := hguarantee other hother
  move before after hinv hmove := ⟨hmove.subscribed hinv, fun _ ↦ hmove.undisturbed⟩
  start := by
    intro thread world program hinv hstart
    cases hstart with
    | reconcile index _ key =>
      apply run_safe
      have hpass : Safe (.reconciler index)
          ((Controllers.reconcile (Controllers.handlerOf key) key).translate implement >>= fun _ ↦ pure ()) := by
        apply (translate_safe rfl (Controllers.reconcile_makes key)).bind
        exact fun _ _ ↦ ends_pure trivial
      exact (contract _).meaning.wp_mono (hpass world) fun _ _ _ ↦ trivial
    | produce index _ =>
      apply run_safe
      exact (contract _).meaning.wp_mono (producer_safe index world) fun _ _ _ ↦ trivial
    | listen id _ msg payloads hlistener =>
      apply run_safe
      exact (contract _).meaning.wp_mono (listen_safe payloads hlistener) fun _ _ _ ↦ trivial
    | handleFailover id _ client msg hhandler => exact run_safe (handleFailover_safe client msg)

/-- However the goroutines are interleaved, and wherever some of them die, the keys of `producerSentinels` are the
pods that are listened to, and each of them has one listener. -/
theorem one_listener_per_pod {start : World} (hstart : Subscribed start) {config : System.Config loop Thread World}
    (hreach : system.Reaches (System.initial start) config) :
    (config.world.listeners.map (·.2.key)).Nodup ∧
      config.world.producerSentinels = (config.world.listeners.map (·.2.key)).toFinset := by
  have hinv := (System.reaches_sound system_certified hstart hreach).inv
  refine ⟨hinv.pods, ?_⟩
  ext key
  rw [hinv.keys key, List.mem_toFinset]

section Runs

/-- A running sentinel. -/
def demoSentinel : KVRocks :=
  let created := KVRocks.created ⟨"default", "sentinel-1"⟩
    { image := "kvrocks:2.0", type := .sentinel, kvrocksConfig := [], replicas := 1, master := 1,
      password := "secret", resources := true }
  { created with status := { created.status with status := .running } }

/-- Its only pod. -/
def demoPod : Pod :=
  { ns := "default", name := "sentinel-1-0", ip := "10.0.0.9", labels := [], deletionTimestamp := false }

/-- Two runs of the cron job, both of which find the pod. -/
def twoRuns : System.Player loop Thread World where
  program _ := run producer
  startable thread _ := thread = .producer 0 ∨ thread = .producer 1
  serve thread
    | .lock, world => if world.mutex = none then some ((), { world with mutex := some thread }) else none
    | .unlock, world => some ((), world.released thread)
    | .hasProducer key, world => some (decide (key ∈ world.producerSentinels), world)
    | .sentDownMessage msg, world => some ((), world.subscribed msg)
    | .remote (.listKVRocks _ _), world => some (.ok [demoSentinel], world)
    | .remote (.getWorkload _ _), world => some (.ok { matchLabels := [], replicas := 1, readyReplicas := 1 }, world)
    | .remote (.listPods _ _), world => some (.ok [demoPod], world)
    | _, _ => none

theorem twoRuns_plays : twoRuns.Plays system where
  start := by
    intro thread world hstart
    rcases of_decide_eq_true hstart with rfl | rfl
    · exact .produce 0 world
    · exact .produce 1 world
  serve := by
    intro thread request world answer hserve
    simp only [twoRuns] at hserve
    split at hserve
    · split at hserve
      · rename_i hfree
        cases hserve
        exact ⟨hfree, rfl⟩
      · cases hserve
    · cases hserve
      rfl
    · cases hserve
      exact ⟨rfl, rfl⟩
    · cases hserve
      rfl
    · cases hserve
      rfl
    · cases hserve
      rfl
    · cases hserve
      rfl
    · cases hserve

/-- The second run waits while the first one subscribes, and then finds the pod among `producerSentinels`. -/
def twoRunsSchedule : List (System.Action Thread) :=
  .start (.producer 0) :: .start (.producer 1) :: List.replicate 4 (.answer (.producer 0)) ++
    List.replicate 3 (.answer (.producer 1)) ++ List.replicate 3 (.answer (.producer 0)) ++
    List.replicate 3 (.answer (.producer 1))

/-- Two cron runs overlap, and the pod gets one listener. -/
theorem one_listener_per_pod_twoRuns : ∃ config, system.Reaches (System.initial (World.empty 0)) config ∧
      config.world.listeners.map (·.2.key) = ["default/sentinel-1-0"] ∧
      config.world.producerSentinels = (config.world.listeners.map (·.2.key)).toFinset := by
  have hplay : (twoRuns.play twoRunsSchedule (System.initial (World.empty 0))).map
      (·.world.listeners.map (·.2.key)) = some ["default/sentinel-1-0"] := by decide
  obtain ⟨config, hconfig, hlisteners⟩ := Option.map_eq_some_iff.mp hplay
  have hreach := System.Player.play_reaches twoRuns_plays hconfig
  exact ⟨config, hreach, hlisteners, (one_listener_per_pod (empty_subscribed 0) hreach).2⟩

end Runs

/-- A step that needs the mutex is only taken by its holder. -/
theorem mutex_guards {start : World} (hstart : Subscribed start) {config : System.Config loop Thread World}
    (hreach : system.Reaches (System.initial start) config) {resume : request.Reply → Program loop Unit}
    (hnext : config.running thread = some (.call request resume)) {reply : request.Reply} {after : World}
    (hanswer : Answers thread request config.world reply after) (hneeds : thread.needsMutex request = true) :
    config.world.mutex = some thread :=
  (System.reaches_guard system_certified hstart hreach hnext hanswer).1 hneeds

/-- However the goroutines are interleaved, a handler that is about to call the API server, the controller or a
sentinel holds the mutex, and no other handler is. -/
theorem handlers_exclude_each_other {start : World} (hstart : Subscribed start)
    {config : System.Config loop Thread World} (hreach : system.Reaches (System.initial start) config) {id : ℕ}
    {request : Call} {resume : request.Reply → Program loop Unit}
    (hnext : config.running (.handler id) = some (.call (.remote request) resume)) :
    config.world.mutex = some (.handler id) ∧ ∀ other (request' : Call) (resume' : request'.Reply → Program loop Unit),
        config.running (.handler other) = some (.call (.remote request') resume') → other = id := by
  have hheld (other : ℕ) (request' : Call) (resume' : request'.Reply → Program loop Unit)
      (hrunning : config.running (.handler other) = some (.call (.remote request') resume')) :
      config.world.mutex = some (.handler other) := by
    have hanswer : Answers (.handler other) (.remote request') config.world request'.failure config.world := rfl
    exact mutex_guards hstart hreach hrunning hanswer rfl
  have hown := hheld id request resume hnext
  refine ⟨hown, ?_⟩
  intro other request' resume' hrunning
  exact Thread.handler.inj (Option.some.inj ((hheld other request' resume' hrunning).symm.trans hown))

theorem twoHandlers_subscribed : Subscribed twoHandlers := (empty_subscribed 0).of_same rfl rfl (Nat.zero_le 2)

/-- The goroutine that has taken the mutex is about to read the instance, and the other one is not. -/
theorem handlers_exclude_each_other_contended :
    ∃ request : Call, (∃ resume, contended.running (.handler 0) = some (.call (.remote request) resume)) ∧
      ∀ resume, contended.running (.handler 1) ≠ some (.call (.remote request) resume) := by
  obtain ⟨resume, hnext⟩ : ∃ resume, contended.running (.handler 0) =
      some (.call (.remote (.getKVRocks (demoMessage 0).key)) resume) := ⟨_, rfl⟩
  refine ⟨_, ⟨resume, hnext⟩, fun resume' hother ↦ ?_⟩
  have hexclude := (handlers_exclude_each_other twoHandlers_subscribed runs_contended.reaches hnext).2 1
    (.getKVRocks (demoMessage 0).key) resume' hother
  exact absurd hexclude Nat.one_ne_zero

end Programs

end KvrocksOperator.Events.Loop
