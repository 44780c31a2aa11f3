import KvrocksOperator.Events.Subscriptions

/-!
# What one run of the cron job achieves

A run of `producer` goes through the sentinels in the order of the list.  A sentinel that is not running is skipped.
Before the pods of a running one are listed, its system id is cut out of its name, which panics for a name without a
dash; an error of the list ends the run.  So a run that is not disturbed subscribes to the pods of the running
sentinels that come before the first one it fails at, and to nothing else (`producer_watches`).
-/

namespace KvrocksOperator.Events.Loop

open Interaction

/-! ## A run without interference -/

/-- What the API server answers while the run lasts. -/
structure Listing where
  sentinels : List KVRocks
  deployment : NamespacedName → ApiResult Workload
  pods : String → StringMap → ApiResult (List Pod)

/-- Nobody else takes a step. -/
def Alone (listing : Listing) (index : ℕ) : Program.Answers loop World
  | .remote (.listKVRocks _ _), before, reply, after => reply = .ok listing.sentinels ∧ after = before
  | .remote (.getWorkload _ key), before, reply, after => reply = listing.deployment key ∧ after = before
  | .remote (.listPods ns labels), before, reply, after => reply = listing.pods ns labels ∧ after = before
  | request, before, reply, after => Answers (.producer index) request before reply after

namespace Listing

variable (listing : Listing)

/-- `ListDeploymentPods` -/
def podsOf (sentinel : KVRocks) : ApiResult (List Pod) :=
  match listing.deployment sentinel.key with
  | .ok deployment => listing.pods sentinel.ns deployment.matchLabels
  | .error error => .error error

/-- The run gets past the sentinel. -/
def Passes (sentinel : KVRocks) : Prop :=
  sentinel.status.status = .running → (systemId sentinel.name).isSome ∧ ∃ pods, listing.podsOf sentinel = .ok pods

/-- The run asks for a subscription: to a pod of a running sentinel that it gets to and past. -/
def Asks (msg : ProduceMessage) : Prop :=
  ∃ front sentinel back pods, listing.sentinels = front ++ sentinel :: back ∧
    (∀ earlier ∈ front, listing.Passes earlier) ∧ sentinel.status.status = .running ∧
    systemId sentinel.name = some msg.systemId ∧ listing.podsOf sentinel = .ok pods ∧
    ∃ pod ∈ pods, msg =
      { ip := pod.ip, password := sentinel.spec.password, key := podKey pod, systemId := msg.systemId }

/-- How the visit of a sentinel ends, and the subscriptions that it asks for. -/
def visit (sentinel : KVRocks) : Outcome GoError Unit × List ProduceMessage :=
  if sentinel.status.status ≠ .running then (.ok (), [])
  else
    match systemId sentinel.name, listing.podsOf sentinel with
    | none, _ => (.panic, [])
    | some _, .error error => (.err (.api error), [])
    | some systemId, .ok pods =>
      (.ok (), pods.map fun pod ↦
        { ip := pod.ip, password := sentinel.spec.password, key := podKey pod, systemId := systemId })

/-- The same for a whole run. -/
def plan : List KVRocks → Outcome GoError Unit × List ProduceMessage
  | [] => (.ok (), [])
  | sentinel :: sentinels =>
    if (listing.visit sentinel).1 = .ok () then
      ((plan sentinels).1, (listing.visit sentinel).2 ++ (plan sentinels).2)
    else listing.visit sentinel

end Listing

/-- Subscribe to a pod that is not among `producerSentinels`. -/
def World.watch (world : World) (msg : ProduceMessage) : World :=
  if msg.key ∈ world.producerSentinels then world else world.subscribed msg

/-- The same for several pods, one after the other. -/
def World.watchAll (world : World) (messages : List ProduceMessage) : World := messages.foldl World.watch world

section Watch

variable {world : World} {msg : ProduceMessage} {messages : List ProduceMessage}

/-- What a new subscription keeps. -/
theorem watchAll_keeps (inv : World → Prop)
    (hnew : ∀ world, ∀ msg ∈ messages, msg.key ∉ world.producerSentinels → inv world → inv (world.subscribed msg))
    (h : inv world) : inv (world.watchAll messages) := by
  induction messages generalizing world with
  | nil => exact h
  | cons msg messages ih =>
    apply ih fun world later hlater ↦ hnew world later (List.mem_cons_of_mem msg hlater)
    unfold World.watch
    split
    · exact h
    · rename_i hkey
      exact hnew world msg List.mem_cons_self hkey h

theorem watchAll_mutex : (world.watchAll messages).mutex = world.mutex :=
  watchAll_keeps (·.mutex = world.mutex) (fun _ _ _ _ hsame ↦ hsame) rfl

theorem mem_producerSentinels_watch {key : String} :
    key ∈ (world.watch msg).producerSentinels ↔ key = msg.key ∨ key ∈ world.producerSentinels := by
  unfold World.watch
  split
  · rename_i hknown
    constructor
    · exact fun hkey ↦ .inr hkey
    · rintro (rfl | hkey)
      · exact hknown
      · exact hkey
  · exact Finset.mem_insert

theorem mem_producerSentinels_watchAll {key : String} :
    key ∈ (world.watchAll messages).producerSentinels ↔ key ∈ world.producerSentinels ∨ key ∈ messages.map (·.key) := by
  induction messages generalizing world with
  | nil => simp [World.watchAll]
  | cons msg messages ih =>
    calc key ∈ ((world.watch msg).watchAll messages).producerSentinels
      _ ↔ key ∈ (world.watch msg).producerSentinels ∨ key ∈ messages.map (·.key) := ih
      _ ↔ (key = msg.key ∨ key ∈ world.producerSentinels) ∨ key ∈ messages.map (·.key) := by
        rw [mem_producerSentinels_watch]
      _ ↔ key ∈ world.producerSentinels ∨ key ∈ (msg :: messages).map (·.key) := by
        rw [List.map_cons, List.mem_cons, or_comm (a := key = msg.key), or_assoc]

/-- A listener is an old one or has been asked for. -/
theorem mem_listeners_watchAll :
    ∀ listener ∈ (world.watchAll messages).listeners, listener ∈ world.listeners ∨ listener.2 ∈ messages :=
  watchAll_keeps (fun current ↦ ∀ listener ∈ current.listeners, listener ∈ world.listeners ∨ listener.2 ∈ messages)
    (fun _ _ hmsg _ hold ↦ List.forall_mem_cons.mpr ⟨.inr hmsg, hold⟩) fun _ hold ↦ .inl hold

theorem listeners_subset_watchAll : world.listeners ⊆ (world.watchAll messages).listeners :=
  watchAll_keeps (world.listeners ⊆ ·.listeners) (fun _ _ _ _ hsubset ↦ List.subset_cons_of_subset _ hsubset)
    (List.Subset.refl _)

theorem Subscribed.watchAll (h : Subscribed world) : Subscribed (world.watchAll messages) :=
  watchAll_keeps Subscribed (fun _ _ _ hkey hsubscribed ↦ hsubscribed.subscribed hkey) h

end Watch

/-! ## The run step by step -/

section Run

variable (listing : Listing) (index : ℕ) {world : World}

/-- A goroutine that is no handler leaves the handlers alone when it releases the mutex. -/
theorem released_producer (world : World) : world.released (.producer index) = { world with mutex := none } := by
  simp [World.released]

theorem producePod_exactly (password systemId : String) (pod : Pod) (hfree : world.mutex = none) :
    (producePod password systemId pod).Exactly (Alone listing index) world (.ok ()) (world.watch
      { ip := pod.ip, password := password, key := podKey pod, systemId := systemId }) := by
  let msg : ProduceMessage := { ip := pod.ip, password := password, key := podKey pod, systemId := systemId }
  let locked : World := { world with mutex := some (.producer index) }
  have hlock : (step .lock).Exactly (Alone listing index) world () locked := by
    apply exactly_perform
    exact fun _ _ ↦ ⟨fun h ↦ ⟨rfl, h.2⟩, fun h ↦ ⟨hfree, h.2⟩⟩
  have hlookup : (step (.hasProducer (podKey pod))).Exactly (Alone listing index) locked
      (decide (podKey pod ∈ world.producerSentinels)) locked :=
    exactly_perform fun _ _ ↦ Iff.rfl
  have hunlock (world : World) (hfree : world.mutex = none) :
      (step .unlock).Exactly (Alone listing index) { world with mutex := some (.producer index) } () world := by
    apply exactly_perform
    intro _ last
    have hreleased : World.released (.producer index) { world with mutex := some (.producer index) } = world := by
      rw [released_producer index, ← hfree]
    constructor
    · exact fun h ↦ ⟨rfl, h.trans hreleased⟩
    · exact fun h ↦ h.2.trans hreleased.symm
  have hsubscribe : (step (.sentDownMessage msg)).Exactly (Alone listing index) locked () (locked.subscribed msg) :=
    exactly_perform fun _ _ ↦ ⟨fun h ↦ ⟨rfl, h⟩, fun h ↦ h.2⟩
  apply (exactly_lift hlock).bind
  apply (exactly_lift hlookup).bind
  unfold World.watch
  by_cases hknown : podKey pod ∈ world.producerSentinels
  · rw [if_pos hknown, decide_eq_true hknown]
    exact exactly_lift (hunlock world hfree)
  · rw [if_neg hknown, decide_eq_false hknown]
    apply (exactly_lift hsubscribe).bind
    exact exactly_lift (hunlock (world.subscribed msg) hfree)

theorem producePods_exactly (password systemId : String) (pods : List Pod) (hfree : world.mutex = none) :
    (forEach (producePod password systemId) pods).Exactly (Alone listing index) world (.ok ())
      (world.watchAll (pods.map fun pod ↦
        { ip := pod.ip, password := password, key := podKey pod, systemId := systemId })) := by
  induction pods generalizing world with
  | nil => exact exactly_pure ()
  | cons pod pods ih =>
    apply (producePod_exactly listing index password systemId pod hfree).bind
    exact ih (@watchAll_mutex world [_] ▸ hfree)

theorem listDeploymentPods_exactly (sentinel : KVRocks) (world : World) :
    ((K8s.listDeploymentPods ⟨sentinel.ns, sentinel.name⟩).translate implement).Exactly (Alone listing index) world
      (Fallible.ofReply .api (listing.podsOf sentinel)) world := by
  have hdeployment : ((K8s.getWorkload .deployment ⟨sentinel.ns, sentinel.name⟩).translate implement).Exactly
      (Alone listing index) world (Fallible.ofReply .api (listing.deployment sentinel.key)) world :=
    exactly_attempt (exactly_perform fun _ _ ↦ Iff.rfl)
  have hpods (labels : StringMap) : ((Go.api (ask (.listPods sentinel.ns labels))).translate implement).Exactly
      (Alone listing index) world (Fallible.ofReply .api (listing.pods sentinel.ns labels)) world :=
    exactly_attempt (exactly_perform fun _ _ ↦ Iff.rfl)
  unfold K8s.listDeploymentPods Listing.podsOf
  rw [Fallible.translate_bind]
  cases hcase : listing.deployment sentinel.key with
  | error error =>
    rw [hcase] at hdeployment
    exact hdeployment.bind_err
  | ok deployment =>
    rw [hcase] at hdeployment
    exact hdeployment.bind (hpods deployment.matchLabels)

/-- The run goes on after a sentinel, or ends there. -/
theorem produceSentinel_exactly (sentinel : KVRocks) (hfree : world.mutex = none) :
    (produceSentinel sentinel).Exactly (Alone listing index) world (listing.visit sentinel).1
      (world.watchAll (listing.visit sentinel).2) := by
  unfold produceSentinel Listing.visit
  by_cases hrunning : sentinel.status.status ≠ .running
  · rw [if_pos hrunning, if_pos hrunning]
    exact exactly_pure ()
  · rw [if_neg hrunning, if_neg hrunning]
    have hlist := listDeploymentPods_exactly listing index sentinel world
    cases systemId sentinel.name with
    | none => exact Fallible.Exactly.bind_panic (exactly_done _ world)
    | some systemId =>
      apply (exactly_pure systemId).bind
      cases hpods : listing.podsOf sentinel with
      | error error =>
        rw [hpods] at hlist
        exact hlist.bind_err
      | ok pods =>
        rw [hpods] at hlist
        exact hlist.bind (producePods_exactly listing index sentinel.spec.password systemId pods hfree)

theorem produceSentinels_exactly (sentinels : List KVRocks) (hfree : world.mutex = none) :
    (forEach produceSentinel sentinels).Exactly (Alone listing index) world (listing.plan sentinels).1
      (world.watchAll (listing.plan sentinels).2) := by
  induction sentinels generalizing world with
  | nil => exact exactly_pure ()
  | cons sentinel sentinels ih =>
    have hvisit := produceSentinel_exactly listing index sentinel hfree
    rw [forEach_cons, Listing.plan]
    cases houtcome : (listing.visit sentinel).1 with
    | ok value =>
      rw [houtcome] at hvisit
      rw [if_pos rfl, World.watchAll, List.foldl_append]
      exact hvisit.bind (ih (watchAll_mutex.trans hfree))
    | err error =>
      rw [if_neg nofun, houtcome]
      rw [houtcome] at hvisit
      exact hvisit.bind_err
    | panic =>
      rw [if_neg nofun, houtcome]
      rw [houtcome] at hvisit
      exact hvisit.bind_panic

theorem producer_exactly (hfree : world.mutex = none) :
    producer.Exactly (Alone listing index) world (listing.plan listing.sentinels).1
      (world.watchAll (listing.plan listing.sentinels).2) := by
  have hlist : ((Go.api (ask (.listKVRocks "" Resources.sentinelLabels))).translate implement).Exactly
      (Alone listing index) world (Fallible.ofReply .api (.ok listing.sentinels)) world :=
    exactly_attempt (exactly_perform fun _ _ ↦ Iff.rfl)
  exact Fallible.Exactly.bind hlist (produceSentinels_exactly listing index listing.sentinels hfree)

end Run

/-! ## What is watched afterwards -/

section Plan

variable {listing : Listing} {sentinels : List KVRocks}

theorem visit_ok_iff {sentinel : KVRocks} : (listing.visit sentinel).1 = .ok () ↔ listing.Passes sentinel := by
  unfold Listing.visit Listing.Passes
  by_cases hrunning : sentinel.status.status = .running
  · rw [if_neg (not_not.mpr hrunning)]
    cases systemId sentinel.name with
    | none => simp [hrunning]
    | some systemId =>
      cases listing.podsOf sentinel with
      | error error => simp [hrunning]
      | ok pods => simp
  · rw [if_pos hrunning]
    exact ⟨fun _ h ↦ absurd h hrunning, fun _ ↦ rfl⟩

variable {msg : ProduceMessage}

/-- A visit asks for the pods of a running sentinel. -/
theorem mem_visit_iff {sentinel : KVRocks} : msg ∈ (listing.visit sentinel).2 ↔
      sentinel.status.status = .running ∧ systemId sentinel.name = some msg.systemId ∧
        ∃ pods, listing.podsOf sentinel = .ok pods ∧ ∃ pod ∈ pods,
          msg = { ip := pod.ip, password := sentinel.spec.password, key := podKey pod, systemId := msg.systemId } := by
  unfold Listing.visit
  by_cases hrunning : sentinel.status.status = .running
  · rw [if_neg (not_not.mpr hrunning)]
    cases systemId sentinel.name with
    | none => simp
    | some systemId =>
      cases listing.podsOf sentinel with
      | error error => simp
      | ok pods =>
        simp only [List.mem_map, hrunning, true_and, Option.some.injEq, Except.ok.injEq, exists_eq_left']
        constructor
        · rintro ⟨pod, hpod, rfl⟩
          exact ⟨rfl, pod, hpod, rfl⟩
        · rintro ⟨rfl, pod, hpod, hmsg⟩
          exact ⟨pod, hpod, hmsg.symm⟩
  · rw [if_pos hrunning]
    simp [hrunning]

theorem plan_ok_iff : (listing.plan sentinels).1 = .ok () ↔ ∀ sentinel ∈ sentinels, listing.Passes sentinel := by
  induction sentinels with
  | nil => simp [Listing.plan]
  | cons sentinel sentinels ih =>
    rw [Listing.plan, List.forall_mem_cons, ← visit_ok_iff, ← ih]
    split
    · rename_i hvisit
      simp [hvisit]
    · rename_i hvisit
      simp [hvisit]

/-- The run asks for what the visits ask for, up to the first sentinel that it does not get past. -/
theorem mem_plan_iff : msg ∈ (listing.plan sentinels).2 ↔
      ∃ front sentinel back, sentinels = front ++ sentinel :: back ∧ (∀ earlier ∈ front, listing.Passes earlier) ∧
        msg ∈ (listing.visit sentinel).2 := by
  induction sentinels with
  | nil => simp [Listing.plan]
  | cons sentinel sentinels ih =>
    constructor
    · intro hmsg
      rw [Listing.plan] at hmsg
      split at hmsg
      · rename_i hvisit
        rw [List.mem_append, ih] at hmsg
        rcases hmsg with hmsg | ⟨front, later, back, rfl, hfront, hmsg⟩
        · exact ⟨[], sentinel, sentinels, rfl, List.forall_mem_nil _, hmsg⟩
        · refine ⟨sentinel :: front, later, back, rfl, ?_, hmsg⟩
          exact List.forall_mem_cons.mpr ⟨visit_ok_iff.mp hvisit, hfront⟩
      · exact ⟨[], sentinel, sentinels, rfl, List.forall_mem_nil _, hmsg⟩
    · rintro ⟨front, later, back, hsplit, hfront, hmsg⟩
      cases front with
      | nil =>
        obtain ⟨rfl, rfl⟩ := List.cons.inj hsplit
        rw [Listing.plan]
        split
        · exact List.mem_append_left _ hmsg
        · exact hmsg
      | cons earlier front =>
        obtain ⟨rfl, rfl⟩ := List.cons.inj hsplit
        have hpasses := List.forall_mem_cons.mp hfront
        rw [Listing.plan, if_pos (visit_ok_iff.mpr hpasses.1)]
        exact List.mem_append_right _ (ih.mpr ⟨front, later, back, rfl, hpasses.2, hmsg⟩)

theorem mem_plan_iff_asks : msg ∈ (listing.plan listing.sentinels).2 ↔ listing.Asks msg := by
  rw [mem_plan_iff]
  constructor
  · rintro ⟨front, sentinel, back, hsplit, hfront, hmsg⟩
    obtain ⟨hrunning, hname, pods, hpods, hpod⟩ := mem_visit_iff.mp hmsg
    exact ⟨front, sentinel, back, pods, hsplit, hfront, hrunning, hname, hpods, hpod⟩
  · rintro ⟨front, sentinel, back, pods, hsplit, hfront, hrunning, hname, hpods, hpod⟩
    exact ⟨front, sentinel, back, hsplit, hfront, mem_visit_iff.mpr ⟨hrunning, hname, pods, hpods, hpod⟩⟩

end Plan

/-- A run of the cron job that nobody disturbs has one outcome.  It ends without an error or a panic exactly if it
gets past every sentinel.  It keeps the listeners that it finds, every subscription that it asks for is to a pod that
is listened to afterwards, and a listener that is new is one that it has asked for. -/
theorem producer_watches (listing : Listing) (index : ℕ) {world : World} (hfree : world.mutex = none)
    (hsubscribed : Subscribed world) :
    ∃ outcome final, producer.Exactly (Alone listing index) world outcome final ∧
      (outcome = .ok () ↔ ∀ sentinel ∈ listing.sentinels, listing.Passes sentinel) ∧
      world.listeners ⊆ final.listeners ∧
      (∀ msg, listing.Asks msg → msg.key ∈ final.listeners.map (·.2.key)) ∧
      (∀ listener ∈ final.listeners, listener ∈ world.listeners ∨ listing.Asks listener.2) ∧
      Subscribed final ∧ final.mutex = none := by
  refine ⟨_, _, producer_exactly listing index hfree, plan_ok_iff, listeners_subset_watchAll, ?_, ?_,
    hsubscribed.watchAll, watchAll_mutex.trans hfree⟩
  · intro msg hasks
    rw [← hsubscribed.watchAll.keys msg.key, mem_producerSentinels_watchAll]
    exact .inr (List.mem_map_of_mem (mem_plan_iff_asks.mpr hasks))
  · intro listener hlistener
    exact (mem_listeners_watchAll listener hlistener).imp_right mem_plan_iff_asks.mp

/-- A second sentinel has a name without a dash. -/
def demoListing : Listing where
  sentinels := [demoSentinel, { demoSentinel with name := "sentinel" }]
  deployment _ := .ok { matchLabels := [], replicas := 1, readyReplicas := 1 }
  pods _ _ := .ok [demoPod]

/-- The run subscribes to the pod of the first sentinel and panics at the second one. -/
theorem producer_watches_demo :
    ∃ outcome final, producer.Exactly (Alone demoListing 0) (World.empty 0) outcome final ∧ outcome ≠ .ok () ∧
      "default/sentinel-1-0" ∈ final.listeners.map (·.2.key) := by
  obtain ⟨outcome, final, hrun, hok, -, hasked, -⟩ := producer_watches demoListing 0 rfl (empty_subscribed 0)
  have hasks : demoListing.Asks
      { ip := "10.0.0.9", password := "secret", key := "default/sentinel-1-0", systemId := "1" } :=
    ⟨[], demoSentinel, _, [demoPod], rfl, List.forall_mem_nil _, rfl, by decide, rfl, demoPod,
      List.mem_singleton_self _, rfl⟩
  refine ⟨outcome, final, hrun, fun houtcome ↦ ?_, hasked _ hasks⟩
  have hpasses := hok.mp houtcome { demoSentinel with name := "sentinel" } (List.mem_cons_of_mem _ List.mem_cons_self)
  exact absurd (hpasses rfl).1 (by decide)

end KvrocksOperator.Events.Loop
