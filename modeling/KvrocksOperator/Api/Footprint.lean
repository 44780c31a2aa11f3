import KvrocksOperator.Client.Kvrocks

/-!
# Footprints

Which kinds of calls a function can make, whatever the replies are.  A footprint is a list of kinds, so that one
footprint can be put under another by computation, and a world that leaves something alone under some kinds of calls
leaves it alone under every function with such a footprint.
-/

namespace KvrocksOperator

open Interaction

/-- The constructors of `Call`. -/
inductive CallKind where
  | getKVRocks | updateKVRocks | listKVRocks | createObject | deleteObject | getService | getWorkload
  | createConfigMap | getConfigMap | updateConfigMap | deleteConfigMap | createStatefulSet
  | getStatefulSet | updateStatefulSet | deleteStatefulSet | listStatefulSets | listPods | getPod
  | updatePod | deletePod | listPVC | getPVC | deletePVC | http | node | replication | sentinel | lock
  | unlock | addMessage | resendMessage | deleteKey | beforeTimeout | enter | returned
  deriving DecidableEq

def Call.kind : Call → CallKind
  | .getKVRocks _ => .getKVRocks
  | .updateKVRocks _ => .updateKVRocks
  | .listKVRocks _ _ => .listKVRocks
  | .createObject _ _ => .createObject
  | .deleteObject _ _ => .deleteObject
  | .getService _ => .getService
  | .getWorkload _ _ => .getWorkload
  | .createConfigMap _ => .createConfigMap
  | .getConfigMap _ => .getConfigMap
  | .updateConfigMap _ => .updateConfigMap
  | .deleteConfigMap _ => .deleteConfigMap
  | .createStatefulSet _ => .createStatefulSet
  | .getStatefulSet _ => .getStatefulSet
  | .updateStatefulSet _ => .updateStatefulSet
  | .deleteStatefulSet _ => .deleteStatefulSet
  | .listStatefulSets _ _ => .listStatefulSets
  | .listPods _ _ => .listPods
  | .getPod _ => .getPod
  | .updatePod _ => .updatePod
  | .deletePod _ => .deletePod
  | .listPVC _ _ => .listPVC
  | .getPVC _ => .getPVC
  | .deletePVC _ => .deletePVC
  | .http _ _ => .http
  | .node _ _ _ => .node
  | .replication _ _ _ => .replication
  | .sentinel _ _ _ => .sentinel
  | .lock => .lock
  | .unlock => .unlock
  | .addMessage _ _ _ _ => .addMessage
  | .resendMessage _ => .resendMessage
  | .deleteKey _ => .deleteKey
  | .beforeTimeout _ => .beforeTimeout
  | .enter _ => .enter
  | .returned => .returned

/-- The call is of one of the kinds. -/
def OfKind (kinds : List CallKind) (request : Call) : Prop := request.kind ∈ kinds

variable {α β σ : Type} {kinds kinds' : List CallKind}

/-- Whatever the replies are, the function makes only calls of the given kinds. -/
def Makes (kinds : List CallKind) (function : Go α) : Prop := function.Returns (OfKind kinds) fun _ ↦ True

variable {function : Go α}

theorem Makes.mono (h : Makes kinds function) (hkinds : kinds ⊆ kinds') : Makes kinds' function :=
  Fallible.Returns.mono h (fun _ hkind ↦ hkinds hkind) fun _ h ↦ h

theorem makes_pure (value : α) : Makes kinds (pure value) := ends_pure trivial

theorem makes_throw (error : GoError) : Makes kinds (Fallible.throw error : Go α) := ends_throw error trivial

theorem makes_panic : Makes kinds (Fallible.panic : Go α) := ends_panic trivial

theorem makes_ofOption (value : Option α) : Makes kinds (Fallible.ofOption value) :=
  yields_ofOption (fun _ _ ↦ trivial) fun _ ↦ trivial

theorem Makes.bind {first : Go α} {next : α → Go β} (hfirst : Makes kinds first)
    (hnext : ∀ value, Makes kinds (next value)) : Makes kinds (first >>= next) :=
  Fallible.Ends.bind hfirst fun value _ _ ↦ hnext value

theorem Makes.handle (h : Makes kinds function) : Makes kinds function.handle :=
  yields_handle (Fallible.Yields.mono h (fun _ _ ↦ ⟨fun _ ↦ trivial, trivial⟩) fun _ _ h ↦ h)

theorem makes_api {program : Program operator (ApiResult α)} (h : program.All (OfKind kinds) fun _ ↦ True) :
    Makes kinds (Go.api program) := by
  apply ends_attempt
  apply Program.All.mono h (fun _ h ↦ h)
  intro reply _
  cases reply <;> trivial

theorem makes_remote {program : Program operator (Except GoError α)} (h : program.All (OfKind kinds) fun _ ↦ True) :
    Makes kinds (Go.remote program) := by
  apply ends_attempt
  apply Program.All.mono h (fun _ h ↦ h)
  intro reply _
  cases reply <;> trivial

theorem makes_lift {program : Program operator α} (h : program.All (OfKind kinds) fun _ ↦ True) :
    Makes kinds (Fallible.lift program) :=
  ends_lift h

/-- One call. -/
theorem all_ask {request : Call} (h : request.kind ∈ kinds) : (ask request).All (OfKind kinds) fun _ ↦ True :=
  ⟨h, fun _ ↦ trivial⟩

/-- A call and what follows it. -/
theorem makes_ask_bind {request : Call} {next : request.Reply → Go β} (h : request.kind ∈ kinds)
    (hnext : ∀ reply, Makes kinds (next reply)) : Makes kinds (Fallible.lift (ask request) >>= next) :=
  (makes_lift (all_ask h)).bind hnext

variable {items : List α}

theorem makes_forEach {body : α → Go Unit} (hbody : ∀ item ∈ items, Makes kinds (body item)) :
    Makes kinds (forEach body items) :=
  ends_forEach_const (fun _ ↦ True) trivial fun item hitem _ _ ↦ hbody item hitem

theorem makes_mapEach {body : α → Go β} (hbody : ∀ item ∈ items, Makes kinds (body item)) :
    Makes kinds (mapEach body items) := by
  induction items with
  | nil => exact makes_pure []
  | cons item items ih =>
    apply (hbody item List.mem_cons_self).bind
    intro image
    apply (ih fun later hlater ↦ hbody later (List.mem_cons_of_mem item hlater)).bind
    intro images
    exact makes_pure (image :: images)

/-! ### Functions that do not panic -/

/-- Whatever the replies are, the function makes only calls of the given kinds and does not panic, and it returns an
error only if `fails` allows it. -/
def Calm (kinds : List CallKind) (fails : Prop) (function : Go α) : Prop :=
  function.Ends (.arbitrary (OfKind kinds)) (fun _ ↦ fails) (fun _ ↦ False) (fun _ _ ↦ True) ()

section Calm

variable {fails fails' : Prop}

theorem Calm.mono (h : Calm kinds fails function) (hkinds : kinds ⊆ kinds') (hfails : fails → fails') :
    Calm kinds' fails' function := by
  apply Program.All.mono h (fun _ hkind ↦ hkinds hkind)
  intro outcome houtcome
  exact houtcome.mono hfails id fun _ h ↦ h

theorem Calm.makes (h : Calm kinds fails function) : Makes kinds function :=
  Fallible.Ends.mono h (fun _ _ ↦ trivial) (fun _ hnever ↦ hnever.elim) fun _ _ h ↦ h

theorem calm_pure (value : α) : Calm kinds fails (pure value) := ends_pure trivial

theorem Calm.bind {first : Go α} {next : α → Go β} (hfirst : Calm kinds fails first)
    (hnext : ∀ value, Calm kinds fails (next value)) : Calm kinds fails (first >>= next) :=
  Fallible.Ends.bind hfirst fun value _ _ ↦ hnext value

/-- The error is kept as a value. -/
theorem Calm.handle (h : Calm kinds True function) : Calm kinds fails function.handle :=
  ends_handle (Fallible.Ends.mono h (fun _ _ _ ↦ trivial) (fun _ h ↦ h) fun _ _ h ↦ h)

theorem calm_attempt {δ : Type} {wrap : δ → GoError} {program : Program operator (Except δ α)}
    (h : program.All (OfKind kinds) fun _ ↦ True) : Calm kinds True (Fallible.attempt wrap program) := by
  apply ends_attempt
  apply Program.All.mono h (fun _ h ↦ h)
  intro reply _
  cases reply <;> trivial

theorem calm_forEach {body : α → Go Unit} (hbody : ∀ item ∈ items, Calm kinds fails (body item)) :
    Calm kinds fails (forEach body items) :=
  ends_forEach_const (fun _ ↦ True) trivial fun item hitem _ _ ↦ hbody item hitem

/-- What the calls keep holds however the function ends. -/
theorem Calm.ends {W : Type} {step : Program.Answers operator W} {inv crash : W → Prop} {world : W}
    (h : Calm kinds fails function) (hkeep : step.Keep (OfKind kinds) inv) (hinv : inv world) :
    function.Ends (.sequential step) (fun final ↦ fails ∧ inv final) crash (fun _ ↦ inv) world := by
  apply (Program.All.keeps h hkeep hinv).mono
  intro outcome final hfinal
  cases outcome with
  | ok value => exact hfinal.2
  | err error => exact hfinal
  | panic => exact hfinal.1.elim

/-- Under a contract for which the calls are silent, only interference changes the world. -/
theorem Calm.silent {W : Type} {C : Contract operator W} {fail crash : W → Prop} {post : α → W → Prop} {world : W}
    (h : Calm kinds fails function) (hsilent : ∀ request, OfKind kinds request → C.Silent request)
    (hinv : C.inv world) (hpost : ∀ value later, C.rely world later → C.inv later → post value later)
    (hfail : ∀ later, C.rely world later → C.inv later → fails → fail later) :
    function.Ends C.meaning fail crash post world := by
  apply Contract.safe_of_all (Program.All.mono h hsilent fun _ h ↦ h) hinv
  intro outcome later hrely hlater houtcome
  cases outcome with
  | ok value => exact hpost value later hrely hlater
  | err error => exact hfail later hrely hlater houtcome
  | panic => exact houtcome.elim

end Calm

variable {method : Method operator GoError σ α}

/-! ## Methods that leave a part of the receiver alone -/

/-- Whatever the replies are, the method makes only calls of the given kinds, and when it returns a value the part of
the receiver is what it was. -/
def Leaves {β : Type} (kinds : List CallKind) (part : σ → β) (method : Method operator GoError σ α) :
    Prop :=
  ∀ state, method.Yields (.arbitrary (OfKind kinds)) (fun _ ↦ True) (fun _ later _ ↦ part later = part state) state ()

namespace Leaves

variable {γ δ : Type} {part : σ → γ}

theorem mono (h : Leaves kinds part method) (hkinds : kinds ⊆ kinds') : Leaves kinds' part method :=
  fun state ↦ Program.All.mono (h state) (fun _ hkind ↦ hkinds hkind) fun _ h ↦ h

/-- A part that the first one determines. -/
theorem of_part {part' : σ → δ} (h : Leaves kinds part method)
    (hpart : ∀ state later, part later = part state → part' later = part' state) : Leaves kinds part' method :=
  fun state ↦ (h state).imp fun _ later _ heq ↦ hpart state later heq

theorem pure (value : α) : Leaves kinds part (pure value : Method operator GoError σ α) :=
  fun _ ↦ Method.ends_pure rfl

theorem throw (error : GoError) : Leaves kinds part (Method.throw error : Method operator GoError σ α) :=
  fun _ ↦ Method.ends_throw error trivial

theorem get : Leaves kinds part (Method.get : Method operator GoError σ σ) := fun _ ↦ Method.yields_get rfl

theorem modify {change : σ → σ} (h : ∀ state, part (change state) = part state) :
    Leaves kinds part (Method.modify change : Method operator GoError σ Unit) :=
  fun state ↦ ends_modify (h state)

theorem lift (h : Makes kinds function) : Leaves kinds part (Method.lift function : Method operator GoError σ α) := by
  intro state
  apply Method.ends_lift
  exact Fallible.Returns.mono h (fun _ h ↦ h) fun _ _ ↦ rfl

theorem bind {first : Method operator GoError σ α} {next : α → Method operator GoError σ β}
    (hfirst : Leaves kinds part first) (hnext : ∀ value, Leaves kinds part (next value)) :
    Leaves kinds part (first >>= next) := by
  intro state
  apply (hfirst state).bind
  intro value later _ hlater
  exact (hnext value later).imp fun _ _ _ heq ↦ heq.trans hlater

theorem forEach {body : α → Method operator GoError σ Unit} (hbody : ∀ item, Leaves kinds part (body item))
    (items : List α) : Leaves kinds part (Interaction.forEach body items) := by
  induction items with
  | nil => exact Leaves.pure ()
  | cons item items ih => exact (hbody item).bind fun _ ↦ ih

theorem mapEach {body : α → Method operator GoError σ β} (hbody : ∀ item, Leaves kinds part (body item))
    (items : List α) : Leaves kinds part (Interaction.mapEach body items) := by
  induction items with
  | nil => exact Leaves.pure []
  | cons item items ih =>
    apply (hbody item).bind
    intro image
    apply ih.bind
    intro images
    exact Leaves.pure (image :: images)

/-- What the calls keep is kept however the method ends. -/
theorem keeps {W : Type} {step : Program.Answers operator W} {inv : W → Prop} (h : Leaves kinds part method)
    (hkeep : step.Keep (OfKind kinds) inv) {state : σ} {world : W} (hinv : inv world) :
    method.Yields (.sequential step) inv (fun _ later final ↦ part later = part state ∧ inv final) state world := by
  apply (Program.All.keeps (h state) hkeep hinv).mono
  intro result final hfinal
  exact Outcome.Meets.mono hfinal.1 (fun _ ↦ hfinal.2) fun _ hpart ↦ ⟨hpart, hfinal.2⟩

/-- A method whose receiver is given up makes the same calls. -/
theorem finish (h : Leaves kinds part method) (state : σ) : Makes kinds (method.finish state) := by
  apply Method.yields_finish
  apply Program.All.mono (h state) (fun _ h ↦ h)
  intro result _
  obtain ⟨outcome, later⟩ := result
  cases outcome <;> trivial

end Leaves

/-- A function and the rest of the method. -/
theorem Makes.lift_bind {γ : Type} {part : σ → γ} {next : α → Method operator GoError σ β} (h : Makes kinds function)
    (hkinds : kinds ⊆ kinds') (hnext : ∀ value, Leaves kinds' part (next value)) :
    Leaves kinds' part (Method.lift function >>= next) :=
  (Leaves.lift (h.mono hkinds)).bind hnext

/-- Whatever the replies are, the method makes only calls of the given kinds. -/
abbrev MethodMakes (kinds : List CallKind) (method : Method operator GoError σ α) : Prop :=
  Leaves kinds (fun _ ↦ ()) method

theorem Leaves.makes {γ : Type} {part : σ → γ} (h : Leaves kinds part method) : MethodMakes kinds method :=
  h.of_part fun _ _ _ ↦ rfl

end KvrocksOperator
