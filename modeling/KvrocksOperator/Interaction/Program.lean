import Mathlib.Logic.Basic
import Mathlib.Control.Basic

/-!
# Programs that interact with their surroundings

A program is a finite tree of calls.  Each call is answered by a reply whose type depends on the call, and the rest of
the program is a function of that reply.  Nothing is said here about how calls are answered: an adversary (`All`), a
deterministic server (`run`) and a nondeterministic world (`Ensures`, `Exec`) each give the same tree a meaning of
their own.

The definitions take an arbitrary interface, so that several worlds can be put under one program.
-/

namespace Interaction

/-- The calls a program can make, and the type of the reply that each of them receives. -/
structure Interface where
  Call : Type
  Reply : Call → Type

/-- A program either returns a value, or makes one call and continues with its reply. -/
inductive Program (I : Interface) (α : Type) : Type where
  | done (value : α)
  | call (request : I.Call) (resume : I.Reply request → Program I α)

namespace Program

variable {I : Interface} {α β γ W : Type} {allowed : I.Call → Prop}

/-- Run `next` on the value that the first program returns. -/
def bind : Program I α → (α → Program I β) → Program I β
  | .done value, next => next value
  | .call request resume, next => .call request fun reply ↦ (resume reply).bind next

instance : Monad (Program I) where
  pure := .done
  bind := bind

/-- The program that makes one call and returns its reply. -/
def perform (request : I.Call) : Program I (I.Reply request) := .call request .done

@[simp] theorem done_bind (value : α) (next : α → Program I β) : (Program.done value).bind next = next value := rfl

@[simp] theorem call_bind (request : I.Call) (resume : I.Reply request → Program I α) (next : α → Program I β) :
    (Program.call request resume).bind next = .call request fun reply ↦ (resume reply).bind next := rfl

@[simp] theorem pure_eq_done (value : α) : (pure value : Program I α) = .done value := rfl

@[simp] theorem bind_eq (program : Program I α) (next : α → Program I β) : program >>= next = program.bind next := rfl

theorem bind_done (program : Program I α) : program.bind .done = program := by
  induction program with
  | done value => rfl
  | call request resume ih =>
    rw [call_bind]
    congr 1
    funext reply
    exact ih reply

theorem bind_assoc (program : Program I α) (first : α → Program I β) (second : β → Program I γ) :
    (program.bind first).bind second = program.bind fun value ↦ (first value).bind second := by
  induction program with
  | done value => rfl
  | call request resume ih =>
    simp only [call_bind]
    congr 1
    funext reply
    exact ih reply

/-! ## Arbitrary replies -/

/-- Every call of the program is allowed and every value it can return satisfies `post`, whatever the replies are. -/
def All (allowed : I.Call → Prop) (post : α → Prop) : Program I α → Prop
  | .done value => post value
  | .call request resume => allowed request ∧ ∀ reply, (resume reply).All allowed post

@[simp] theorem all_done (allowed : I.Call → Prop) (post : α → Prop) (value : α) :
    (Program.done value : Program I α).All allowed post ↔ post value := Iff.rfl

@[simp] theorem all_call (allowed : I.Call → Prop) (post : α → Prop) (request : I.Call)
    (resume : I.Reply request → Program I α) :
    (Program.call request resume).All allowed post ↔
      allowed request ∧ ∀ reply, (resume reply).All allowed post := Iff.rfl

theorem all_bind (allowed : I.Call → Prop) (post : β → Prop) (program : Program I α) (next : α → Program I β) :
    (program.bind next).All allowed post ↔ program.All allowed fun value ↦ (next value).All allowed post := by
  induction program with
  | done value => rfl
  | call request resume ih =>
    simp only [call_bind, all_call]
    exact and_congr_right fun _ ↦ forall_congr' ih

@[simp] theorem all_perform (allowed : I.Call → Prop) (request : I.Call) (post : I.Reply request → Prop) :
    (perform request).All allowed post ↔ allowed request ∧ ∀ reply, post reply := Iff.rfl

variable {program : Program I α} {post : α → Prop}

theorem All.mono {allowed' : I.Call → Prop} {post' : α → Prop} (hall : program.All allowed post)
    (hallowed : ∀ request, allowed request → allowed' request) (hpost : ∀ value, post value → post' value) :
    program.All allowed' post' := by
  induction program with
  | done value => exact hpost value hall
  | call request resume ih =>
    exact ⟨hallowed request hall.1, fun reply ↦ ih reply (hall.2 reply)⟩

/-- Continuations that agree on every value that the program can return. -/
theorem All.bind_congr (hall : program.All allowed post) {next next' : α → Program I β}
    (hnext : ∀ value, post value → next value = next' value) : program.bind next = program.bind next' := by
  induction program with
  | done value => exact hnext value hall
  | call request resume ih =>
    rw [call_bind, call_bind]
    congr 1
    funext reply
    exact ih reply (hall.2 reply)

theorem All.and {allowed' : I.Call → Prop} {post' : α → Prop} (hleft : program.All allowed post)
    (hright : program.All allowed' post') :
    program.All (fun request ↦ allowed request ∧ allowed' request) (fun value ↦ post value ∧ post' value) := by
  induction program with
  | done value => exact ⟨hleft, hright⟩
  | call request resume ih =>
    exact ⟨⟨hleft.1, hright.1⟩, fun reply ↦ ih reply (hleft.2 reply) (hright.2 reply)⟩

/-! ## A deterministic server -/

/-- The value and the final state when every call is answered by `serve`. -/
def run (serve : (request : I.Call) → W → I.Reply request × W) : Program I α → W → α × W
  | .done value, world => (value, world)
  | .call request resume, world =>
    (resume (serve request world).1).run serve (serve request world).2

section Server

variable (serve : (request : I.Call) → W → I.Reply request × W)

@[simp] theorem run_done (value : α) (world : W) :
    (Program.done value : Program I α).run serve world = (value, world) := rfl

@[simp] theorem run_call (request : I.Call) (resume : I.Reply request → Program I α) (world : W) :
    (Program.call request resume).run serve world =
      (resume (serve request world).1).run serve (serve request world).2 := rfl

@[simp] theorem run_perform (request : I.Call) (world : W) :
    (perform request).run serve world = serve request world := rfl

theorem run_bind (program : Program I α) (next : α → Program I β) (world : W) :
    (program.bind next).run serve world = (next (program.run serve world).1).run serve (program.run serve world).2 := by
  induction program generalizing world with
  | done value => rfl
  | call request resume ih => exact ih _ _

end Server

/-! ## A nondeterministic world -/

/-- How a world may answer: `step request world reply world'` allows the reply and the new state. -/
abbrev Answers (I : Interface) (W : Type) := (request : I.Call) → W → I.Reply request → W → Prop

/-- The allowed calls keep the invariant. -/
abbrev Answers.Keep (step : Answers I W) (allowed : I.Call → Prop) (inv : W → Prop) : Prop :=
  ∀ request, allowed request → ∀ world reply world', step request world reply world' → inv world → inv world'

/-- The program started in the first world can return the value in the last one. -/
inductive Exec (step : Answers I W) : Program I α → W → α → W → Prop where
  | done (value : α) (world : W) : Exec step (.done value) world value world
  | call {request : I.Call} {resume : I.Reply request → Program I α} {world middle final : W}
      {reply : I.Reply request} {value : α} (hstep : step request world reply middle)
      (hrest : Exec step (resume reply) middle value final) :
      Exec step (.call request resume) world value final

/-- The program started in the first world can get to the last one, where it makes the call. -/
inductive Asks (step : Answers I W) (asked : I.Call) (final : W) : Program I α → W → Prop where
  | here (resume : I.Reply asked → Program I α) : Asks step asked final (.call asked resume) final
  | later {request : I.Call} {resume : I.Reply request → Program I α} {world middle : W} {reply : I.Reply request}
      (hstep : step request world reply middle) (hrest : Asks step asked final (resume reply) middle) :
      Asks step asked final (.call request resume) world

variable {world final : W}

section Executions

variable {step : Answers I W}

@[simp] theorem exec_done_iff {value result : α} :
    Exec step (.done value) world result final ↔ result = value ∧ final = world := by
  constructor
  · intro h
    cases h
    exact ⟨rfl, rfl⟩
  · rintro ⟨rfl, rfl⟩
    exact .done result final

variable {request : I.Call}

@[simp] theorem exec_call_iff {resume : I.Reply request → Program I α} {value : α} :
    Exec step (.call request resume) world value final ↔
      ∃ reply middle, step request world reply middle ∧ Exec step (resume reply) middle value final := by
  constructor
  · intro h
    cases h with
    | call hstep hrest => exact ⟨_, _, hstep, hrest⟩
  · rintro ⟨reply, middle, hstep, hrest⟩
    exact .call hstep hrest

/-- An execution of a sequence is one of its first part followed by one of the rest. -/
theorem exec_bind_iff {next : α → Program I β} {value : β} : Exec step (program.bind next) world value final ↔
      ∃ first middle, Exec step program world first middle ∧ Exec step (next first) middle value final := by
  induction program generalizing world with
  | done result =>
    constructor
    · intro h
      exact ⟨result, world, .done result world, h⟩
    · rintro ⟨first, middle, hfirst, hrest⟩
      obtain ⟨rfl, rfl⟩ := exec_done_iff.mp hfirst
      exact hrest
  | call request resume ih =>
    simp only [call_bind, exec_call_iff, ih]
    constructor
    · rintro ⟨reply, later, hstep, first, middle, hfirst, hrest⟩
      exact ⟨first, middle, ⟨reply, later, hstep, hfirst⟩, hrest⟩
    · rintro ⟨first, middle, ⟨reply, later, hstep, hfirst⟩, hrest⟩
      exact ⟨reply, later, hstep, first, middle, hfirst, hrest⟩

theorem exec_perform_iff {reply : I.Reply request} :
    Exec step (perform request) world reply final ↔ step request world reply final := by
  simp [perform]

/-- The program has one execution from the world, with the given end. -/
def Exactly (step : Answers I W) (program : Program I α) (world : W) (value : α) (final : W) : Prop :=
  ∀ result last, Exec step program world result last ↔ result = value ∧ last = final

theorem exactly_done (value : α) (world : W) : (Program.done value : Program I α).Exactly step world value world :=
  fun _ _ ↦ exec_done_iff

theorem exactly_perform {reply : I.Reply request}
    (h : ∀ result last, step request world result last ↔ result = reply ∧ last = final) :
    (perform request).Exactly step world reply final :=
  fun result last ↦ exec_perform_iff.trans (h result last)

theorem Exactly.bind {next : α → Program I β} {middle : W} {value : α} {result : β}
    (hfirst : program.Exactly step world value middle) (hnext : (next value).Exactly step middle result final) :
    (program.bind next).Exactly step world result final := by
  intro other last
  rw [exec_bind_iff]
  constructor
  · rintro ⟨first, reached, hexec, hrest⟩
    obtain ⟨rfl, rfl⟩ := (hfirst first reached).mp hexec
    exact (hnext other last).mp hrest
  · intro hend
    exact ⟨value, middle, (hfirst value middle).mpr ⟨rfl, rfl⟩, (hnext other last).mpr hend⟩

end Executions

/-- Every way to execute the program ends with `post`. -/
def Ensures (step : Answers I W) : Program I α → (α → W → Prop) → W → Prop
  | .done value, post, world => post value world
  | .call request resume, post, world =>
    ∀ reply world', step request world reply world' → (resume reply).Ensures step post world'

section World

variable {step : Answers I W}

@[simp] theorem ensures_done (value : α) (post : α → W → Prop) (world : W) :
    (Program.done value : Program I α).Ensures step post world ↔ post value world := Iff.rfl

@[simp] theorem ensures_call (request : I.Call) (resume : I.Reply request → Program I α) (post : α → W → Prop)
    (world : W) :
    (Program.call request resume).Ensures step post world ↔ ∀ reply world', step request world reply world' →
        (resume reply).Ensures step post world' := Iff.rfl

@[simp] theorem ensures_perform (request : I.Call) (post : I.Reply request → W → Prop) (world : W) :
    (perform request).Ensures step post world ↔
      ∀ reply world', step request world reply world' → post reply world' := Iff.rfl

theorem ensures_bind (program : Program I α) (next : α → Program I β) (post : β → W → Prop) (world : W) :
    (program.bind next).Ensures step post world ↔
      program.Ensures step (fun value ↦ (next value).Ensures step post) world := by
  induction program generalizing world with
  | done value => rfl
  | call request resume ih =>
    exact forall_congr' fun reply ↦ forall_congr' fun world' ↦ imp_congr_right fun _ ↦ ih reply world'

theorem Ensures.mono {post post' : α → W → Prop} (hensures : program.Ensures step post world)
    (hpost : ∀ value world', post value world' → post' value world') : program.Ensures step post' world := by
  induction program generalizing world with
  | done value => exact hpost value world hensures
  | call request resume ih =>
    intro reply world' hstep
    exact ih reply (hensures reply world' hstep)

/-- `Ensures` is the weakest precondition of the executions. -/
theorem ensures_iff_exec (program : Program I α) (post : α → W → Prop) (world : W) :
    program.Ensures step post world ↔ ∀ value final, Exec step program world value final → post value final := by
  constructor
  · intro hensures value final hexec
    induction hexec with
    | done value world => exact hensures
    | call hstep _ ih => exact ih (hensures _ _ hstep)
  · intro hexec
    induction program generalizing world with
    | done value => exact hexec value world (.done value world)
    | call request resume ih =>
      intro reply world' hstep
      exact ih reply world' fun value final hrest ↦ hexec value final (.call hstep hrest)

/-- More answers, more executions. -/
theorem Exec.mono {step' : Answers I W}
    (h : ∀ request before reply after, step request before reply after → step' request before reply after) {value : α}
    (hexec : Exec step program world value final) : Exec step' program world value final := by
  induction hexec with
  | done value world => exact .done value world
  | call hstep _ ih => exact .call (h _ _ _ _ hstep) ih

/-- A server whose answers the world allows gives one of the executions. -/
theorem exec_run {serve : (request : I.Call) → W → I.Reply request × W}
    (hserve : ∀ request world, step request world (serve request world).1 (serve request world).2)
    (program : Program I α) (world : W) :
    Exec step program world (program.run serve world).1 (program.run serve world).2 := by
  induction program generalizing world with
  | done value => exact .done value world
  | call request resume ih => exact .call (hserve request world) (ih _ _)

/-- Run the program against a server that need not answer every call. -/
def tryRun (serve : (request : I.Call) → W → Option (I.Reply request × W)) : Program I α → W → Option (α × W)
  | .done value, world => some (value, world)
  | .call request resume, world =>
    (serve request world).bind fun answer ↦ (resume answer.1).tryRun serve answer.2

/-- What such a run returns is the end of an execution. -/
theorem exec_tryRun {serve : (request : I.Call) → W → Option (I.Reply request × W)}
    (hserve : ∀ request world answer, serve request world = some answer → step request world answer.1 answer.2)
    {result : α × W} (h : program.tryRun serve world = some result) : Exec step program world result.1 result.2 := by
  induction program generalizing world with
  | done value =>
    cases h
    exact .done value world
  | call request resume ih =>
    obtain ⟨answer, hanswer, hrest⟩ := Option.bind_eq_some_iff.mp h
    exact .call (hserve request world answer hanswer) (ih answer.1 hrest)

/-- If the world answers the allowed calls without changing, it stays as it was. -/
theorem All.ensures (hall : program.All allowed post)
    (hframe : ∀ request, allowed request → ∀ world reply world', step request world reply world' → world' = world)
    (world : W) : program.Ensures step (fun value world' ↦ post value ∧ world' = world) world := by
  induction program with
  | done value => exact ⟨hall, rfl⟩
  | call request resume ih =>
    intro reply world' hstep
    obtain rfl := hframe request hall.1 world reply world' hstep
    exact ih reply (hall.2 reply)

/-- What the allowed calls keep, the program keeps. -/
theorem All.keeps {inv : W → Prop} (hall : program.All allowed post)
    (hkeep : step.Keep allowed inv) (hinv : inv world) :
    program.Ensures step (fun value final ↦ post value ∧ inv final) world := by
  induction program generalizing world with
  | done value => exact ⟨hall, hinv⟩
  | call request resume ih =>
    intro reply world' hstep
    exact ih reply (hall.2 reply) (hkeep request hall.1 world reply world' hstep hinv)

/-- What every call keeps, every program keeps. -/
theorem ensures_of_keeps {inv : W → Prop}
    (hkeep : ∀ request world reply world', step request world reply world' → inv world → inv world')
    (program : Program I α) (hinv : inv world) : program.Ensures step (fun _ ↦ inv) world := by
  induction program generalizing world with
  | done value => exact hinv
  | call request resume ih =>
    intro reply world' hstep
    exact ih reply (hkeep request world reply world' hstep hinv)

theorem ensures_true (program : Program I α) (world : W) : program.Ensures step (fun _ _ ↦ True) world := by
  induction program generalizing world with
  | done value => trivial
  | call request resume ih =>
    intro reply world' _
    exact ih reply world'

theorem Ensures.and {post post' : α → W → Prop} (h : program.Ensures step post world)
    (h' : program.Ensures step post' world) :
    program.Ensures step (fun value final ↦ post value final ∧ post' value final) world := by
  induction program generalizing world with
  | done value => exact ⟨h, h'⟩
  | call request resume ih =>
    intro reply world' hstep
    exact ih reply (h reply world' hstep) (h' reply world' hstep)

/-- What holds in a part of the world holds in the whole, if the part answers as it does alone. -/
theorem Ensures.view {V : Type} {part : Answers I V} (view : W → V)
    (hview : ∀ request world reply world', step request world reply world' →
      part request (view world) reply (view world'))
    {post : α → V → Prop} (h : program.Ensures part post (view world)) :
    program.Ensures step (fun value final ↦ post value (view final)) world := by
  induction program generalizing world with
  | done value => exact h
  | call request resume ih =>
    intro reply world' hstep
    exact ih reply (h reply (view world') (hview request world reply world' hstep))

/-- The same for a program whose calls are among those that the part answers as it does alone. -/
theorem Ensures.view_of {V : Type} {part : Answers I V} {valid : α → Prop} (view : W → V)
    (hview : ∀ request, allowed request → ∀ world reply world', step request world reply world' →
      part request (view world) reply (view world'))
    {post : α → V → Prop} (hall : program.All allowed valid) (h : program.Ensures part post (view world)) :
    program.Ensures step (fun value final ↦ post value (view final)) world := by
  induction program generalizing world with
  | done value => exact h
  | call request resume ih =>
    intro reply world' hstep
    exact ih reply (hall.2 reply) (h reply (view world') (hview request hall.1 world reply world' hstep))

/-- When every call has an answer, the program can be executed. -/
theorem exists_exec (htotal : ∀ request world, ∃ reply world', step request world reply world')
    (program : Program I α) (world : W) : ∃ value final, Exec step program world value final := by
  induction program generalizing world with
  | done value => exact ⟨value, world, .done value world⟩
  | call request resume ih =>
    obtain ⟨reply, middle, hstep⟩ := htotal request world
    obtain ⟨value, final, hrest⟩ := ih reply middle
    exact ⟨value, final, .call hstep hrest⟩

end World

/-! ## Translation -/

section Translation

variable {J : Interface} (implement : (request : I.Call) → Program J (I.Reply request))

/-- Every call is replaced by a program over another interface. -/
def translate : Program I α → Program J α
  | .done value => .done value
  | .call request resume => (implement request).bind fun reply ↦ (resume reply).translate

@[simp] theorem translate_done (value : α) : (Program.done value : Program I α).translate implement = .done value := rfl

@[simp] theorem translate_call (request : I.Call) (resume : I.Reply request → Program I α) :
    (Program.call request resume).translate implement =
      (implement request).bind fun reply ↦ (resume reply).translate implement := rfl

theorem translate_bind (program : Program I α) (next : α → Program I β) : (program.bind next).translate implement =
      (program.translate implement).bind fun value ↦ (next value).translate implement := by
  induction program with
  | done value => rfl
  | call request resume ih =>
    rw [call_bind, translate_call, translate_call, bind_assoc]
    congr 1
    funext reply
    exact ih reply

end Translation

end Program

export Program (Exec exec_done_iff exec_call_iff exec_perform_iff exec_run exec_tryRun ensures_iff_exec exists_exec
  exactly_perform exactly_done)

/-! ## Meanings -/

/-- A meaning of programs: a weakest precondition that respects sequencing. -/
structure Meaning (I : Interface) (W : Type) where
  wp : {α : Type} → Program I α → (α → W → Prop) → W → Prop
  wp_done : ∀ {α : Type} (value : α) (post : α → W → Prop) (world : W), wp (.done value) post world ↔ post value world
  wp_bind : ∀ {α β : Type} (program : Program I α) (next : α → Program I β) (post : β → W → Prop)
    (world : W), wp (program.bind next) post world ↔ wp program (fun value ↦ wp (next value) post) world
  wp_mono : ∀ {α : Type} {program : Program I α} {post post' : α → W → Prop} {world : W},
    wp program post world → (∀ value final, post value final → post' value final) → wp program post' world

namespace Meaning

variable {I : Interface} {W : Type}

/-- Arbitrary replies, to calls that must be allowed; there is no world. -/
def arbitrary (allowed : I.Call → Prop) : Meaning I Unit where
  wp program post _ := program.All allowed fun value ↦ post value ()
  wp_done _ _ _ := Iff.rfl
  wp_bind program next post _ := Program.all_bind allowed (post · ()) program next
  wp_mono h hpost := h.mono (fun _ h ↦ h) fun value ↦ hpost value ()

/-- A server that answers every call in one way. -/
def deterministic (serve : (request : I.Call) → W → I.Reply request × W) : Meaning I W where
  wp program post world := post (program.run serve world).1 (program.run serve world).2
  wp_done _ _ _ := Iff.rfl
  wp_bind program next post world := by rw [Program.run_bind]
  wp_mono h hpost := hpost _ _ h

theorem deterministic_perform (serve : (request : I.Call) → W → I.Reply request × W) (request : I.Call)
    (post : I.Reply request → W → Prop) (world : W) :
    (deterministic serve).wp (Program.perform request) post world ↔
      post (serve request world).1 (serve request world).2 := Iff.rfl

/-- A world that answers one program. -/
def sequential (step : Program.Answers I W) : Meaning I W where
  wp program post world := program.Ensures step post world
  wp_done _ _ _ := Iff.rfl
  wp_bind := Program.ensures_bind
  wp_mono h hpost := h.mono hpost

/-- What the implementation of every allowed call keeps, a translated program keeps. -/
theorem wp_translate {J : Interface} {V α : Type} (M : Meaning J V)
    {implement : (request : I.Call) → Program J (I.Reply request)} {post : α → Prop} {P : V → Prop}
    (himplement : ∀ request, allowed request → ∀ world, P world → M.wp (implement request) (fun _ ↦ P) world)
    {program : Program I α} (hall : program.All allowed post) {world : V} (h : P world) :
    M.wp (program.translate implement) (fun value final ↦ post value ∧ P final) world := by
  induction program generalizing world with
  | done value => exact (M.wp_done _ _ _).mpr ⟨hall, h⟩
  | call request resume ih =>
    apply (M.wp_bind _ _ _ _).mpr
    apply M.wp_mono (himplement request hall.1 world h)
    exact fun reply final hfinal ↦ ih reply (hall.2 reply) hfinal

end Meaning

end Interaction
