import Mathlib.Logic.Function.Basic
import Mathlib.Logic.Relation
import KvrocksOperator.Interaction.Program

/-!
# Programs under interference

Several programs run against one world, one call at a time, in any order, while the world also moves by itself.  A
`Contract` fixes what one of the programs may assume of the others (`rely`) and what it owes them (`guarantee`);
`Safe` is the weakest precondition of a program for its contract.  `System.reaches_sound` composes such proofs: if
every program that can be started is safe for the contract of its thread, the invariant holds in every configuration
of every interleaving, and every step taken passes its guard.

A thread may be stopped between any two of its calls, which covers both a program that has returned and a process that
has died.

A `Player` chooses one program for each thread and one answer to each call, so that a schedule has one outcome and an
interleaving can be computed; `Player.play_reaches` says that what it plays is a run of the system.
-/

namespace Interaction

variable {I : Interface} {T W α β : Type}

/-- What one program may assume of its surroundings and what it owes to them. -/
structure Contract (I : Interface) (W : Type) where
  answers : Program.Answers I W
  inv : W → Prop
  rely : W → W → Prop
  guarantee : W → W → Prop
  guard : I.Call → W → Prop
  rely_refl : ∀ world, rely world world
  rely_trans : ∀ {first second third}, rely first second → rely second third → rely first third

variable {world final : W} {request : I.Call}

namespace Contract

variable (C : Contract I W)

/-- Every step of the program passes its guard, keeps the invariant and meets the guarantee, whatever the surroundings
do between two steps; the value it returns satisfies `post`. -/
def Safe : Program I α → (α → W → Prop) → W → Prop
  | .done value, post, world => post value world
  | .call request resume, post, world =>
    ∀ before, C.rely world before → C.inv before → ∀ reply after, C.answers request before reply after →
        C.guard request before ∧ C.inv after ∧ C.guarantee before after ∧ Safe (resume reply) post after

@[simp] theorem safe_done (value : α) (post : α → W → Prop) (world : W) :
    C.Safe (.done value) post world ↔ post value world := Iff.rfl

@[simp] theorem safe_call (request : I.Call) (resume : I.Reply request → Program I α) (post : α → W → Prop)
    (world : W) :
    C.Safe (.call request resume) post world ↔ ∀ before, C.rely world before → C.inv before →
        ∀ reply after, C.answers request before reply after →
          C.guard request before ∧ C.inv after ∧ C.guarantee before after ∧ C.Safe (resume reply) post after := Iff.rfl

theorem safe_bind (program : Program I α) (next : α → Program I β) (post : β → W → Prop) (world : W) :
    C.Safe (program.bind next) post world ↔ C.Safe program (fun value ↦ C.Safe (next value) post) world := by
  induction program generalizing world with
  | done value => rfl
  | call request resume ih =>
    simp only [Program.call_bind, safe_call, ih]

variable {C}

variable {program : Program I α} {post : α → W → Prop}

theorem Safe.mono {post' : α → W → Prop} (hsafe : C.Safe program post world)
    (hpost : ∀ value final, post value final → post' value final) : C.Safe program post' world := by
  induction program generalizing world with
  | done value => exact hpost value world hsafe
  | call request resume ih =>
    intro before hrely hinv reply after hanswer
    obtain ⟨hguard, hafter, hguarantee, hrest⟩ := hsafe before hrely hinv reply after hanswer
    exact ⟨hguard, hafter, hguarantee, ih reply hrest⟩

/-- Safety survives interference, once nothing is asked of the value returned. -/
theorem Safe.later {later : W} (hsafe : C.Safe program (fun _ _ ↦ True) world) (hrely : C.rely world later) :
    C.Safe program (fun _ _ ↦ True) later := by
  cases program with
  | done value => trivial
  | call request resume =>
    intro before hlater
    exact hsafe before (C.rely_trans hrely hlater)

/-- A call whose answers leave the world alone, under a guard that always holds. -/
def Silent (C : Contract I W) (request : I.Call) : Prop :=
  ∀ before reply after, C.answers request before reply after →
    after = before ∧ C.guard request before ∧ C.guarantee before before

theorem safe_silent {resume : I.Reply request → Program I α} (hsilent : C.Silent request)
    (hrest : ∀ reply before, C.rely world before → C.inv before → C.Safe (resume reply) post before) :
    C.Safe (.call request resume) post world := by
  intro before hrely hinv reply after hanswer
  obtain ⟨rfl, hguard, hguarantee⟩ := hsilent before reply after hanswer
  exact ⟨hguard, hinv, hguarantee, hrest reply after hrely hinv⟩

/-- A program that makes only silent calls is safe, and only interference changes the world. -/
theorem safe_of_all {value_post : α → Prop} (hall : program.All C.Silent value_post) (hinv : C.inv world)
    (hpost : ∀ value later, C.rely world later → C.inv later → value_post value → post value later) :
    C.Safe program post world := by
  induction program generalizing world with
  | done value => exact hpost value world (C.rely_refl world) hinv hall
  | call request resume ih =>
    refine safe_silent hall.1 fun reply before hrely hbefore ↦ ?_
    refine ih reply (hall.2 reply) hbefore fun value later hlater hvalid hvalue ↦ ?_
    exact hpost value later (C.rely_trans hrely hlater) hvalid hvalue

/-- A call that passes its guard, keeps the invariant and meets the guarantee wherever the invariant holds. -/
def Keeps (C : Contract I W) (request : I.Call) : Prop :=
  ∀ before reply after, C.inv before → C.answers request before reply after →
    C.guard request before ∧ C.inv after ∧ C.guarantee before after

/-- A program that makes only such calls is safe whatever the surroundings do. -/
theorem safe_of_keeps {post : α → Prop} (hall : program.All C.Keeps post) (world : W) :
    C.Safe program (fun value _ ↦ post value) world := by
  induction program generalizing world with
  | done value => exact hall
  | call request resume ih =>
    intro before _ hinv reply after hanswer
    obtain ⟨hguard, hafter, hguarantee⟩ := hall.1 before reply after hinv hanswer
    exact ⟨hguard, hafter, hguarantee, ih reply (hall.2 reply) after⟩

/-- What every call of a program keeps, and the surroundings too, holds at its end. -/
theorem safe_of_stable {allowed : I.Call → Prop} {post : α → Prop} {P : W → Prop}
    (hrely : ∀ before after, C.rely before after → P before → P after)
    (hstep : ∀ request, allowed request → ∀ before reply after, C.inv before → P before →
      C.answers request before reply after → C.guard request before ∧ C.inv after ∧ C.guarantee before after ∧ P after)
    (hall : program.All allowed post) (hP : P world) :
    C.Safe program (fun value final ↦ post value ∧ P final) world := by
  induction program generalizing world with
  | done value => exact ⟨hall, hP⟩
  | call request resume ih =>
    intro before hbefore hinv reply after hanswer
    obtain ⟨hguard, hafter, hguarantee, hkept⟩ :=
      hstep request hall.1 before reply after hinv (hrely world before hbefore hP) hanswer
    exact ⟨hguard, hafter, hguarantee, ih reply (hall.2 reply) hkept⟩

/-- Along an execution without interference the invariant is kept. -/
theorem Safe.exec {value : α} (hsafe : C.Safe program post world) (hinv : C.inv world)
    (hexec : Exec C.answers program world value final) : C.inv final ∧ post value final := by
  induction hexec with
  | done value world => exact ⟨hinv, hsafe⟩
  | call hstep hrest ih =>
    obtain ⟨-, hafter, -, hnext⟩ := hsafe _ (C.rely_refl _) hinv _ _ hstep
    exact ih hnext hafter

/-- Safety as a meaning of programs. -/
def meaning (C : Contract I W) : Meaning I W where
  wp := C.Safe
  wp_done _ _ _ := Iff.rfl
  wp_bind := C.safe_bind
  wp_mono h hpost := h.mono hpost

end Contract

/-- Threads that share a world: how the world answers each of them, which programs each of them may start, and how the
world moves by itself. -/
structure System (I : Interface) (T W : Type) where
  answers : T → Program.Answers I W
  starts : T → W → Program I Unit → Prop
  moves : W → W → Prop

namespace System

/-- The world together with what remains to be run by each thread. -/
structure Config (I : Interface) (T W : Type) where
  world : W
  running : T → Option (Program I Unit)

variable [DecidableEq T] (S : System I T W)

/-- One step of an interleaving. -/
inductive Step : Config I T W → Config I T W → Prop where
  | move {config : Config I T W} {world : W} (hmove : S.moves config.world world) :
      Step config { config with world := world }
  | start {config : Config I T W} (thread : T) {program : Program I Unit}
      (hidle : config.running thread = none) (hstart : S.starts thread config.world program) :
      Step config { config with running := Function.update config.running thread (some program) }
  | call {config : Config I T W} (thread : T) {request : I.Call}
      {resume : I.Reply request → Program I Unit} {reply : I.Reply request} {world : W}
      (hnext : config.running thread = some (.call request resume))
      (hanswer : S.answers thread request config.world reply world) :
      Step config { world := world
                    running := Function.update config.running thread (some (resume reply)) }
  | stop {config : Config I T W} (thread : T) :
      Step config { config with running := Function.update config.running thread none }

/-- Any number of steps, in any order. -/
def Reaches : Config I T W → Config I T W → Prop := Relation.ReflTransGen S.Step

/-- Nothing runs yet. -/
def initial (world : W) : Config I T W := { world := world, running := fun _ ↦ none }

variable {config config' : Config I T W} {thread : T}

/-- A thread that runs alone gets to each of its calls. -/
theorem reaches_of_asks {program : Program I Unit} {asked : I.Call}
    (hasks : Program.Asks (S.answers thread) asked final program world) (hworld : config.world = world)
    (hrunning : config.running thread = some program) :
    ∃ config' resume, S.Reaches config config' ∧ config'.world = final ∧
      config'.running thread = some (.call asked resume) := by
  induction hasks generalizing config with
  | here resume => exact ⟨config, resume, .refl, hworld, hrunning⟩
  | @later request resume world middle reply hanswer _ ih =>
    rw [← hworld] at hanswer
    let next : Config I T W :=
      { world := middle, running := Function.update config.running thread (some (resume reply)) }
    have hnext : next.running thread = some (resume reply) := Function.update_self ..
    obtain ⟨config', rest, hreach, hfinal⟩ := ih rfl hnext
    exact ⟨config', rest, .head (.call thread hrunning hanswer) hreach, hfinal⟩

/-- Whatever a program that may be started can ask, it asks in some run. -/
theorem initial_reaches_of_asks {program : Program I Unit} {asked : I.Call} (hstart : S.starts thread world program)
    (hasks : Program.Asks (S.answers thread) asked final program world) :
    ∃ config resume, S.Reaches (initial world) config ∧ config.world = final ∧
      config.running thread = some (.call asked resume) := by
  let started : Config I T W :=
    { world := world, running := Function.update (initial world).running thread (some program) }
  have hrunning : started.running thread = some program := Function.update_self ..
  obtain ⟨config, resume, hreach, hfinal⟩ := S.reaches_of_asks hasks (rfl : started.world = world) hrunning
  exact ⟨config, resume, .head (.start thread rfl hstart) hreach, hfinal⟩

/-- The contracts of the threads fit together and every startable program meets its own. -/
structure Certified (S : System I T W) (inv : W → Prop) (contract : T → Contract I W) : Prop where
  answers_eq : ∀ thread, (contract thread).answers = S.answers thread
  inv_eq : ∀ thread, (contract thread).inv = inv
  rely_of_guarantee : ∀ thread other, thread ≠ other → ∀ before after,
    (contract thread).guarantee before after → (contract other).rely before after
  move : ∀ before after, inv before → S.moves before after → inv after ∧ ∀ thread, (contract thread).rely before after
  start : ∀ thread world program, inv world → S.starts thread world program →
    (contract thread).Safe program (fun _ _ ↦ True) world

variable {S} {inv : W → Prop} {contract : T → Contract I W}

/-- The invariant holds and each thread's remaining program is safe. -/
structure Sound (inv : W → Prop) (contract : T → Contract I W) (config : Config I T W) : Prop where
  inv : inv config.world
  safe : ∀ thread program, config.running thread = some program →
    (contract thread).Safe program (fun _ _ ↦ True) config.world

omit [DecidableEq T] in
theorem Sound.call (hcertified : S.Certified inv contract) (hsound : Sound inv contract config)
    {resume : I.Reply request → Program I Unit} {reply : I.Reply request}
    (hnext : config.running thread = some (.call request resume))
    (hanswer : S.answers thread request config.world reply world) :
    (contract thread).guard request config.world ∧ inv world ∧ (contract thread).guarantee config.world world ∧
      (contract thread).Safe (resume reply) (fun _ _ ↦ True) world := by
  have hsafe := hsound.safe thread _ hnext config.world ((contract thread).rely_refl config.world)
  rw [hcertified.inv_eq, hcertified.answers_eq] at hsafe
  exact hsafe hsound.inv reply world hanswer

/-- Soundness after one thread has changed its remaining program. -/
theorem Sound.update {running : T → Option (Program I Unit)} {next : Option (Program I Unit)} (hinv : inv world)
    (hnext : ∀ program, next = some program → (contract thread).Safe program (fun _ _ ↦ True) world)
    (hothers : ∀ other program, other ≠ thread → running other = some program →
      (contract other).Safe program (fun _ _ ↦ True) world) :
    Sound inv contract { world := world, running := Function.update running thread next } := by
  refine ⟨hinv, fun other program hrun ↦ ?_⟩
  by_cases hother : other = thread
  · subst hother
    exact hnext program (by simpa using hrun)
  · exact hothers other program hother (by simpa [hother] using hrun)

theorem Sound.step (hcertified : S.Certified inv contract) (hsound : Sound inv contract config)
    (hstep : S.Step config config') : Sound inv contract config' := by
  cases hstep with
  | move hmove =>
    obtain ⟨hinv, hrely⟩ := hcertified.move _ _ hsound.inv hmove
    exact ⟨hinv, fun thread program hrun ↦ (hsound.safe thread program hrun).later (hrely thread)⟩
  | start thread hidle hstart =>
    refine .update hsound.inv ?_ fun other program _ hrun ↦ hsound.safe other program hrun
    rintro program ⟨⟩
    exact hcertified.start thread _ _ hsound.inv hstart
  | call thread hnext hanswer =>
    obtain ⟨-, hinv, hguarantee, hrest⟩ := hsound.call hcertified hnext hanswer
    refine .update hinv ?_ fun other program hother hrun ↦ ?_
    · rintro program ⟨⟩
      exact hrest
    · exact (hsound.safe other program hrun).later
        (hcertified.rely_of_guarantee thread other hother.symm _ _ hguarantee)
  | stop thread =>
    refine .update hsound.inv ?_ fun other program _ hrun ↦ hsound.safe other program hrun
    rintro program ⟨⟩

/-- Every configuration of every interleaving is sound. -/
theorem reaches_sound (hcertified : S.Certified inv contract) (hinit : inv world)
    (hreach : S.Reaches (initial world) config) : Sound inv contract config := by
  induction hreach with
  | refl => exact ⟨hinit, fun thread program hrun ↦ by cases hrun⟩
  | tail _ hstep ih => exact ih.step hcertified hstep

/-- Every call answered in an interleaving passes its guard in the world it is made in. -/
theorem reaches_guard (hcertified : S.Certified inv contract) (hinit : inv world)
    (hreach : S.Reaches (initial world) config) {resume : I.Reply request → Program I Unit} {reply : I.Reply request}
    {world' : W} (hnext : config.running thread = some (.call request resume))
    (hanswer : S.answers thread request config.world reply world') : (contract thread).guard request config.world :=
  ((reaches_sound hcertified hinit hreach).call hcertified hnext hanswer).1

/-! ## Playing a schedule -/

/-- What a schedule does next. -/
inductive Action (T : Type) where
  | start (thread : T)
  | answer (thread : T)
  | stop (thread : T)

/-- The program each thread starts, when it may start it, and how its calls are answered, if they are. -/
structure Player (I : Interface) (T W : Type) where
  program : T → Program I Unit
  startable : T → W → Bool
  serve : T → (request : I.Call) → W → Option (I.Reply request × W)

namespace Player

variable (P : Player I T W)

/-- One action, if it can be done. -/
def act (config : Config I T W) : Action T → Option (Config I T W)
  | .start thread =>
    match config.running thread with
    | some _ => none
    | none =>
      if P.startable thread config.world then
        some { config with
          running := Function.update config.running thread (some (P.program thread)) }
      else none
  | .answer thread =>
    match config.running thread with
    | some (.call request resume) =>
      (P.serve thread request config.world).map fun answer ↦
        { world := answer.2
          running := Function.update config.running thread (some (resume answer.1)) }
    | _ => none
  | .stop thread => some { config with running := Function.update config.running thread none }

/-- The actions of a schedule one after the other. -/
def play : List (Action T) → Config I T W → Option (Config I T W)
  | [], config => some config
  | action :: actions, config => (P.act config action).bind (play actions)

variable {P} {S : System I T W}

/-- The player starts only programs that the system may start and answers as the system does. -/
structure Plays (P : Player I T W) (S : System I T W) : Prop where
  start : ∀ thread world, P.startable thread world = true → S.starts thread world (P.program thread)
  serve : ∀ thread request world answer, P.serve thread request world = some answer →
    S.answers thread request world answer.1 answer.2

theorem act_step (hplays : P.Plays S) {action : Action T} (hact : P.act config action = some config') :
    S.Step config config' := by
  cases action with
  | start thread =>
    simp only [act] at hact
    split at hact
    · cases hact
    · rename_i hidle
      split at hact
      · rename_i hstart
        cases hact
        exact .start thread hidle (hplays.start thread _ hstart)
      · cases hact
  | answer thread =>
    simp only [act] at hact
    split at hact
    · rename_i request resume hnext
      obtain ⟨answer, hserve, hafter⟩ := Option.map_eq_some_iff.mp hact
      rw [← hafter]
      exact .call thread hnext (hplays.serve thread request _ answer hserve)
    · cases hact
  | stop thread =>
    cases hact
    exact .stop thread

/-- What is played is an interleaving of the system. -/
theorem play_reaches (hplays : P.Plays S) {actions : List (Action T)} (hplay : P.play actions config = some config') :
    S.Reaches config config' := by
  induction actions generalizing config with
  | nil =>
    cases hplay
    exact .refl
  | cons action actions ih =>
    obtain ⟨next, hact, hrest⟩ := Option.bind_eq_some_iff.mp hplay
    exact .head (act_step hplays hact) (ih hrest)

end Player

end System

end Interaction
