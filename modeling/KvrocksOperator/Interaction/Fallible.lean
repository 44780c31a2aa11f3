import Mathlib.Data.List.Forall2
import KvrocksOperator.Interaction.Interference

/-!
# Functions that fail and methods that change their receiver

`Fallible` programs return a value, an error, or panic; an error or a panic ends the function that meets it.  A
`Method` also carries a state, the receiver of the source's methods, which keeps the changes made before an error was
returned.  `Yields` says what a function or a method returns; its rules pass through sequencing and loops and hold for
every meaning of programs.
-/

namespace Interaction

variable {I : Interface} {ε σ α β W : Type}

/-- How a function of the source ends. -/
inductive Outcome (ε α : Type) where
  | ok (value : α)
  | err (error : ε)
  | panic
  deriving DecidableEq

/-- A value satisfies `post`; an error is met only if `fail` allows it, a panic only if `crash` does. -/
def Outcome.Ends (fail crash : Prop) (post : α → Prop) : Outcome ε α → Prop
  | .ok value => post value
  | .err _ => fail
  | .panic => crash

variable {outcome : Outcome ε α} {valid post' : α → Prop}

theorem Outcome.Ends.mono {fail fail' crash crash' : Prop} {post : α → Prop} (h : outcome.Ends fail crash post)
    (hfail : fail → fail') (hcrash : crash → crash') (hpost : ∀ value, post value → post' value) :
    outcome.Ends fail' crash' post' := by
  cases outcome with
  | ok value => exact hpost value h
  | err error => exact hfail h
  | panic => exact hcrash h

/-- A value satisfies `post`; an error or a panic is met only if `fail` allows it. -/
def Outcome.Meets (fail : Prop) (post : α → Prop) (outcome : Outcome ε α) : Prop := outcome.Ends fail fail post

theorem Outcome.Meets.mono {fail fail' : Prop} {post : α → Prop} (h : outcome.Meets fail post) (hfail : fail → fail')
    (hpost : ∀ value, post value → post' value) : outcome.Meets fail' post' :=
  Outcome.Ends.mono h hfail hfail hpost

/-! ## Fallible programs -/

/-- A program that can return an error or panic. -/
structure Fallible (I : Interface) (ε α : Type) where
  program : Program I (Outcome ε α)

variable {function first : Fallible I ε α} {post mid : α → W → Prop} {world final : W} {value : α}
  {allowed : I.Call → Prop} {inv fail' crash : W → Prop}

namespace Fallible

/-- What follows a fallible program. -/
def resume (next : α → Fallible I ε β) : Outcome ε α → Program I (Outcome ε β)
  | .ok value => (next value).program
  | .err error => .done (.err error)
  | .panic => .done .panic

instance : Monad (Fallible I ε) where
  pure value := ⟨.done (.ok value)⟩
  bind first next := ⟨first.program.bind (resume next)⟩

/-- Return an error. -/
def throw (error : ε) : Fallible I ε α := ⟨.done (.err error)⟩

/-- A run-time panic, as an index out of range or a nil dereference. -/
def panic : Fallible I ε α := ⟨.done .panic⟩

/-- A call that cannot fail. -/
def lift (program : Program I α) : Fallible I ε α := ⟨program.bind fun value ↦ .done (.ok value)⟩

/-- The outcome of a reply that is a value or an error. -/
def ofReply {δ : Type} (wrap : δ → ε) : Except δ α → Outcome ε α
  | .ok value => .ok value
  | .error error => .err (wrap error)

/-- A call whose reply is a value or an error. -/
def attempt {δ : Type} (wrap : δ → ε) (program : Program I (Except δ α)) : Fallible I ε α :=
  ⟨program.bind fun reply ↦ .done (ofReply wrap reply)⟩

/-- The outcome with its error kept as a value. -/
def caught : Outcome ε α → Outcome ε (Except ε α)
  | .ok value => .ok (.ok value)
  | .err error => .ok (.error error)
  | .panic => .panic

/-- Keep the error of a function as a value. -/
def handle (function : Fallible I ε α) : Fallible I ε (Except ε α) :=
  ⟨function.program.bind fun outcome ↦ .done (caught outcome)⟩

/-- An optional value that must be there. -/
def ofOption : Option α → Fallible I ε α
  | some value => pure value
  | none => panic

@[simp] theorem program_pure (value : α) : (pure value : Fallible I ε α).program = .done (.ok value) := rfl

@[simp] theorem program_throw (error : ε) : (throw error : Fallible I ε α).program = .done (.err error) := rfl

@[simp] theorem program_panic : (panic : Fallible I ε α).program = .done .panic := rfl

theorem program_bind (first : Fallible I ε α) (next : α → Fallible I ε β) :
    (first >>= next).program = first.program.bind (resume next) := rfl

@[simp] theorem pure_bind (value : α) (next : α → Fallible I ε β) :
    (pure value >>= next : Fallible I ε β) = next value := rfl

@[simp] theorem throw_bind (error : ε) (next : α → Fallible I ε β) :
    (throw error >>= next : Fallible I ε β) = throw error := rfl

@[simp] theorem panic_bind (next : α → Fallible I ε β) : (panic >>= next : Fallible I ε β) = panic := rfl

theorem bind_assoc {γ : Type} (function : Fallible I ε α) (first : α → Fallible I ε β) (second : β → Fallible I ε γ) :
    (function >>= first) >>= second = function >>= fun value ↦ first value >>= second := by
  have hprogram : ((function >>= first) >>= second).program =
      (function >>= fun value ↦ first value >>= second).program := by
    rw [program_bind, program_bind, program_bind, Program.bind_assoc]
    congr 1
    funext outcome
    cases outcome <;> rfl
  exact congrArg Fallible.mk hprogram

/-- Every call is replaced by a program over another interface. -/
def translate {J : Interface} (implement : (request : I.Call) → Program J (I.Reply request))
    (function : Fallible I ε α) : Fallible J ε α :=
  ⟨function.program.translate implement⟩

theorem translate_bind {J : Interface} (implement : (request : I.Call) → Program J (I.Reply request))
    (first : Fallible I ε α) (next : α → Fallible I ε β) :
    (first >>= next).translate implement =
      first.translate implement >>= fun value ↦ (next value).translate implement := by
  apply congrArg Fallible.mk
  rw [program_bind, Program.translate_bind]
  congr 1
  funext outcome
  cases outcome <;> rfl

/-! ### Executions -/

variable {δ : Type} {program : Program I α}

section Executions

variable {step : Program.Answers I W} {world final : W}

/-- A sequence goes on with the value of its first part, or ends with its error or panic. -/
theorem exec_bind_iff {next : α → Fallible I ε β} {outcome : Outcome ε β} :
    Program.Exec step (first >>= next).program world outcome final ↔
      (∃ value middle, Program.Exec step first.program world (.ok value) middle ∧
        Program.Exec step (next value).program middle outcome final) ∨
      (∃ error, outcome = .err error ∧ Program.Exec step first.program world (.err error) final) ∨
      outcome = .panic ∧ Program.Exec step first.program world .panic final := by
  rw [program_bind, Program.exec_bind_iff]
  constructor
  · rintro ⟨result, middle, hfirst, hrest⟩
    cases result with
    | ok value => exact .inl ⟨value, middle, hfirst, hrest⟩
    | err error =>
      obtain ⟨rfl, rfl⟩ := exec_done_iff.mp hrest
      exact .inr (.inl ⟨error, rfl, hfirst⟩)
    | panic =>
      obtain ⟨rfl, rfl⟩ := exec_done_iff.mp hrest
      exact .inr (.inr ⟨rfl, hfirst⟩)
  · rintro (⟨value, middle, hfirst, hrest⟩ | ⟨error, rfl, hfirst⟩ | ⟨rfl, hfirst⟩)
    · exact ⟨.ok value, middle, hfirst, hrest⟩
    · exact ⟨.err error, final, hfirst, .done _ _⟩
    · exact ⟨.panic, final, hfirst, .done _ _⟩

/-- A sequence that returns a value has gone through all its parts. -/
theorem exec_bind_ok_iff {next : α → Fallible I ε β} {result : β} :
    Program.Exec step (first >>= next).program world (.ok result) final ↔
      ∃ value middle, Program.Exec step first.program world (.ok value) middle ∧
        Program.Exec step (next value).program middle (.ok result) final := by
  simp [exec_bind_iff]

@[simp] theorem exec_pure_iff :
    Program.Exec step (pure value : Fallible I ε α).program world outcome final ↔ outcome = .ok value ∧ final = world :=
  exec_done_iff

@[simp] theorem exec_throw_iff {error : ε} :
    Program.Exec step (throw error : Fallible I ε α).program world outcome final ↔
      outcome = .err error ∧ final = world :=
  exec_done_iff

@[simp] theorem exec_panic_iff :
    Program.Exec step (panic : Fallible I ε α).program world outcome final ↔ outcome = .panic ∧ final = world :=
  exec_done_iff

theorem exec_lift_iff : Program.Exec step (lift program : Fallible I ε α).program world outcome final ↔
      ∃ value, outcome = .ok value ∧ Program.Exec step program world value final := by
  rw [lift, Program.exec_bind_iff]
  constructor
  · rintro ⟨value, middle, hprogram, hrest⟩
    obtain ⟨rfl, rfl⟩ := exec_done_iff.mp hrest
    exact ⟨value, rfl, hprogram⟩
  · rintro ⟨value, rfl, hprogram⟩
    exact ⟨value, final, hprogram, .done _ _⟩

theorem exec_attempt_iff {wrap : δ → ε} {program : Program I (Except δ α)} :
    Program.Exec step (attempt wrap program).program world outcome final ↔
      ∃ reply, outcome = ofReply wrap reply ∧ Program.Exec step program world reply final := by
  rw [attempt, Program.exec_bind_iff]
  constructor
  · rintro ⟨reply, middle, hprogram, hrest⟩
    obtain ⟨rfl, rfl⟩ := exec_done_iff.mp hrest
    exact ⟨reply, rfl, hprogram⟩
  · rintro ⟨reply, rfl, hprogram⟩
    exact ⟨reply, final, hprogram, .done _ _⟩

theorem exec_handle_iff {outcome : Outcome ε (Except ε α)} :
    Program.Exec step function.handle.program world outcome final ↔
      ∃ inner, outcome = caught inner ∧ Program.Exec step function.program world inner final := by
  rw [handle, Program.exec_bind_iff]
  constructor
  · rintro ⟨inner, middle, hprogram, hrest⟩
    obtain ⟨rfl, rfl⟩ := exec_done_iff.mp hrest
    exact ⟨inner, rfl, hprogram⟩
  · rintro ⟨inner, rfl, hprogram⟩
    exact ⟨inner, final, hprogram, .done _ _⟩

theorem exec_handle_ok_iff : Program.Exec step function.handle.program world (.ok (.ok value)) final ↔
      Program.Exec step function.program world (.ok value) final := by
  rw [exec_handle_iff]
  constructor
  · rintro ⟨inner, hinner, hfunction⟩
    cases inner <;> cases hinner
    exact hfunction
  · intro hfunction
    exact ⟨_, rfl, hfunction⟩

theorem exec_handle_error_iff {error : ε} : Program.Exec step function.handle.program world (.ok (.error error)) final ↔
      Program.Exec step function.program world (.err error) final := by
  rw [exec_handle_iff]
  constructor
  · rintro ⟨inner, hinner, hfunction⟩
    cases inner <;> cases hinner
    exact hfunction
  · intro hfunction
    exact ⟨_, rfl, hfunction⟩

/-- The function has one execution from the world, with the given end. -/
def Exactly (step : Program.Answers I W) (function : Fallible I ε α) (world : W) (outcome : Outcome ε α) (final : W) :
    Prop :=
  function.program.Exactly step world outcome final

theorem exactly_pure (value : α) : (pure value : Fallible I ε α).Exactly step world (.ok value) world :=
  exactly_done _ world

theorem exactly_lift (h : program.Exactly step world value final) :
    (lift program : Fallible I ε α).Exactly step world (.ok value) final :=
  Program.Exactly.bind h (exactly_done _ final)

theorem exactly_attempt {wrap : δ → ε} {program : Program I (Except δ α)} {reply : Except δ α}
    (h : program.Exactly step world reply final) :
    (attempt wrap program).Exactly step world (ofReply wrap reply) final :=
  Program.Exactly.bind h (exactly_done _ final)

theorem Exactly.bind {next : α → Fallible I ε β} {middle : W} {outcome : Outcome ε β}
    (hfirst : first.Exactly step world (.ok value) middle) (hnext : (next value).Exactly step middle outcome final) :
    (first >>= next).Exactly step world outcome final :=
  Program.Exactly.bind hfirst hnext

theorem Exactly.bind_err {next : α → Fallible I ε β} {error : ε}
    (hfirst : first.Exactly step world (.err error) final) : (first >>= next).Exactly step world (.err error) final :=
  Program.Exactly.bind hfirst (exactly_done _ final)

theorem Exactly.bind_panic {next : α → Fallible I ε β} (hfirst : first.Exactly step world .panic final) :
    (first >>= next).Exactly step world .panic final :=
  Program.Exactly.bind hfirst (exactly_done _ final)

end Executions

/-! ### What a function returns -/

/-- The function returns a value with `post`; where it returns an error, `fail` holds, and where it panics, `crash`
does. -/
def Ends (M : Meaning I W) (fail crash : W → Prop) (function : Fallible I ε α)
    (post : α → W → Prop) (world : W) : Prop :=
  M.wp function.program (fun outcome final ↦ outcome.Ends (fail final) (crash final) (post · final)) world

/-- The function returns a value with `post`; where it returns an error or panics, `fail` holds. -/
abbrev Yields (M : Meaning I W) (fail : W → Prop) (function : Fallible I ε α) (post : α → W → Prop)
    (world : W) : Prop :=
  function.Ends M fail fail post world

section Rules

variable {M : Meaning I W} {fail crash : W → Prop} {world : W}

theorem ends_pure (h : post value world) : (pure value : Fallible I ε α).Ends M fail crash post world :=
  (M.wp_done _ _ _).mpr h

theorem ends_throw (error : ε) (h : fail world) : (throw error : Fallible I ε α).Ends M fail crash post world :=
  (M.wp_done _ _ _).mpr h

theorem ends_panic (h : crash world) : (panic : Fallible I ε α).Ends M fail crash post world := (M.wp_done _ _ _).mpr h

theorem Ends.bind {post : β → W → Prop} {next : α → Fallible I ε β} (hfirst : first.Ends M fail crash mid world)
    (hnext : ∀ value later, mid value later → (next value).Ends M fail crash post later) :
    (first >>= next).Ends M fail crash post world := by
  unfold Ends
  rw [program_bind, M.wp_bind]
  refine M.wp_mono hfirst fun outcome later houtcome ↦ ?_
  cases outcome with
  | ok value => exact hnext value later houtcome
  | err error => exact (M.wp_done _ _ _).mpr houtcome
  | panic => exact (M.wp_done _ _ _).mpr houtcome

theorem Ends.mono {crash' : W → Prop} {post' : α → W → Prop} (h : function.Ends M fail crash post world)
    (hfail : ∀ final, fail final → fail' final) (hcrash : ∀ final, crash final → crash' final)
    (hpost : ∀ value final, post value final → post' value final) : function.Ends M fail' crash' post' world :=
  M.wp_mono h fun _ final houtcome ↦ houtcome.mono (hfail final) (hcrash final) fun value ↦ hpost value final

/-- What the rules derive holds of every execution. -/
theorem Ends.exec {step : Program.Answers I W} (h : function.Ends (.sequential step) fail crash post world)
    (hexec : Program.Exec step function.program world outcome final) :
    outcome.Ends (fail final) (crash final) (post · final) :=
  (ensures_iff_exec _ _ _).mp h outcome final hexec

theorem ends_lift (h : M.wp program post world) : (lift program : Fallible I ε α).Ends M fail crash post world := by
  unfold Ends lift
  rw [M.wp_bind]
  exact M.wp_mono h fun _ _ hpost ↦ (M.wp_done _ _ _).mpr hpost

/-- A program followed by the rest of the function. -/
theorem ends_lift_bind {post : β → W → Prop} {next : α → Fallible I ε β}
    (h : M.wp program (fun value final ↦ (next value).Ends M fail crash post final) world) :
    (lift program >>= next).Ends M fail crash post world := by
  have hfirst : (lift program : Fallible I ε α).Ends M fail crash
      (fun value final ↦ (next value).Ends M fail crash post final) world := ends_lift h
  exact hfirst.bind fun _ _ hnext ↦ hnext

theorem ends_attempt {wrap : δ → ε} {program : Program I (Except δ α)}
    (h : M.wp program (fun reply final ↦ (ofReply wrap reply).Ends (fail final) (crash final) (post · final)) world) :
    (attempt wrap program).Ends M fail crash post world := by
  unfold Ends attempt
  rw [M.wp_bind]
  exact M.wp_mono h fun _ _ hreply ↦ (M.wp_done _ _ _).mpr hreply

/-- A call to a server whose answer is known. -/
theorem ends_attempt_run {serve : (request : I.Call) → W → I.Reply request × W} {wrap : δ → ε}
    {program : Program I (Except δ α)} {reply : Except δ α} (hrun : program.run serve world = (reply, final))
    (h : (ofReply wrap reply).Ends (fail final) (crash final) (post · final)) :
    (attempt wrap program).Ends (.deterministic serve) fail crash post world := by
  apply ends_attempt
  have hwp : (ofReply wrap (program.run serve world).1).Ends (fail (program.run serve world).2)
      (crash (program.run serve world).2) (post · (program.run serve world).2) := by
    rw [hrun]
    exact h
  exact hwp

/-- A function whose error is kept as a value can still panic. -/
theorem ends_handle {post : Except ε α → W → Prop}
    (h : function.Ends M (fun final ↦ ∀ error, post (.error error) final) crash (fun value ↦ post (.ok value)) world) :
    function.handle.Ends M fail crash post world := by
  unfold Ends handle
  rw [M.wp_bind]
  refine M.wp_mono h fun outcome final houtcome ↦ (M.wp_done _ _ _).mpr ?_
  cases outcome with
  | ok value => exact houtcome
  | err error => exact houtcome error
  | panic => exact houtcome

/-- What a result that was kept as a value satisfies. -/
def Kept (failed : Prop) (post : α → Prop) : Except ε α → Prop
  | .ok value => post value
  | .error _ => failed

/-- A kept error only says that the function has failed. -/
theorem ends_handle_kept {failed : W → Prop} (h : function.Ends M failed crash post world) :
    function.handle.Ends M fail crash (fun result final ↦ Kept (failed final) (post · final) result) world :=
  ends_handle (h.mono (fun _ hfailed _ ↦ hfailed) (fun _ hcrash ↦ hcrash) fun _ _ hpost ↦ hpost)

/-- The reply to a request whose errors are passed on as they are. -/
theorem yields_handle_attempt {post : Except ε α → W → Prop} {program : Program I (Except ε α)}
    (h : M.wp program post world) : (attempt id program).handle.Yields M fail post world := by
  unfold Yields Ends handle attempt
  rw [M.wp_bind, M.wp_bind]
  refine M.wp_mono h fun reply final hreply ↦ (M.wp_done _ _ _).mpr ((M.wp_done _ _ _).mpr ?_)
  cases reply <;> exact hreply

/-- A function that never returns a value decides how the whole ends. -/
theorem Yields.bind_never {post : β → W → Prop} {next : α → Fallible I ε β}
    (hfirst : first.Yields M fail (fun _ _ ↦ False) world) : (first >>= next).Yields M fail post world :=
  hfirst.bind fun _ _ hnever ↦ hnever.elim

theorem Yields.mono {post' : α → W → Prop} (h : function.Yields M fail post world)
    (hfail : ∀ final, fail final → fail' final) (hpost : ∀ value final, post value final → post' value final) :
    function.Yields M fail' post' world :=
  Ends.mono h hfail hfail hpost

/-- Weaken only what is said of the value. -/
theorem Yields.imp {post' : α → W → Prop} (h : function.Yields M fail post world)
    (hpost : ∀ value final, post value final → post' value final) : function.Yields M fail post' world :=
  h.mono (fun _ h ↦ h) hpost

theorem yields_handle {post : Except ε α → W → Prop}
    (h : function.Yields M (fun final ↦ (∀ error, post (.error error) final) ∧ fail final)
      (fun value ↦ post (.ok value)) world) :
    function.handle.Yields M fail post world := by
  have hends : function.Ends M (fun final ↦ ∀ error, post (.error error) final) fail
      (fun value ↦ post (.ok value)) world :=
    Ends.mono h (fun _ hfail ↦ hfail.1) (fun _ hfail ↦ hfail.2) fun _ _ hpost ↦ hpost
  exact ends_handle hends

theorem yields_handle_kept {failed : W → Prop} (h : function.Yields M failed post world)
    (hfail : ∀ final, failed final → fail final) :
    function.handle.Yields M fail (fun result final ↦ Kept (failed final) (post · final) result) world :=
  ends_handle_kept (Ends.mono h (fun _ hfailed ↦ hfailed) hfail fun _ _ hpost ↦ hpost)

theorem yields_ofOption {value : Option α} (hsome : ∀ inner, value = some inner → post inner world)
    (hnone : value = none → fail world) : (ofOption value : Fallible I ε α).Yields M fail post world := by
  cases value with
  | some inner => exact ends_pure (hsome inner rfl)
  | none => exact ends_panic (hnone rfl)

end Rules

/-- Whatever the replies are, only allowed calls are made and a value that is returned satisfies `post`. -/
def Returns (allowed : I.Call → Prop) (function : Fallible I ε α) (post : α → Prop) : Prop :=
  function.Yields (.arbitrary allowed) (fun _ ↦ True) (fun value _ ↦ post value) ()

theorem Returns.mono {allowed' : I.Call → Prop} {post : α → Prop} (h : function.Returns allowed post)
    (hallowed : ∀ request, allowed request → allowed' request) (hpost : ∀ value, post value → post' value) :
    function.Returns allowed' post' :=
  Program.All.mono h hallowed fun _ houtcome ↦ houtcome.mono (fun h ↦ h) (fun h ↦ h) hpost

/-- A function that makes only silent calls ends as it does for arbitrary replies, and only interference changes the
world. -/
theorem Ends.silent {C : Contract I W} {fails crashes : Prop} {fail : W → Prop}
    (h : function.Ends (.arbitrary C.Silent) (fun _ ↦ fails) (fun _ ↦ crashes) (fun value _ ↦ valid value) ())
    (hinv : C.inv world) (hpost : ∀ value later, C.rely world later → C.inv later → valid value → post value later)
    (hfail : ∀ later, C.rely world later → C.inv later → fails → fail later)
    (hcrash : ∀ later, C.rely world later → C.inv later → crashes → crash later) :
    function.Ends C.meaning fail crash post world := by
  apply Contract.safe_of_all h hinv
  intro outcome later hrely hlater houtcome
  cases outcome with
  | ok value => exact hpost value later hrely hlater houtcome
  | err error => exact hfail later hrely hlater houtcome
  | panic => exact hcrash later hrely hlater houtcome

/-- A function that makes only calls which leave a world alone leaves it alone. -/
theorem Returns.yields {step : Program.Answers I W} {fail : W → Prop} (h : function.Returns allowed valid)
    (hframe : ∀ request, allowed request → ∀ world reply world', step request world reply world' → world' = world)
    (hfail : fail world) :
    function.Yields (.sequential step) fail (fun value final ↦ valid value ∧ final = world) world := by
  apply (Program.All.ensures h hframe world).mono
  intro outcome final hfinal
  rw [hfinal.2]
  exact hfinal.1.mono (fun _ ↦ hfail) (fun _ ↦ hfail) fun value hvalue ↦ ⟨hvalue, rfl⟩

/-- What the calls of a function keep holds wherever the function returns a value. -/
theorem Yields.keeps {step : Program.Answers I W} {fail : W → Prop}
    (h : function.Yields (.sequential step) fail post world) (hreturns : function.Returns allowed valid)
    (hkeep : step.Keep allowed inv) (hinv : inv world) :
    function.Yields (.sequential step) fail (fun value final ↦ post value final ∧ inv final) world := by
  apply (Program.Ensures.and h (Program.All.keeps hreturns hkeep hinv)).mono
  intro outcome final hfinal
  cases outcome with
  | ok value => exact ⟨hfinal.1, hfinal.2.2⟩
  | err error => exact hfinal.1
  | panic => exact hfinal.1

/-- What a function returns against a part of the world, it returns against the whole. -/
theorem Yields.view {V : Type} {step : Program.Answers I W} {part : Program.Answers I V} (view : W → V)
    (hview : ∀ request world reply world', step request world reply world' →
      part request (view world) reply (view world'))
    {fail : V → Prop} {post : α → V → Prop} {function : Fallible I ε α} {world : W}
    (h : function.Yields (.sequential part) fail post (view world)) :
    function.Yields (.sequential step) (fun final ↦ fail (view final))
      (fun value final ↦ post value (view final)) world :=
  Program.Ensures.view view hview h

end Fallible

/-! ## Methods -/

/-- A fallible program with a receiver. -/
structure Method (I : Interface) (ε σ α : Type) where
  on : σ → Program I (Outcome ε α × σ)

variable {method : Method I ε σ α}

namespace Method

/-- What follows a method. -/
def resume (next : α → Method I ε σ β) : Outcome ε α × σ → Program I (Outcome ε β × σ)
  | (.ok value, state) => (next value).on state
  | (.err error, state) => .done (.err error, state)
  | (.panic, state) => .done (.panic, state)

instance : Monad (Method I ε σ) where
  pure value := ⟨fun state ↦ .done (.ok value, state)⟩
  bind first next := ⟨fun state ↦ (first.on state).bind (resume next)⟩

def get : Method I ε σ σ := ⟨fun state ↦ .done (.ok state, state)⟩

def modify (change : σ → σ) : Method I ε σ Unit := ⟨fun state ↦ .done (.ok (), change state)⟩

def throw (error : ε) : Method I ε σ α := ⟨fun state ↦ .done (.err error, state)⟩

/-- A function that does not touch the receiver. -/
def lift (function : Fallible I ε α) : Method I ε σ α :=
  ⟨fun state ↦ function.program.bind fun outcome ↦ .done (outcome, state)⟩

/-- The outcome of a method with its error kept as a value beside the final receiver. -/
def finished : Outcome ε α × σ → Outcome ε (Except ε α × σ)
  | (.ok value, state) => .ok (.ok value, state)
  | (.err error, state) => .ok (.error error, state)
  | (.panic, _) => .panic

/-- Call a method from a function that owns the receiver. -/
def finish (method : Method I ε σ α) (state : σ) : Fallible I ε (Except ε α × σ) :=
  ⟨(method.on state).bind fun result ↦ .done (finished result)⟩

theorem on_bind (first : Method I ε σ α) (next : α → Method I ε σ β) (state : σ) :
    (first >>= next).on state = (first.on state).bind (resume next) := rfl

@[simp] theorem on_pure (value : α) (state : σ) :
    (pure value : Method I ε σ α).on state = .done (.ok value, state) := rfl

@[simp] theorem on_throw (error : ε) (state : σ) :
    (throw error : Method I ε σ α).on state = .done (.err error, state) := rfl

@[simp] theorem on_modify (change : σ → σ) (state : σ) :
    (modify change : Method I ε σ Unit).on state = .done (.ok (), change state) := rfl

@[simp] theorem on_get_bind (next : σ → Method I ε σ β) (state : σ) :
    (get >>= next).on state = (next state).on state := rfl

@[simp] theorem on_modify_bind (change : σ → σ) (next : Unit → Method I ε σ β) (state : σ) :
    (modify change >>= next).on state = (next ()).on (change state) := rfl

@[simp] theorem on_pure_bind (value : α) (next : α → Method I ε σ β) (state : σ) :
    (pure value >>= next : Method I ε σ β).on state = (next value).on state := rfl

/-- A call of the method after which nothing looks at the receiver. -/
def invoke (method : Method I ε σ α) (state : σ) : Fallible I ε α :=
  ⟨(method.on state).bind fun result ↦ .done result.1⟩

@[simp] theorem invoke_get_bind (next : σ → Method I ε σ β) (state : σ) :
    (get >>= next).invoke state = (next state).invoke state := rfl

@[simp] theorem invoke_modify_bind (change : σ → σ) (next : Unit → Method I ε σ β) (state : σ) :
    (modify change >>= next).invoke state = (next ()).invoke (change state) := rfl

@[simp] theorem invoke_lift (function : Fallible I ε α) (state : σ) : (lift function).invoke state = function := by
  have hprogram : ((lift function : Method I ε σ α).invoke state).program = function.program := by
    unfold invoke lift
    rw [Program.bind_assoc]
    exact Program.bind_done function.program
  exact congrArg Fallible.mk hprogram

@[simp] theorem invoke_lift_bind (function : Fallible I ε α) (next : α → Method I ε σ β) (state : σ) :
    (lift function >>= next).invoke state = function >>= fun value ↦ (next value).invoke state := by
  have hprogram : ((lift function >>= next).invoke state).program =
      (function >>= fun value ↦ (next value).invoke state).program := by
    change ((function.program.bind fun outcome ↦ .done (outcome, state)).bind (resume next)).bind
        (fun result ↦ .done result.1) =
      function.program.bind (Fallible.resume fun value ↦ (next value).invoke state)
    rw [Program.bind_assoc, Program.bind_assoc]
    congr 1
    funext outcome
    cases outcome <;> rfl
  exact congrArg Fallible.mk hprogram

/-! ### Executions -/

section Executions

variable {step : Program.Answers I W} {world final : W} {state : σ}

/-- A sequence goes on with the value and the receiver of its first part, or ends as that part does. -/
theorem exec_bind_iff {first : Method I ε σ α} {next : α → Method I ε σ β} {result : Outcome ε β × σ} :
    Program.Exec step ((first >>= next).on state) world result final ↔
      (∃ value later middle, Program.Exec step (first.on state) world (.ok value, later) middle ∧
        Program.Exec step ((next value).on later) middle result final) ∨
      (∃ error later, result = (.err error, later) ∧
        Program.Exec step (first.on state) world (.err error, later) final) ∨
      ∃ later, result = (.panic, later) ∧ Program.Exec step (first.on state) world (.panic, later) final := by
  rw [on_bind, Program.exec_bind_iff]
  constructor
  · rintro ⟨⟨outcome, later⟩, middle, hfirst, hrest⟩
    cases outcome with
    | ok value => exact .inl ⟨value, later, middle, hfirst, hrest⟩
    | err error =>
      obtain ⟨rfl, rfl⟩ := exec_done_iff.mp hrest
      exact .inr (.inl ⟨error, later, rfl, hfirst⟩)
    | panic =>
      obtain ⟨rfl, rfl⟩ := exec_done_iff.mp hrest
      exact .inr (.inr ⟨later, rfl, hfirst⟩)
  · rintro (⟨value, later, middle, hfirst, hrest⟩ | ⟨error, later, rfl, hfirst⟩ | ⟨later, rfl, hfirst⟩)
    · exact ⟨_, middle, hfirst, hrest⟩
    · exact ⟨_, final, hfirst, .done _ _⟩
    · exact ⟨_, final, hfirst, .done _ _⟩

theorem exec_lift_iff {result : Outcome ε α × σ} : Program.Exec step ((lift function).on state) world result final ↔
      result.2 = state ∧ Program.Exec step function.program world result.1 final := by
  rw [lift, Program.exec_bind_iff]
  constructor
  · rintro ⟨outcome, middle, hfunction, hrest⟩
    obtain ⟨rfl, rfl⟩ := exec_done_iff.mp hrest
    exact ⟨rfl, hfunction⟩
  · rintro ⟨hstate, hfunction⟩
    rw [← hstate]
    exact ⟨result.1, final, hfunction, .done _ _⟩

theorem exec_finish_iff {outcome : Outcome ε (Except ε α × σ)} :
    Program.Exec step (method.finish state).program world outcome final ↔
      ∃ result, outcome = finished result ∧ Program.Exec step (method.on state) world result final := by
  rw [finish, Program.exec_bind_iff]
  constructor
  · rintro ⟨result, middle, hmethod, hrest⟩
    obtain ⟨rfl, rfl⟩ := exec_done_iff.mp hrest
    exact ⟨result, rfl, hmethod⟩
  · rintro ⟨result, rfl, hmethod⟩
    exact ⟨result, final, hmethod, .done _ _⟩

/-- What a function that owns the receiver gets from the method and reads off the receiver. -/
theorem exec_finish_read_iff {γ : Type} {read : σ → γ} {result : Except ε α} {value : γ} : Program.Exec step
        (method.finish state >>= fun (r : Except ε α × σ) ↦ pure (r.1, read r.2)).program world
        (.ok (result, value)) final ↔
      ∃ later, value = read later ∧
        Program.Exec step (method.on state) world (Fallible.ofReply id result, later) final := by
  rw [Fallible.exec_bind_ok_iff]
  constructor
  · rintro ⟨⟨returned, later⟩, middle, hfinish, hread⟩
    obtain ⟨hresult, rfl⟩ := Fallible.exec_pure_iff.mp hread
    simp only [Outcome.ok.injEq, Prod.mk.injEq] at hresult
    obtain ⟨⟨outcome, reached⟩, houtcome, hmethod⟩ := exec_finish_iff.mp hfinish
    refine ⟨later, hresult.2, ?_⟩
    rw [hresult.1]
    cases outcome with
    | ok _ => cases houtcome; exact hmethod
    | err _ => cases houtcome; exact hmethod
    | panic => cases houtcome
  · rintro ⟨later, hvalue, hmethod⟩
    refine ⟨(result, later), final, exec_finish_iff.mpr ⟨_, ?_, hmethod⟩, ?_⟩
    · cases result <;> rfl
    · rw [hvalue]
      exact Fallible.exec_pure_iff.mpr ⟨rfl, rfl⟩

end Executions

/-- A phase, and another one unless a flag is set. -/
def thenUnless (flag : σ → Bool) (phase : Method I ε σ Unit) (next : Method I ε σ Bool) : Method I ε σ Bool := do
  phase
  let state ← get
  if flag state then pure false else next

/-- The method returns a value and leaves a receiver with `post`; where it returns an error, `fail` holds, and where
it panics, `crash` does. -/
def Ends (M : Meaning I W) (fail crash : W → Prop) (method : Method I ε σ α) (post : α → σ → W → Prop)
    (state : σ) (world : W) : Prop :=
  M.wp (method.on state) (fun result final ↦ result.1.Ends (fail final) (crash final) (post · result.2 final)) world

/-- The method returns a value and leaves a receiver with `post`; where it returns an error or panics, `fail` holds.
-/
abbrev Yields (M : Meaning I W) (fail : W → Prop) (method : Method I ε σ α) (post : α → σ → W → Prop)
    (state : σ) (world : W) : Prop :=
  method.Ends M fail fail post state world

section Rules

variable {M : Meaning I W} {fail crash : W → Prop} {state : σ} {world : W}

theorem ends_pure {post : α → σ → W → Prop} (h : post value state world) :
    (pure value : Method I ε σ α).Ends M fail crash post state world :=
  (M.wp_done _ _ _).mpr h

theorem ends_throw {post : α → σ → W → Prop} (error : ε) (h : fail world) :
    (throw error : Method I ε σ α).Ends M fail crash post state world :=
  (M.wp_done _ _ _).mpr h

theorem ends_modify {post : Unit → σ → W → Prop} {change : σ → σ} (h : post () (change state) world) :
    (modify change : Method I ε σ Unit).Ends M fail crash post state world :=
  (M.wp_done _ _ _).mpr h

theorem Ends.bind {mid : α → σ → W → Prop} {post : β → σ → W → Prop} {first : Method I ε σ α}
    {next : α → Method I ε σ β} (hfirst : first.Ends M fail crash mid state world)
    (hnext : ∀ value later final, mid value later final → (next value).Ends M fail crash post later final) :
    (first >>= next).Ends M fail crash post state world := by
  unfold Ends
  rw [on_bind, M.wp_bind]
  refine M.wp_mono hfirst fun result final hresult ↦ ?_
  obtain ⟨outcome, later⟩ := result
  cases outcome with
  | ok value => exact hnext value later final hresult
  | err error => exact (M.wp_done _ _ _).mpr hresult
  | panic => exact (M.wp_done _ _ _).mpr hresult

/-- What the rules derive holds of every execution. -/
theorem Ends.exec {step : Program.Answers I W} {post : α → σ → W → Prop}
    (h : method.Ends (.sequential step) fail crash post state world) {result : Outcome ε α × σ}
    (hexec : Program.Exec step (method.on state) world result final) :
    result.1.Ends (fail final) (crash final) (post · result.2 final) :=
  (ensures_iff_exec _ _ _).mp h result final hexec

theorem ends_get_bind {post : α → σ → W → Prop} {next : σ → Method I ε σ α}
    (h : (next state).Ends M fail crash post state world) : (get >>= next).Ends M fail crash post state world := h

theorem ends_modify_bind {post : α → σ → W → Prop} {change : σ → σ} {next : Unit → Method I ε σ α}
    (h : (next ()).Ends M fail crash post (change state) world) :
    (modify change >>= next).Ends M fail crash post state world := h

theorem ends_some_bind {post : β → σ → W → Prop} {next : α → Method I ε σ β}
    (h : (next value).Ends M fail crash post state world) :
    (lift (Fallible.ofOption (some value)) >>= next).Ends M fail crash post state world := h

theorem Ends.mono {crash' : W → Prop} {post post' : α → σ → W → Prop} (h : method.Ends M fail crash post state world)
    (hfail : ∀ final, fail final → fail' final) (hcrash : ∀ final, crash final → crash' final)
    (hpost : ∀ value later final, post value later final → post' value later final) :
    method.Ends M fail' crash' post' state world :=
  M.wp_mono h fun result final hresult ↦
    hresult.mono (hfail final) (hcrash final) fun value ↦ hpost value result.2 final

theorem ends_lift {post : α → σ → W → Prop}
    (h : function.Ends M fail crash (fun value final ↦ post value state final) world) :
    (lift function : Method I ε σ α).Ends M fail crash post state world := by
  unfold Ends lift
  rw [M.wp_bind]
  exact M.wp_mono h fun _ _ hpost ↦ (M.wp_done _ _ _).mpr hpost

/-- A function of the receiver followed by the rest of the method. -/
theorem ends_lift_bind {post : β → σ → W → Prop} {next : α → Method I ε σ β} (h : function.Ends M fail crash mid world)
    (hnext : ∀ value final, mid value final → (next value).Ends M fail crash post state final) :
    (lift function >>= next).Ends M fail crash post state world := by
  have hfirst : (lift function : Method I ε σ α).Ends M fail crash
      (fun value later final ↦ mid value final ∧ later = state) state world :=
    ends_lift (h.mono (fun _ hfail ↦ hfail) (fun _ hcrash ↦ hcrash) fun _ _ hmid ↦ ⟨hmid, rfl⟩)
  refine hfirst.bind fun value later final hmid ↦ ?_
  rw [hmid.2]
  exact hnext value final hmid.1

theorem yields_get {post : σ → σ → W → Prop} (h : post state state world) :
    (get : Method I ε σ σ).Yields M fail post state world :=
  (M.wp_done _ _ _).mpr h

theorem Yields.mono {post post' : α → σ → W → Prop} (h : method.Yields M fail post state world)
    (hfail : ∀ final, fail final → fail' final)
    (hpost : ∀ value later final, post value later final → post' value later final) :
    method.Yields M fail' post' state world :=
  Ends.mono h hfail hfail hpost

/-- Weaken only what is said of the value and the receiver. -/
theorem Yields.imp {post post' : α → σ → W → Prop} (h : method.Yields M fail post state world)
    (hpost : ∀ value later final, post value later final → post' value later final) :
    method.Yields M fail post' state world :=
  h.mono (fun _ h ↦ h) hpost

theorem yields_invoke (h : method.Yields M fail (fun value _ ↦ post value) state world) :
    (method.invoke state).Yields M fail post world := by
  unfold Fallible.Yields Fallible.Ends invoke
  rw [M.wp_bind]
  exact M.wp_mono h fun _ _ hresult ↦ (M.wp_done _ _ _).mpr hresult

theorem yields_finish {post : Except ε α × σ → W → Prop}
    (h : M.wp (method.on state) (fun result final ↦ match result with
      | (.ok value, later) => post (.ok value, later) final
      | (.err error, later) => post (.error error, later) final
      | (.panic, _) => fail final) world) :
    (method.finish state).Yields M fail post world := by
  unfold Fallible.Yields Fallible.Ends finish
  rw [M.wp_bind]
  refine M.wp_mono h fun result final hresult ↦ (M.wp_done _ _ _).mpr ?_
  obtain ⟨outcome, later⟩ := result
  cases outcome with
  | ok value => exact hresult
  | err error => exact hresult
  | panic => exact hresult

/-- What is known of a method is known of its result when the error is kept as a value. -/
theorem Yields.finish {post : α → σ → W → Prop} (h : method.Yields M fail post state world) :
    (method.finish state).Yields M fail (fun result final ↦ match result.1 with
      | .ok value => post value result.2 final
      | .error _ => fail final) world := by
  apply yields_finish
  apply M.wp_mono h
  intro result final hresult
  obtain ⟨outcome, later⟩ := result
  cases outcome <;> exact hresult

end Rules

end Method

/-! ## Loops -/

/-- `for _, item := range items { body }`, where the body may return early with an error. -/
def forEach {m : Type → Type} [Monad m] (body : α → m Unit) : List α → m Unit
  | [] => pure ()
  | item :: items => do
    body item
    forEach body items

/-- A loop that replaces every element by what the body makes of it. -/
def mapEach {m : Type → Type} [Monad m] (body : α → m β) : List α → m (List β)
  | [] => pure []
  | item :: items => do
    let image ← body item
    let images ← mapEach body items
    pure (image :: images)

variable {m : Type → Type}

@[simp] theorem forEach_nil [Monad m] (body : α → m Unit) : forEach body [] = pure () := rfl

theorem forEach_cons [Monad m] (body : α → m Unit) (item : α) (items : List α) :
    forEach body (item :: items) = (do body item; forEach body items) := rfl

@[simp] theorem mapEach_nil [Monad m] (body : α → m β) : mapEach body [] = pure [] := rfl

theorem mapEach_cons [Monad m] (body : α → m β) (item : α) (items : List α) : mapEach body (item :: items) =
      (do let image ← body item; let images ← mapEach body items; pure (image :: images)) := rfl

variable {items : List α}

theorem mapEach_congr [Monad m] {body body' : α → m β} (h : ∀ item ∈ items, body item = body' item) :
    mapEach body items = mapEach body' items := by
  induction items with
  | nil => rfl
  | cons item items ih =>
    obtain ⟨hitem, hitems⟩ := List.forall_mem_cons.mp h
    rw [mapEach_cons, mapEach_cons, hitem, ih hitems]

theorem Fallible.forEach_append (body : α → Fallible I ε Unit) (first second : List α) :
    forEach body (first ++ second) = (do forEach body first; forEach body second) := by
  induction first with
  | nil => rfl
  | cons item items ih =>
    rw [List.cons_append, forEach_cons, forEach_cons, ih, Fallible.bind_assoc]

/-- A loop over lists of lists. -/
theorem Fallible.forEach_flatten (body : α → Fallible I ε Unit) (lists : List (List α)) :
    forEach (forEach body) lists = forEach body lists.flatten := by
  induction lists with
  | nil => rfl
  | cons items lists ih =>
    rw [forEach_cons, List.flatten_cons, Fallible.forEach_append, ih]

variable {body : α → Fallible I ε Unit}

/-- A loop that does nothing. -/
theorem Fallible.forEach_eq_pure (h : ∀ item ∈ items, body item = pure ()) : forEach body items = pure () := by
  induction items with
  | nil => rfl
  | cons item items ih =>
    rw [forEach_cons, h item List.mem_cons_self, Fallible.pure_bind]
    exact ih fun later hlater ↦ h later (List.mem_cons_of_mem item hlater)

/-! ### Loop rules

The invariant of a loop speaks of the elements that are done. -/

variable {related : α → β → Prop}

namespace Fallible

variable {M : Meaning I W} {fail crash : W → Prop}

theorem ends_forEach_from (inv : List α → W → Prop) (finished remaining : List α) (hinv : inv finished world)
    (hbody : ∀ front item back world, finished ++ remaining = front ++ item :: back → inv front world →
      (body item).Ends M fail crash (fun _ ↦ inv (front ++ [item])) world) :
    (forEach body remaining).Ends M fail crash (fun _ ↦ inv (finished ++ remaining)) world := by
  induction remaining generalizing finished world with
  | nil =>
    rw [List.append_nil]
    exact ends_pure hinv
  | cons item remaining ih =>
    refine Ends.bind (hbody finished item remaining world rfl hinv) fun _ later hlater ↦ ?_
    have hsplit : finished ++ item :: remaining = (finished ++ [item]) ++ remaining := by simp
    rw [hsplit] at hbody ⊢
    exact ih (finished ++ [item]) hlater hbody

/-- An invariant that counts the turns of the loop. -/
theorem ends_forEach_index (inv : ℕ → W → Prop) (hinv : inv 0 world)
    (hbody : ∀ index item, items[index]? = some item → ∀ world, inv index world →
      (body item).Ends M fail crash (fun _ ↦ inv (index + 1)) world) :
    (forEach body items).Ends M fail crash (fun _ ↦ inv items.length) world := by
  refine ends_forEach_from (fun front ↦ inv front.length) [] items hinv fun front item back world hitems hworld ↦ ?_
  rw [List.length_append, List.length_singleton]
  refine hbody front.length item ?_ world hworld
  rw [List.nil_append] at hitems
  rw [hitems, List.getElem?_append_right (Nat.le_refl _), Nat.sub_self]
  rfl

/-- An invariant that every turn of the loop keeps. -/
theorem ends_forEach_const (inv : W → Prop) (hinv : inv world)
    (hbody : ∀ item ∈ items, ∀ world, inv world → (body item).Ends M fail crash (fun _ ↦ inv) world) :
    (forEach body items).Ends M fail crash (fun _ ↦ inv) world :=
  ends_forEach_index (fun _ ↦ inv) hinv fun _ item hitem ↦ hbody item (List.mem_of_getElem? hitem)

/-- An invariant that each turn of the loop extends by its element. -/
theorem yields_forEach (inv : List α → W → Prop) (hinv : inv [] world)
    (hbody : ∀ front item back world, items = front ++ item :: back → inv front world →
      (body item).Yields M fail (fun _ ↦ inv (front ++ [item])) world) :
    (forEach body items).Yields M fail (fun _ ↦ inv items) world :=
  ends_forEach_from inv [] items hinv hbody

/-- An invariant that every turn of a loop with results keeps. -/
theorem ends_mapEach_const {body : α → Fallible I ε β} (inv : W → Prop) (hinv : inv world)
    (hbody : ∀ item ∈ items, ∀ world, inv world → (body item).Ends M fail crash (fun _ ↦ inv) world) :
    (mapEach body items).Ends M fail crash (fun _ ↦ inv) world := by
  induction items generalizing world with
  | nil => exact ends_pure hinv
  | cons item items ih =>
    refine Ends.bind (hbody item List.mem_cons_self world hinv) fun image later hlater ↦ ?_
    refine Ends.bind (ih hlater fun next hnext ↦ hbody next (List.mem_cons_of_mem item hnext))
      fun images final hfinal ↦ ?_
    exact ends_pure hfinal

/-- An invariant of the images so far, whose number says which element is next. -/
theorem yields_mapEach_index {body : α → Fallible I ε β} (inv : List β → W → Prop) (hinv : inv [] world)
    (hbody : ∀ images item, items[images.length]? = some item → ∀ world, inv images world →
      (body item).Yields M fail (fun image ↦ inv (images ++ [image])) world) :
    (mapEach body items).Yields M fail (fun images final ↦ images.length = items.length ∧ inv images final) world := by
  have hfrom (remaining : List α) (images : List β) (world : W)
      (hitems : ∀ index, items[images.length + index]? = remaining[index]?)
      (hinv : inv images world) :
      (mapEach body remaining).Yields M fail (fun more final ↦
        more.length = remaining.length ∧ inv (images ++ more) final) world := by
    induction remaining generalizing images world with
    | nil =>
      rw [mapEach_nil]
      apply ends_pure
      rw [List.append_nil]
      exact ⟨rfl, hinv⟩
    | cons item remaining ih =>
      apply (hbody images item (hitems 0) world hinv).bind
      intro image later hlater
      have hnext : ∀ index, items[(images ++ [image]).length + index]? = remaining[index]? := by
        intro index
        rw [List.length_append, List.length_singleton, Nat.add_assoc, hitems (1 + index),
          Nat.add_comm 1 index, List.getElem?_cons_succ]
      apply (ih (images ++ [image]) later hnext hlater).bind
      intro more final hmore
      apply ends_pure
      rw [List.append_assoc, List.singleton_append] at hmore
      exact ⟨congrArg (· + 1) hmore.1, hmore.2⟩
  exact hfrom items [] world (fun index ↦ by rw [List.length_nil, Nat.zero_add]) hinv

/-- Each element is related to its image, and the relation survives the later turns. -/
theorem yields_mapEach {body : α → Fallible I ε β} (hinv : inv world)
    (hbody : ∀ item ∈ items, ∀ world, inv world → (body item).Yields M fail
      (fun image final ↦ related item image ∧ inv final) world) :
    (mapEach body items).Yields M fail (fun images final ↦ List.Forall₂ related items images ∧ inv final) world := by
  induction items generalizing world with
  | nil => exact ends_pure ⟨.nil, hinv⟩
  | cons item items ih =>
    refine Ends.bind (hbody item List.mem_cons_self world hinv) fun image later himage ↦ ?_
    refine Ends.bind (ih himage.2 fun next hnext ↦ hbody next (List.mem_cons_of_mem item hnext))
      fun images final himages ↦ ?_
    exact ends_pure ⟨.cons himage.1 himages.1, himages.2⟩

/-- Each element is related to its image. -/
theorem returns_mapEach {body : α → Fallible I ε β}
    (hbody : ∀ item ∈ items, (body item).Returns allowed (related item)) :
    (mapEach body items).Returns allowed fun images ↦ List.Forall₂ related items images := by
  have hloop : (mapEach body items).Yields (.arbitrary allowed) (fun _ ↦ True)
      (fun images _ ↦ List.Forall₂ related items images ∧ True) () := by
    refine yields_mapEach trivial fun item hitem _ _ ↦ ?_
    exact (hbody item hitem).imp fun image _ himage ↦ ⟨himage, trivial⟩
  exact hloop.imp fun images _ himages ↦ himages.1

theorem eq_map_of_forall₂ {image : α → β} {results : List β}
    (h : List.Forall₂ (fun item result ↦ result = image item) items results) : results = items.map image := by
  induction h with
  | nil => rfl
  | cons hfirst _ ih => rw [hfirst, ih, List.map_cons]

/-- A loop that gives each element its image and keeps an invariant. -/
theorem yields_mapEach_image {body : α → Fallible I ε β} (image : α → β) (inv : W → Prop) (hinv : inv world)
    (hbody : ∀ item ∈ items, ∀ world, inv world → (body item).Yields M fail
      (fun result final ↦ result = image item ∧ inv final) world) :
    (mapEach body items).Yields M fail (fun results final ↦ results = items.map image ∧ inv final) world :=
  (yields_mapEach hinv hbody).imp fun _ _ hresults ↦ ⟨eq_map_of_forall₂ hresults.1, hresults.2⟩

/-- A loop whose body changes nothing and gives each element its image. -/
theorem yields_mapEach_eq {body : α → Fallible I ε β} (image : α → β)
    (hbody : ∀ item ∈ items, (body item).Yields M fail (fun result final ↦ result = image item ∧ final = world) world) :
    (mapEach body items).Yields M fail (fun results final ↦ results = items.map image ∧ final = world) world :=
  yields_mapEach_image image (· = world) rfl fun item hitem _ hcurrent ↦ hcurrent ▸ hbody item hitem

end Fallible

variable {state : σ}

namespace Method

variable {M : Meaning I W} {fail : W → Prop}

/-- An invariant of the receiver and the world that every turn of the loop keeps. -/
theorem yields_forEach {body : α → Method I ε σ Unit} {inv : σ → W → Prop} (hinv : inv state world)
    (hbody : ∀ item ∈ items, ∀ state world, inv state world → (body item).Yields M fail (fun _ ↦ inv) state world) :
    (forEach body items).Yields M fail (fun _ ↦ inv) state world := by
  induction items generalizing state world with
  | nil => exact ends_pure hinv
  | cons item items ih =>
    refine Ends.bind (hbody item List.mem_cons_self state world hinv) fun _ later final hlater ↦ ?_
    exact ih hlater fun next hnext ↦ hbody next (List.mem_cons_of_mem item hnext)

/-- An invariant that speaks of the items which are finished. -/
theorem yields_forEach_from {body : α → Method I ε σ Unit} (inv : List α → σ → W → Prop) (finished remaining : List α)
    (hinv : inv finished state world)
    (hbody : ∀ front item state world, inv front state world →
      (body item).Yields M fail (fun _ ↦ inv (front ++ [item])) state world) :
    (forEach body remaining).Yields M fail (fun _ ↦ inv (finished ++ remaining)) state world := by
  induction remaining generalizing finished state world with
  | nil =>
    rw [List.append_nil]
    exact ends_pure hinv
  | cons item remaining ih =>
    refine Ends.bind (hbody finished item state world hinv) fun _ later final hlater ↦ ?_
    have hsplit : finished ++ item :: remaining = (finished ++ [item]) ++ remaining := by simp
    rw [hsplit]
    exact ih (finished ++ [item]) hlater

/-- Every turn of the loop does its part, keeps an invariant and only brings the world forward; what is done stays
done. -/
theorem ends_mapEach_done {crash : W → Prop} {body : α → Method I ε σ β} {items : List α}
    (part : α → W → Prop) (inv : σ → W → Prop) (forward : W → W → Prop) (hrefl : ∀ world, forward world world)
    (htrans : ∀ {first second third}, forward first second → forward second third → forward first third)
    (hstays : ∀ {item before after}, forward before after → part item before → part item after)
    {state : σ} {world : W} (hinv : inv state world)
    (hbody : ∀ item ∈ items, ∀ state world, inv state world →
      (body item).Ends M fail crash (fun _ later final ↦ part item final ∧ inv later final ∧
        forward world final) state world) :
    (mapEach body items).Ends M fail crash (fun _ later final ↦
      (∀ item ∈ items, part item final) ∧ inv later final ∧ forward world final) state world := by
  induction items generalizing state world with
  | nil => exact ends_pure ⟨by simp, hinv, hrefl world⟩
  | cons item items ih =>
    refine Ends.bind (hbody item List.mem_cons_self state world hinv) fun image later final hitem ↦ ?_
    refine Ends.bind (ih hitem.2.1 fun next hnext ↦ hbody next (List.mem_cons_of_mem item hnext))
      fun images last done hitems ↦ ?_
    refine ends_pure ⟨?_, hitems.2.1, htrans hitem.2.2 hitems.2.2⟩
    exact List.forall_mem_cons.mpr ⟨hstays hitems.2.2 hitem.1, hitems.1⟩

/-- An invariant that every turn of the loop keeps. -/
theorem ends_mapEach {body : α → Method I ε σ β} {inv : σ → W → Prop} (hinv : inv state world)
    (hbody : ∀ item ∈ items, ∀ state world, inv state world → (body item).Ends M fail crash (fun _ ↦ inv) state world) :
    (mapEach body items).Ends M fail crash (fun _ ↦ inv) state world := by
  have hdone : (mapEach body items).Ends M fail crash
      (fun _ later final ↦ (∀ item ∈ items, True) ∧ inv later final ∧ True) state world := by
    apply ends_mapEach_done (fun _ _ ↦ True) inv (fun _ _ ↦ True) (fun _ ↦ trivial) (fun _ _ ↦ trivial)
      (fun _ _ ↦ trivial) hinv
    intro item hitem state world hstate
    exact (hbody item hitem state world hstate).mono (fun _ h ↦ h) (fun _ h ↦ h)
      fun _ _ _ hlater ↦ ⟨trivial, hlater, trivial⟩
  exact hdone.mono (fun _ h ↦ h) (fun _ h ↦ h) fun _ _ _ hfinal ↦ hfinal.2.1

/-- Each element is related to its image, and an invariant is kept. -/
theorem yields_mapEach {body : α → Method I ε σ β} {items : List α} {related : α → β → Prop}
    {inv : σ → W → Prop} {state : σ} {world : W} (hinv : inv state world)
    (hbody : ∀ item ∈ items, ∀ state world, inv state world →
      (body item).Yields M fail (fun image later final ↦ related item image ∧ inv later final) state world) :
    (mapEach body items).Yields M fail
      (fun images later final ↦ List.Forall₂ related items images ∧ inv later final) state world := by
  induction items generalizing state world with
  | nil => exact ends_pure ⟨.nil, hinv⟩
  | cons item items ih =>
    refine Ends.bind (hbody item List.mem_cons_self state world hinv) fun image later final himage ↦ ?_
    refine Ends.bind (ih himage.2 fun next hnext ↦ hbody next (List.mem_cons_of_mem item hnext))
      fun images later final himages ↦ ?_
    exact ends_pure ⟨.cons himage.1 himages.1, himages.2⟩

/-- A loop that gives each element its image and keeps an invariant. -/
theorem yields_mapEach_image {body : α → Method I ε σ β} {items : List α} (image : α → β) (inv : σ → W → Prop)
    {state : σ} {world : W} (hinv : inv state world)
    (hbody : ∀ item ∈ items, ∀ state world, inv state world →
      (body item).Yields M fail (fun result later final ↦ result = image item ∧ inv later final) state world) :
    (mapEach body items).Yields M fail
      (fun results later final ↦ results = items.map image ∧ inv later final) state world :=
  (yields_mapEach hinv hbody).imp fun _ _ _ hresults ↦ ⟨Fallible.eq_map_of_forall₂ hresults.1, hresults.2⟩

end Method

/-! ### Invariants

What holds before a function and after it, however it ends. -/

namespace Fallible

/-- However the function ends, it keeps what `inv` says of the world. -/
def Keeps (M : Meaning I W) (inv : W → Prop) (function : Fallible I ε α) : Prop :=
  ∀ world, inv world → function.Yields M inv (fun _ ↦ inv) world

section Rules

variable {M : Meaning I W} {inv : W → Prop}

theorem Keeps.bind {next : α → Fallible I ε β} (hfirst : first.Keeps M inv)
    (hnext : ∀ value, (next value).Keeps M inv) : (first >>= next).Keeps M inv :=
  fun world hinv ↦ (hfirst world hinv).bind fun value later hlater ↦ hnext value later hlater

theorem Keeps.handle (h : function.Keeps M inv) : function.handle.Keeps M inv :=
  fun world hinv ↦ yields_handle ((h world hinv).mono (fun _ hlater ↦ ⟨fun _ ↦ hlater, hlater⟩) fun _ _ hlater ↦ hlater)

theorem keeps_forEach (hbody : ∀ item, (body item).Keeps M inv) (items : List α) : (forEach body items).Keeps M inv :=
  fun _ hinv ↦ ends_forEach_const inv hinv fun item _ world hworld ↦ hbody item world hworld

end Rules

/-- A function keeps what each of its calls keeps. -/
theorem Returns.keeps {step : Program.Answers I W} (h : function.Returns allowed valid)
    (hkeep : step.Keep allowed inv) : function.Keeps (.sequential step) inv := by
  intro world hinv
  apply (Program.All.keeps h hkeep hinv).mono
  intro outcome final hfinal
  exact hfinal.1.mono (fun _ ↦ hfinal.2) (fun _ ↦ hfinal.2) fun _ _ ↦ hfinal.2

/-- An invariant that a function keeps holds after each of its executions. -/
theorem Keeps.exec {step : Program.Answers I W} (h : function.Keeps (.sequential step) inv)
    (hexec : Program.Exec step function.program world outcome final) (hinv : inv world) : inv final := by
  have hends := (ensures_iff_exec _ _ _).mp (h world hinv) outcome final hexec
  cases outcome <;> exact hends

end Fallible

namespace Method

/-- However the method ends, it keeps what `inv` says of the world. -/
def Keeps (M : Meaning I W) (inv : W → Prop) (method : Method I ε σ α) : Prop :=
  ∀ state world, inv world → method.Yields M inv (fun _ _ ↦ inv) state world

section Rules

variable {M : Meaning I W} {inv : W → Prop}

theorem Keeps.bind {first : Method I ε σ α} {next : α → Method I ε σ β} (hfirst : first.Keeps M inv)
    (hnext : ∀ value, (next value).Keeps M inv) : (first >>= next).Keeps M inv :=
  fun state world hinv ↦ (hfirst state world hinv).bind fun value later final hlater ↦ hnext value later final hlater

theorem Keeps.finish (h : method.Keeps M inv) (state : σ) : (method.finish state).Keeps M inv := by
  intro world hinv
  apply yields_finish
  apply M.wp_mono (h state world hinv)
  intro result final hresult
  obtain ⟨outcome, later⟩ := result
  cases outcome <;> exact hresult

end Rules

/-- Whenever the method returns a value, it keeps what `inv` says of the receiver and the world. -/
def Preserves (M : Meaning I W) (inv : σ → W → Prop) (method : Method I ε σ α) : Prop :=
  ∀ state world, inv state world → method.Yields M (fun _ ↦ True) (fun _ ↦ inv) state world

section Rules

variable {M : Meaning I W} {inv : σ → W → Prop}

theorem preserves_pure (value : α) : (pure value : Method I ε σ α).Preserves M inv := fun _ _ hinv ↦ ends_pure hinv

theorem preserves_get : (get : Method I ε σ σ).Preserves M inv := fun _ _ hinv ↦ yields_get hinv

theorem preserves_modify {change : σ → σ} (h : ∀ state world, inv state world → inv (change state) world) :
    (modify change : Method I ε σ Unit).Preserves M inv :=
  fun state world hinv ↦ ends_modify (h state world hinv)

theorem Preserves.bind {first : Method I ε σ α} {next : α → Method I ε σ β} (hfirst : first.Preserves M inv)
    (hnext : ∀ value, (next value).Preserves M inv) : (first >>= next).Preserves M inv :=
  fun state world hinv ↦ (hfirst state world hinv).bind fun value later final hlater ↦ hnext value later final hlater

theorem Preserves.thenUnless {flag : σ → Bool} {phase : Method I ε σ Unit} {next : Method I ε σ Bool}
    (hphase : phase.Preserves M inv) (hnext : next.Preserves M inv) : (phase.thenUnless flag next).Preserves M inv := by
  apply hphase.bind
  intro _
  apply preserves_get.bind
  intro state
  split
  · exact preserves_pure false
  · exact hnext

theorem preserves_forEach {body : α → Method I ε σ Unit} (hbody : ∀ item, (body item).Preserves M inv)
    (items : List α) : (forEach body items).Preserves M inv := by
  induction items with
  | nil => exact preserves_pure ()
  | cons item items ih => exact (hbody item).bind fun _ ↦ ih

end Rules

/-! ## Methods that agree -/

/-- Continuations that agree wherever the first method can get. -/
theorem on_bind_congr {first : Method I ε σ α} {next next' : α → Method I ε σ β} {mid : α → σ → Prop}
    (hfirst : first.Yields (.arbitrary allowed) (fun _ ↦ True) (fun value later _ ↦ mid value later) state ())
    (hnext : ∀ value later, mid value later → (next value).on later = (next' value).on later) :
    (first >>= next).on state = (first >>= next').on state := by
  rw [on_bind, on_bind]
  apply Program.All.bind_congr hfirst
  intro result hresult
  obtain ⟨outcome, later⟩ := result
  cases outcome with
  | ok value => exact hnext value later hresult
  | err error => rfl
  | panic => rfl

/-- The methods are the same program on every receiver that satisfies `inv`. -/
def AgreeOn (inv : σ → Prop) (first second : Method I ε σ α) : Prop :=
  ∀ state, inv state → first.on state = second.on state

section Agree

variable {allowed : I.Call → Prop} {inv : σ → Prop}

theorem AgreeOn.refl (method : Method I ε σ α) : AgreeOn inv method method := fun _ _ ↦ rfl

theorem AgreeOn.bind {first first' : Method I ε σ α} {next next' : α → Method I ε σ β}
    (hfirst : AgreeOn inv first first') (hkeep : first'.Preserves (.arbitrary allowed) fun state _ ↦ inv state)
    (hnext : ∀ value, AgreeOn inv (next value) (next' value)) : AgreeOn inv (first >>= next) (first' >>= next') := by
  intro state hinv
  calc (first >>= next).on state
    _ = (first' >>= next).on state := by rw [on_bind, on_bind, hfirst state hinv]
    _ = (first' >>= next').on state :=
      on_bind_congr (hkeep state () hinv) fun value later hlater ↦ hnext value later hlater

/-- A phase that leaves receivers on which the next one agrees, and the next one unless a flag is set. -/
theorem AgreeOn.thenUnless {mid : σ → Prop} {flag : σ → Bool} {phase phase' : Method I ε σ Unit}
    {next next' : Method I ε σ Bool} (hphase : AgreeOn inv phase phase')
    (hmid : ∀ state, inv state → phase'.Yields (.arbitrary allowed) (fun _ ↦ True) (fun _ later _ ↦ mid later) state ())
    (hnext : AgreeOn mid next next') : AgreeOn inv (phase.thenUnless flag next) (phase'.thenUnless flag next') := by
  intro state hinv
  unfold Method.thenUnless
  rw [on_bind, hphase state hinv, ← on_bind]
  apply on_bind_congr (hmid state hinv)
  intro _ later hlater
  rw [on_get_bind, on_get_bind]
  split
  · rfl
  · exact hnext later hlater

theorem agreeOn_forEach {body body' : α → Method I ε σ Unit} (hbody : ∀ item, AgreeOn inv (body item) (body' item))
    (hkeep : ∀ item, (body' item).Preserves (.arbitrary allowed) fun state _ ↦ inv state) (items : List α) :
    AgreeOn inv (forEach body items) (forEach body' items) := by
  induction items with
  | nil => exact AgreeOn.refl _
  | cons item items ih => exact (hbody item).bind (hkeep item) fun _ ↦ ih

end Agree

end Method

/-! ## Names

The rules for functions, and those for methods that are not named like one for functions. -/

export Fallible (exec_pure_iff ends_attempt ends_handle exec_bind_ok_iff yields_ofOption yields_handle
  ends_forEach_const ends_attempt_run ends_panic exec_attempt_iff exec_handle_error_iff ends_pure ends_throw ends_lift
  yields_forEach exec_bind_iff yields_mapEach_eq ends_mapEach_const yields_handle_kept exec_handle_iff
  exec_handle_ok_iff ends_handle_kept ends_forEach_index ends_forEach_from yields_mapEach_index exactly_lift
  exactly_pure exactly_attempt yields_handle_attempt yields_mapEach_image)

export Method (ends_lift_bind ends_get_bind ends_modify_bind ends_modify preserves_get preserves_pure on_get_bind
  on_modify_bind exec_finish_read_iff AgreeOn)

end Interaction
