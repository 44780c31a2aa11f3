import KvrocksOperator.Interaction.Fallible

/-!
# Recorded executions

When every reply is possible, an execution is determined by the calls it makes and the replies it gets.  `recorded` is
the world that answers arbitrarily and keeps this log, so that a statement about every combination of replies is one
about every log.
-/

namespace Interaction

variable {I : Interface} {α β : Type}

/-- A call with its reply. -/
abbrev Entry (I : Interface) : Type := (request : I.Call) × I.Reply request

/-- Every reply is possible, and all of them are kept, oldest first. -/
def recorded : Program.Answers I (List (Entry I)) :=
  fun request before reply after ↦ after = before ++ [⟨request, reply⟩]

/-- A server for `recorded`, which may look at what has happened so far. -/
def recording (answer : (request : I.Call) → List (Entry I) → I.Reply request) (request : I.Call)
    (log : List (Entry I)) : I.Reply request × List (Entry I) :=
  (answer request log, log ++ [⟨request, answer request log⟩])

variable {program : Program I α}

namespace Program

theorem exec_recording (answer : (request : I.Call) → List (Entry I) → I.Reply request) (program : Program I α)
    (log : List (Entry I)) :
    Exec recorded program log (program.run (recording answer) log).1 (program.run (recording answer) log).2 :=
  exec_run (fun _ _ ↦ rfl) program log

/-- A program that makes one call and looks at the reply. -/
theorem exec_recorded_once {request : I.Call} {read : I.Reply request → α} {before after : List (Entry I)} {value : α} :
    Exec recorded ((perform request).bind fun reply ↦ .done (read reply)) before value after ↔
      ∃ reply, after = before ++ [⟨request, reply⟩] ∧ value = read reply := by
  simp only [perform, call_bind, done_bind, exec_call_iff, exec_done_iff, recorded]
  constructor
  · rintro ⟨reply, middle, hmiddle, hvalue, hafter⟩
    exact ⟨reply, hafter.trans hmiddle, hvalue⟩
  · rintro ⟨reply, hafter, hvalue⟩
    exact ⟨reply, after, hafter, hvalue, rfl⟩

/-- The log only grows. -/
theorem Exec.log_prefix {before after : List (Entry I)} {value : α} (h : Exec recorded program before value after) :
    before <+: after := by
  induction h with
  | done value log => exact List.prefix_rfl
  | @call request resume log middle final reply value hstep hrest ih =>
    have hmiddle : middle = log ++ [⟨request, reply⟩] := hstep
    rw [hmiddle] at ih
    exact (List.prefix_append log _).trans ih

/-- What can be said of every call of a program can be said of the calls in its log. -/
theorem Exec.log_allowed {allowed : I.Call → Prop} {post : α → Prop} (hall : program.All allowed post)
    {before after : List (Entry I)} {value : α} (h : Exec recorded program before value after) :
    ∃ log, after = before ++ log ∧ ∀ entry ∈ log, allowed entry.1 := by
  induction h with
  | done value log => exact ⟨[], by simp, by simp⟩
  | @call request resume log middle final reply value hstep hrest ih =>
    obtain ⟨rest, hfinal, hrestAllowed⟩ := ih (hall.2 reply)
    have hmiddle : middle = log ++ [⟨request, reply⟩] := hstep
    refine ⟨⟨request, reply⟩ :: rest, by simp [hfinal, hmiddle], ?_⟩
    intro entry hentry
    rcases List.mem_cons.mp hentry with rfl | hlater
    · exact hall.1
    · exact hrestAllowed entry hlater

/-- Two executions whose logs start one longer log are the same. -/
theorem Exec.log_unique {before first second whole : List (Entry I)} {value value' : α}
    (h : Exec recorded program before value first) (h' : Exec recorded program before value' second)
    (hfirst : first <+: whole) (hsecond : second <+: whole) : value' = value ∧ second = first := by
  induction h generalizing second value' with
  | done value log =>
    obtain ⟨rfl, rfl⟩ := exec_done_iff.mp h'
    exact ⟨rfl, rfl⟩
  | @call request resume log middle final reply value hstep hrest ih =>
    obtain ⟨reply', middle', hstep', hrest'⟩ := exec_call_iff.mp h'
    have hmiddle : middle = log ++ [⟨request, reply⟩] := hstep
    have hmiddle' : middle' = log ++ [⟨request, reply'⟩] := hstep'
    -- both logs put their reply at the same place of the whole log
    have hprefix : middle <+: whole := hrest.log_prefix.trans hfirst
    have hprefix' : middle' <+: whole := hrest'.log_prefix.trans hsecond
    have heq : middle' = middle :=
      (List.prefix_of_prefix_length_le hprefix' hprefix (by simp [hmiddle, hmiddle'])).eq_of_length
        (by simp [hmiddle, hmiddle'])
    have hreply : reply' = reply := by
      rw [hmiddle, hmiddle'] at heq
      simpa using heq
    subst hreply
    rw [heq] at hrest'
    exact ih hrest' hfirst hsecond

end Program

/-- A world that keeps the log of one program while others interfere: the log the program leaves is that of one of its
executions.  `stays` is what the surroundings have to respect. -/
theorem Contract.safe_recorded {W : Type} {C : Contract I W} (log : W → List (Entry I)) (stays : W → Prop)
    {allowed : I.Call → Prop} {post : α → Prop} {program : Program I α} (hall : program.All allowed post)
    (hrely : ∀ before after, stays before → C.rely before after → stays after ∧ log after = log before)
    (hstep : ∀ request, allowed request → ∀ before reply after, C.inv before → stays before →
      C.answers request before reply after → C.guard request before ∧ C.inv after ∧
        C.guarantee before after ∧ stays after ∧ log after = log before ++ [⟨request, reply⟩])
    {world : W} (hstays : stays world) :
    C.Safe program (fun value final ↦ stays final ∧ Exec recorded program (log world) value (log final))
      world := by
  induction program generalizing world with
  | done value => exact ⟨hstays, .done value (log world)⟩
  | call request resume ih =>
    intro before hinterference hinv reply after hanswer
    obtain ⟨hbefore, hsame⟩ := hrely world before hstays hinterference
    obtain ⟨hguard, hafter, hguarantee, hkept, hlog⟩ := hstep request hall.1 before reply after hinv hbefore hanswer
    refine ⟨hguard, hafter, hguarantee, (ih reply (hall.2 reply) hkept).mono fun value final hfinal ↦ ?_⟩
    exact ⟨hfinal.1, .call (hlog.trans (by rw [hsame])) hfinal.2⟩

/-! ## Where an error comes from -/

variable {ε σ : Type}

/-- The log ends with a call whose reply carries the error. -/
def EndsIn (failure : Entry I → Option ε) (error : ε) (log : List (Entry I)) : Prop :=
  ∃ front entry, log = front ++ [entry] ∧ failure entry = some error

namespace Fallible

variable {failure : Entry I → Option ε}

/-- Every error that the function returns is the failure of its last call. -/
def Blames (failure : Entry I → Option ε) (function : Fallible I ε α) : Prop :=
  ∀ before after error, Exec recorded function.program before (.err error) after → EndsIn failure error after

theorem blames_pure (value : α) : (pure value : Fallible I ε α).Blames failure := by
  intro before after error h
  cases (exec_pure_iff.mp h).1

theorem Blames.bind {first : Fallible I ε α} {next : α → Fallible I ε β} (hfirst : first.Blames failure)
    (hnext : ∀ value, (next value).Blames failure) : (first >>= next).Blames failure := by
  intro before after error h
  rcases exec_bind_iff.mp h with ⟨value, middle, _, hrest⟩ | ⟨error', heq, herror⟩ | ⟨hpanic, _⟩
  · exact hnext value middle after error hrest
  · cases heq
    exact hfirst before after error herror
  · cases hpanic

theorem blames_attempt {δ : Type} {wrap : δ → ε} {program : Program I (Except δ α)}
    (h : ∀ before after error, Exec recorded program before (.error error) after → EndsIn failure (wrap error) after) :
    (attempt wrap program).Blames failure := by
  intro before after error hexec
  obtain ⟨reply, hreply, hprogram⟩ := exec_attempt_iff.mp hexec
  cases reply with
  | ok value => cases hreply
  | error inner =>
    cases hreply
    exact h before after inner hprogram

/-- An error that is kept as a value is not returned. -/
theorem blames_handle (function : Fallible I ε α) : function.handle.Blames failure := by
  intro before after error h
  obtain ⟨inner, hinner, _⟩ := exec_handle_iff.mp h
  cases inner <;> cases hinner

theorem blames_forEach {body : α → Fallible I ε Unit} (hbody : ∀ item, (body item).Blames failure) (items : List α) :
    (forEach body items).Blames failure := by
  induction items with
  | nil => exact blames_pure ()
  | cons item items ih => exact (hbody item).bind fun _ ↦ ih

end Fallible

namespace Method

variable {failure : Entry I → Option ε}

/-- Every error that the method returns is the failure of its last call. -/
def Blames (failure : Entry I → Option ε) (method : Method I ε σ α) : Prop :=
  ∀ state before after error later, Exec recorded (method.on state) before (.err error, later) after →
      EndsIn failure error after

theorem blames_pure (value : α) : (pure value : Method I ε σ α).Blames failure := by
  intro state before after error later h
  cases (exec_done_iff.mp h).1

theorem blames_get : (get : Method I ε σ σ).Blames failure := by
  intro state before after error later h
  cases (exec_done_iff.mp h).1

theorem blames_modify (change : σ → σ) : (modify change : Method I ε σ Unit).Blames failure := by
  intro state before after error later h
  cases (exec_done_iff.mp h).1

theorem blames_lift {function : Fallible I ε α} (h : function.Blames failure) :
    (lift function : Method I ε σ α).Blames failure := by
  intro state before after error later hexec
  exact h before after error (exec_lift_iff.mp hexec).2

theorem Blames.bind {first : Method I ε σ α} {next : α → Method I ε σ β} (hfirst : first.Blames failure)
    (hnext : ∀ value, (next value).Blames failure) : (first >>= next).Blames failure := by
  intro state before after error later h
  rcases exec_bind_iff.mp h with ⟨value, middle, log, _, hrest⟩ | ⟨error', later', heq, herror⟩ | ⟨later', hpanic, _⟩
  · exact hnext value middle log after error later hrest
  · cases heq
    exact hfirst state before after error later herror
  · cases hpanic

/-- A function followed by a method that may return an error reported by the function. -/
theorem blames_lift_bind {function : Fallible I ε α} {next : α → Method I ε σ β} (h : function.Blames failure)
    (hnext : ∀ value before middle, Exec recorded function.program before (.ok value) middle →
      ∀ state after error later, Exec recorded ((next value).on state) middle (.err error, later) after →
        EndsIn failure error after) :
    (lift function >>= next).Blames failure := by
  intro state before after error later hexec
  rcases exec_bind_iff.mp hexec with ⟨value, reached, middle, hvalue, hrest⟩ |
    ⟨failed, reached, heq, hfailed⟩ | ⟨reached, hpanic, _⟩
  · exact hnext value before middle (exec_lift_iff.mp hvalue).2 reached after error later hrest
  · cases heq
    exact h before after error (exec_lift_iff.mp hfailed).2
  · cases hpanic

theorem blames_forEach {body : α → Method I ε σ Unit} (hbody : ∀ item, (body item).Blames failure) (items : List α) :
    (forEach body items).Blames failure := by
  induction items with
  | nil => exact blames_pure ()
  | cons item items ih => exact (hbody item).bind fun _ ↦ ih

end Method

export Fallible (blames_pure blames_attempt blames_handle blames_forEach)

end Interaction
