import KvrocksOperator.Interaction.Interference

/-!
# Threads that share a mutex

Some calls of an interface take a mutex and some release it.  A program is `Disciplined` if it takes the mutex only
when it does not hold it and releases it only when it does.  Threads that run such programs, and that do not stop
before their programs return, never shut each other out: from every configuration that they reach, every thread that
waits for an answer can be let on by steps of the others (`Orderly.admitted`).

For data that only the holder of the mutex changes, `Respects` is what a thread may rely on.
-/

namespace Interaction

variable {I : Interface} {T W α β : Type}

/-! ## Programs -/

/-- What a call does to the mutex. -/
inductive Locking where
  | acquire
  | release
  | neither
  deriving DecidableEq

/-- Whether the caller holds the mutex after the call, if it may make it. -/
def Locking.next : Locking → Bool → Option Bool
  | .acquire, false => some true
  | .release, true => some false
  | .neither, held => some held
  | _, _ => none

theorem Locking.next_acquire {held later : Bool} (h : Locking.acquire.next held = some later) :
    held = false ∧ later = true := by
  cases held with
  | false => exact ⟨rfl, (Option.some.inj h).symm⟩
  | true => cases h

theorem Locking.next_release {held later : Bool} (h : Locking.release.next held = some later) :
    held = true ∧ later = false := by
  cases held with
  | false => cases h
  | true => exact ⟨rfl, (Option.some.inj h).symm⟩

theorem Locking.next_neither {held later : Bool} (h : Locking.neither.next held = some later) : later = held := by
  cases held <;> exact (Option.some.inj h).symm

namespace Program

variable (locking : I.Call → Locking)

/-- Whatever the replies are, the program takes and releases the mutex in turn.  The world says whether the program
holds the mutex. -/
def Disciplined : Program I α → (α → Bool → Prop) → Bool → Prop
  | .done value, post, held => post value held
  | .call request resume, post, held =>
    ∃ later, (locking request).next held = some later ∧ ∀ reply, (resume reply).Disciplined post later

theorem disciplined_bind (program : Program I α) (next : α → Program I β) (post : β → Bool → Prop) (held : Bool) :
    (program.bind next).Disciplined locking post held ↔
      program.Disciplined locking (fun value ↦ (next value).Disciplined locking post) held := by
  induction program generalizing held with
  | done value => rfl
  | call request resume ih =>
    exact exists_congr fun later ↦ and_congr_right fun _ ↦ forall_congr' fun reply ↦ ih reply later

variable {locking}

theorem Disciplined.mono {program : Program I α} {post post' : α → Bool → Prop} {held : Bool}
    (h : program.Disciplined locking post held) (hpost : ∀ value later, post value later → post' value later) :
    program.Disciplined locking post' held := by
  induction program generalizing held with
  | done value => exact hpost value held h
  | call request resume ih =>
    obtain ⟨later, hnext, hrest⟩ := h
    exact ⟨later, hnext, fun reply ↦ ih reply (hrest reply)⟩

end Program

/-- Discipline as a meaning of programs. -/
def Meaning.disciplined (locking : I.Call → Locking) : Meaning I Bool where
  wp program post held := program.Disciplined locking post held
  wp_done _ _ _ := Iff.rfl
  wp_bind := Program.disciplined_bind locking
  wp_mono h hpost := h.mono hpost

variable {request : I.Call}

/-- A single call. -/
theorem Meaning.disciplined_perform {locking : I.Call → Locking} {post : I.Reply request → Bool → Prop}
    {held later : Bool} (hnext : (locking request).next held = some later) (hpost : ∀ reply, post reply later) :
    (Meaning.disciplined locking).wp (Program.perform request) post held :=
  ⟨later, hnext, hpost⟩

/-! ## Threads that run to their end -/

namespace System

variable [DecidableEq T] (S : System I T W)

/-- One step of an interleaving in which no thread is stopped before its program has returned. -/
inductive Works : Config I T W → Config I T W → Prop where
  | move {config : Config I T W} {world : W} (hmove : S.moves config.world world) :
      Works config { config with world := world }
  | start {config : Config I T W} (thread : T) {program : Program I Unit}
      (hidle : config.running thread = none) (hstart : S.starts thread config.world program) :
      Works config { config with running := Function.update config.running thread (some program) }
  | call {config : Config I T W} (thread : T) {request : I.Call} {resume : I.Reply request → Program I Unit}
      {reply : I.Reply request} {world : W} (hnext : config.running thread = some (.call request resume))
      (hanswer : S.answers thread request config.world reply world) :
      Works config { world := world, running := Function.update config.running thread (some (resume reply)) }
  | finish {config : Config I T W} (thread : T) (hdone : config.running thread = some (.done ())) :
      Works config { config with running := Function.update config.running thread none }

/-- Any number of such steps, in any order. -/
def Runs : Config I T W → Config I T W → Prop := Relation.ReflTransGen S.Works

variable {S} in
variable {config config' : Config I T W}

/-- They are interleavings in which threads may be stopped anywhere. -/
theorem Runs.reaches (h : S.Runs config config') : S.Reaches config config' := by
  induction h with
  | refl => exact .refl
  | tail _ hstep ih =>
    apply Relation.ReflTransGen.tail ih
    cases hstep with
    | move hmove => exact .move hmove
    | start thread hidle hstart => exact .start thread hidle hstart
    | call thread hnext hanswer => exact .call thread hnext hanswer
    | finish thread _ => exact .stop thread

/-- The world moves by itself any number of times. -/
theorem runs_of_moves {world : W} (h : Relation.ReflTransGen S.moves config.world world) :
    S.Runs config { config with world := world } := by
  induction h with
  | refl => exact .refl
  | tail _ hmove ih => exact .tail ih (.move hmove)

/-! ## The mutex of a system -/

/-- The answers keep track of who holds the mutex, and only disciplined programs are started. -/
structure Locks (S : System I T W) (locking : I.Call → Locking) (holder : W → Option T) : Prop where
  acquire : ∀ {thread request before reply after}, locking request = .acquire →
    S.answers thread request before reply after → holder before = none ∧ holder after = some thread
  release : ∀ {thread request before reply after}, locking request = .release →
    S.answers thread request before reply after → holder after = none
  neither : ∀ {thread request before reply after}, locking request = .neither →
    S.answers thread request before reply after → holder after = holder before
  move : ∀ {before after}, S.moves before after → holder after = holder before
  start : ∀ {thread world program}, S.starts thread world program →
    program.Disciplined locking (fun _ held ↦ held = false) false

/-- Every thread keeps to the discipline, and whoever holds the mutex is still running. -/
structure Orderly (locking : I.Call → Locking) (holder : W → Option T) (config : Config I T W) : Prop where
  disciplined : ∀ thread program, config.running thread = some program →
    program.Disciplined locking (fun _ held ↦ held = false) (decide (holder config.world = some thread))
  present : ∀ thread, holder config.world = some thread → ∃ program, config.running thread = some program

variable {thread : T}

section Orderly

variable {S} {locking : I.Call → Locking} {holder : W → Option T}

/-- Who holds the mutex after a call. -/
theorem Locks.holder_after (hS : S.Locks locking holder) {reply : I.Reply request} {before after : W} {later : Bool}
    (hanswer : S.answers thread request before reply after)
    (hnext : (locking request).next (decide (holder before = some thread)) = some later) (other : T) :
    decide (holder after = some other) = if other = thread then later else decide (holder before = some other) := by
  cases hlocking : locking request with
  | acquire =>
    obtain ⟨hfree, htaken⟩ := hS.acquire hlocking hanswer
    rw [hlocking] at hnext
    rw [(Locking.next_acquire hnext).2, hfree, htaken]
    by_cases hother : other = thread
    · rw [if_pos hother, hother, decide_eq_true rfl]
    · rw [if_neg hother]
      simp [Ne.symm hother]
  | release =>
    rw [hlocking] at hnext
    obtain ⟨hheld, hlater⟩ := Locking.next_release hnext
    rw [hS.release hlocking hanswer, hlater, of_decide_eq_true hheld]
    by_cases hother : other = thread
    · rw [if_pos hother]
      rfl
    · rw [if_neg hother]
      simp [Ne.symm hother]
  | neither =>
    rw [hlocking] at hnext
    rw [hS.neither hlocking hanswer, Locking.next_neither hnext]
    by_cases hother : other = thread
    · rw [if_pos hother, hother]
    · rw [if_neg hother]

/-- Order after one thread has changed its remaining program. -/
theorem Orderly.update {world : W} {running : T → Option (Program I Unit)} {next : Option (Program I Unit)}
    (hnext : ∀ program, next = some program → program.Disciplined locking (fun _ held ↦ held = false)
      (decide (holder world = some thread)))
    (hpresent : holder world = some thread → ∃ program, next = some program)
    (hothers : ∀ other program, other ≠ thread → running other = some program →
      program.Disciplined locking (fun _ held ↦ held = false) (decide (holder world = some other)))
    (hrunning : ∀ other, other ≠ thread → holder world = some other → ∃ program, running other = some program) :
    Orderly locking holder { world := world, running := Function.update running thread next } := by
  constructor
  · intro other program hrun
    by_cases hother : other = thread
    · subst hother
      exact hnext program (by simpa using hrun)
    · exact hothers other program hother (by simpa [hother] using hrun)
  · intro other hholds
    by_cases hother : other = thread
    · subst hother
      simpa using hpresent hholds
    · simpa [hother] using hrunning other hother hholds

theorem Orderly.works (hS : S.Locks locking holder) (h : Orderly locking holder config)
    (hstep : S.Works config config') : Orderly locking holder config' := by
  cases hstep with
  | move hmove =>
    have hsame := hS.move hmove
    exact ⟨fun thread program hrun ↦ hsame ▸ h.disciplined thread program hrun,
      fun thread hholds ↦ h.present thread (hsame ▸ hholds)⟩
  | start thread hidle hstart =>
    -- a thread that was idle does not hold the mutex
    have hfree : holder config.world ≠ some thread := by
      intro hholds
      obtain ⟨running, hrunning⟩ := h.present thread hholds
      exact Option.some_ne_none running (hrunning.symm.trans hidle)
    apply Orderly.update
    · intro program hprogram
      rw [decide_eq_false hfree, ← Option.some.inj hprogram]
      exact hS.start hstart
    · exact fun hholds ↦ absurd hholds hfree
    · exact fun other program _ hrun ↦ h.disciplined other program hrun
    · exact fun other _ hholds ↦ h.present other hholds
  | call thread hnext hanswer =>
    obtain ⟨later, hlater, hrest⟩ := h.disciplined thread _ hnext
    have hafter := hS.holder_after hanswer hlater
    apply Orderly.update
    · intro program hprogram
      rw [hafter thread, if_pos rfl, ← Option.some.inj hprogram]
      exact hrest _
    · exact fun _ ↦ ⟨_, rfl⟩
    · intro other program hother hrun
      rw [hafter other, if_neg hother]
      exact h.disciplined other program hrun
    · intro other hother hholds
      have hbefore := hafter other
      rw [if_neg hother, decide_eq_true hholds] at hbefore
      exact h.present other (of_decide_eq_true hbefore.symm)
  | finish thread hdone =>
    have hfree : holder config.world ≠ some thread := of_decide_eq_false (h.disciplined thread _ hdone)
    apply Orderly.update
    · intro program hprogram
      cases hprogram
    · exact fun hholds ↦ absurd hholds hfree
    · exact fun other program _ hrun ↦ h.disciplined other program hrun
    · exact fun other _ hholds ↦ h.present other hholds

theorem Orderly.runs (hS : S.Locks locking holder) (h : Orderly locking holder config) (hruns : S.Runs config config') :
    Orderly locking holder config' := by
  induction hruns with
  | refl => exact h
  | tail _ hstep ih => exact ih.works hS hstep

/-- Nothing runs and nobody holds the mutex. -/
theorem orderly_initial {world : W} (hfree : holder world = none) :
    Orderly locking holder (initial world : Config I T W) := by
  constructor
  · intro thread program hrun
    cases hrun
  · intro thread hholds
    rw [initial, hfree] at hholds
    cases hholds

end Orderly

/-! ## Nobody is shut out -/

/-- A free mutex can be taken, and every other call is answered once the world has moved by itself. -/
structure Answered (S : System I T W) (locking : I.Call → Locking) (holder : W → Option T) : Prop where
  free : ∀ {thread request world}, locking request = .acquire → holder world = none →
    ∃ reply after, S.answers thread request world reply after
  other : ∀ (thread : T) {request} (world : W), locking request ≠ .acquire →
    ∃ later, Relation.ReflTransGen S.moves world later ∧ ∃ reply after, S.answers thread request later reply after

section Answered

variable {S} {locking : I.Call → Locking} {holder : W → Option T}

/-- The holder of the mutex can go on until it releases it, while all other threads wait. -/
theorem Orderly.released (hS : S.Locks locking holder) (hanswered : S.Answered locking holder)
    (program : Program I Unit) (h : Orderly locking holder config) (hholds : holder config.world = some thread)
    (hrun : config.running thread = some program) :
    ∃ later, S.Runs config later ∧ holder later.world = none ∧
      ∀ other, other ≠ thread → later.running other = config.running other := by
  -- by induction on what remains of the holder's program
  induction program generalizing config with
  | done value =>
    have hheld := h.disciplined thread _ hrun
    exact absurd hholds (of_decide_eq_false hheld)
  | call request resume ih =>
    obtain ⟨held, hheld, -⟩ := h.disciplined thread _ hrun
    rw [decide_eq_true hholds] at hheld
    have hlocking : locking request ≠ .acquire := by
      intro hacquire
      rw [hacquire] at hheld
      cases hheld
    obtain ⟨world, hmoves, reply, after, hanswer⟩ := hanswered.other thread config.world hlocking
    let waited : Config I T W := { config with world := world }
    let next : Config I T W :=
      { world := after, running := Function.update config.running thread (some (resume reply)) }
    have hcall : S.Works waited next := .call thread hrun hanswer
    have hruns : S.Runs config next := .tail (S.runs_of_moves hmoves) hcall
    have hothers (other : T) (hother : other ≠ thread) : next.running other = config.running other :=
      Function.update_of_ne hother ..
    cases hcase : locking request with
    | acquire => exact absurd hcase hlocking
    | release => exact ⟨next, hruns, hS.release hcase hanswer, hothers⟩
    | neither =>
      have hkept : holder world = some thread := by
        have hsame : ∀ {first last}, Relation.ReflTransGen S.moves first last → holder last = holder first := by
          intro first last hmoves
          induction hmoves with
          | refl => rfl
          | tail _ hmove ih => exact (hS.move hmove).trans ih
        exact (hsame hmoves).trans hholds
      obtain ⟨later, hlater, hfree, hrest⟩ := ih reply (h.runs hS hruns)
        ((hS.neither hcase hanswer).trans hkept) (Function.update_self ..)
      exact ⟨later, hruns.trans hlater, hfree, fun other hother ↦ (hrest other hother).trans (hothers other hother)⟩

/-- A thread that waits for an answer can get it after some steps of the others. -/
theorem Orderly.admitted (hS : S.Locks locking holder) (hanswered : S.Answered locking holder)
    (h : Orderly locking holder config) {resume : I.Reply request → Program I Unit}
    (hwaits : config.running thread = some (.call request resume)) :
    ∃ later, S.Runs config later ∧ later.running thread = some (.call request resume) ∧
      ∃ reply after, S.answers thread request later.world reply after := by
  by_cases hlocking : locking request = .acquire
  · cases hholder : holder config.world with
    | none => exact ⟨config, .refl, hwaits, hanswered.free hlocking hholder⟩
    | some other =>
      obtain ⟨held, hheld, -⟩ := h.disciplined thread _ hwaits
      rw [hlocking] at hheld
      have hother : thread ≠ other := by
        intro hsame
        exact of_decide_eq_false (Locking.next_acquire hheld).1 (hsame ▸ hholder)
      obtain ⟨program, hrun⟩ := h.present other hholder
      obtain ⟨later, hruns, hfree, hrest⟩ := h.released hS hanswered program hholder hrun
      exact ⟨later, hruns, (hrest thread hother).trans hwaits, hanswered.free hlocking hfree⟩
  · obtain ⟨world, hmoves, hanswer⟩ := hanswered.other thread config.world hlocking
    exact ⟨{ config with world := world }, S.runs_of_moves hmoves, hwaits, hanswer⟩

end Answered

end System

/-! ## Data that the mutex guards -/

/-- Nobody takes or releases the mutex in the name of the thread, and while it holds the mutex nobody else changes
what is guarded. -/
def Respects {G : Type} (holder : W → Option T) (guarded : W → G) (thread : T) (before after : W) : Prop :=
  (holder after = some thread ↔ holder before = some thread) ∧
    (holder before = some thread → guarded after = guarded before)

section Respects

variable {G : Type} {holder : W → Option T} {guarded : W → G} {thread : T}

theorem respects_refl (world : W) : Respects holder guarded thread world world := ⟨Iff.rfl, fun _ ↦ rfl⟩

theorem Respects.trans {first second third : W} (h : Respects holder guarded thread first second)
    (h' : Respects holder guarded thread second third) : Respects holder guarded thread first third :=
  ⟨h'.1.trans h.1, fun hholds ↦ (h'.2 (h.1.mpr hholds)).trans (h.2 hholds)⟩

/-- Neither the mutex nor what it guards is touched. -/
theorem respects_of_same {before after : W} (hholder : holder after = holder before)
    (hguarded : guarded after = guarded before) : Respects holder guarded thread before after :=
  ⟨hholder ▸ Iff.rfl, fun _ ↦ hguarded⟩

end Respects

end Interaction
