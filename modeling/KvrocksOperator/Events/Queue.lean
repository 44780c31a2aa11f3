import Mathlib.Data.Finset.Basic
import KvrocksOperator.Controllers.Writers
import KvrocksOperator.Interaction.Recorded

/-!
# The messages in flight

`add` puts a message on the queue unless there is a key for its address.  A handler that is done with its message
deletes the key, and one that is not sends the message again and leaves the key.  Passes of the reconciler and
listeners add messages at any time, the channel takes a message that is being sent when it has room, and the consumer
starts a goroutine for each message that it receives.

In every interleaving the keys are the addresses of the messages that are being sent, wait in the channel or are being
handled, and no address occurs twice.  A goroutine that returns has sent its message again or deleted its key, once
and not both.  A message is only lost by the deletion of its key by its own handler, after it has ended without an
error or has found the message too old.
-/

namespace KvrocksOperator.Events.Queue

open Interaction

/-- The goroutine of a message, with the number of goroutines that were started before it. -/
structure Goroutine where
  number : ℕ
  msg : EventMessage
  deriving DecidableEq

/-- Passes and listeners, and the goroutines of the consumer. -/
inductive Thread where
  | adder (index : ℕ)
  | handler (g : Goroutine)
  deriving DecidableEq

structure World where
  /-- The keys of `messageQueue`. -/
  keys : Finset String
  /-- Messages whose send has begun and which the channel has not taken yet. -/
  sending : List EventMessage
  /-- The messages in the channel, oldest first. -/
  channel : List EventMessage
  /-- The goroutines that still have their message: they have not sent it again, not deleted its key and not returned.
  -/
  handling : List Goroutine
  /-- How many goroutines the consumer has started. -/
  started : ℕ
  now : ℕ
  /-- What a goroutine has asked since it took the lock, with the replies. -/
  log : Goroutine → List (Entry operator)

/-- The capacity of the channel. -/
def capacity : ℕ := 1000

/-- How long a message may be sent again, in seconds. -/
def lifetime : ℕ := 30

/-- The message is sent again, or its key is deleted. -/
def settles (msg : EventMessage) (entry : Entry operator) : Bool :=
  entry.1 = .resendMessage msg ∨ entry.1 = .deleteKey msg.ip

/-- After these calls a goroutine no longer has its message. -/
def releasing : List CallKind := [.resendMessage, .deleteKey, .returned]

namespace World

/-- An empty queue. -/
def empty (now : ℕ) : World :=
  { keys := ∅, sending := [], channel := [], handling := [], started := 0, now := now, log := fun _ ↦ [] }

/-- The messages being sent, waiting in the channel or being handled. -/
def inFlight (world : World) : List EventMessage := world.sending ++ world.channel ++ world.handling.map (·.msg)

/-- How often a goroutine has sent its message again or deleted its key. -/
def tally (world : World) (g : Goroutine) : ℕ := (world.log g).countP (settles g.msg)

/-- `add`, up to the send. -/
def add (msg : EventMessage) (world : World) : World :=
  if msg.ip ∈ world.keys then world
  else { world with keys := insert msg.ip world.keys, sending := msg :: world.sending }

/-- A call of a goroutine goes into its log; the first one takes the lock. -/
def noted (g : Goroutine) (entry : Entry operator) (world : World) : World :=
  { world with
    log := Function.update world.log g (if entry.1 = .lock then [entry] else world.log g ++ [entry])
    handling := if entry.1.kind ∈ releasing then world.handling.erase g else world.handling }

end World

/-- What a call does to the queue. -/
def Serves : Program.Answers operator World
  | .addMessage ip port key partition, before, _, after =>
    ∃ id, after = before.add
      { id := id, ip := ip, port := port, key := key, partition := partition,
        timeout := before.now + lifetime }
  | .resendMessage msg, before, _, after => after = { before with sending := msg :: before.sending }
  | .deleteKey ip, before, _, after => after = { before with keys := before.keys.erase ip }
  | .beforeTimeout msg, before, reply, after => after = before ∧ reply = decide (before.now < msg.timeout)
  | _, before, _, after => after = before

/-- How the calls of a thread are answered. -/
def Answers : Thread → Program.Answers operator World
  | .adder _, request, before, reply, after => Serves request before reply after
  | .handler g, request, before, reply, after =>
    ∃ served, Serves request before reply served ∧ after = served.noted g ⟨request, reply⟩

/-- The channel takes a message, the consumer receives one, and time passes. -/
inductive Moves : World → World → Prop where
  | take (world : World) (front back : List EventMessage) (msg : EventMessage)
      (hsending : world.sending = front ++ msg :: back) (hroom : world.channel.length < capacity) :
      Moves world { world with sending := front ++ back, channel := world.channel ++ [msg] }
  | receive (world : World) (msg : EventMessage) (rest : List EventMessage) (hchannel : world.channel = msg :: rest) :
      Moves world { world with
        channel := rest, handling := ⟨world.started, msg⟩ :: world.handling, started := world.started + 1 }
  | elapse (world : World) (later : ℕ) (hlater : world.now ≤ later) : Moves world { world with now := later }

/-- Passes over any object, listeners with any message of a sentinel, and the goroutines of the consumer, which mark
their return. -/
inductive Starts : Thread → World → Program operator Unit → Prop where
  | reconcile (index : ℕ) (world : World) (key : NamespacedName) : Starts (.adder index) world
        ((Controllers.reconcile (Controllers.handlerOf key) key).program.bind fun _ ↦ .done ())
  | listen (index : ℕ) (world : World) (systemId namespaceName payload : String) : Starts (.adder index) world
        ((listenMessage systemId namespaceName payload).program.bind fun _ ↦ .done ())
  | handleFailover (client : Controller.Client) (g : Goroutine) (world : World) (hhandling : g ∈ world.handling) :
      Starts (.handler g) world ((Events.handleFailover client g.msg).program.bind fun _ ↦ ask .returned)

def system : System operator Thread World where
  answers := Answers
  starts := Starts
  moves := Moves

/-! ## Coherence -/

/-- The keys are the addresses of the messages in flight, which are distinct. -/
structure Coherent (world : World) : Prop where
  keys : world.keys = (world.inFlight.map (·.ip)).toFinset
  nodup : (world.inFlight.map (·.ip)).Nodup
  numbered : ∀ g ∈ world.handling, g.number < world.started

section Coherence

variable {before after : World} {msg : EventMessage} {g : Goroutine}

/-- Messages change their place. -/
theorem Coherent.of_perm (h : Coherent before) (hperm : after.inFlight.Perm before.inFlight)
    (hkeys : after.keys = before.keys) (hnumbered : ∀ g ∈ after.handling, g.number < after.started) :
    Coherent after where
  keys := by rw [hkeys, h.keys, List.toFinset_eq_of_perm _ _ (hperm.map _)]
  nodup := (hperm.map _).nodup_iff.mpr h.nodup
  numbered := hnumbered

/-- The keys are the addresses in flight. -/
theorem Coherent.mem_keys (h : Coherent before) {ip : String} : ip ∈ before.keys ↔ ip ∈ before.inFlight.map (·.ip) := by
  rw [h.keys, List.mem_toFinset]

/-- A message is added once. -/
theorem Coherent.add (h : Coherent before) : Coherent (before.add msg) := by
  unfold World.add
  split
  · exact h
  · rename_i hnew
    constructor
    · simp [World.inFlight, h.keys]
    · have hfresh : msg.ip ∉ before.inFlight.map (·.ip) := fun hmem ↦ hnew (h.mem_keys.mpr hmem)
      exact List.nodup_cons.mpr ⟨hfresh, h.nodup⟩
    · exact h.numbered

/-- No goroutine has its message twice. -/
theorem Coherent.not_mem_erase (h : Coherent before) : g ∉ before.handling.erase g := by
  have hnodup := h.nodup
  rw [World.inFlight, List.map_append] at hnodup
  exact hnodup.of_append_right.of_map.of_map.not_mem_erase

/-- The message of a goroutine that has it, and the others. -/
theorem inFlight_perm (hmem : g ∈ before.handling) : before.inFlight.Perm (g.msg ::
      (before.sending ++ before.channel ++ (before.handling.erase g).map (·.msg))) := by
  have hsplit : before.inFlight.Perm
      (before.sending ++ before.channel ++ g.msg :: (before.handling.erase g).map (·.msg)) :=
    ((List.perm_cons_erase hmem).map (·.msg)).append_left _
  exact hsplit.trans List.perm_middle

variable (h : Coherent before) (hmem : g ∈ before.handling)
  (hchannel : after.channel = before.channel) (hhandling : after.handling = before.handling.erase g)
  (hstarted : after.started = before.started)

include h hhandling hstarted in
theorem Coherent.numbered_erase : ∀ other ∈ after.handling, other.number < after.started := by
  rw [hhandling, hstarted]
  exact fun other hother ↦ h.numbered other (List.mem_of_mem_erase hother)

include h hmem hchannel hhandling hstarted in
/-- A goroutine sends its message again. -/
theorem Coherent.resend (hkeys : after.keys = before.keys) (hsending : after.sending = g.msg :: before.sending) :
    Coherent after := by
  apply h.of_perm _ hkeys (h.numbered_erase hhandling hstarted)
  have hafter : after.inFlight = g.msg ::
      (before.sending ++ before.channel ++ (before.handling.erase g).map (·.msg)) := by
    simp [World.inFlight, hsending, hchannel, hhandling]
  rw [hafter]
  exact (inFlight_perm hmem).symm

include h hmem hchannel hhandling hstarted in
/-- A goroutine deletes the key of its message. -/
theorem Coherent.forget (hkeys : after.keys = before.keys.erase g.msg.ip)
    (hsending : after.sending = before.sending) : Coherent after := by
  have hperm : (before.inFlight.map (·.ip)).Perm (g.msg.ip :: after.inFlight.map (·.ip)) := by
    have hafter : after.inFlight = before.sending ++ before.channel ++ (before.handling.erase g).map (·.msg) := by
      simp [World.inFlight, hsending, hchannel, hhandling]
    rw [hafter]
    exact (inFlight_perm hmem).map (·.ip)
  have hnodup := List.nodup_cons.mp (hperm.nodup_iff.mp h.nodup)
  refine ⟨?_, hnodup.2, h.numbered_erase hhandling hstarted⟩
  calc after.keys
    _ = before.keys.erase g.msg.ip := hkeys
    _ = (insert g.msg.ip (after.inFlight.map (·.ip)).toFinset).erase g.msg.ip := by
      rw [h.keys, List.toFinset_eq_of_perm _ _ hperm, List.toFinset_cons]
    _ = (after.inFlight.map (·.ip)).toFinset := Finset.erase_insert fun hmem ↦ hnodup.1 (List.mem_toFinset.mp hmem)

end Coherence

section Moves

variable {before after : World}

/-- The channel and the consumer only pass messages on. -/
theorem Moves.coherent (h : Coherent before) (hmove : Moves before after) : Coherent after := by
  cases hmove with
  | take front back msg hsending hroom =>
    refine h.of_perm ?_ rfl h.numbered
    rw [List.perm_iff_count]
    intro other
    simp only [World.inFlight, hsending, List.count_append, List.count_cons, List.count_nil]
    omega
  | receive msg rest hchannel =>
    refine h.of_perm ?_ rfl ?_
    · rw [List.perm_iff_count]
      intro other
      simp only [World.inFlight, hchannel, List.map_cons, List.count_append, List.count_cons]
      omega
    · exact List.forall_mem_cons.mpr ⟨Nat.lt_succ_self _, fun other hother ↦ (h.numbered other hother).trans
        (Nat.lt_succ_self _)⟩
  | elapse later hlater => exact ⟨h.keys, h.nodup, h.numbered⟩

/-- A move leaves every message in flight. -/
theorem Moves.mem_inFlight (h : Moves before after) (msg : EventMessage) (hmsg : msg ∈ before.inFlight) :
    msg ∈ after.inFlight := by
  cases h with
  | take front back taken hsending hroom =>
    simp only [World.inFlight, hsending, List.mem_append, List.mem_cons, List.not_mem_nil] at hmsg ⊢
    tauto
  | receive received rest hchannel =>
    simp only [World.inFlight, hchannel, List.map_cons, List.mem_append, List.mem_cons] at hmsg ⊢
    tauto
  | elapse later hlater => exact hmsg

end Moves

/-! ## Contracts -/

/-- A goroutine that has been started keeps its message or stays without it, and its log is left alone. -/
structure Spares (g : Goroutine) (before after : World) : Prop where
  now : before.now ≤ after.now
  started : before.started ≤ after.started
  kept : g.number < before.started → (g ∈ after.handling ↔ g ∈ before.handling) ∧ after.log g = before.log g

theorem Spares.refl (g : Goroutine) (world : World) : Spares g world world :=
  ⟨Nat.le_refl _, Nat.le_refl _, fun _ ↦ ⟨Iff.rfl, rfl⟩⟩

variable {g other : Goroutine} {before after : World}

theorem Spares.trans {first second third : World} (h : Spares g first second)
    (h' : Spares g second third) : Spares g first third := by
  refine ⟨h.now.trans h'.now, h.started.trans h'.started, fun hnumber ↦ ?_⟩
  have hsecond := h.kept hnumber
  have hthird := h'.kept (hnumber.trans_le h.started)
  exact ⟨hthird.1.trans hsecond.1, hthird.2.trans hsecond.2⟩

/-- What happens meanwhile does not touch a handler. -/
theorem Moves.spares (h : Moves before after) (g : Goroutine) : Spares g before after := by
  cases h with
  | take front back taken hsending hroom => exact ⟨Nat.le_refl _, Nat.le_refl _, fun _ ↦ ⟨Iff.rfl, rfl⟩⟩
  | receive received rest hchannel =>
    refine ⟨Nat.le_refl _, Nat.le_succ _, fun hnumber ↦ ⟨?_, rfl⟩⟩
    have hne : g ≠ ⟨before.started, received⟩ := fun heq ↦ Nat.ne_of_lt hnumber (congrArg Goroutine.number heq)
    simp [hne]
  | elapse later hlater => exact ⟨hlater, Nat.le_refl _, fun _ ↦ ⟨Iff.rfl, rfl⟩⟩

/-- The handler has ended without an error that asks for another attempt, or has found the message too old. -/
def Finished (g : Goroutine) (world : World) : Prop :=
  (∃ client outcome, Exec recorded (failoverBody client g.msg).program [⟨.lock, ()⟩] outcome
      (world.log g) ∧ ∀ error, outcome ≠ .err error) ∨
    ((⟨.beforeTimeout g.msg, false⟩ : Entry operator) ∈ world.log g ∧ g.msg.timeout ≤ world.now)

/-- Passes and listeners only add messages. -/
def adderContract (index : ℕ) : Contract operator World where
  answers := Answers (.adder index)
  inv := Coherent
  rely _ _ := True
  guarantee before after := ∀ g, Spares g before after
  guard request _ := request.kind ∉ releasing
  rely_refl _ := trivial
  rely_trans _ _ := trivial

/-- A goroutine lets go of no message but its own, of that one for a reason, and of that one before it returns. -/
def handlerContract (g : Goroutine) : Contract operator World where
  answers := Answers (.handler g)
  inv := Coherent
  rely := Spares g
  guarantee before after := ∀ other, other ≠ g → Spares other before after
  guard
    | .resendMessage sent, world => sent = g.msg ∧ g ∈ world.handling
    | .deleteKey ip, world => ip = g.msg.ip ∧ g ∈ world.handling ∧ Finished g world
    | .returned, world => g ∉ world.handling ∧ world.tally g = 1
    | _, _ => True
  rely_refl := Spares.refl g
  rely_trans := Spares.trans

def contract : Thread → Contract operator World
  | .adder index => adderContract index
  | .handler g => handlerContract g

/-- The calls that leave the goroutines alone. -/
def plainKinds : List CallKind := [.lock, .unlock, .beforeTimeout, .updateKVRocks] ++ quietKinds

/-- No goroutine, no log and no clock has changed. -/
structure Untouched (before after : World) : Prop where
  handling : after.handling = before.handling
  started : after.started = before.started
  log : after.log = before.log
  now : after.now = before.now

/-- What a plain call does to the queue. -/
structure Adds (before after : World) : Prop extends Untouched before after where
  coherent : Coherent before → Coherent after

/-- A message that is added is in flight. -/
theorem adds_add (msg : EventMessage) (world : World) : Adds world (world.add msg) := by
  by_cases hknown : msg.ip ∈ world.keys
  · have hadd : world.add msg = world := if_pos hknown
    rw [hadd]
    exact ⟨⟨rfl, rfl, rfl, rfl⟩, id⟩
  · have hadd : world.add msg =
        { world with keys := insert msg.ip world.keys, sending := msg :: world.sending } := if_neg hknown
    refine ⟨?_, Coherent.add⟩
    rw [hadd]
    exact ⟨rfl, rfl, rfl, rfl⟩

theorem Untouched.spares (h : Untouched before after) (g : Goroutine) : Spares g before after :=
  ⟨h.now.ge, h.started.ge, fun _ ↦ ⟨by rw [h.handling], congrFun h.log g⟩⟩

variable {request : Call} {reply : request.Reply}

theorem not_mem_releasing (h : OfKind plainKinds request) : request.kind ∉ releasing := by
  intro hkind
  have hdisjoint : ∀ kind ∈ releasing, kind ∉ plainKinds := by decide
  exact hdisjoint _ hkind h

/-- Other calls add at most a message. -/
theorem Serves.adds (h : Serves request before reply after) (hkind : OfKind plainKinds request) :
    Adds before after := by
  have hsame (hafter : after = before) : Adds before after := by
    rw [hafter]
    exact ⟨⟨rfl, rfl, rfl, rfl⟩, id⟩
  cases request with
  | addMessage ip port key partition =>
    obtain ⟨id, hafter⟩ := h
    rw [hafter]
    exact adds_add _ before
  | resendMessage msg => exact absurd (by simp [Call.kind, releasing]) (not_mem_releasing hkind)
  | deleteKey ip => exact absurd (by simp [Call.kind, releasing]) (not_mem_releasing hkind)
  | beforeTimeout msg => exact hsame h.1
  | _ => exact hsame h

/-! ### Passes and listeners -/

/-- Who only adds keeps the queue coherent. -/
theorem adder_keeps {index : ℕ} (h : OfKind plainKinds request) : (adderContract index).Keeps request := by
  intro before reply after hcoherent hanswer
  have hadds : Adds before after := Serves.adds hanswer h
  exact ⟨not_mem_releasing h, hadds.coherent hcoherent, hadds.spares⟩

/-- A listener only adds. -/
theorem listenMessage_makes (systemId namespaceName payload : String) :
    Makes plainKinds (listenMessage systemId namespaceName payload) := by
  apply (makes_ofOption _).bind
  intro decoded
  cases decoded with
  | skip => exact makes_pure ()
  | add ip port key partition =>
    apply (makes_lift (all_ask (by simp [Call.kind, plainKinds]))).bind
    intro _
    apply (makes_lift (all_ask (by simp [Call.kind, plainKinds, quietKinds]))).bind
    intro _
    exact makes_lift (all_ask (by simp [Call.kind, plainKinds]))

/-- Whatever an adder runs keeps its contract. -/
theorem adder_safe {α : Type} {function : Go α} (h : Makes plainKinds function) (index : ℕ) (world : World) :
    (adderContract index).Safe (function.program.bind fun _ ↦ .done ()) (fun _ _ ↦ True) world := by
  have hall : (function.program.bind fun _ ↦ .done ()).All (adderContract index).Keeps fun _ ↦ True := by
    apply (Program.all_bind _ _ _ _).mpr
    exact Program.All.mono h (fun _ ↦ adder_keeps) fun _ _ ↦ trivial
  exact Contract.safe_of_keeps hall world

/-! ### The goroutine of a message -/

section Noted

variable {entry : Entry operator} {world : World}

theorem noted_spares (hother : other ≠ g) : Spares other world (world.noted g entry) := by
  refine ⟨Nat.le_refl _, Nat.le_refl _, fun _ ↦ ⟨?_, Function.update_of_ne hother _ _⟩⟩
  simp only [World.noted]
  split
  · exact List.mem_erase_of_ne hother
  · rfl

theorem noted_handling (h : entry.1.kind ∉ releasing) : (world.noted g entry).handling = world.handling := if_neg h

theorem noted_log (h : entry.1 ≠ .lock) : (world.noted g entry).log g = world.log g ++ [entry] := by
  simp [World.noted, h]

/-- Resends and deletions are counted. -/
theorem noted_tally (h : entry.1 ≠ .lock) : (world.noted g entry).tally g =
    world.tally g + if settles g.msg entry then 1 else 0 := by
  rw [World.tally, noted_log h, List.countP_append, List.countP_singleton]
  rfl

end Noted

/-- Whether a goroutine still has its message, and how often it has sent it again or deleted its key. -/
structure Stands (g : Goroutine) (held : Prop) (count : ℕ) (world : World) : Prop where
  number : g.number < world.started
  held : g ∈ world.handling ↔ held
  tally : world.tally g = count

section Handler

variable {client : Controller.Client} {world : World} {held : Prop} {count : ℕ}

/-- A handler stands where it stood. -/
theorem Stands.later {later : World} (h : Stands g held count world) (hspares : Spares g world later) :
    Stands g held count later := by
  have hkept := hspares.kept h.number
  refine ⟨h.number.trans_le hspares.started, hkept.1.trans h.held, ?_⟩
  rw [World.tally, hkept.2]
  exact h.tally

/-- What a plain call of a goroutine does. -/
structure Plain (g : Goroutine) (entry : Entry operator) (before after : World) : Prop where
  guard : (handlerContract g).guard entry.1 before
  coherent : Coherent after
  spares : ∀ other, other ≠ g → Spares other before after
  handling : after.handling = before.handling
  started : after.started = before.started
  now : after.now = before.now
  log : after.log g = if entry.1 = .lock then [entry] else before.log g ++ [entry]

/-- A call that settles nothing. -/
theorem plain_of_kind (hkind : OfKind plainKinds request) (hcoherent : Coherent before)
    (hanswer : Answers (.handler g) request before reply after) :
    Plain g ⟨request, reply⟩ before after := by
  obtain ⟨served, hserves, rfl⟩ := hanswer
  have hnot := not_mem_releasing hkind
  have hadds := hserves.adds hkind
  have hhandling : (served.noted g ⟨request, reply⟩).handling = served.handling := noted_handling hnot
  have hserved := hadds.coherent hcoherent
  refine ⟨?_, ?_, ?_, hhandling.trans hadds.handling, hadds.started, hadds.now, ?_⟩
  · cases request with
    | resendMessage sent => exact absurd (by simp [Call.kind, releasing]) hnot
    | deleteKey ip => exact absurd (by simp [Call.kind, releasing]) hnot
    | returned => exact absurd (by simp [Call.kind, releasing]) hnot
    | _ => trivial
  · refine hserved.of_perm (List.Perm.of_eq ?_) rfl ?_
    · rw [World.inFlight, hhandling]
      rfl
    · rw [hhandling]
      exact hserved.numbered
  · exact fun other hother ↦ (hadds.spares other).trans (noted_spares hother)
  · rw [← hadds.log]
    exact Function.update_self ..

theorem settles_of_plain (hkind : OfKind plainKinds request) (msg : EventMessage) :
    settles msg ⟨request, reply⟩ = false := by
  cases request with
  | resendMessage sent => exact absurd (by simp [Call.kind, releasing]) (not_mem_releasing hkind)
  | deleteKey ip => exact absurd (by simp [Call.kind, releasing]) (not_mem_releasing hkind)
  | _ => simp [settles]

/-- A plain call after the lock does not settle anything. -/
theorem Stands.of_plain (h : Stands g held count before) (hkind : OfKind plainKinds request)
    (hlock : request ≠ .lock) (hplain : Plain g ⟨request, reply⟩ before after) :
    Stands g held count after := by
  refine ⟨hplain.started ▸ h.number, hplain.handling ▸ h.held, ?_⟩
  have hlog : after.log g = before.log g ++ [⟨request, reply⟩] := by
    rw [hplain.log, if_neg hlock]
  rw [World.tally, hlog, List.countP_append, List.countP_singleton, settles_of_plain hkind]
  exact h.tally

/-- The body leaves the message with the goroutine, and its log is that of one of its executions. -/
theorem failoverBody_safe (h : Stands g True 0 world) : (handlerContract g).Safe (failoverBody client g.msg).program
      (fun outcome final ↦ Stands g True 0 final ∧
        Exec recorded (failoverBody client g.msg).program (world.log g) outcome (final.log g)) world := by
  have hrely (before after : World) (hbefore : Stands g True 0 before) (hspares : Spares g before after) :
      Stands g True 0 after ∧ after.log g = before.log g :=
    ⟨hbefore.later hspares, (hspares.kept hbefore.number).2⟩
  apply Contract.safe_recorded (fun current : World ↦ current.log g) (Stands g True 0)
    (failoverBody_makes client g.msg) hrely _ h
  intro request hkind before reply after hcoherent hbefore hanswer
  have hplainKind : OfKind plainKinds request :=
    (show CallKind.updateKVRocks :: quietKinds ⊆ plainKinds by decide) hkind
  have hlock : request ≠ .lock := by
    rintro rfl
    simp [OfKind, quietKinds, Call.kind] at hkind
  have hplain := plain_of_kind hplainKind hcoherent hanswer
  exact ⟨hplain.guard, hplain.coherent, hplain.spares, hbefore.of_plain hplainKind hlock hplain,
    hplain.log.trans (if_neg hlock)⟩

/-- A handler that has finished stays so. -/
theorem Finished.later {later : World} (h : Finished g world) (hnumber : g.number < world.started)
    (hspares : Spares g world later) : Finished g later := by
  unfold Finished
  rw [(hspares.kept hnumber).2]
  exact h.imp id fun hlate ↦ ⟨hlate.1, hlate.2.trans hspares.now⟩

theorem unlock_safe (outcome : Outcome GoError Unit) (h : Stands g False 1 world) :
    (handlerContract g).Safe (do ask .unlock; pure outcome) (fun _ ↦ Stands g False 1) world := by
  intro before hspares hcoherent reply after hanswer
  have hkind : OfKind plainKinds .unlock := by simp [OfKind, Call.kind, plainKinds]
  have hplain := plain_of_kind hkind hcoherent hanswer
  exact ⟨trivial, hplain.coherent, hplain.spares, (h.later hspares).of_plain hkind (by simp) hplain⟩

/-- A goroutine that has settled its message has let go of it. -/
theorem Stands.settled {entry : Entry operator} (h : Stands g True 0 before) (hcoherent : Coherent before)
    (hsettles : settles g.msg entry = true) (hlock : entry.1 ≠ .lock) (hkind : entry.1.kind ∈ releasing)
    {served : World} (hserved : Untouched before served) : Stands g False 1 (served.noted g entry) := by
  have hafter : (served.noted g entry).handling = before.handling.erase g := by
    rw [← hserved.handling]
    exact if_pos hkind
  refine ⟨hserved.started ▸ h.number, ?_, ?_⟩
  · rw [hafter, iff_false]
    exact hcoherent.not_mem_erase
  · rw [noted_tally hlock, hsettles, if_pos rfl, World.tally, hserved.log]
    exact congrArg (· + 1) h.tally

/-- The key is deleted once. -/
theorem forget_safe (outcome : Outcome GoError Unit) (h : Stands g True 0 world) (hfinished : Finished g world) :
    (handlerContract g).Safe (do ask (.deleteKey g.msg.ip); ask .unlock; pure outcome)
      (fun _ ↦ Stands g False 1) world := by
  rintro before hspares hcoherent reply after ⟨served, rfl, rfl⟩
  have hbefore := h.later hspares
  have hmem := hbefore.held.mpr trivial
  have hserved : Untouched before { before with keys := before.keys.erase g.msg.ip } := ⟨rfl, rfl, rfl, rfl⟩
  refine ⟨⟨rfl, hmem, hfinished.later h.number hspares⟩, ?_, ?_, unlock_safe outcome ?_⟩
  · exact hcoherent.forget hmem rfl (by simp [World.noted, Call.kind, releasing]) rfl rfl rfl
  · exact fun other hother ↦ (hserved.spares other).trans (noted_spares hother)
  · exact hbefore.settled hcoherent (by simp [settles]) (by simp) (by simp [Call.kind, releasing]) hserved

/-- The message is sent again once. -/
theorem resend_safe (outcome : Outcome GoError Unit) (h : Stands g True 0 world) :
    (handlerContract g).Safe (do ask (.resendMessage g.msg); ask .unlock; pure outcome)
      (fun _ ↦ Stands g False 1) world := by
  rintro before hspares hcoherent reply after ⟨served, rfl, rfl⟩
  have hbefore := h.later hspares
  have hmem := hbefore.held.mpr trivial
  have hserved : Untouched before { before with sending := g.msg :: before.sending } := ⟨rfl, rfl, rfl, rfl⟩
  refine ⟨⟨rfl, hmem⟩, ?_, ?_, unlock_safe outcome ?_⟩
  · exact hcoherent.resend hmem rfl (by simp [World.noted, Call.kind, releasing]) rfl rfl rfl
  · exact fun other hother ↦ (hserved.spares other).trans (noted_spares hother)
  · exact hbefore.settled hcoherent (by simp [settles]) (by simp) (by simp [Call.kind, releasing]) hserved

/-- The deferred functions settle the message once.  After an error its key is deleted only if it is too old. -/
theorem settle_safe {outcome : Outcome GoError Unit} (h : Stands g True 0 world)
    (hexec : Exec recorded (failoverBody client g.msg).program [⟨.lock, ()⟩] outcome (world.log g)) :
    (handlerContract g).Safe (settle g.msg outcome) (fun _ ↦ Stands g False 1) world := by
  cases outcome with
  | ok value => exact forget_safe (.ok value) h (.inl ⟨client, _, hexec, fun _ ↦ nofun⟩)
  | panic => exact forget_safe .panic h (.inl ⟨client, _, hexec, fun _ ↦ nofun⟩)
  | err error =>
    intro before hspares hcoherent inTime after hanswer
    have hkind : OfKind plainKinds (.beforeTimeout g.msg) := by simp [OfKind, Call.kind, plainKinds]
    have hplain := plain_of_kind hkind hcoherent hanswer
    have hafter := (h.later hspares).of_plain hkind (by simp) hplain
    refine ⟨trivial, hplain.coherent, hplain.spares, ?_⟩
    cases inTime with
    | true => exact resend_safe (.ok ()) hafter
    | false =>
      obtain ⟨served, ⟨-, htime⟩, -⟩ := hanswer
      apply forget_safe (.ok ()) hafter
      refine .inr ⟨?_, ?_⟩
      · rw [hplain.log, if_neg (by simp)]
        exact List.mem_append_right _ List.mem_cons_self
      · rw [hplain.now]
        exact Nat.le_of_not_lt (of_decide_eq_false htime.symm)

/-- A handler returns after it has settled its message. -/
theorem returned_safe (h : Stands g False 1 world) :
    (handlerContract g).Safe (ask .returned) (fun _ _ ↦ True) world := by
  rintro before hspares hcoherent reply after ⟨served, rfl, rfl⟩
  have hbefore := h.later hspares
  have hgone : g ∉ served.handling := fun hmem ↦ hbefore.held.mp hmem
  have hhandling : (served.noted g ⟨.returned, reply⟩).handling = served.handling := by
    simp [World.noted, List.erase_of_not_mem hgone]
  refine ⟨⟨hgone, hbefore.tally⟩, ?_, fun other hother ↦ noted_spares hother, trivial⟩
  refine hcoherent.of_perm (List.Perm.of_eq ?_) rfl ?_
  · rw [World.inFlight, hhandling]
    rfl
  · rw [hhandling]
    exact hcoherent.numbered

/-- The whole handler. -/
theorem handleFailover_safe (hmem : g ∈ world.handling) (hnumber : g.number < world.started) : (handlerContract g).Safe
      ((handleFailover client g.msg).program.bind fun _ ↦ ask .returned) (fun _ _ ↦ True) world := by
  apply (Contract.safe_bind _ _ _ _ _).mpr
  intro before hspares hcoherent reply after hanswer
  have hplain := plain_of_kind (by simp [OfKind, Call.kind, plainKinds]) hcoherent hanswer
  have hlog : after.log g = [⟨.lock, ()⟩] := hplain.log.trans (if_pos rfl)
  have hafter : Stands g True 0 after := by
    refine ⟨?_, ?_, ?_⟩
    · rw [hplain.started]
      exact hnumber.trans_le hspares.started
    · rw [hplain.handling, iff_true]
      exact (hspares.kept hnumber).1.mpr hmem
    · rw [World.tally, hlog]
      rfl
  refine ⟨trivial, hplain.coherent, hplain.spares, ?_⟩
  change (handlerContract g).Safe ((failoverBody client g.msg).program.bind (settle g.msg)) _ _
  apply (Contract.safe_bind _ _ _ _ _).mpr
  apply (failoverBody_safe hafter).mono
  rintro outcome final ⟨hfinal, hexec⟩
  rw [hlog] at hexec
  exact (settle_safe hfinal hexec).mono fun _ _ hsettled ↦ returned_safe hsettled

end Handler

/-! ## All runs -/

theorem certified : system.Certified Coherent contract where
  answers_eq thread := by cases thread <;> rfl
  inv_eq thread := by cases thread <;> rfl
  rely_of_guarantee thread other hne before after h := by
    cases other with
    | adder index => trivial
    | handler g =>
      cases thread with
      | adder index => exact h g
      | handler mine => exact h g fun heq ↦ hne (congrArg Thread.handler heq.symm)
  move before after hcoherent hmove := by
    refine ⟨hmove.coherent hcoherent, fun thread ↦ ?_⟩
    cases thread with
    | adder index => trivial
    | handler g => exact hmove.spares g
  start thread world program hcoherent hstart := by
    cases hstart with
    | reconcile index _ key =>
      exact adder_safe ((Controllers.reconcile_makes key).mono (by decide)) index world
    | listen index _ systemId namespaceName payload =>
      exact adder_safe (listenMessage_makes systemId namespaceName payload) index world
    | handleFailover client g _ hhandling =>
      exact handleFailover_safe hhandling (hcoherent.numbered g hhandling)

section Lost

variable {msg : EventMessage}

/-- No call alone takes a message out of flight. -/
theorem Serves.mem_inFlight (h : Serves request before reply after) (hmsg : msg ∈ before.inFlight) :
    msg ∈ after.inFlight := by
  have hsame (hafter : after = before) : msg ∈ after.inFlight := hafter ▸ hmsg
  cases request with
  | addMessage ip port key partition =>
    obtain ⟨id, rfl⟩ := h
    unfold World.add
    split
    · exact hmsg
    · exact List.mem_cons_of_mem _ hmsg
  | resendMessage sent =>
    rw [show after = { before with sending := sent :: before.sending } from h]
    exact List.mem_cons_of_mem sent hmsg
  | deleteKey ip =>
    rw [show after = { before with keys := before.keys.erase ip } from h]
    exact hmsg
  | beforeTimeout asked => exact hsame h.1
  | _ => exact hsame h

/-- A goroutine can only let go of its own message, which it has. -/
theorem noted_mem_inFlight {entry : Entry operator} {world : World} (hmsg : msg ∈ world.inFlight)
    (hother : msg ≠ g.msg ∨ g ∉ world.handling) : msg ∈ (world.noted g entry).inFlight := by
  rcases List.mem_append.mp hmsg with hqueued | hhandled
  · exact List.mem_append_left _ hqueued
  · obtain ⟨handler, hhandler, rfl⟩ := List.mem_map.mp hhandled
    have hne : handler ≠ g := by
      rintro rfl
      exact hother.elim (· rfl) (· hhandler)
    apply List.mem_append_right
    apply List.mem_map_of_mem
    simp only [World.noted]
    split
    · exact (List.mem_erase_of_ne hne).mpr hhandler
    · exact hhandler

/-- Only the deletion of its key by its own goroutine takes a message out of flight. -/
theorem deleteKey_of_lost {thread : Thread} (hguard : (contract thread).guard request before)
    (hanswer : Answers thread request before reply after) (hmsg : msg ∈ before.inFlight)
    (hlost : msg ∉ after.inFlight) :
    ∃ g, g.msg = msg ∧ thread = .handler g ∧ request = .deleteKey msg.ip := by
  cases thread with
  | adder index => exact absurd (Serves.mem_inFlight hanswer hmsg) hlost
  | handler g =>
    obtain ⟨served, hserves, rfl⟩ := hanswer
    have hserved := hserves.mem_inFlight hmsg
    obtain rfl : msg = g.msg := by
      by_contra hother
      exact hlost (noted_mem_inFlight hserved (.inl hother))
    have hkept (hkind : request.kind ∉ releasing) : False := by
      have hhandling : (served.noted g ⟨request, reply⟩).handling = served.handling := noted_handling hkind
      rw [World.inFlight, hhandling] at hlost
      exact hlost hserved
    refine ⟨g, rfl, rfl, ?_⟩
    cases request with
    | deleteKey ip => exact congrArg Call.deleteKey hguard.1
    | resendMessage sent =>
      obtain rfl : sent = g.msg := hguard.1
      rw [show served = { before with sending := g.msg :: before.sending } from hserves] at hlost
      exact absurd List.mem_cons_self hlost
    | returned =>
      rw [show served = before from hserves] at hlost
      exact absurd (noted_mem_inFlight hmsg (.inr hguard.1)) hlost
    | _ => exact (hkept (by simp [Call.kind, releasing])).elim

end Lost

/-- In every run of the queue: the keys are the addresses of the messages being sent, waiting in the channel or being
handled; no two of these messages have the same address; the step that takes a message out of them is the deletion of
its key by its goroutine, which has finished with it; and a goroutine that returns has let go of its message by one
resend or one deletion, and not by both. -/
theorem in_flight_unique_and_kept {now : ℕ} {config : System.Config operator Thread World}
    (hreach : system.Reaches (System.initial (World.empty now)) config) :
    config.world.keys = (config.world.inFlight.map (·.ip)).toFinset ∧ (config.world.inFlight.map (·.ip)).Nodup ∧
      (∀ later msg, system.Step config later → msg ∈ config.world.inFlight → msg ∉ later.world.inFlight →
        ∃ g, g.msg = msg ∧ Finished g config.world ∧
          ∃ resume, config.running (.handler g) = some (.call (.deleteKey msg.ip) resume)) ∧
      ∀ g resume, config.running (.handler g) = some (.call .returned resume) →
        g ∉ config.world.handling ∧ config.world.tally g = 1 := by
  have hempty : Coherent (World.empty now) := ⟨rfl, List.nodup_nil, nofun⟩
  have hcoherent := (System.reaches_sound certified hempty hreach).inv
  refine ⟨hcoherent.keys, hcoherent.nodup, fun later msg hstep hmsg hlost ↦ ?_, fun g resume hnext ↦ ?_⟩
  · cases hstep with
    | move hmove => exact absurd (hmove.mem_inFlight msg hmsg) hlost
    | start thread hidle hstart => exact absurd hmsg hlost
    | stop thread => exact absurd hmsg hlost
    | call thread hnext hanswer =>
      have hguard := System.reaches_guard certified hempty hreach hnext hanswer
      obtain ⟨g, hown, rfl, rfl⟩ := deleteKey_of_lost hguard hanswer hmsg hlost
      exact ⟨g, hown, hguard.2.2, _, hnext⟩
  · have hanswer : Answers (.handler g) .returned config.world () (config.world.noted g ⟨.returned, ()⟩) :=
      ⟨config.world, rfl, rfl⟩
    exact System.reaches_guard certified hempty hreach hnext hanswer

/-! ## The way of one message -/

/-- What a sentinel reports when the master of the first shard is down. -/
def down : EventMessage :=
  { id := 0, ip := "10.0.0.1", port := "6379", key := ⟨"default", "kvrocks-cluster-1-demo"⟩, partition := 0
    timeout := 30 }

/-- A listener that hears of it, and the goroutine of the message, for an instance that is gone. -/
def player : System.Player operator Thread World where
  program
    | .adder _ =>
      (listenMessage "1" "default/sentinel-1" "master demo-0 10.0.0.1 6379").program.bind fun _ ↦ .done ()
    | .handler g => (handleFailover Controller.newClient g.msg).program.bind fun _ ↦ ask .returned
  startable
    | .adder _, _ => true
    | .handler g, world => world.handling.contains g
  serve
    | .adder _, .lock, world => some ((), world)
    | .adder _, .unlock, world => some ((), world)
    | .adder _, .addMessage ip port key partition, world =>
      some ((), world.add
        { id := 0, ip := ip, port := port, key := key, partition := partition
          timeout := world.now + lifetime })
    | .handler g, .lock, world => some ((), world.noted g ⟨.lock, ()⟩)
    | .handler g, .getKVRocks key, world =>
      some (.error .notFound, world.noted g ⟨.getKVRocks key, .error .notFound⟩)
    | .handler g, .deleteKey ip, world =>
      some ((), World.noted g ⟨.deleteKey ip, ()⟩ { world with keys := world.keys.erase ip })
    | .handler g, .unlock, world => some ((), world.noted g ⟨.unlock, ()⟩)
    | _, _, _ => none

theorem player_plays : player.Plays system where
  start thread world hstart := by
    cases thread with
    | adder index => exact .listen index world _ _ _
    | handler g => exact .handleFailover _ g world (by simpa [player] using hstart)
  serve thread request world answer hserve := by
    cases thread with
    | adder index =>
      cases request with
      | lock | unlock => cases hserve; rfl
      | addMessage ip port key partition => cases hserve; exact ⟨0, rfl⟩
      | _ => cases hserve
    | handler g =>
      cases request with
      | lock | unlock | getKVRocks => cases hserve; exact ⟨world, rfl, rfl⟩
      | deleteKey ip => cases hserve; exact ⟨_, rfl, rfl⟩
      | _ => cases hserve

/-- The message has been received by the consumer. -/
def received : World :=
  { keys := {"10.0.0.1"}, sending := [], channel := [], handling := [⟨0, down⟩], started := 1, now := 0
    log := fun _ ↦ [] }

/-- The message of the example has been received. -/
theorem reaches_received : system.Reaches (System.initial (World.empty 0)) (System.initial received) := by
  obtain ⟨config, hplay, hworld, hrunning⟩ : ∃ config,
      player.play [.start (.adder 0), .answer (.adder 0), .answer (.adder 0), .stop (.adder 0)]
        (System.initial (World.empty 0)) = some config ∧
      config.world = { received with sending := [down], handling := [], started := 0 } ∧
      ∀ thread, config.running thread = none := by
    refine ⟨_, rfl, rfl, fun thread ↦ ?_⟩
    by_cases hthread : thread = .adder 0
    · simp [hthread]
    · simp [hthread, System.initial]
  obtain ⟨world, running⟩ := config
  obtain rfl : running = fun _ ↦ none := funext hrunning
  subst hworld
  have htake : Moves { received with sending := [down], handling := [], started := 0 }
      { received with channel := [down], handling := [], started := 0 } := .take _ [] [] down rfl (by decide)
  have hreceive : Moves { received with channel := [down], handling := [], started := 0 } received :=
    .receive _ down [] rfl
  exact ((System.Player.play_reaches player_plays hplay).tail (.move htake)).tail (.move hreceive)

/-- The goroutine finds no instance and deletes the key, which has settled the message when it returns. -/
theorem down_finished : ∃ deleting returning : System.Config operator Thread World,
    system.Reaches (System.initial (World.empty 0)) deleting ∧ deleting.world.keys = {"10.0.0.1"} ∧
      (∃ g, g.msg = down ∧ Finished g deleting.world) ∧ system.Reaches deleting returning ∧
      returning.world.keys = ∅ ∧ returning.world.tally ⟨0, down⟩ = 1 := by
  obtain ⟨config, hplay, hkeys, hinFlight, hafter, resume, hnext⟩ : ∃ config,
      player.play [.start (.handler ⟨0, down⟩), .answer (.handler ⟨0, down⟩), .answer (.handler ⟨0, down⟩)]
        (System.initial received) = some config ∧ config.world.keys = {"10.0.0.1"} ∧
      config.world.inFlight = [down] ∧ (World.noted ⟨0, down⟩ ⟨.deleteKey "10.0.0.1", ()⟩ config.world).inFlight = [] ∧
      ∃ resume, config.running (.handler ⟨0, down⟩) = some (.call (.deleteKey "10.0.0.1") resume) :=
    ⟨_, rfl, rfl, rfl, rfl, _, rfl⟩
  obtain ⟨later, hrest, hgone, resume', hreturns⟩ : ∃ later,
      player.play [.answer (.handler ⟨0, down⟩), .answer (.handler ⟨0, down⟩)] config = some later ∧
      later.world.inFlight = [] ∧ ∃ resume, later.running (.handler ⟨0, down⟩) = some (.call .returned resume) := by
    obtain rfl := Option.some.inj hplay
    exact ⟨_, rfl, rfl, _, rfl⟩
  have hreach : system.Reaches (System.initial (World.empty 0)) config :=
    reaches_received.trans (System.Player.play_reaches player_plays hplay)
  have hlater := System.Player.play_reaches player_plays hrest
  have hanswer : system.answers (.handler ⟨0, down⟩) (.deleteKey "10.0.0.1") config.world ()
      (World.noted ⟨0, down⟩ ⟨.deleteKey "10.0.0.1", ()⟩
        { config.world with keys := config.world.keys.erase "10.0.0.1" }) := ⟨_, rfl, rfl⟩
  obtain ⟨g, hown, hfinished, -⟩ := (in_flight_unique_and_kept hreach).2.2.1 _ down
    (System.Step.call (.handler ⟨0, down⟩) hnext hanswer) (hinFlight ▸ List.mem_singleton_self down)
    (fun hmem ↦ List.not_mem_nil (hafter ▸ hmem))
  have hreturned := in_flight_unique_and_kept (hreach.trans hlater)
  refine ⟨config, later, hreach, hkeys, ⟨g, hown, hfinished⟩, hlater, ?_, (hreturned.2.2.2 _ resume' hreturns).2⟩
  rw [hreturned.1, hgone]
  rfl

end KvrocksOperator.Events.Queue
