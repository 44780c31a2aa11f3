import Mathlib.Logic.Function.Basic
import KvrocksOperator.Sentinel.Monitor

/-!
# Setting up a monitor in several attempts

`ensureMonitor` asks each sentinel for the address that it monitors under a name, and makes the monitor anew unless
the address is the wanted one.  `CreateMonitor` is four commands, the first of which fixes the address.  A monitor
that an attempt has left half configured is therefore taken for a finished one by the next attempt, which resets it
and sets its password only.
-/

namespace KvrocksOperator.Sentinel.Setup

open Interaction

/-! ## Sentinels -/

/-- A monitor: its address, the options that have been set, and whether `ensureMonitor` has made it. -/
structure Monitor where
  ip : String
  settings : String → Option String
  created : Bool

/-- What `MONITOR` makes: every option has its default. -/
def Monitor.fresh (ip : String) : Monitor := { ip := ip, settings := fun _ ↦ none, created := true }

/-- What `SET` makes of a monitor. -/
def Monitor.set (monitor : Monitor) (option value : String) : Monitor :=
  { monitor with settings := Function.update monitor.settings option (some value) }

@[simp] theorem settings_set_same (monitor : Monitor) (option value : String) :
    (monitor.set option value).settings option = some value := Function.update_self _ _ _

variable {option value : String}

@[simp] theorem settings_set_other (monitor : Monitor) {other : String} (value : String) (h : other ≠ option) :
    (monitor.set option value).settings other = monitor.settings other := Function.update_of_ne h _ _

/-- The monitor has the address and the password. -/
def Monitor.Aimed (masterIP password : String) (monitor : Monitor) : Prop :=
  monitor.ip = masterIP ∧ monitor.settings "AUTH-PASS" = some password

/-- The monitor has all settings that `CreateMonitor` applies. -/
def Monitor.Configured (password : String) (monitor : Monitor) : Prop :=
  monitor.settings "AUTH-PASS" = some password ∧ monitor.settings "failover-timeout" = some "30000" ∧
    monitor.settings "down-after-milliseconds" = some "10000"

/-- What `CreateMonitor` makes, command by command. -/
def Monitor.made (ip password : String) : Monitor :=
  (((Monitor.fresh ip).set "AUTH-PASS" password).set "failover-timeout" "30000").set "down-after-milliseconds" "10000"

/-- A monitor that has been made has the address and the password. -/
theorem aimed_made (ip password : String) : (Monitor.made ip password).Aimed ip password :=
  ⟨rfl, by simp [Monitor.made]⟩

/-- A monitor that has been made has all settings. -/
theorem configured_made (ip password : String) : (Monitor.made ip password).Configured password := by
  simp [Monitor.Configured, Monitor.made]

variable {monitor : Monitor}

/-- The password of a configured monitor can be set again. -/
theorem Monitor.Configured.set_password {password : String} (h : monitor.Configured password) :
    (monitor.set "AUTH-PASS" password).Configured password := by
  refine ⟨settings_set_same _ _ _, ?_, ?_⟩
  · rw [settings_set_other _ _ (by decide)]
    exact h.2.1
  · rw [settings_set_other _ _ (by decide)]
    exact h.2.2

/-- The monitors of each sentinel, by their names. -/
abbrev Sentinels := String → String → Option Monitor

/-- A sentinel has, or no longer has, a monitor. -/
def Sentinels.put (sentinels : Sentinels) (ip name : String) (monitor : Option Monitor) : Sentinels :=
  Function.update sentinels ip (Function.update (sentinels ip) name monitor)

section Put

variable (sentinels : Sentinels) (ip name : String) (monitor : Option Monitor)

@[simp] theorem put_same : sentinels.put ip name monitor ip name = monitor := by
  rw [Sentinels.put, Function.update_self, Function.update_self]

theorem put_other {otherIP other : String} (h : ¬ (otherIP = ip ∧ other = name)) :
    sentinels.put ip name monitor otherIP other = sentinels otherIP other := by
  unfold Sentinels.put
  by_cases hip : otherIP = ip
  · rw [hip, Function.update_self, Function.update_of_ne fun hname ↦ h ⟨hip, hname⟩]
  · rw [Function.update_of_ne hip]

@[simp] theorem put_put (second : Option Monitor) :
    (sentinels.put ip name monitor).put ip name second = sentinels.put ip name second := by
  rw [Sentinels.put, Sentinels.put, Function.update_self, Function.update_idem, Function.update_idem, Sentinels.put]

end Put

/-- How sentinels answer: a monitor can be made only under a free name, and an option be set only for a monitor that
is there.  Every command may fail, and a failed command may or may not have had its effect. -/
def answers : Program.Answers operator Sentinels
  | .sentinel ip _ (.master name), before, reply, after =>
    after = before ∧ ∀ found, reply = .ok found → ∃ monitor, before ip name = some monitor ∧ monitor.ip = found
  | .sentinel ip _ (.remove name), before, reply, after =>
    after = before.put ip name none ∨ reply ≠ .ok () ∧ after = before
  | .sentinel ip _ (.monitor name master _ _), before, reply, after =>
    before ip name = none ∧ after = before.put ip name (some (.fresh master)) ∨ reply ≠ .ok () ∧ after = before
  | .sentinel ip _ (.set name option value), before, reply, after =>
    (∃ monitor, before ip name = some monitor ∧ after = before.put ip name (some (monitor.set option value))) ∨
      reply ≠ .ok () ∧ after = before
  | _, before, _, after => after = before

/-- No command fails for a monitor that has been made and lacks a setting, and a `MONITOR` that fails has had no
effect. -/
def careful (password : String) : Program.Answers operator Sentinels
  | .sentinel ip user (.monitor name master port quorum), before, reply, after =>
    answers (.sentinel ip user (.monitor name master port quorum)) before reply after ∧
      (reply ≠ .ok () → after = before)
  | .sentinel ip user (.set name option value), before, reply, after =>
    answers (.sentinel ip user (.set name option value)) before reply after ∧
      ∀ monitor, before ip name = some monitor → monitor.created → ¬ monitor.Configured password → reply = .ok ()
  | request, before, reply, after => answers request before reply after

/-- Careful answers are answers. -/
theorem answers_of_careful {password : String} (request : Call) (before : Sentinels) (reply : request.Reply)
    (after : Sentinels) (h : careful password request before reply after) : answers request before reply after := by
  cases request with
  | sentinel ip user command =>
    cases command with
    | monitor name master port quorum => exact h.1
    | set name option value => exact h.1
    | _ => exact h
  | _ => exact h

/-! ## An attempt that returns nil -/

section Success

variable {sentinels : Sentinels} {user name masterIP password sentinel : String}

/-- No failure is excluded. -/
abbrev anyFailure : Sentinels → Prop := fun _ ↦ True

theorem set_yields :
    (Go.remote (ask (.sentinel sentinel user (.set name option value)))).Yields (.sequential answers) anyFailure
      (fun _ final ↦ ∃ monitor, sentinels sentinel name = some monitor ∧
        final = sentinels.put sentinel name (some (monitor.set option value))) sentinels := by
  apply ends_attempt
  intro reply final hreply
  cases reply with
  | ok _ => exact hreply.resolve_right fun hrefused ↦ hrefused.1 rfl
  | error error => trivial

/-- The next command of `CreateMonitor`. -/
theorem set_put_yields (monitor : Monitor) :
    (Go.remote (ask (.sentinel sentinel user (.set name option value)))).Yields (.sequential answers) anyFailure
      (fun _ final ↦ final = sentinels.put sentinel name (some (monitor.set option value)))
      (sentinels.put sentinel name (some monitor)) := by
  apply set_yields.imp
  rintro _ final ⟨found, hfound, hfinal⟩
  rw [put_same, Option.some.injEq] at hfound
  rw [hfinal, put_put, ← hfound]

/-- `CreateMonitor` makes a whole monitor. -/
theorem createMonitor_yields :
    (Kvrocks.createMonitor sentinel user name masterIP password).Yields (.sequential answers) anyFailure
      (fun _ final ↦ final = sentinels.put sentinel name (some (.made masterIP password))) sentinels := by
  have hmonitor : (Go.remote (ask (.sentinel sentinel user
      (.monitor name masterIP (Text.itoa Kvrocks.kvrocksPort) (Text.itoa Kvrocks.quorum))))).Yields
      (.sequential answers) anyFailure
      (fun _ final ↦ final = sentinels.put sentinel name (some (.fresh masterIP))) sentinels := by
    apply ends_attempt
    intro reply final hreply
    cases reply with
    | ok _ => exact (hreply.resolve_right fun hrefused ↦ hrefused.1 rfl).2
    | error error => trivial
  apply hmonitor.bind
  rintro _ _ rfl
  apply (set_put_yields _).bind
  rintro _ _ rfl
  apply (set_put_yields _).bind
  rintro _ _ rfl
  exact set_put_yields _

/-- A monitor with the address and the password is put in the place of whatever was there. -/
def Aims (sentinels : Sentinels) (sentinel name masterIP password : String) (final : Sentinels) : Prop :=
  ∃ monitor, monitor.Aimed masterIP password ∧ final sentinel name = some monitor ∧
    ∀ otherIP, otherIP ≠ sentinel → final otherIP name = sentinels otherIP name

/-- A monitor of another master is replaced. -/
theorem replaceMonitor_yields : ((Kvrocks.removeMonitor sentinel user name).handle >>= fun _ ↦
      Kvrocks.createMonitor sentinel user name masterIP password).Yields (.sequential answers) anyFailure
      (fun _ ↦ Aims sentinels sentinel name masterIP password) sentinels := by
  have hremove : (Kvrocks.removeMonitor sentinel user name).handle.Yields (.sequential answers) anyFailure
      (fun _ final ↦ ∀ otherIP, otherIP ≠ sentinel → final otherIP name = sentinels otherIP name) sentinels := by
    have heither {final : Sentinels} (hfinal : final = sentinels.put sentinel name none ∨ final = sentinels)
        (otherIP : String) (hother : otherIP ≠ sentinel) : final otherIP name = sentinels otherIP name := by
      rcases hfinal with rfl | rfl
      · exact put_other _ _ _ _ fun hsame ↦ hother hsame.1
      · rfl
    apply ends_handle
    apply ends_attempt
    intro reply final hreply
    cases reply with
    | ok _ => exact heither (hreply.imp id And.right)
    | error error => exact fun _ ↦ heither (hreply.imp id And.right)
  apply hremove.bind
  intro _ later hlater
  apply createMonitor_yields.imp
  rintro _ final rfl
  refine ⟨_, aimed_made masterIP password, put_same _ _ _ _, fun otherIP hother ↦ ?_⟩
  rw [put_other _ _ _ _ fun hsame ↦ hother hsame.1]
  exact hlater otherIP hother

/-- A monitor of the master gets the password. -/
theorem resetMonitor_yields (hmonitor : sentinels sentinel name = some monitor) (hip : monitor.ip = masterIP) :
    (Kvrocks.resetMonitor sentinel user name password).Yields (.sequential answers) anyFailure
      (fun _ ↦ Aims sentinels sentinel name masterIP password) sentinels := by
  have hreset : (Go.remote (ask (.sentinel sentinel user (.reset name)))).Yields (.sequential answers) anyFailure
      (fun _ final ↦ final = sentinels) sentinels := by
    apply ends_attempt
    intro reply final hreply
    cases reply with
    | ok _ => exact hreply
    | error error => trivial
  apply hreset.bind
  rintro _ _ rfl
  apply set_yields.imp
  rintro _ final ⟨found, hfound, rfl⟩
  rw [hmonitor, Option.some.injEq] at hfound
  refine ⟨_, ⟨hfound ▸ hip, ?_⟩, put_same _ _ _ _, fun otherIP hother ↦ ?_⟩
  · exact settings_set_same _ _ _
  · exact put_other _ _ _ _ fun hsame ↦ hother hsame.1

theorem ensureMonitorAt_aims :
    (ensureMonitorAt user masterIP name password sentinel).Yields (.sequential answers) anyFailure
      (fun _ ↦ Aims sentinels sentinel name masterIP password) sentinels := by
  apply ensureMonitorAt_yields
  rintro reply _ ⟨rfl, hfound⟩
  refine ⟨fun hok ↦ ?_, fun _ ↦ replaceMonitor_yields⟩
  obtain ⟨monitor, hmonitor, hip⟩ := hfound masterIP hok
  exact resetMonitor_yields hmonitor hip

/-- After an `ensureMonitor` that returns nil every sentinel monitors the master under the name. -/
theorem ensureMonitor_yields (h : Handler) :
    (ensureMonitor h masterIP name password).Yields (.sequential answers) anyFailure
      (fun _ final ↦ ∀ sentinel ∈ h.pods, ∃ monitor, final sentinel name = some monitor ∧
        monitor.Aimed masterIP password) sentinels := by
  refine yields_forEach (fun (front : List String) (final : Sentinels) ↦ ∀ sentinel ∈ front, ∃ monitor,
    final sentinel name = some monitor ∧ monitor.Aimed masterIP password) (by simp) ?_
  intro front sentinel back current _ hfront
  apply ensureMonitorAt_aims.imp
  rintro _ final ⟨monitor, haimed, hmonitor, hothers⟩ other hother
  by_cases hsame : other = sentinel
  · exact ⟨monitor, hsame ▸ hmonitor, haimed⟩
  · rw [hothers other hsame]
    exact hfront other ((List.mem_append.mp hother).resolve_right fun hlast ↦ hsame (List.mem_singleton.mp hlast))

end Success

/-! ## What every attempt keeps -/

/-- Every monitor that `ensureMonitor` has made has all settings. -/
def Whole (password : String) (sentinels : Sentinels) : Prop :=
  ∀ sentinel name monitor, sentinels sentinel name = some monitor → monitor.created → monitor.Configured password

theorem Whole.put {password : String} {sentinels : Sentinels} (h : Whole password sentinels) {ip name : String}
    {monitor : Option Monitor} (hmonitor : ∀ found, monitor = some found → found.created → found.Configured password) :
    Whole password (sentinels.put ip name monitor) := by
  intro otherIP other found hfound
  by_cases hsame : otherIP = ip ∧ other = name
  · rw [hsame.1, hsame.2, put_same] at hfound
    exact hmonitor found hfound
  · rw [put_other _ _ _ _ hsame] at hfound
    exact h otherIP other found hfound

section Careful

variable {user name masterIP password sentinel : String}

/-- A command of `CreateMonitor` after the first one, which does not fail. -/
theorem set_careful {sentinels : Sentinels} (hcreated : monitor.created) (hmissing : ¬ monitor.Configured password)
    {fail : Sentinels → Prop} :
    (Go.remote (ask (.sentinel sentinel user (.set name option value)))).Yields (.sequential (careful password)) fail
      (fun _ final ↦ final = sentinels.put sentinel name (some (monitor.set option value)))
      (sentinels.put sentinel name (some monitor)) := by
  apply ends_attempt
  intro reply final hreply
  have hok := hreply.2 monitor (put_same _ _ _ _) hcreated hmissing
  rw [hok]
  obtain ⟨found, hfound, hfinal⟩ := hreply.1.resolve_right fun hrefused ↦ hrefused.1 hok
  rw [put_same, Option.some.injEq] at hfound
  change final = _
  rw [hfinal, put_put, ← hfound]

/-- `CreateMonitor` makes a whole monitor or none. -/
theorem createMonitor_keeps :
    (Kvrocks.createMonitor sentinel user name masterIP password).Keeps (.sequential (careful password))
      (Whole password) := by
  intro sentinels hwhole
  have hmonitor : (Go.remote (ask (.sentinel sentinel user
      (.monitor name masterIP (Text.itoa Kvrocks.kvrocksPort) (Text.itoa Kvrocks.quorum))))).Yields
      (.sequential (careful password)) (Whole password)
      (fun _ final ↦ final = sentinels.put sentinel name (some (.fresh masterIP))) sentinels := by
    apply ends_attempt
    intro reply final hreply
    cases reply with
    | ok _ => exact (hreply.1.resolve_right fun hrefused ↦ hrefused.1 rfl).2
    | error error =>
      have hsame : final = sentinels := hreply.2 nofun
      exact hsame ▸ hwhole
  apply hmonitor.bind
  rintro _ _ rfl
  apply (set_careful rfl (by simp [Monitor.Configured, Monitor.fresh])).bind
  rintro _ _ rfl
  apply (set_careful rfl (by simp [Monitor.Configured, Monitor.fresh])).bind
  rintro _ _ rfl
  apply (set_careful rfl (by simp [Monitor.Configured, Monitor.fresh])).imp
  rintro _ _ rfl
  refine hwhole.put fun found hfound _ ↦ ?_
  rw [← Option.some.inj hfound]
  exact configured_made masterIP password

/-- A removal leaves the others whole. -/
theorem removeMonitor_keeps :
    (Kvrocks.removeMonitor sentinel user name).Keeps (.sequential (careful password)) (Whole password) := by
  intro sentinels hwhole
  apply ends_attempt
  intro reply final hreply
  have hfinal : Whole password final := by
    rcases hreply with rfl | ⟨-, rfl⟩
    · exact hwhole.put nofun
    · exact hwhole
  cases reply with
  | ok _ => exact hfinal
  | error error => exact hfinal

/-- A reset leaves every monitor whole. -/
theorem resetMonitor_keeps :
    (Kvrocks.resetMonitor sentinel user name password).Keeps (.sequential (careful password)) (Whole password) := by
  have hreset : (Go.remote (ask (.sentinel sentinel user (.reset name)))).Keeps (.sequential (careful password))
      (Whole password) := by
    intro sentinels hwhole
    apply ends_attempt
    intro reply final hreply
    have hfinal : final = sentinels := hreply
    rw [hfinal]
    cases reply with
    | ok _ => exact hwhole
    | error error => exact hwhole
  apply hreset.bind
  intro _ sentinels hwhole
  apply ends_attempt
  intro reply final hreply
  have hfinal : Whole password final := by
    rcases hreply.1 with ⟨monitor, hmonitor, rfl⟩ | ⟨-, rfl⟩
    · refine hwhole.put fun found hfound hcreated ↦ ?_
      rw [← Option.some.inj hfound] at hcreated ⊢
      exact (hwhole sentinel name monitor hmonitor hcreated).set_password
    · exact hwhole
  cases reply with
  | ok _ => exact hfinal
  | error error => exact hfinal

/-- However an attempt ends, it leaves no monitor half configured. -/
theorem ensureMonitor_keeps (h : Handler) :
    (ensureMonitor h masterIP name password).Keeps (.sequential (careful password)) (Whole password) := by
  apply Fallible.keeps_forEach
  intro sentinel sentinels hwhole
  apply ensureMonitorAt_yields
  rintro reply _ ⟨rfl, -⟩
  exact ⟨fun _ ↦ resetMonitor_keeps _ hwhole,
    fun _ ↦ (removeMonitor_keeps.handle.bind fun _ ↦ createMonitor_keeps) _ hwhole⟩

end Careful

/-! ## Sequences of attempts -/

/-- Attempts at setting up one monitor, whatever their outcomes, by handlers that may know different sentinels. -/
inductive Attempts (step : Program.Answers operator Sentinels) (masterIP name password : String) :
    Sentinels → Sentinels → Prop where
  | start (sentinels : Sentinels) : Attempts step masterIP name password sentinels sentinels
  | more {first middle last : Sentinels} {h : Handler} {outcome : Outcome GoError Unit}
      (hbefore : Attempts step masterIP name password first middle)
      (hattempt : Exec step (ensureMonitor h masterIP name password).program middle outcome last) :
      Attempts step masterIP name password first last

/-- No monitor has been made by an attempt yet. -/
def Untouched (sentinels : Sentinels) : Prop :=
  ∀ sentinel name monitor, sentinels sentinel name = some monitor → monitor.created = false

/-- No sequence of attempts leaves half a monitor. -/
theorem Attempts.whole {masterIP name password : String} {first last : Sentinels}
    (hattempts : Attempts (careful password) masterIP name password first last) (hfirst : Untouched first) :
    Whole password last := by
  induction hattempts with
  | start =>
    intro sentinel name monitor hmonitor hcreated
    rw [hfirst sentinel name monitor hmonitor] at hcreated
    cases hcreated
  | more _ hattempt ih => exact (ensureMonitor_keeps _).exec hattempt ih

/-- After a sequence of attempts of which the last one returns nil, every sentinel monitors the master with the
password; and if no command has failed for a half configured monitor, every monitor that has been made has all its
settings. -/
theorem monitor_setup_resumes (masterIP name password : String) {first middle : Sentinels} (hfirst : Untouched first)
    (h : Handler) :
    (Attempts answers masterIP name password first middle → ∀ last,
      Exec answers (ensureMonitor h masterIP name password).program middle (.ok ()) last →
        ∀ sentinel ∈ h.pods, ∃ monitor, last sentinel name = some monitor ∧ monitor.Aimed masterIP password) ∧
    (Attempts (careful password) masterIP name password first middle → ∀ last,
      Exec (careful password) (ensureMonitor h masterIP name password).program middle (.ok ()) last →
        (∀ sentinel ∈ h.pods, ∃ monitor, last sentinel name = some monitor ∧ monitor.Aimed masterIP password) ∧
          Whole password last) := by
  constructor
  · intro _ last hattempt
    exact (ensureMonitor_yields h).exec hattempt
  · intro hattempts last hattempt
    exact ⟨(ensureMonitor_yields h).exec (hattempt.mono answers_of_careful), (hattempts.more hattempt).whole hfirst⟩

/-! ## An attempt that stops half-way -/

/-- One sentinel. -/
def demo : Handler :=
  { instance_ := KVRocks.created ⟨"default", "sentinel"⟩
      { image := "", type := .sentinel, kvrocksConfig := [], replicas := 3, master := 0, password := "guard",
        resources := true }
    key := ⟨"default", "sentinel"⟩
    pods := ["10.0.1.1"]
    requeue := false }

/-- A server on which the given commands fail without an effect. -/
def serve (fails : SentinelCommand → Bool) : (request : Call) → Sentinels → request.Reply × Sentinels
  | .sentinel ip _ (.master name), sentinels =>
    match fails (.master name), sentinels ip name with
    | false, some monitor => (.ok monitor.ip, sentinels)
    | _, _ => (.error (.remote "failed"), sentinels)
  | .sentinel ip _ (.remove name), sentinels =>
    match fails (.remove name) with
    | false => (.ok (), sentinels.put ip name none)
    | true => (.error (.remote "failed"), sentinels)
  | .sentinel ip _ (.monitor name master port quorum), sentinels =>
    match fails (.monitor name master port quorum), sentinels ip name with
    | false, none => (.ok (), sentinels.put ip name (some (.fresh master)))
    | _, _ => (.error (.remote "failed"), sentinels)
  | .sentinel ip _ (.set name option value), sentinels =>
    match fails (.set name option value), sentinels ip name with
    | false, some monitor => (.ok (), sentinels.put ip name (some (monitor.set option value)))
    | _, _ => (.error (.remote "failed"), sentinels)
  | .sentinel _ _ (.reset name), sentinels =>
    match fails (.reset name) with
    | false => (.ok (), sentinels)
    | true => (.error (.remote "failed"), sentinels)
  | request, sentinels => (request.failure, sentinels)

theorem serve_answers (fails : SentinelCommand → Bool) (request : Call) (sentinels : Sentinels) :
    answers request sentinels (serve fails request sentinels).1 (serve fails request sentinels).2 := by
  cases request with
  | sentinel ip user command =>
    cases hfails : fails command with
    | false =>
      cases command with
      | master name => cases hmonitor : sentinels ip name <;> simp [answers, serve, hfails, hmonitor]
      | monitor name master port quorum =>
        cases hmonitor : sentinels ip name <;> simp [answers, serve, hfails, hmonitor]
      | set name option value => cases hmonitor : sentinels ip name <;> simp [answers, serve, hfails, hmonitor]
      | remove name => simp [answers, serve, hfails]
      | reset name => simp [answers, serve, hfails]
    | true => cases command <;> simp [answers, serve, hfails]
  | _ => rfl

/-- The server is careful if `SET` does not fail. -/
theorem serve_careful {fails : SentinelCommand → Bool}
    (hset : ∀ name option value, fails (.set name option value) = false) (password : String) (request : Call)
    (sentinels : Sentinels) :
    careful password request sentinels (serve fails request sentinels).1 (serve fails request sentinels).2 := by
  have hanswers := serve_answers fails request sentinels
  cases request with
  | sentinel ip user command =>
    cases command with
    | monitor name master port quorum =>
      refine ⟨hanswers, fun hrefused ↦ ?_⟩
      cases hfails : fails (.monitor name master port quorum) <;> cases hmonitor : sentinels ip name <;>
        simp_all [serve]
    | set name option value =>
      refine ⟨hanswers, fun monitor hmonitor _ _ ↦ ?_⟩
      simp [serve, hset, hmonitor]
    | _ => exact hanswers
  | _ => exact hanswers

/-- An attempt against the server. -/
def attempt (fails : SentinelCommand → Bool) (sentinels : Sentinels) : Outcome GoError Unit × Sentinels :=
  (ensureMonitor demo "10.0.0.1" "demo" "secret").program.run (serve fails) sentinels

theorem exec_attempt (fails : SentinelCommand → Bool) (sentinels : Sentinels) :
    Exec answers (ensureMonitor demo "10.0.0.1" "demo" "secret").program sentinels (attempt fails sentinels).1
      (attempt fails sentinels).2 := exec_run (serve_answers fails) _ _

theorem exec_attempt_careful {fails : SentinelCommand → Bool}
    (hset : ∀ name option value, fails (.set name option value) = false) (sentinels : Sentinels) :
    Exec (careful "secret") (ensureMonitor demo "10.0.0.1" "demo" "secret").program sentinels
      (attempt fails sentinels).1 (attempt fails sentinels).2 := exec_run (serve_careful hset "secret") _ _

/-- Every command is carried out. -/
def nothingFails (_ : SentinelCommand) : Bool := false

/-- The password cannot be set. -/
def passwordFails : SentinelCommand → Bool
  | .set _ "AUTH-PASS" _ => true
  | _ => false

/-- Neither can the address be read nor a monitor be made. -/
def monitorFails : SentinelCommand → Bool
  | .master _ | .monitor _ _ _ _ => true
  | _ => false

/-- An attempt fails while it sets the password of the monitor that it has made; the next one succeeds and leaves the
monitor without its timeouts. -/
theorem retry_leaves_timeouts_unset : ∃ middle last, Untouched (fun _ _ ↦ none) ∧
      Exec answers (ensureMonitor demo "10.0.0.1" "demo" "secret").program (fun _ _ ↦ none)
        (.err (.remote "failed")) middle ∧
      Exec answers (ensureMonitor demo "10.0.0.1" "demo" "secret").program middle (.ok ()) last ∧
      ∃ monitor, last "10.0.1.1" "demo" = some monitor ∧ monitor.created = true ∧
        monitor.settings "failover-timeout" = none ∧ monitor.settings "down-after-milliseconds" = none :=
  ⟨_, _, nofun, exec_attempt passwordFails fun _ _ ↦ none, exec_attempt nothingFails _, _, rfl, rfl, rfl, rfl⟩

/-- A monitor at another address; the first attempt removes it and fails to make a new one. -/
def moved : Sentinels := fun _ name ↦
  if name = "demo" then some { ip := "10.0.0.9", settings := fun _ ↦ some "0", created := false } else none

theorem untouched_moved : Untouched moved := by
  intro sentinel name monitor hmonitor
  unfold moved at hmonitor
  split_ifs at hmonitor
  rw [← Option.some.inj hmonitor]

/-- After a failed `MONITOR` the next attempt leaves a whole monitor of the new master. -/
theorem moved_monitor_resumes : Untouched moved ∧ ∃ middle last,
      Attempts (careful "secret") "10.0.0.1" "demo" "secret" moved middle ∧
      Exec (careful "secret") (ensureMonitor demo "10.0.0.1" "demo" "secret").program middle (.ok ()) last ∧
        (∀ sentinel ∈ demo.pods, ∃ monitor, last sentinel "demo" = some monitor ∧ monitor.Aimed "10.0.0.1" "secret") ∧
          Whole "secret" last := by
  have hfirst := @exec_attempt_careful monitorFails (fun _ _ _ ↦ rfl) moved
  have hlast := @exec_attempt_careful nothingFails (fun _ _ _ ↦ rfl) (attempt monitorFails moved).2
  have hattempts := (Attempts.start moved).more hfirst
  exact ⟨untouched_moved, _, _, hattempts, hlast,
    (monitor_setup_resumes "10.0.0.1" "demo" "secret" untouched_moved demo).2 hattempts _ hlast⟩

end KvrocksOperator.Sentinel.Setup
