import KvrocksOperator.Controllers.Writers
import KvrocksOperator.Interaction.Interference
import KvrocksOperator.Interaction.Versions

/-!
# The lifecycle of an object

Any number of passes and failover handlers run at the same time, over any objects.  Each works on the copy that it
last read, which may be out of date; the API server refuses an update whose resource version is not the current one.
Users create, edit and delete objects at any time.  No update of the operator takes the status of an object back in
the order `None < Creating < Running < Failed`.
-/

namespace KvrocksOperator.Controllers

open Interaction Resources

instance : Versioned KVRocks NamespacedName where
  key := KVRocks.key
  version := KVRocks.resourceVersion
  stamp number object := { object with resourceVersion := number }
  key_stamp _ _ := rfl
  version_stamp _ _ := rfl

namespace Lifecycle

/-! ## The runs -/

/-- How the API server answers.  A read may be served from a cache; an update that is reported to have failed may have
been carried out. -/
def Serves : Program.Answers operator (Store KVRocks)
  | .getKVRocks key, before, reply, after =>
    after = before ∧ ∀ found, reply = .ok found → found ∈ before.versions ∧ found.key = key
  | .updateKVRocks object, before, reply, after =>
    (∃ number, before.Writes object number after ∧ (reply = .ok number ∨ ∃ error, reply = .error error)) ∨
      after = before ∧ ∃ error, reply = .error error
  | _, before, _, after => after = before

/-- An update is accepted if it replaces what is stored. -/
def accept (object : KVRocks) (store : Store KVRocks) : ApiResult ℕ × Store KVRocks :=
  match store.offer object with
  | some (number, after) => (.ok number, after)
  | none => (.error .conflict, store)

theorem serves_accept (object : KVRocks) (store : Store KVRocks) :
    Serves (.updateKVRocks object) store (accept object store).1 (accept object store).2 := by
  unfold accept
  cases hoffer : store.offer object with
  | none => exact .inr ⟨rfl, _, rfl⟩
  | some written => exact .inl ⟨written.1, Store.offer_writes hoffer, .inl rfl⟩

/-- A read of what is stored now. -/
theorem serves_current (key : NamespacedName) (store : Store KVRocks) :
    Serves (.getKVRocks key) store ((store.current key).elim (.error .notFound) .ok) store := by
  refine ⟨rfl, fun found hfound ↦ ?_⟩
  cases hcurrent : store.current key with
  | none => simp [hcurrent] at hfound
  | some object =>
    have hobject : object = found := by simpa [hcurrent] using hfound
    exact hobject ▸ store.stored hcurrent

/-- Users create, edit and delete objects. -/
inductive Moves : Store KVRocks → Store KVRocks → Prop where
  | put (store : Store KVRocks) (object : KVRocks) (number : ℕ)
      (hfresh : ∀ other ∈ store.versions, other.resourceVersion ≠ number) :
      Moves store (store.put object number hfresh)
  | remove (store : Store KVRocks) (key : NamespacedName) : Moves store (store.remove key)

/-- What the operator runs: passes for any object and handlers of any message. -/
inductive Starts : Program operator Unit → Prop where
  | reconcile (key : NamespacedName) : Starts ((reconcile (handlerOf key) key).program.bind fun _ ↦ .done ())
  | handleFailover (client : Controller.Client) (msg : EventMessage) :
      Starts ((Events.handleFailover client msg).program.bind fun _ ↦ .done ())

/-- All that runs, in any number of threads. -/
def system : System operator ℕ (Store KVRocks) where
  answers _ := Serves
  starts _ _ := Starts
  moves := Moves

/-! ## The contract of every thread -/

/-- The status does not go back. -/
def Advances (old new : KVRocks) : Prop := old.status.status.rank ≤ new.status.status.rank

/-- An update that can be accepted takes no status back. -/
def contract : Contract operator (Store KVRocks) where
  answers := Serves
  inv _ := True
  rely := Store.Later
  guarantee := Store.Later
  guard
    | .updateKVRocks object, store =>
      ∀ old, store.current object.key = some old → old.resourceVersion = object.resourceVersion → Advances old object
    | _, _ => True
  rely_refl := Store.later_refl
  rely_trans := Store.Later.trans

theorem silent_of_quiet {request : Call} (h : OfKind (queueKinds ++ quietKinds) request) : contract.Silent request := by
  intro before reply after hanswer
  cases request with
  | updateKVRocks object => simp [OfKind, queueKinds, quietKinds, Call.kind] at h
  | getKVRocks key => exact ⟨hanswer.1, trivial, Store.later_refl before⟩
  | _ => exact ⟨hanswer, trivial, Store.later_refl before⟩

/-- Every copy that a pass holds was made from a version of no greater status. -/
theorem admits : Admits contract.meaning (fun _ ↦ True) (fun copy store ↦ store.Derived Advances copy) where
  grows h hgrows := h.change hgrows.key hgrows.resourceVersion fun _ hbelow ↦ hbelow.trans hgrows.status
  quiet := by
    intro α program post copies world hall hholds
    apply Contract.safe_of_all
      (hall.mono (fun _ hkind ↦ silent_of_quiet (List.mem_append_right _ hkind)) fun _ h ↦ h) trivial
    intro value later hlater _ hvalue
    exact ⟨hvalue, trivial, fun copy hcopy ↦ (hholds.2 copy hcopy).later hlater⟩
  read := by
    intro key copies world hholds before hrely _ reply after hanswer
    obtain ⟨rfl, hfound⟩ := hanswer
    refine ⟨trivial, trivial, Store.later_refl after, ?_⟩
    cases reply with
    | error error => exact ⟨trivial, fun copy hcopy ↦ (hholds.2 copy hcopy).later hrely⟩
    | ok found =>
      refine ⟨trivial, fun copy hcopy ↦ ?_⟩
      rcases List.mem_cons.mp hcopy with rfl | hother
      · exact Store.derived_of_mem (hfound copy rfl).1 (Nat.le_refl _)
      · exact (hholds.2 copy hother).later hrely
  update := by
    intro object copies world hholds before hrely _ reply after hanswer
    have hobject : before.Derived Advances object := (hholds.2 object List.mem_cons_self).later hrely
    have hlater : before.Later after := by
      rcases hanswer with ⟨number, hwrites, -⟩ | ⟨rfl, -⟩
      · exact hwrites.later
      · exact Store.later_refl after
    have hothers (copy : KVRocks) (hcopy : copy ∈ copies) : after.Derived Advances copy :=
      ((hholds.2 copy (List.mem_cons_of_mem _ hcopy)).later hrely).later hlater
    refine ⟨fun old ↦ hobject.of_accepted, trivial, hlater, ?_⟩
    cases reply with
    | error error => exact ⟨trivial, hothers⟩
    | ok version =>
      refine ⟨trivial, fun copy hcopy ↦ ?_⟩
      rcases List.mem_cons.mp hcopy with rfl | hother
      · rcases hanswer with ⟨number, hwrites, hreply | ⟨error, hreply⟩⟩ | ⟨-, error, hreply⟩
        · cases hreply
          exact hwrites.derived (Nat.le_refl _)
        · cases hreply
        · cases hreply
      · exact hothers copy hother

theorem reconcileDeletion_safe (key : NamespacedName) (type : KVRocksType) {instance_ : KVRocks} {store : Store KVRocks}
    (h : Holds (fun _ ↦ True) (fun copy store ↦ store.Derived Advances copy) [instance_] store) :
    (reconcileDeletion (handlerOf key type) instance_).Yields contract.meaning
      (fun _ ↦ True) (fun _ _ ↦ True) store := by
  have hmakes : Makes calmKinds ((handlerOf key type).finializer instance_) :=
    (handlerOf_finializer_makes key type instance_).mono (by decide)
  -- taking the finalizer off leaves the status alone
  exact reconcileDeletion_yields admits.tracks hmakes (fun hderived ↦ hderived.change rfl rfl fun _ hbelow ↦ hbelow) h

theorem starts_safe {program : Program operator Unit} (h : Starts program) (store : Store KVRocks) :
    contract.Safe program (fun _ _ ↦ True) store := by
  cases h with
  | reconcile key =>
    have hreconcile : contract.Safe (reconcile (handlerOf key) key).program _ store :=
      reconcile_yields admits key trivial fun instance_ _ hholds _ ↦
        reconcileDeletion_safe key instance_.spec.type hholds
    exact (contract.safe_bind _ _ _ _).mpr (hreconcile.mono fun _ _ _ ↦ trivial)
  | handleFailover client msg =>
    apply (contract.safe_bind _ _ _ _).mpr
    apply Events.handleFailover_wp admits.tracks client msg _ trivial
    intro α program store hall _
    apply Contract.safe_of_all
      (hall.mono (fun _ hkind ↦ silent_of_quiet (List.mem_append_left _ hkind)) fun _ h ↦ h) trivial
    exact fun _ _ _ _ _ ↦ trivial

theorem certified : system.Certified (fun _ ↦ True) fun _ ↦ contract where
  answers_eq _ := rfl
  inv_eq _ := rfl
  rely_of_guarantee _ _ _ _ _ h := h
  move before after _ hmove := by
    refine ⟨trivial, fun _ ↦ ?_⟩
    cases hmove with
    | put object number hfresh => exact before.later_put object number hfresh
    | remove key => exact before.later_remove key
  start _ store _ _ hstart := starts_safe hstart store

/-! ## The order of the status -/

/-- Whatever the operator does next in any run, an object that is stored stays stored, its status does not go back,
and it does not leave `Failed`. -/
theorem status_never_goes_back {start : Store KVRocks} {config : System.Config operator ℕ (Store KVRocks)}
    (hreach : system.Reaches (System.initial start) config) {thread : ℕ} {request : Call}
    {resume : request.Reply → Program operator Unit} {reply : request.Reply} {after : Store KVRocks}
    (hnext : config.running thread = some (.call request resume))
    (hanswer : Serves request config.world reply after) {key : NamespacedName} {old : KVRocks}
    (hold : config.world.current key = some old) :
    ∃ new, after.current key = some new ∧ old.status.status.rank ≤ new.status.status.rank ∧
      (old.status.status = .failed → new.status.status = .failed) := by
  have hguard := System.reaches_guard certified trivial hreach hnext hanswer
  have hsame (hafter : after = config.world) : ∃ new, after.current key = some new ∧
      old.status.status.rank ≤ new.status.status.rank ∧
      (old.status.status = .failed → new.status.status = .failed) :=
    ⟨old, hafter ▸ hold, Nat.le_refl _, id⟩
  cases request with
  | updateKVRocks object =>
    rcases hanswer with ⟨number, ⟨⟨replaced, hcurrent, hversion⟩, hfresh, rfl⟩, -⟩ | ⟨hafter, -⟩
    · by_cases hkey : key = object.key
      · subst hkey
        obtain rfl : replaced = old := Option.some.inj (hcurrent.symm.trans hold)
        have hrank := hguard replaced hcurrent hversion
        have hstored : (config.world.put object number hfresh).current object.key =
            some { object with resourceVersion := number } :=
          (config.world.put_current object number hfresh object.key).trans (if_pos rfl)
        exact ⟨_, hstored, hrank, fun hfailed ↦ KVRocksStatusType.eq_failed_of_rank_le (hfailed ▸ hrank)⟩
      · have hkept : (config.world.put object number hfresh).current key = some old :=
          ((config.world.put_current object number hfresh key).trans (if_neg hkey)).trans hold
        exact ⟨old, hkept, Nat.le_refl _, id⟩
    · exact hsame hafter
  | getKVRocks key => exact hsame hanswer.1
  | _ => exact hsame hanswer

/-- An instance without a password, as a user creates it. -/
def passwordless : KVRocks :=
  .created ⟨"default", "kvrocks-standard-1-demo"⟩
    { image := "kvrocks:2.0", type := .standard, kvrocksConfig := [], replicas := 3, master := 1,
      password := "", resources := true }

def createdStore : Store KVRocks := Store.single passwordless 1

/-- A pass over the instance, with reads of what is stored now. -/
def firstPass : System.Player operator ℕ (Store KVRocks) where
  program _ := (reconcile (handlerOf passwordless.key) passwordless.key).program.bind fun _ ↦ .done ()
  startable _ _ := true
  serve _
    | .getKVRocks key, store =>
      (store.current key).map fun found ↦ (.ok found, store)
    | _, _ => none

theorem firstPass_plays : firstPass.Plays system where
  start _ _ _ := .reconcile passwordless.key
  serve thread request store answer hserve := by
    cases request with
    | getKVRocks key =>
      obtain ⟨found, hfound, rfl⟩ := Option.map_eq_some_iff.mp hserve
      refine ⟨rfl, fun other hother ↦ ?_⟩
      cases hother
      exact store.stored hfound
    | _ => cases hserve

/-- The status that the check of the specification writes. -/
def rejected : KVRocks :=
  { passwordless with
    resourceVersion := 1
    status := { passwordless.status with status := .failed, reason := errorPasswordEmpty } }

/-- An instance without a password goes from `None` to `Failed`. -/
theorem rejected_not_back : ∃ new, (createdStore.put rejected 2 (by decide)).current passwordless.key = some new ∧
      KVRocksStatusType.none.rank ≤ new.status.status.rank ∧
      (KVRocksStatusType.none = .failed → new.status.status = .failed) := by
  obtain ⟨config, hplay, hworld, resume, hnext⟩ : ∃ config,
      firstPass.play [.start 0, .answer 0] (System.initial createdStore) = some config ∧ config.world = createdStore ∧
        ∃ resume, config.running 0 = some (.call (.updateKVRocks rejected) resume) :=
    ⟨_, rfl, rfl, _, rfl⟩
  have hanswer : Serves (.updateKVRocks rejected) config.world (.ok 2) (createdStore.put rejected 2 (by decide)) := by
    rw [hworld]
    exact .inl ⟨2, ⟨⟨_, rfl, rfl⟩, by decide, rfl⟩, .inl rfl⟩
  have hold : config.world.current passwordless.key = some { passwordless with resourceVersion := 1 } := by
    rw [hworld]
    rfl
  exact status_never_goes_back (System.Player.play_reaches firstPass_plays hplay) hnext hanswer hold

end Lifecycle

end KvrocksOperator.Controllers
