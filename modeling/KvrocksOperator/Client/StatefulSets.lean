import Mathlib.Logic.Function.Basic
import KvrocksOperator.Client.K8s

/-!
# StatefulSets in the API server

The part of the API server that holds StatefulSets.  Every call may fail, and a write that is reported as failed may
have been carried out.  A write is refused when the object has changed since it was read.
-/

namespace KvrocksOperator

open Interaction

def StatefulSet.key (sts : StatefulSet) : NamespacedName := ⟨sts.ns, sts.name⟩

/-- The StatefulSets that exist, by their keys. -/
structure Sets where
  find : NamespacedName → Option StatefulSet
  keyed : ∀ {key : NamespacedName} {sts : StatefulSet}, find key = some sts → sts.key = key

instance : CoeFun Sets fun _ ↦ NamespacedName → Option StatefulSet := ⟨Sets.find⟩

namespace Sets

def empty : Sets where
  find := fun _ ↦ none
  keyed := by simp

/-- A StatefulSet is created or replaced. -/
def put (sets : Sets) (sts : StatefulSet) : Sets where
  find := Function.update sets.find sts.key (some sts)
  keyed := by
    intro key found hfound
    by_cases hkey : key = sts.key
    · rw [hkey, Function.update_self] at hfound
      rw [hkey, ← Option.some.inj hfound]
    · rw [Function.update_of_ne hkey] at hfound
      exact sets.keyed hfound

/-- A StatefulSet is deleted. -/
def remove (sets : Sets) (key : NamespacedName) : Sets where
  find := Function.update sets.find key none
  keyed := by
    intro other found hfound
    by_cases hkey : other = key
    · rw [hkey, Function.update_self] at hfound
      cases hfound
    · rw [Function.update_of_ne hkey] at hfound
      exact sets.keyed hfound

@[simp] theorem put_self (sets : Sets) (sts : StatefulSet) : sets.put sts sts.key = some sts := Function.update_self ..

theorem put_of_ne (sets : Sets) (sts : StatefulSet) {key : NamespacedName} (h : key ≠ sts.key) :
    sets.put sts key = sets key :=
  Function.update_of_ne h ..

@[simp] theorem remove_self (sets : Sets) (key : NamespacedName) : sets.remove key key = none := Function.update_self ..

theorem remove_of_ne (sets : Sets) {key other : NamespacedName} (h : other ≠ key) :
    sets.remove key other = sets other :=
  Function.update_of_ne h ..

/-- The object has been written under some resource version. -/
def Written (sts : StatefulSet) (before after : Sets) : Prop :=
  ∃ number, after = before.put { sts with resourceVersion := number }

/-- How calls about StatefulSets are answered. -/
def Answers : Program.Answers operator Sets
  | .getStatefulSet key, before, reply, after =>
    after = before ∧ (∀ sts, reply = .ok sts → before key = some sts) ∧ (reply = .error .notFound → before key = none)
  | .createStatefulSet sts, before, reply, after =>
    before sts.key = none ∧ Written sts before after ∨ after = before ∧ ∃ error, reply = .error error
  | .updateStatefulSet sts, before, reply, after =>
    (∃ old, before sts.key = some old ∧ old.resourceVersion = sts.resourceVersion ∧
      Written sts before after) ∨ after = before ∧ ∃ error, reply = .error error
  | .deleteStatefulSet key, before, reply, after =>
    after = before.remove key ∨ after = before ∧ ∃ error, reply = .error error
  | _, before, _, after => after = before

/-- The answers when no call about StatefulSets and no write of an instance fails. -/
def serve : (request : Call) → Sets → request.Reply × Sets
  | .getStatefulSet key, sets =>
    (match sets key with | some sts => .ok sts | none => .error .notFound, sets)
  | .createStatefulSet sts, sets =>
    match sets sts.key with
    | some _ => (.error .alreadyExists, sets)
    | none => (.ok (), sets.put sts)
  | .updateStatefulSet sts, sets =>
    match sets sts.key with
    | some old =>
      if old.resourceVersion = sts.resourceVersion then
        (.ok (), sets.put { sts with resourceVersion := sts.resourceVersion + 1 })
      else (.error .conflict, sets)
    | none => (.error .notFound, sets)
  | .deleteStatefulSet key, sets => (.ok (), sets.remove key)
  | .updateKVRocks object, sets => (.ok (object.resourceVersion + 1), sets)
  | request, sets => (request.failure, sets)

theorem serve_answers (request : Call) (sets : Sets) :
    Answers request sets (serve request sets).1 (serve request sets).2 := by
  cases request with
  | getStatefulSet key =>
    cases hkey : sets key <;> simp [serve, Answers, hkey]
  | createStatefulSet sts =>
    cases hkey : sets sts.key with
    | some old => exact .inr (by simp [serve, hkey])
    | none => exact .inl ⟨hkey, sts.resourceVersion, by simp [serve, hkey]⟩
  | updateStatefulSet sts =>
    cases hkey : sets sts.key with
    | none => exact .inr (by simp [serve, hkey])
    | some old =>
      by_cases hversion : old.resourceVersion = sts.resourceVersion
      · exact .inl ⟨old, hkey, hversion, sts.resourceVersion + 1, by simp [serve, hkey, hversion]⟩
      · exact .inr (by simp [serve, hkey, hversion])
  | deleteStatefulSet key => exact .inl rfl
  | _ => rfl

/-! ## Single calls -/

section Calls

variable {sets : Sets} {crash : Sets → Prop} {key : NamespacedName} {sts old : StatefulSet}

theorem getStatefulSet_ends : (K8s.getStatefulSet key).Ends (.sequential Answers) (· = sets) crash
      (fun found final ↦ final = sets ∧ sets key = some found) sets := by
  apply ends_attempt
  rintro reply after ⟨rfl, hfound, -⟩
  cases reply with
  | error error => rfl
  | ok found => exact ⟨rfl, hfound found rfl⟩

/-- An update of the object that was read. -/
theorem updateStatefulSet_ends :
    (K8s.updateStatefulSet sts).Ends (.sequential Answers) (fun final ↦ final = sets ∨ Written sts sets final)
      crash (fun _ ↦ Written sts sets) sets := by
  apply ends_attempt
  intro reply after hanswer
  rcases hanswer with ⟨old, -, -, hwritten⟩ | ⟨rfl, error, rfl⟩
  · cases reply with
    | error error => exact .inr hwritten
    | ok _ => exact hwritten
  · exact .inl rfl

theorem Written.key_eq {before after : Sets} (h : Written sts before after) :
    ∃ number, after sts.key = some { sts with resourceVersion := number } := by
  obtain ⟨number, rfl⟩ := h
  exact ⟨number, put_self before { sts with resourceVersion := number }⟩

theorem Written.of_ne {before after : Sets} (h : Written sts before after) (hkey : key ≠ sts.key) :
    after key = before key := by
  obtain ⟨number, rfl⟩ := h
  exact put_of_ne before { sts with resourceVersion := number } hkey

end Calls

end Sets

end KvrocksOperator
