import Mathlib.Data.List.Nodup
import Mathlib.Logic.Function.Basic

/-!
# Stores with optimistic concurrency

A store numbers everything that is written to it and keeps what was written before.  Writers work on copies, which may
be out of date when they are written back; a write is accepted only if its number is that of the object which it
replaces.  `Derived.of_accepted` is what this buys: a relation between a copy and the version it was made from is a
relation between what an accepted write stores and what it replaces, whatever has happened in between.
-/

namespace Interaction

/-- Objects with a name, numbered by the store that holds them. -/
class Versioned (V : Type) (K : outParam Type) where
  key : V → K
  version : V → ℕ
  stamp : ℕ → V → V
  key_stamp : ∀ number object, key (stamp number object) = key object
  version_stamp : ∀ number object, version (stamp number object) = number

attribute [simp] Versioned.key_stamp Versioned.version_stamp

open Versioned

variable {V K : Type} [Versioned V K]

/-- Everything that was ever written, and what is stored under each name now. -/
structure Store (V : Type) {K : Type} [Versioned V K] where
  versions : List V
  current : K → Option V
  distinct : (versions.map version).Nodup
  stored : ∀ {name object}, current name = some object → object ∈ versions ∧ key object = name

namespace Store

/-- Nothing has been written. -/
def empty : Store V where
  versions := []
  current _ := none
  distinct := List.nodup_nil
  stored h := by cases h

variable [DecidableEq K]

/-- Store an object under a number that was not used before. -/
def put (store : Store V) (object : V) (number : ℕ)
    (hfresh : ∀ other ∈ store.versions, version other ≠ number) : Store V where
  versions := stamp number object :: store.versions
  current := Function.update store.current (key object) (some (stamp number object))
  distinct := by
    rw [List.map_cons, version_stamp]
    exact List.nodup_cons.mpr ⟨by simpa using hfresh, store.distinct⟩
  stored := by
    intro name found hfound
    by_cases hname : name = key object
    · subst hname
      have hstamp : stamp number object = found := by simpa using hfound
      subst hstamp
      exact ⟨List.mem_cons_self, key_stamp number object⟩
    · have hold := store.stored (by simpa [hname] using hfound)
      exact ⟨List.mem_cons_of_mem _ hold.1, hold.2⟩

/-- One object has been written. -/
def single (object : V) (number : ℕ) : Store V := empty.put object number fun _ hother ↦ (List.not_mem_nil hother).elim

/-- Nothing is stored under a name any more. -/
def remove (store : Store V) (name : K) : Store V where
  versions := store.versions
  current := Function.update store.current name none
  distinct := store.distinct
  stored := by
    intro other found hfound
    by_cases hother : other = name
    · simp [hother] at hfound
    · exact store.stored (by simpa [hother] using hfound)

@[simp] theorem put_versions (store : Store V) (object : V) (number : ℕ)
    (hfresh : ∀ other ∈ store.versions, version other ≠ number) :
    (store.put object number hfresh).versions = stamp number object :: store.versions := rfl

@[simp] theorem single_versions (object : V) (number : ℕ) :
    (single object number).versions = [stamp number object] := rfl

theorem put_current (store : Store V) (object : V) (number : ℕ)
    (hfresh : ∀ other ∈ store.versions, version other ≠ number) (name : K) :
    (store.put object number hfresh).current name =
      if name = key object then some (stamp number object) else store.current name :=
  Function.update_apply ..

/-- The next write is accepted if it replaces the version that its number names. -/
def Accepts (store : Store V) (object : V) : Prop :=
  ∃ old, store.current (key object) = some old ∧ version old = version object

/-- An accepted write. -/
def Writes (before : Store V) (object : V) (number : ℕ) (after : Store V) : Prop :=
  before.Accepts object ∧ ∃ hfresh, after = before.put object number hfresh

omit [DecidableEq K] in
/-- A number belongs to one version only. -/
theorem eq_of_version {store : Store V} {first second : V} (hfirst : first ∈ store.versions)
    (hsecond : second ∈ store.versions) (h : version first = version second) : first = second :=
  List.inj_on_of_nodup_map store.distinct hfirst hsecond h

/-- What was written before is still known. -/
def Later (before after : Store V) : Prop := before.versions ⊆ after.versions

omit [DecidableEq K] in
theorem later_refl (store : Store V) : store.Later store := fun _ h ↦ h

omit [DecidableEq K] in
theorem Later.trans {first second third : Store V} (h : first.Later second) (h' : second.Later third) :
    first.Later third := fun _ hobject ↦ h' (h hobject)

theorem later_put (store : Store V) (object : V) (number : ℕ)
    (hfresh : ∀ other ∈ store.versions, version other ≠ number) :
    store.Later (store.put object number hfresh) := fun _ h ↦ List.mem_cons_of_mem _ h

theorem later_remove (store : Store V) (name : K) : store.Later (store.remove name) := fun _ h ↦ h

theorem Writes.later {before after : Store V} {object : V} {number : ℕ} (h : before.Writes object number after) :
    before.Later after := by
  obtain ⟨-, hfresh, rfl⟩ := h
  exact later_put before object number hfresh

/-- A copy that was made from a version with the same name and number. -/
def Derived (related : V → V → Prop) (store : Store V) (copy : V) : Prop :=
  ∃ origin ∈ store.versions, key origin = key copy ∧ version origin = version copy ∧ related origin copy

variable {related : V → V → Prop} {store : Store V} {copy : V}

omit [DecidableEq K] in
/-- What is read is a copy of a version. -/
theorem derived_of_mem (hmem : copy ∈ store.versions) (hself : related copy copy) : store.Derived related copy :=
  ⟨copy, hmem, rfl, rfl, hself⟩

omit [DecidableEq K] in
theorem Derived.later {after : Store V} (h : store.Derived related copy) (hlater : store.Later after) :
    after.Derived related copy := by
  obtain ⟨origin, hmem, horigin⟩ := h
  exact ⟨origin, hlater hmem, horigin⟩

omit [DecidableEq K] in
/-- A copy is changed further. -/
theorem Derived.change {related' : V → V → Prop} {changed : V} (h : store.Derived related copy)
    (hkey : key changed = key copy) (hversion : version changed = version copy)
    (hrelated : ∀ origin, related origin copy → related' origin changed) : store.Derived related' changed := by
  obtain ⟨origin, hmem, hname, hnumber, horigin⟩ := h
  exact ⟨origin, hmem, hname.trans hkey.symm, hnumber.trans hversion.symm, hrelated origin horigin⟩

omit [DecidableEq K] in
/-- An accepted write replaces the version that its object was made from. -/
theorem Derived.of_accepted {old : V} (h : store.Derived related copy)
    (hcurrent : store.current (key copy) = some old) (hversion : version old = version copy) : related old copy := by
  obtain ⟨origin, hmem, -, hnumber, horigin⟩ := h
  have heq : old = origin := eq_of_version (store.stored hcurrent).1 hmem (hversion.trans hnumber.symm)
  exact heq ▸ horigin

/-- The writer of an accepted write holds a copy of what it has written. -/
theorem Writes.derived {after : Store V} {number : ℕ} (h : store.Writes copy number after)
    (hself : related (stamp number copy) (stamp number copy)) : after.Derived related (stamp number copy) := by
  obtain ⟨-, hfresh, rfl⟩ := h
  exact derived_of_mem List.mem_cons_self hself

/-- Write an object if it replaces the version that its number names; the versions are counted. -/
def offer (store : Store V) (object : V) : Option (ℕ × Store V) :=
  match store.current (key object) with
  | none => none
  | some old =>
    if version old = version object then
      if hfresh : ∀ other ∈ store.versions, version other ≠ store.versions.length + 1 then
        some (store.versions.length + 1, store.put object (store.versions.length + 1) hfresh)
      else none
    else none

theorem offer_writes {after : Store V} {object : V} {number : ℕ} (h : store.offer object = some (number, after)) :
    store.Writes object number after := by
  unfold offer at h
  cases hcurrent : store.current (key object) with
  | none => simp [hcurrent] at h
  | some old =>
    rw [hcurrent] at h
    simp only at h
    split_ifs at h with hversion hfresh
    obtain ⟨rfl, rfl⟩ := Prod.mk.inj (Option.some.inj h)
    exact ⟨⟨old, hcurrent, hversion⟩, hfresh, rfl⟩

end Store

end Interaction
