import Mathlib.Data.List.Nodup
import Mathlib.Data.List.Perm.Subperm
import KvrocksOperator.Api.Types

/-!
# Moves of slots

The slots of the controller's shards and the requests to move them.  A move is carried out if the source shard owns
the slot and the target is another shard.  Moves that were carried out cannot be carried out again, which is what a
migration that is tried again runs into.
-/

namespace KvrocksOperator.Migration

/-- The slots of every shard, and the requests so far, latest first, each with whether it was carried out. -/
structure Slots where
  owned : ℤ → List ℤ
  requests : List (MigrationOption × Bool)

namespace Slots

/-- The controller can carry out a move. -/
def Accepts (slots : Slots) (move : MigrationOption) : Prop :=
  move.slot ∈ slots.owned move.source ∧ move.target ≠ move.source

instance (slots : Slots) (move : MigrationOption) : Decidable (slots.Accepts move) :=
  inferInstanceAs (Decidable (_ ∧ _))

/-- The slots after a move. -/
def moved (slots : Slots) (move : MigrationOption) : Slots :=
  { owned := fun shard ↦
      if shard = move.source then (slots.owned shard).filter (· ≠ move.slot)
      else if shard = move.target then move.slot :: slots.owned shard
      else slots.owned shard
    requests := (move, true) :: slots.requests }

/-- The slots after a move that was refused a number of times. -/
def refused (slots : Slots) (move : MigrationOption) (attempts : ℕ) : Slots :=
  { slots with requests := List.replicate attempts (move, false) ++ slots.requests }

/-- The slots after several moves. -/
def movedAll (slots : Slots) (moves : List MigrationOption) : Slots := moves.foldl moved slots

/-- The controller can carry out several moves, one after the other. -/
def AcceptsAll : Slots → List MigrationOption → Prop
  | _, [] => True
  | slots, move :: moves => slots.Accepts move ∧ (slots.moved move).AcceptsAll moves

variable {slots : Slots} {source : ℤ}

@[simp] theorem movedAll_nil (slots : Slots) : slots.movedAll [] = slots := rfl

theorem refused_refused (slots : Slots) (move : MigrationOption) (first second : ℕ) :
    (slots.refused move first).refused move second = slots.refused move (second + first) := by
  unfold refused
  rw [← List.append_assoc, List.replicate_append_replicate]

theorem movedAll_append (slots : Slots) (first second : List MigrationOption) :
    slots.movedAll (first ++ second) = (slots.movedAll first).movedAll second :=
  List.foldl_append

theorem acceptsAll_append {first second : List MigrationOption} :
    slots.AcceptsAll (first ++ second) ↔ slots.AcceptsAll first ∧ (slots.movedAll first).AcceptsAll second := by
  induction first generalizing slots with
  | nil => simp [AcceptsAll]
  | cons move first ih =>
    rw [List.cons_append, AcceptsAll, AcceptsAll, ih, and_assoc]
    rfl

/-- Only who owns the slots decides whether moves are carried out. -/
theorem acceptsAll_congr {other : Slots} (h : slots.owned = other.owned) (moves : List MigrationOption) :
    slots.AcceptsAll moves ↔ other.AcceptsAll moves := by
  induction moves generalizing slots other with
  | nil => rfl
  | cons move moves ih =>
    have hmoved : (slots.moved move).owned = (other.moved move).owned := by
      unfold moved
      rw [h]
    rw [AcceptsAll, AcceptsAll, ih hmoved]
    unfold Accepts
    rw [h]

theorem moved_owned_source (slots : Slots) (move : MigrationOption) :
    (slots.moved move).owned move.source = (slots.owned move.source).filter (· ≠ move.slot) :=
  if_pos rfl

/-- After a move the same source accepts another one if it did before and the slot is another one. -/
theorem accepts_moved_iff {move later : MigrationOption} (h : later.source = move.source) :
    (slots.moved move).Accepts later ↔ slots.Accepts later ∧ later.slot ≠ move.slot := by
  unfold Accepts
  rw [h, moved_owned_source, List.mem_filter, decide_eq_true_iff]
  tauto

variable {moves : List MigrationOption}

/-- Moves from one shard are carried out exactly if their slots are distinct and each of them would be carried out
alone. -/
theorem acceptsAll_iff (hsource : ∀ move ∈ moves, move.source = source) :
    slots.AcceptsAll moves ↔ (moves.map (·.slot)).Nodup ∧ ∀ move ∈ moves, slots.Accepts move := by
  induction moves generalizing slots with
  | nil => simp [AcceptsAll]
  | cons move moves ih =>
    rw [List.forall_mem_cons] at hsource
    have hlater : (∀ later ∈ moves, (slots.moved move).Accepts later) ↔
        (∀ later ∈ moves, slots.Accepts later) ∧ move.slot ∉ moves.map (·.slot) := by
      have heach : ∀ later ∈ moves, ((slots.moved move).Accepts later ↔
          slots.Accepts later ∧ later.slot ≠ move.slot) := fun later hmem ↦
        accepts_moved_iff ((hsource.2 later hmem).trans hsource.1.symm)
      rw [forall₂_congr heach]
      simp only [List.mem_map, not_exists, not_and, forall_and]
    rw [AcceptsAll, ih hsource.2, hlater, List.map_cons, List.nodup_cons, List.forall_mem_cons]
    tauto

/-- Accepted moves only take slots away from their source. -/
theorem owned_movedAll_subset (hsource : ∀ move ∈ moves, move.source = source) :
    (slots.movedAll moves).owned source ⊆ slots.owned source := by
  induction moves generalizing slots with
  | nil => exact List.Subset.refl _
  | cons move moves ih =>
    rw [List.forall_mem_cons] at hsource
    apply List.Subset.trans (ih hsource.2)
    rw [← hsource.1, moved_owned_source]
    exact List.filter_subset_self _

/-- Moves that have begun to be carried out are never accepted as a whole again. -/
theorem not_acceptsAll_of_moved {front back : List MigrationOption} (hne : front ≠ [])
    (hsource : ∀ move ∈ front, move.source = source) : ¬ (slots.movedAll front).AcceptsAll (front ++ back) := by
  cases front with
  | nil => exact absurd rfl hne
  | cons move moves =>
    rw [List.forall_mem_cons] at hsource
    intro haccepts
    have hslot : move.slot ∈ ((slots.moved move).movedAll moves).owned move.source := haccepts.1.1
    rw [hsource.1] at hslot
    have hleft := owned_movedAll_subset hsource.2 hslot
    rw [← hsource.1, moved_owned_source, List.mem_filter] at hleft
    exact absurd rfl (of_decide_eq_true hleft.2)

/-- The moves that are carried out are not more than the source owns. -/
theorem length_le_of_acceptsAll (hsource : ∀ move ∈ moves, move.source = source) (h : slots.AcceptsAll moves) :
    moves.length ≤ (slots.owned source).length := by
  obtain ⟨hnodup, haccepts⟩ := (acceptsAll_iff hsource).mp h
  have hsubset : moves.map (·.slot) ⊆ slots.owned source := by
    intro slot hslot
    obtain ⟨move, hmove, rfl⟩ := List.mem_map.mp hslot
    rw [← hsource move hmove]
    exact (haccepts move hmove).1
  have hlength := (List.subperm_of_subset hnodup hsubset).length_le
  rwa [List.length_map] at hlength

/-! ## No move is asked for twice -/

/-- No request was made for a slot whose move to the same shard had been carried out. -/
def NoRepeat (slots : Slots) : Prop :=
  slots.requests.Pairwise fun later earlier ↦
    earlier.2 = true → later.1.target = earlier.1.target → later.1.slot ≠ earlier.1.slot

/-- None of the moves has been carried out. -/
def Pending (slots : Slots) (moves : List MigrationOption) : Prop :=
  ∀ move ∈ moves, ∀ earlier ∈ slots.requests,
    earlier.2 = true → move.target = earlier.1.target → move.slot ≠ earlier.1.slot

theorem NoRepeat.moved {move : MigrationOption} (h : slots.NoRepeat)
    (hpending : slots.Pending (move :: moves)) : (slots.moved move).NoRepeat :=
  List.pairwise_cons.mpr ⟨hpending move List.mem_cons_self, h⟩

theorem Pending.moved {move : MigrationOption} (hpending : slots.Pending (move :: moves))
    (hnodup : ((move :: moves).map (·.slot)).Nodup) : (slots.moved move).Pending moves := by
  intro later hlater earlier hearlier
  rcases List.mem_cons.mp hearlier with rfl | hbefore
  · intro _ _ hslot
    rw [List.map_cons, List.nodup_cons] at hnodup
    exact hnodup.1 (hslot ▸ List.mem_map_of_mem hlater)
  · exact hpending later (List.mem_cons_of_mem move hlater) earlier hbefore

/-- Moves that are pending are carried out without a repetition, and the rest stays pending. -/
theorem NoRepeat.movedAll {front back : List MigrationOption} (h : slots.NoRepeat)
    (hpending : slots.Pending (front ++ back)) (hnodup : ((front ++ back).map (·.slot)).Nodup) :
    (slots.movedAll front).NoRepeat ∧ (slots.movedAll front).Pending back := by
  induction front generalizing slots with
  | nil => exact ⟨h, hpending⟩
  | cons move front ih =>
    have hrest : ((front ++ back).map (·.slot)).Nodup := (List.nodup_cons.mp hnodup).2
    exact ih (h.moved hpending) (hpending.moved hnodup) hrest

/-- A move that is refused may be asked for again. -/
theorem NoRepeat.refused {move : MigrationOption} (h : slots.NoRepeat) (hpending : slots.Pending moves)
    (hmove : move ∈ moves) (attempts : ℕ) :
    (slots.refused move attempts).NoRepeat ∧ (slots.refused move attempts).Pending moves := by
  have hreplicate : ∀ request ∈ List.replicate attempts (move, false), request = (move, false) :=
    fun _ hrequest ↦ List.eq_of_mem_replicate hrequest
  constructor
  · refine List.pairwise_append.mpr ⟨?_, h, ?_⟩
    · rw [List.pairwise_replicate]
      exact Or.inr nofun
    · intro later hlater earlier hearlier
      rw [hreplicate later hlater]
      exact hpending move hmove earlier hearlier
  · intro later hlater earlier hearlier
    rcases List.mem_append.mp hearlier with hnew | hbefore
    · rw [hreplicate earlier hnew]
      exact nofun
    · exact hpending later hlater earlier hbefore

end Slots

end KvrocksOperator.Migration
