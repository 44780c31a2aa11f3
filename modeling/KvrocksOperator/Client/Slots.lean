import KvrocksOperator.Client.Kvrocks
import KvrocksOperator.Segments.Runs

/-!
# Slot lists and their encoding

`SlotsToString` sorts a list of slots and writes it as ranges; `SlotsToInt` reads ranges back.  What is read back is
the sorted list, and whatever text is read, only slots inside the range of `int` come out.  Without duplicates the
ranges are the shortest ones for the set of slots.  The loop of `SlotsToInt` over a range ends unless the range ends
at the largest `int`, which its counter can never exceed.
-/

namespace KvrocksOperator.Kvrocks

open Text

/-- A number that the codec can carry. -/
def IsSlot (slot : ℤ) : Prop := 0 ≤ slot ∧ slot ≤ maxInt

variable {slots : List ℤ} {last slot first : ℤ}

theorem mem_sortInts : slot ∈ sortInts slots ↔ slot ∈ slots := (List.perm_insertionSort (· ≤ ·) slots).mem_iff

theorem length_sortInts (slots : List ℤ) : (sortInts slots).length = slots.length :=
  (List.perm_insertionSort (· ≤ ·) slots).length_eq

theorem pairwise_sortInts (slots : List ℤ) : (sortInts slots).Pairwise (· ≤ ·) :=
  List.pairwise_insertionSort (· ≤ ·) slots

theorem sortInts_of_pairwise (h : slots.Pairwise (· ≤ ·)) : sortInts slots = slots := List.Pairwise.insertionSort_eq h

@[simp] theorem sortInts_sortInts (slots : List ℤ) : sortInts (sortInts slots) = sortInts slots :=
  sortInts_of_pairwise (pairwise_sortInts slots)

/-! ## Ranges of integers -/

theorem mem_intRange : slot ∈ intRange first last ↔ first ≤ slot ∧ slot ≤ last := by
  unfold intRange
  rw [List.mem_map]
  constructor
  · rintro ⟨offset, hoffset, rfl⟩
    rw [List.mem_range] at hoffset
    omega
  · intro h
    exact ⟨(slot - first).toNat, by rw [List.mem_range]; omega, by omega⟩

theorem intRange_self (slot : ℤ) : intRange slot slot = [slot] := by
  have hlength : (slot + 1 - slot).toNat = 1 := by omega
  unfold intRange
  rw [hlength]
  simp

/-- A range grows by one slot at its end. -/
theorem intRange_succ (h : first ≤ last) : intRange first (last + 1) = intRange first last ++ [last + 1] := by
  have hlength : (last + 1 + 1 - first).toNat = (last + 1 - first).toNat + 1 := by omega
  have hlast : first + ((last + 1 - first).toNat : ℤ) = last + 1 := by omega
  unfold intRange
  rw [hlength, List.range_succ, List.map_append, List.map_singleton, hlast]

/-! ## Reading back -/

/-- A slot is read as it is written. -/
theorem atoi_itoa_slot (h : IsSlot slot) : (atoi (itoa slot)).1 = slot := by
  obtain ⟨value, rfl⟩ := Int.eq_ofNat_of_zero_le h.1
  have hrange : value < 2 ^ 63 := by
    have hmax := h.2
    unfold maxInt at hmax
    omega
  exact congrArg Prod.fst (atoi_itoa hrange)

theorem not_mem_itoa_slot (h : IsSlot slot) : '-' ∉ (itoa slot).toList := by
  obtain ⟨value, rfl⟩ := Int.eq_ofNat_of_zero_le h.1
  exact not_mem_itoa (by decide) value

/-- A range is read as it is written. -/
theorem slotToInts_rangeText {head : ℤ} (hhead : IsSlot head) (hlast : IsSlot last) :
    slotToInts (rangeText head last) = intRange head last := by
  unfold slotToInts rangeText
  split_ifs with hsame
  · rw [split_of_not_mem (not_mem_itoa_slot hhead), ← hsame, intRange_self]
    exact congrArg (fun slot ↦ [slot]) (atoi_itoa_slot hhead)
  · have hsplit : split '-' (itoa head ++ "-" ++ itoa last) = [itoa head, itoa last] := by
      have hdash : "-" = String.singleton '-' := rfl
      rw [hdash, split_append (not_mem_itoa_slot hhead), split_of_not_mem (not_mem_itoa_slot hlast)]
    rw [hsplit]
    exact congrArg₂ intRange (atoi_itoa_slot hhead) (atoi_itoa_slot hlast)

/-- The loop of `SlotsToString`: the range in progress and the remaining slots come back. -/
theorem slotsToInt_slotRanges {head : ℤ} (hhead : IsSlot head) (hle : head ≤ last)
    (hsorted : (last :: slots).Pairwise (· ≤ ·)) (hslots : ∀ slot ∈ last :: slots, IsSlot slot) :
    slotsToInt (slotRanges head last slots) = intRange head last ++ slots := by
  induction slots generalizing head last with
  | nil =>
    have hlast := hslots last List.mem_cons_self
    simp [slotRanges, slotsToInt, slotToInts_rangeText hhead hlast]
  | cons slot slots ih =>
    have hlast := hslots last List.mem_cons_self
    have hslot : IsSlot slot := hslots slot (List.mem_cons_of_mem last List.mem_cons_self)
    have hrest : ∀ later ∈ slot :: slots, IsSlot later :=
      fun later hlater ↦ hslots later (List.mem_cons_of_mem last hlater)
    have hsortedRest := (List.pairwise_cons.mp hsorted).2
    unfold slotRanges
    split_ifs with hgap
    · -- the slot starts a range of its own
      have hnew := ih hslot le_rfl hsortedRest hrest
      have hcons : slotsToInt (rangeText head last :: slotRanges slot slot slots) =
          slotToInts (rangeText head last) ++ slotsToInt (slotRanges slot slot slots) := rfl
      rw [hcons, hnew, slotToInts_rangeText hhead hlast, intRange_self]
      rfl
    · have hnext : slot = last + 1 := by omega
      have hgrown := ih hhead (by omega) hsortedRest hrest
      rw [hgrown, hnext, intRange_succ hle, List.append_assoc]
      rfl

/-- What has been written comes back sorted. -/
theorem slotsToInt_slotsToString (h : ∀ slot ∈ slots, IsSlot slot) :
    slotsToInt (slotsToString slots) = sortInts slots := by
  have hsorted := pairwise_sortInts slots
  have hslots : ∀ slot ∈ sortInts slots, IsSlot slot := fun slot hslot ↦ h slot (mem_sortInts.mp hslot)
  unfold slotsToString
  cases hcases : sortInts slots with
  | nil => rfl
  | cons head rest =>
    rw [hcases] at hsorted hslots
    change slotsToInt (slotRanges head head rest) = head :: rest
    rw [slotsToInt_slotRanges (hslots head List.mem_cons_self) le_rfl hsorted hslots, intRange_self]
    rfl

/-- No negative slots are read. -/
theorem isSlot_of_mem_slotToInts {text : String} (h : slot ∈ slotToInts text) : IsSlot slot := by
  have hfield (field : String) (hfield : field ∈ split '-' text) : IsSlot (atoi field).1 :=
    atoi_range_of_not_mem (not_mem_of_mem_split hfield)
  unfold slotToInts at h
  cases hsplit : split '-' text with
  | nil => exact absurd hsplit (split_ne_nil '-' text)
  | cons first rest =>
    rw [hsplit] at h hfield
    cases rest with
    | nil =>
      rw [List.mem_singleton.mp h]
      exact hfield first List.mem_cons_self
    | cons second rest =>
      have hrange := mem_intRange.mp h
      have hfirst := hfield first List.mem_cons_self
      have hsecond := hfield second (List.mem_cons_of_mem first List.mem_cons_self)
      exact ⟨hfirst.1.trans hrange.1, hrange.2.trans hsecond.2⟩

/-- Only slots inside the range of `int` are ever read. -/
theorem isSlot_of_mem_slotsToInt {texts : List String} (h : slot ∈ slotsToInt texts) : IsSlot slot := by
  obtain ⟨text, _, hslot⟩ := List.mem_flatMap.mp h
  exact isSlot_of_mem_slotToInts hslot

/-! ## The ranges that are written -/

open Segments in
/-- The ranges behind the texts of `slotRanges`: `run` is the one in progress. -/
def runsFrom (run : Run) : List ℤ → List Run
  | [] => [run]
  | slot :: slots =>
    if hnext : slot - run.last = 1 then
      runsFrom ⟨run.first, slot, run.first_le_of_next hnext⟩ slots
    else run :: runsFrom (.single slot) slots

open Segments in
/-- The ranges behind the texts of `SlotsToString`. -/
def runsOf (slots : List ℤ) : List Run :=
  match sortInts slots with
  | [] => []
  | slot :: slots => runsFrom (.single slot) slots

section Runs

open Segments

/-- How `SlotsToString` writes a range. -/
def runText (run : Run) : String := rangeText run.first run.last

theorem runText_cases (run : Run) : run.first = run.last ∧ runText run = itoa run.first ∨
      run.first < run.last ∧ runText run = itoa run.first ++ "-" ++ itoa run.last := by
  unfold runText rangeText
  rcases run.le.eq_or_lt with hsame | hlt
  · exact Or.inl ⟨hsame, if_pos hsame⟩
  · exact Or.inr ⟨hlt, if_neg hlt.ne⟩

theorem slotRanges_eq (run : Run) (slots : List ℤ) :
    slotRanges run.first run.last slots = (runsFrom run slots).map runText := by
  induction slots generalizing run with
  | nil => rfl
  | cons slot slots ih =>
    unfold slotRanges runsFrom
    by_cases hnext : slot - run.last = 1
    · rw [if_neg (not_not.mpr hnext), dif_pos hnext, ← ih]
    · rw [if_pos hnext, dif_neg hnext, List.map_cons, ← ih]
      rfl

/-- The encoder writes the runs of a list. -/
theorem slotsToString_eq (slots : List ℤ) : slotsToString slots = (runsOf slots).map runText := by
  unfold slotsToString runsOf
  cases sortInts slots with
  | nil => rfl
  | cons slot slots => exact slotRanges_eq (.single slot) slots

/-- The loop covers the range in progress and the remaining slots. -/
theorem mem_cover_runsFrom (run : Run) (slots : List ℤ) (value : ℤ) :
    value ∈ Run.cover (runsFrom run slots) ↔ run.Has value ∨ value ∈ slots := by
  induction slots generalizing run with
  | nil => simp [runsFrom]
  | cons slot slots ih =>
    rw [runsFrom, List.mem_cons, ← or_assoc]
    by_cases hnext : slot - run.last = 1
    · have hgrown : Run.Has ⟨run.first, slot, run.le.trans (by omega)⟩ value ↔ run.Has value ∨ value = slot := by
        have := run.le
        unfold Run.Has
        dsimp only
        omega
      rw [dif_pos hnext, ih, hgrown]
    · rw [dif_neg hnext, Run.cover_cons, Set.mem_union, ih, Run.has_single, or_assoc]
      rfl

/-- The runs cover the list. -/
theorem cover_runsOf (slots : List ℤ) : Run.cover (runsOf slots) = {slot | slot ∈ slots} := by
  ext value
  rw [Set.mem_ofPred_eq, ← mem_sortInts]
  unfold runsOf
  cases sortInts slots with
  | nil => simp
  | cons slot slots => rw [mem_cover_runsFrom, Run.has_single, List.mem_cons]

/-- The ranges go up from the one in progress. -/
theorem first_le_of_mem_runsFrom {run later : Run} (hsorted : (run.last :: slots).Pairwise (· < ·))
    (h : later ∈ runsFrom run slots) : run.first ≤ later.first := by
  induction slots generalizing run with
  | nil => rw [List.mem_singleton.mp h]
  | cons slot slots ih =>
    have hrest := (List.pairwise_cons.mp hsorted).2
    have hlt := (List.pairwise_cons.mp hsorted).1 slot List.mem_cons_self
    unfold runsFrom at h
    by_cases hnext : slot - run.last = 1
    · rw [dif_pos hnext] at h
      have hgrown := fun hsorted ↦ ih hsorted h
      exact hgrown hrest
    · rw [dif_neg hnext, List.mem_cons] at h
      rcases h with rfl | h
      · rfl
      · calc run.first
          _ ≤ run.last := run.le
          _ ≤ slot := hlt.le
          _ ≤ later.first := ih hrest h

/-- A range is left only at a gap. -/
theorem separated_runsFrom {run : Run} (hsorted : (run.last :: slots).Pairwise (· < ·)) :
    Run.Separated (runsFrom run slots) := by
  induction slots generalizing run with
  | nil => exact List.pairwise_singleton _ _
  | cons slot slots ih =>
    have hrest := (List.pairwise_cons.mp hsorted).2
    have hlt := (List.pairwise_cons.mp hsorted).1 slot List.mem_cons_self
    unfold runsFrom
    by_cases hnext : slot - run.last = 1
    · rw [dif_pos hnext]
      exact ih hrest
    · rw [dif_neg hnext]
      refine List.pairwise_cons.mpr ⟨fun later hlater ↦ ?_, ih hrest⟩
      have hfirst : slot ≤ later.first := first_le_of_mem_runsFrom hrest hlater
      omega

/-- There is a gap between two runs. -/
theorem separated_runsOf (hnodup : slots.Nodup) : Run.Separated (runsOf slots) := by
  have hsorted : (sortInts slots).Pairwise (· < ·) := by
    have hdistinct : (sortInts slots).Nodup := (List.perm_insertionSort (· ≤ ·) slots).nodup_iff.mpr hnodup
    exact (pairwise_sortInts slots).imp₂ (fun _ _ hle hne ↦ lt_of_le_of_ne hle hne) hdistinct
  unfold runsOf
  cases hcases : sortInts slots with
  | nil => exact List.Pairwise.nil
  | cons slot slots => exact separated_runsFrom (hcases ▸ hsorted)

/-- `SlotsToString` writes the shortest list of ranges for a set of slots, and there is no other one. -/
theorem slotsToString_canonical {slots : List ℤ} (hnodup : slots.Nodup) (hslots : ∀ slot ∈ slots, 0 ≤ slot) :
    ∃ runs : List Run, slotsToString slots = runs.map runText ∧ (∀ run ∈ runs, 0 ≤ run.first ∧
        (run.first = run.last ∧ runText run = itoa run.first ∨
          run.first < run.last ∧ runText run = itoa run.first ++ "-" ++ itoa run.last)) ∧
      runs.Pairwise (fun run later ↦ run.last + 2 ≤ later.first) ∧
      Run.cover runs = {slot | slot ∈ slots} ∧
      ∀ others : List Run, Run.cover others = {slot | slot ∈ slots} → runs.length ≤ others.length ∧
        (others.length = runs.length → others.Perm runs) ∧
        (others.length = runs.length → others.Pairwise (fun run later ↦ run.first ≤ later.first) → others = runs) := by
  have hseparated := separated_runsOf hnodup
  have hcover := cover_runsOf slots
  refine ⟨runsOf slots, slotsToString_eq slots, fun run hrun ↦ ⟨?_, runText_cases run⟩,
    hseparated.imp fun hgap ↦ by omega, hcover, fun others hothers ↦ ?_⟩
  · have hfirst : run.first ∈ {slot | slot ∈ slots} := hcover ▸ Run.mem_cover hrun run.has_first
    exact hslots run.first hfirst
  · have hsame : Run.cover others = Run.cover (runsOf slots) := hothers.trans hcover.symm
    exact ⟨hseparated.length_le hsame, hseparated.perm_of_length hsame, hseparated.eq_of_length hsame⟩

/-- A run of three, a single slot and a run of two. -/
theorem scattered_slots_canonical :
    ([7, 1, 5, 2, 8, 3] : List ℤ).Nodup ∧ slotsToString [7, 1, 5, 2, 8, 3] = ["1-3", "5", "7-8"] ∧
      ∃ runs : List Run, slotsToString [7, 1, 5, 2, 8, 3] = runs.map runText ∧
        ∀ others : List Run, Run.cover others = {slot | slot ∈ ([7, 1, 5, 2, 8, 3] : List ℤ)} →
          runs.length ≤ others.length := by
  obtain ⟨runs, htexts, -, -, -, hshortest⟩ := @slotsToString_canonical [7, 1, 5, 2, 8, 3] (by decide) (by decide)
  exact ⟨by decide, by decide +kernel, runs, htexts, fun others hothers ↦ (hshortest others hothers).1⟩

end Runs

/-! ## Where the decoder ends -/

theorem wrapInt_of_range {value : ℤ} (hmin : minInt ≤ value) (hmax : value ≤ maxInt) : wrapInt value = value := by
  unfold minInt at hmin
  unfold maxInt at hmax
  exact Int.bmod_eq_of_le (by omega) (by omega)

/-- A value of Go's `int`. -/
def IsInt (value : ℤ) : Prop := minInt ≤ value ∧ value ≤ maxInt

instance (value : ℤ) : Decidable (IsInt value) := inferInstanceAs (Decidable (_ ∧ _))

theorem isInt_wrapInt (value : ℤ) : IsInt (wrapInt value) := by
  have hle := Int.le_bmod (x := value) (m := 2 ^ 64) (by decide)
  have hlt := Int.bmod_lt (x := value) (m := 2 ^ 64) (by decide)
  unfold IsInt wrapInt minInt maxInt
  omega

/-- Every `int` but the largest can be raised. -/
theorem wrapInt_succ {value : ℤ} (h : IsInt value) (hmax : value ≠ maxInt) : wrapInt (value + 1) = value + 1 := by
  obtain ⟨hle, hge⟩ := h
  exact wrapInt_of_range (by omega) (by omega)

/-- No counter exceeds the largest `int`. -/
theorem rangeLoop_maxInt (tests : ℕ) {i : ℤ} (h : i ≤ maxInt) : rangeLoop tests i maxInt = none := by
  induction tests generalizing i with
  | zero => rfl
  | succ tests ih => rw [rangeLoop, if_pos h, ih (isInt_wrapInt _).2, Option.map_none]

theorem intRange_of_lt (h : last < first) : intRange first last = [] := by
  unfold intRange
  rw [show (last + 1 - first).toNat = 0 by omega]
  rfl

theorem intRange_cons (h : first ≤ last) : intRange first last = first :: intRange (first + 1) last := by
  have hlength : (last + 1 - first).toNat = (last + 1 - (first + 1)).toNat + 1 := by omega
  unfold intRange
  rw [hlength, List.range_succ_eq_map, List.map_cons, List.map_map]
  congr 1
  · omega
  · apply List.map_congr_left
    intro offset _
    simp only [Function.comp_apply, Nat.succ_eq_add_one, Nat.cast_add, Nat.cast_one]
    omega

theorem length_intRange (first last : ℤ) : (intRange first last).length = (last + 1 - first).toNat := by
  unfold intRange
  rw [List.length_map, List.length_range]

/-- A loop that stops before the largest `int` takes one test more than there are integers. -/
theorem rangeLoop_eq (tests : ℕ) {i : ℤ} (hmin : minInt ≤ i) (hlast : last < maxInt) : rangeLoop tests i last =
      if (intRange i last).length < tests then some (intRange i last) else none := by
  rw [length_intRange]
  induction tests generalizing i with
  | zero => rfl
  | succ tests ih =>
    rw [rangeLoop]
    by_cases hle : i ≤ last
    · have hwrap : wrapInt (i + 1) = i + 1 := wrapInt_of_range (by omega) (by omega)
      have hcount : (last + 1 - i).toNat < tests + 1 ↔ (last + 1 - (i + 1)).toNat < tests := by omega
      rw [if_pos hle, hwrap, ih (by omega), intRange_cons hle]
      by_cases htests : (last + 1 - (i + 1)).toNat < tests
      · rw [if_pos htests, if_pos (hcount.mpr htests)]
        rfl
      · rw [if_neg htests, if_neg (hcount.not.mpr htests)]
        rfl
    · rw [if_neg hle, if_pos (by omega), intRange_of_lt (by omega)]

/-- The element does not name a range that ends at the largest `int`. -/
def Bounded (slot : String) : Prop :=
  ∀ first second rest, split '-' slot = first :: second :: rest → (atoi second).1 ≠ maxInt

/-- An element is a number or a range of numbers, neither of them negative. -/
theorem split_slot_cases (slot : String) : (∃ only, split '-' slot = [only]) ∨
      ∃ first second rest, split '-' slot = first :: second :: rest ∧
        IsSlot (atoi first).1 ∧ IsSlot (atoi second).1 := by
  have hrange (field : String) (hfield : field ∈ split '-' slot) : IsSlot (atoi field).1 :=
    atoi_range_of_not_mem (not_mem_of_mem_split hfield)
  match hsplit : split '-' slot with
  | [] => exact absurd hsplit (split_ne_nil '-' slot)
  | [only] => exact Or.inl ⟨only, rfl⟩
  | first :: second :: rest =>
    rw [hsplit] at hrange
    exact Or.inr ⟨first, second, rest, rfl, hrange first List.mem_cons_self,
      hrange second (List.mem_cons_of_mem first List.mem_cons_self)⟩

variable {tests : ℕ}

/-- A bounded element is read once there are enough tests. -/
theorem slotToIntsWithin_of_bounded {slot : String} (h : Bounded slot) (htests : (slotToInts slot).length < tests) :
    slotToIntsWithin tests slot = some (slotToInts slot) := by
  rcases split_slot_cases slot with ⟨only, hsplit⟩ | ⟨first, second, rest, hsplit, hfirst, hsecond⟩
  · simp only [slotToIntsWithin, slotToInts, hsplit]
  · have hlast : (atoi second).1 < maxInt := lt_of_le_of_ne hsecond.2 (h first second rest hsplit)
    simp only [slotToIntsWithin, slotToInts, hsplit] at htests ⊢
    rw [rangeLoop_eq tests (le_trans (by decide) hfirst.1) hlast, if_pos htests]

/-- Only bounded elements are read, and the numbers are those between the two bounds. -/
theorem slotToIntsWithin_some {slot : String} {ints : List ℤ} (h : slotToIntsWithin tests slot = some ints) :
    Bounded slot ∧ ints = slotToInts slot := by
  rcases split_slot_cases slot with ⟨only, hsplit⟩ | ⟨first, second, rest, hsplit, hfirst, hsecond⟩
  · simp_all [Bounded, slotToIntsWithin, slotToInts]
  · simp only [slotToIntsWithin, slotToInts, Bounded, hsplit] at h ⊢
    have hlast : (atoi second).1 ≠ maxInt := by
      intro hmax
      rw [hmax, rangeLoop_maxInt tests hfirst.2] at h
      cases h
    rw [rangeLoop_eq tests (le_trans (by decide) hfirst.1) (lt_of_le_of_ne hsecond.2 hlast)] at h
    constructor
    · intro first' second' rest' hcons
      rw [← (List.cons.inj (List.cons.inj hcons).2).1]
      exact hlast
    · exact (Option.some.inj (Option.ite_none_right_eq_some.mp h).2).symm

/-- Enough tests for all elements of a list. -/
theorem slotsToIntWithin_of_bounded {slots : List String} (h : ∀ slot ∈ slots, Bounded slot)
    (htests : (slotsToInt slots).length < tests) : slotsToIntWithin tests slots = some (slotsToInt slots) := by
  induction slots with
  | nil => rfl
  | cons slot slots ih =>
    have happend : slotsToInt (slot :: slots) = slotToInts slot ++ slotsToInt slots := rfl
    rw [happend, List.length_append] at htests
    have hslot := slotToIntsWithin_of_bounded (h slot List.mem_cons_self) (by omega : _ < tests)
    have hrest := ih (fun other hother ↦ h other (List.mem_cons_of_mem slot hother)) (by omega)
    rw [slotsToIntWithin, hslot, hrest]
    rfl

/-- What `SlotsToInt` returns when it ends. -/
theorem slotsToIntWithin_some {slots : List String} {ints : List ℤ} (h : slotsToIntWithin tests slots = some ints) :
    (∀ slot ∈ slots, Bounded slot) ∧ ints = slotsToInt slots := by
  induction slots generalizing ints with
  | nil =>
    rw [slotsToIntWithin, Option.some.injEq] at h
    exact ⟨by simp, h.symm⟩
  | cons slot slots ih =>
    simp only [slotsToIntWithin, Option.bind_eq_bind, Option.bind_eq_some_iff, Option.some.injEq] at h
    obtain ⟨front, hfront, rest, hrest, rfl⟩ := h
    have hslot := slotToIntsWithin_some hfront
    have hslots := ih hrest
    exact ⟨List.forall_mem_cons.mpr ⟨hslot.1, hslots.1⟩, by rw [hslot.2, hslots.2]; rfl⟩

/-- `SlotsToInt` ends on a list. -/
def Terminates (slots : List String) : Prop := ∃ tests ints, slotsToIntWithin tests slots = some ints

/-- `SlotsToInt` ends just if no element names a range up to the largest `int`. -/
theorem slotsToInt_terminates_iff (slots : List String) : Terminates slots ↔ ∀ slot ∈ slots, Bounded slot := by
  constructor
  · rintro ⟨tests, ints, hints⟩
    exact (slotsToIntWithin_some hints).1
  · intro hbounded
    exact ⟨_, _, slotsToIntWithin_of_bounded hbounded (Nat.lt_succ_self _)⟩

/-- A range up to the largest `int`, which its counter wraps around, and two up to a number too large for `int`, of
which `Atoi` makes the largest one without reading on. -/
theorem decoder_runs_on : ¬ Terminates ["0-9223372036854775807"] ∧ ¬ Terminates ["16383-99999999999999999999"] ∧
    ¬ Terminates ["0-99999999999999999999x"] := by
  have hruns {slot : String} (first second : String) (hsplit : split '-' slot = [first, second])
      (hmax : (atoi second).1 = maxInt) : ¬ Terminates [slot] := by
    rintro ⟨tests, ints, hints⟩
    exact (slotsToIntWithin_some hints).1 slot List.mem_cons_self first second [] hsplit hmax
  exact ⟨hruns "0" "9223372036854775807" (by decide) (by decide),
    hruns "16383" "99999999999999999999" (by decide) (by decide),
    hruns "0" "99999999999999999999x" (by decide) (by decide)⟩

/-! ## Round trip -/

/-- The decoder ends on what the encoder writes. -/
theorem bounded_runText {run : Segments.Run} (hfirst : IsSlot run.first) (hlast : 0 ≤ run.last)
    (hmax : run.last < maxInt) : Bounded (runText run) := by
  have hslot : IsSlot run.last := ⟨hlast, hmax.le⟩
  intro first second rest hsplit
  rcases runText_cases run with ⟨-, htext⟩ | ⟨-, htext⟩
  · rw [htext, split_of_not_mem (not_mem_itoa_slot hfirst)] at hsplit
    simp at hsplit
  · have hdash : "-" = String.singleton '-' := rfl
    rw [htext, hdash, split_append (not_mem_itoa_slot hfirst), split_of_not_mem (not_mem_itoa_slot hslot)] at hsplit
    rw [← (List.cons.inj (List.cons.inj hsplit).2).1, atoi_itoa_slot hslot]
    exact hmax.ne

/-- What `SlotsToString` has written for slots below the largest `int` can be read. -/
theorem bounded_of_mem_slotsToString (hslots : ∀ slot ∈ slots, 0 ≤ slot ∧ slot < maxInt) :
    ∀ text ∈ slotsToString slots, Bounded text := by
  rw [slotsToString_eq]
  refine List.forall_mem_map.mpr fun run hrun ↦ ?_
  have hmem (value : ℤ) (hvalue : run.Has value) : 0 ≤ value ∧ value < maxInt := by
    have hcovered : value ∈ {slot | slot ∈ slots} := cover_runsOf slots ▸ Segments.Run.mem_cover hrun hvalue
    exact hslots value hcovered
  have hfirst := hmem run.first run.has_first
  have hlast := hmem run.last run.has_last
  exact bounded_runText ⟨hfirst.1, hfirst.2.le⟩ hlast.1 hlast.2

/-- The encoding looks at the sorted list only. -/
theorem slotsToString_congr {others : List ℤ} (h : sortInts slots = sortInts others) :
    slotsToString slots = slotsToString others := by
  unfold slotsToString
  rw [h]

theorem sortInts_eq_iff {others : List ℤ} : sortInts slots = sortInts others ↔ slots.Perm others := by
  have hperm (slots : List ℤ) : (sortInts slots).Perm slots := List.perm_insertionSort (· ≤ ·) slots
  constructor
  · intro hsame
    exact (hperm slots).symm.trans (hsame ▸ hperm others)
  · intro h
    exact ((hperm slots).trans (h.trans (hperm others).symm)).eq_of_pairwise' (pairwise_sortInts slots)
      (pairwise_sortInts others)

/-- The codec loses the order of the slots and nothing else. -/
theorem slot_codec_round_trip {slots : List ℤ} (hslots : ∀ slot ∈ slots, 0 ≤ slot ∧ slot < maxInt) :
    (∃ (enough : ℕ) (ints : List ℤ),
      (∀ tests, enough ≤ tests → slotsToIntWithin tests (slotsToString slots) = some ints) ∧
      ints.Pairwise (· ≤ ·) ∧ ints.Perm slots ∧ slotsToString ints = slotsToString slots) ∧
    ∀ others : List ℤ, (∀ slot ∈ others, 0 ≤ slot ∧ slot < maxInt) →
      (slotsToString slots = slotsToString others ↔ slots.Perm others) := by
  have hread {slots : List ℤ} (hslots : ∀ slot ∈ slots, 0 ≤ slot ∧ slot < maxInt) :
      slotsToInt (slotsToString slots) = sortInts slots :=
    slotsToInt_slotsToString fun slot hslot ↦ ⟨(hslots slot hslot).1, (hslots slot hslot).2.le⟩
  constructor
  · refine ⟨(sortInts slots).length + 1, sortInts slots, fun tests htests ↦ ?_, pairwise_sortInts slots,
      List.perm_insertionSort (· ≤ ·) slots, slotsToString_congr (sortInts_sortInts slots)⟩
    rw [slotsToIntWithin_of_bounded (bounded_of_mem_slotsToString hslots) (by rw [hread hslots]; exact htests),
      hread hslots]
  · intro others hothers
    rw [← sortInts_eq_iff]
    constructor
    · intro hsame
      calc sortInts slots
        _ = slotsToInt (slotsToString slots) := (hread hslots).symm
        _ = slotsToInt (slotsToString others) := by rw [hsame]
        _ = sortInts others := hread hothers
    · exact slotsToString_congr

/-- Duplicates inside and at the end of a run. -/
theorem repeated_slots_round_trip : (∀ slot ∈ ([4, 2, 3, 3, 4] : List ℤ), 0 ≤ slot ∧ slot < maxInt) ∧
      slotsToString [4, 2, 3, 3, 4] = ["2-3", "3-4", "4"] ∧
      ∃ (enough : ℕ) (ints : List ℤ),
        (∀ tests, enough ≤ tests → slotsToIntWithin tests (slotsToString [4, 2, 3, 3, 4]) = some ints) ∧
        ints.Perm [4, 2, 3, 3, 4] := by
  obtain ⟨enough, ints, hread, -, hperm, -⟩ := (@slot_codec_round_trip [4, 2, 3, 3, 4] (by decide)).1
  exact ⟨by decide, by decide +kernel, enough, ints, hread, hperm⟩

end KvrocksOperator.Kvrocks
