import Mathlib.Data.Finset.Card
import Mathlib.Data.List.Sort
import Mathlib.Data.Finset.Dedup
import Mathlib.Order.Interval.Finset.Nat

/-!
# The smallest elements outside a set

A finite set of elements outside `excluded` that contains, with each element, every smaller one outside `excluded`, is
determined by its size.  This file says how such a set changes when elements are excluded, admitted or cut off at the
top, and computes it for natural numbers.
-/

namespace Segments

section LinearOrder

variable {α : Type*} [LinearOrder α]

/-- The `size` smallest elements outside `excluded`. -/
structure IsSmallest (size : ℕ) (excluded : Set α) (chosen : Finset α) : Prop where
  card : chosen.card = size
  outside : ∀ item ∈ chosen, item ∉ excluded
  closed : ∀ item ∈ chosen, ∀ smaller < item, smaller ∉ excluded → smaller ∈ chosen

namespace IsSmallest

variable {size : ℕ} {excluded : Set α} {chosen other : Finset α}

/-- Of two such sets, one contains the other. -/
theorem subset_or_subset {size' : ℕ} (h : IsSmallest size excluded chosen) (h' : IsSmallest size' excluded other) :
    chosen ⊆ other ∨ other ⊆ chosen := by
  by_contra hneither
  simp only [not_or, Finset.not_subset] at hneither
  obtain ⟨⟨item, hitem, hmissing⟩, item', hitem', hmissing'⟩ := hneither
  rcases lt_trichotomy item item' with hlt | heq | hgt
  · exact hmissing (h'.closed item' hitem' item hlt (h.outside item hitem))
  · exact hmissing (heq ▸ hitem')
  · exact hmissing' (h.closed item hitem item' hgt (h'.outside item' hitem'))

theorem unique (h : IsSmallest size excluded chosen) (h' : IsSmallest size excluded other) : chosen = other := by
  have hcard : chosen.card = other.card := h.card.trans h'.card.symm
  rcases h.subset_or_subset h' with hsubset | hsubset
  · exact Finset.eq_of_subset_of_card_le hsubset hcard.ge
  · exact (Finset.eq_of_subset_of_card_le hsubset hcard.le).symm

/-- Take elements out.  Those that are not excluded from now on have to lie above all that stay. -/
theorem remove (h : IsSmallest size excluded chosen) {removed barred : Finset α} (hremoved : removed ⊆ chosen)
    (hbarred : barred ⊆ removed)
    (htop : ∀ item ∈ removed, item ∉ barred → ∀ kept ∈ chosen, kept ∉ removed → kept < item) :
    IsSmallest (size - removed.card) (excluded ∪ barred) (chosen \ removed) := by
  refine ⟨?_, ?_, ?_⟩
  · rw [Finset.card_sdiff_of_subset hremoved, h.card]
  · intro item hitem hexcluded
    obtain ⟨hchosen, hkept⟩ := Finset.mem_sdiff.mp hitem
    rcases hexcluded with hbefore | hnow
    · exact h.outside item hchosen hbefore
    · exact hkept (hbarred hnow)
  · intro item hitem smaller hsmaller hadmitted
    obtain ⟨hchosen, hkept⟩ := Finset.mem_sdiff.mp hitem
    have hmem := h.closed item hchosen smaller hsmaller fun hexcluded ↦ hadmitted (.inl hexcluded)
    refine Finset.mem_sdiff.mpr ⟨hmem, fun hgone ↦ ?_⟩
    have hfree : smaller ∉ barred := fun hbar ↦ hadmitted (.inr hbar)
    exact absurd (htop smaller hgone hfree item hchosen hkept) hsmaller.not_gt

/-- Excluding what is not chosen and lies above everything chosen changes nothing; neither does admitting it. -/
theorem congr {excluded' : Set α} (h : IsSmallest size excluded chosen)
    (hsame : ∀ item, (∃ top ∈ chosen, item ≤ top) → (item ∈ excluded' ↔ item ∈ excluded)) :
    IsSmallest size excluded' chosen := by
  refine ⟨h.card, fun item hitem ↦ ?_, fun item hitem smaller hsmaller hadmitted ↦ ?_⟩
  · rw [hsame item ⟨item, hitem, le_rfl⟩]
    exact h.outside item hitem
  · rw [hsame smaller ⟨item, hitem, hsmaller.le⟩] at hadmitted
    exact h.closed item hitem smaller hsmaller hadmitted

/-- Admit at most as many elements as the set grows by: nothing chosen before is lost. -/
theorem subset_of_admit {more : ℕ} {excluded' admitted : Finset α}
    (h : IsSmallest size (excluded' ∪ admitted : Finset α) chosen)
    (h' : IsSmallest (size + more) (excluded' : Set α) other) (hmore : admitted.card ≤ more) : chosen ⊆ other := by
  intro item hitem
  by_contra hlost
  have hfree : item ∉ excluded' ∪ admitted := h.outside item hitem
  -- everything chosen later is smaller than the lost element, and was chosen before or is new
  have hbelow : other ⊆ (chosen.erase item) ∪ admitted := by
    intro later hlater
    have hlt : later < item := by
      rcases lt_trichotomy later item with hlt | heq | hgt
      · exact hlt
      · exact absurd (heq ▸ hlater) hlost
      · refine absurd (h'.closed later hlater item hgt fun hexcluded ↦ hfree ?_) hlost
        exact Finset.mem_union_left _ hexcluded
    by_cases hnew : later ∈ admitted
    · exact Finset.mem_union_right _ hnew
    · refine Finset.mem_union_left _ (Finset.mem_erase.mpr ⟨hlt.ne, h.closed item hitem later hlt ?_⟩)
      intro hexcluded
      rcases Finset.mem_union.mp hexcluded with hstill | hnow
      · exact h'.outside later hlater hstill
      · exact hnew hnow
  have hcount := calc
    size + more = other.card := h'.card.symm
    _ ≤ ((chosen.erase item) ∪ admitted).card := Finset.card_le_card hbelow
    _ ≤ (chosen.erase item).card + admitted.card := Finset.card_union_le _ _
    _ = (size - 1) + admitted.card := by rw [Finset.card_erase_of_mem hitem, h.card]
  have hpos : 0 < size := h.card ▸ Finset.card_pos.mpr ⟨item, hitem⟩
  omega

/-- If there are enough elements below a bound, everything chosen is below it. -/
theorem lt_of_enough (h : IsSmallest size excluded chosen) {enough : Finset α} {bound : α}
    (hcard : size ≤ enough.card) (houtside : ∀ item ∈ enough, item ∉ excluded)
    (hbound : ∀ item ∈ enough, item < bound) {item : α} (hitem : item ∈ chosen) : item < bound := by
  by_contra hlarge
  have hsubset : enough ⊆ chosen.erase item := by
    intro other hother
    have hlt : other < item := (hbound other hother).trans_le (not_lt.mp hlarge)
    exact Finset.mem_erase.mpr ⟨hlt.ne, h.closed item hitem other hlt (houtside other hother)⟩
  have hpos : 0 < chosen.card := Finset.card_pos.mpr ⟨item, hitem⟩
  have hcount := calc
    size ≤ enough.card := hcard
    _ ≤ (chosen.erase item).card := Finset.card_le_card hsubset
    _ = chosen.card - 1 := Finset.card_erase_of_mem hitem
  rw [h.card] at hcount hpos
  omega

end IsSmallest

end LinearOrder

/-! ## Natural numbers -/

/-- The `size` smallest natural numbers that do not occur in a list, in increasing order. -/
def smallest (size : ℕ) (excluded : List ℕ) : List ℕ :=
  ((List.range (size + excluded.length)).filter fun number ↦ decide (number ∉ excluded)).take size

theorem smallest_sorted (size : ℕ) (excluded : List ℕ) : (smallest size excluded).Pairwise (· < ·) :=
  (List.pairwise_lt_range.filter _).take

theorem smallest_length (size : ℕ) (excluded : List ℕ) : (smallest size excluded).length = size := by
  have hpresent : ((List.range (size + excluded.length)).filter fun number ↦ decide (number ∈ excluded)).length
      ≤ excluded.length := by
    have hsubset : ((List.range (size + excluded.length)).filter fun number ↦ decide (number ∈ excluded)) ⊆
        excluded := fun number hnumber ↦ of_decide_eq_true (List.mem_filter.mp hnumber).2
    exact ((List.nodup_range.filter _).subperm hsubset).length_le
  have hsplit := List.length_eq_length_filter_add (l := List.range (size + excluded.length))
    fun number ↦ decide (number ∈ excluded)
  simp only [List.length_range, ← decide_not] at hsplit
  rw [smallest, List.length_take]
  omega

theorem smallest_isSmallest (size : ℕ) (excluded : List ℕ) :
    IsSmallest size {number | number ∈ excluded} (smallest size excluded).toFinset := by
  refine ⟨?_, ?_, ?_⟩
  · rw [List.toFinset_card_of_nodup (smallest_sorted size excluded).nodup, smallest_length]
  · intro number hnumber
    have hmem := List.mem_of_mem_take (List.mem_toFinset.mp hnumber)
    exact of_decide_eq_true (List.mem_filter.mp hmem).2
  · intro number hnumber smaller hsmaller hadmitted
    have hmem := List.mem_toFinset.mp hnumber
    have hrange := List.mem_range.mp (List.mem_filter.mp (List.mem_of_mem_take hmem)).1
    have hcandidate : smaller ∈ (List.range (size + excluded.length)).filter fun number ↦ decide (number ∉ excluded) :=
      List.mem_filter.mpr ⟨List.mem_range.mpr (hsmaller.trans hrange), decide_eq_true hadmitted⟩
    -- what is cut off is larger than what is taken
    rw [← List.take_append_drop size (List.filter _ _)] at hcandidate
    rcases List.mem_append.mp hcandidate with htaken | hdropped
    · exact List.mem_toFinset.mpr htaken
    · have hsorted : ((List.range (size + excluded.length)).filter
          fun number ↦ decide (number ∉ excluded)).Pairwise (· < ·) := List.pairwise_lt_range.filter _
      rw [← List.take_append_drop size (List.filter _ _)] at hsorted
      exact absurd ((List.pairwise_append.mp hsorted).2.2 number hmem smaller hdropped) hsmaller.not_gt

/-- The characterisation, for an increasing list. -/
theorem eq_smallest_iff {size : ℕ} {excluded numbers : List ℕ} (hsorted : numbers.Pairwise (· < ·)) :
    numbers = smallest size excluded ↔ IsSmallest size {number | number ∈ excluded} numbers.toFinset := by
  constructor
  · rintro rfl
    exact smallest_isSmallest size excluded
  · intro h
    have hset := h.unique (smallest_isSmallest size excluded)
    have hperm : numbers.Perm (smallest size excluded) :=
      List.perm_of_nodup_nodup_toFinset_eq hsorted.nodup (smallest_sorted size excluded).nodup hset
    exact hperm.eq_of_pairwise (fun _ _ _ _ h h' ↦ absurd h h'.not_gt) hsorted (smallest_sorted size excluded)

/-- Only which numbers occur in the list matters. -/
theorem smallest_congr (size : ℕ) {excluded excluded' : List ℕ} (h : ∀ number, number ∈ excluded ↔ number ∈ excluded') :
    smallest size excluded = smallest size excluded' := by
  rw [eq_smallest_iff (smallest_sorted size excluded)]
  apply (smallest_isSmallest size excluded).congr
  intro number _
  exact (h number).symm

/-- Admit the first numbers of the list, at most as many as the size grows by. -/
theorem smallest_subset_drop (size more : ℕ) (excluded : List ℕ) :
    smallest size excluded ⊆ smallest (size + more) (excluded.drop more) := by
  have hsplit : {number | number ∈ excluded} =
      (((excluded.drop more).toFinset ∪ (excluded.take more).toFinset : Finset ℕ) : Set ℕ) := by
    ext number
    have hparts : number ∈ excluded ↔ number ∈ excluded.take more ∨ number ∈ excluded.drop more := by
      rw [← List.mem_append, List.take_append_drop]
    simp only [Set.mem_ofPred_eq, Finset.coe_union, List.coe_toFinset, Set.mem_union, hparts]
    exact or_comm
  have hbefore := smallest_isSmallest size excluded
  have hafter := smallest_isSmallest (size + more) (excluded.drop more)
  rw [hsplit] at hbefore
  rw [← List.coe_toFinset] at hafter
  have hcard : (excluded.take more).toFinset.card ≤ more :=
    (List.toFinset_card_le _).trans (List.length_take_le more excluded)
  have hsubset := hbefore.subset_of_admit hafter hcard
  exact fun number hnumber ↦ List.mem_toFinset.mp (hsubset (List.mem_toFinset.mpr hnumber))

/-- How many numbers are new in a larger set. -/
theorem length_filter_not_mem_smallest {size size' : ℕ} {excluded excluded' : List ℕ}
    (h : smallest size excluded ⊆ smallest size' excluded') :
    ((smallest size' excluded').filter fun number ↦ decide (number ∉ smallest size excluded)).length =
      size' - size := by
  have hold : ((smallest size' excluded').filter fun number ↦ decide (number ∈ smallest size excluded)).Perm
      (smallest size excluded) := by
    apply (List.perm_ext_iff_of_nodup ((smallest_sorted _ _).nodup.filter _) (smallest_sorted _ _).nodup).mpr
    intro number
    simp only [List.mem_filter, decide_eq_true_eq, and_iff_right_iff_imp]
    exact fun hnumber ↦ h hnumber
  have hsplit := List.length_eq_length_filter_add (l := smallest size' excluded')
    fun number ↦ decide (number ∈ smallest size excluded)
  rw [hold.length_eq, smallest_length, smallest_length] at hsplit
  simp only [← decide_not] at hsplit
  omega

/-- Nothing excluded: the numbers below the size. -/
theorem mem_smallest_nil {size number : ℕ} : number ∈ smallest size [] ↔ number < size := by
  simp [smallest]

end Segments
