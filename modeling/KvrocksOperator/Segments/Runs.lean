import Mathlib.Data.Int.Interval
import Mathlib.Data.List.Perm.Subperm

/-!
# Sets of integers as lists of ranges

A list of ranges denotes the union of its ranges.  Ranges that are in order and do not touch are the shortest such
list: every other list for the same set has to spend a range of its own on each of them, and one that spends no more
has the same ranges.
-/

namespace Segments

/-- The integers between two bounds, both included. -/
@[ext]
structure Run where
  first : ℤ
  last : ℤ
  le : first ≤ last

namespace Run

variable {run other : Run} {runs others : List Run}

/-- The integer is in the range. -/
def Has (run : Run) (value : ℤ) : Prop := run.first ≤ value ∧ value ≤ run.last

/-- The union of the ranges. -/
def cover (runs : List Run) : Set ℤ := {value | ∃ run ∈ runs, run.Has value}

/-- The ranges are in order, and between two of them there is an integer that is in neither. -/
def Separated (runs : List Run) : Prop := runs.Pairwise fun run later ↦ run.last + 1 < later.first

theorem has_first (run : Run) : run.Has run.first := ⟨le_rfl, run.le⟩

theorem has_last (run : Run) : run.Has run.last := ⟨run.le, le_rfl⟩

theorem first_le_of_next (run : Run) {value : ℤ} (hnext : value - run.last = 1) : run.first ≤ value := by
  have hle := run.le
  omega

/-- The range of one integer. -/
def single (value : ℤ) : Run := ⟨value, value, le_rfl⟩

@[simp] theorem has_single (value other : ℤ) : (single value).Has other ↔ other = value :=
  ⟨fun h ↦ le_antisymm h.2 h.1, fun h ↦ ⟨h.ge, h.le⟩⟩

@[simp] theorem cover_nil : cover [] = ∅ := by
  ext value
  simp [cover]

@[simp] theorem cover_cons (run : Run) (runs : List Run) :
    cover (run :: runs) = {value | run.Has value} ∪ cover runs := by
  ext value
  simp [cover]

theorem mem_cover {value : ℤ} (hrun : run ∈ runs) (h : run.Has value) : value ∈ cover runs := ⟨run, hrun, h⟩

/-- One of the ranges ends well before the other one starts. -/
def Apart (run other : Run) : Prop := run.last + 1 < other.first ∨ other.last + 1 < run.first

instance : Std.Symm Apart := ⟨fun _ _ ↦ Or.symm⟩

theorem Separated.apart (h : Separated runs) (hrun : run ∈ runs) (hother : other ∈ runs) (hne : run ≠ other) :
    run.Apart other := by
  have hapart : runs.Pairwise Apart := h.imp fun hgap ↦ Or.inl hgap
  exact hapart.forall hrun hother hne

/-- Separated ranges have no integer in common, nor neighbours. -/
theorem Separated.eq_of_near (h : Separated runs) (hrun : run ∈ runs) (hother : other ∈ runs) {value near : ℤ}
    (hvalue : run.Has value) (hnear : other.Has near) (hclose : near ≤ value + 1) (hclose' : value ≤ near + 1) :
    run = other := by
  by_contra hne
  rcases h.apart hrun hother hne with hgap | hgap
  · have := hvalue.2
    have := hnear.1
    omega
  · have := hvalue.1
    have := hnear.2
    omega

/-- A range inside the union of separated ranges is inside the one that it meets. -/
theorem Separated.subset_of_meets (h : Separated runs) (hrun : run ∈ runs)
    (hcovered : ∀ value, other.Has value → value ∈ cover runs) {meet : ℤ} (hmeet : run.Has meet)
    (hother : other.Has meet) : run.first ≤ other.first ∧ other.last ≤ run.last := by
  constructor
  · by_contra hbefore
    obtain ⟨found, hfound, hhas⟩ := hcovered (run.first - 1) ⟨by omega, by have := hmeet.1; have := hother.2; omega⟩
    obtain rfl := h.eq_of_near hrun hfound run.has_first hhas (by omega) (by omega)
    have := hhas.1
    omega
  · by_contra hafter
    obtain ⟨found, hfound, hhas⟩ := hcovered (run.last + 1) ⟨by have := hmeet.2; have := hother.1; omega, by omega⟩
    obtain rfl := h.eq_of_near hrun hfound run.has_last hhas (by omega) (by omega)
    have := hhas.2
    omega

theorem Separated.nodup (h : Separated runs) : runs.Nodup := by
  apply h.imp
  rintro run later hgap rfl
  have := run.le
  omega

section Shortest

variable (hseparated : Separated runs) (hcover : cover others = cover runs)

include hcover

/-- A range of the other list that holds the first integer of each range. -/
theorem exists_holder (hrun : run ∈ runs) : ∃ holder ∈ others, holder.Has run.first :=
  hcover.ge (mem_cover hrun run.has_first)

include hseparated

/-- The holders are inside their ranges. -/
theorem holder_subset {holder : Run} (hrun : run ∈ runs) (hholder : holder ∈ others) (hhas : holder.Has run.first) :
    run.first ≤ holder.first ∧ holder.last ≤ run.last :=
  hseparated.subset_of_meets hrun (fun _ hvalue ↦ hcover.le (mem_cover hholder hvalue)) run.has_first hhas

/-- Every list for the same set holds a range for each of the separated ones, all different. -/
theorem exists_holders : ∃ holder : Run → Run, (∀ run ∈ runs, holder run ∈ others ∧ (holder run).Has run.first) ∧
    (runs.map holder).Nodup := by
  classical
  choose! holder hmem hhas using fun run (hrun : run ∈ runs) ↦ exists_holder hcover hrun
  refine ⟨holder, fun run hrun ↦ ⟨hmem run hrun, hhas run hrun⟩, ?_⟩
  refine hseparated.nodup.map_on fun run hrun other hother hsame ↦ ?_
  have hsubset := holder_subset hseparated hcover hrun (hmem run hrun) (hhas run hrun)
  have hfirst := hhas other hother
  rw [← hsame] at hfirst
  have hin : run.Has other.first := ⟨hsubset.1.trans hfirst.1, hfirst.2.trans hsubset.2⟩
  exact hseparated.eq_of_near hrun hother hin other.has_first (by omega) (by omega)

/-- No list for the same set is shorter. -/
theorem Separated.length_le : runs.length ≤ others.length := by
  obtain ⟨holder, hholder, hnodup⟩ := exists_holders hseparated hcover
  have hsubset : runs.map holder ⊆ others := List.forall_mem_map.mpr fun run hrun ↦ (hholder run hrun).1
  calc runs.length
    _ = (runs.map holder).length := (List.length_map holder).symm
    _ ≤ others.length := (hnodup.subperm hsubset).length_le

/-- A list for the same set that is no longer has the same ranges. -/
theorem Separated.perm_of_length (hlength : others.length = runs.length) : others.Perm runs := by
  obtain ⟨holder, hholder, hnodup⟩ := exists_holders hseparated hcover
  have hsubset : runs.map holder ⊆ others := List.forall_mem_map.mpr fun run hrun ↦ (hholder run hrun).1
  have hperm : (runs.map holder).Perm others :=
    (hnodup.subperm hsubset).perm_of_length_le (by rw [List.length_map, hlength])
  have hsame (run : Run) (hrun : run ∈ runs) : holder run = run := by
    have hinside (run : Run) (hrun : run ∈ runs) : run.first ≤ (holder run).first ∧ (holder run).last ≤ run.last :=
      holder_subset hseparated hcover hrun (hholder run hrun).1 (hholder run hrun).2
    -- the last integer of the range is held as well, and by no other holder
    obtain ⟨found, hfound, hhas⟩ := hcover.ge (mem_cover hrun run.has_last)
    obtain ⟨owner, howner, rfl⟩ := List.mem_map.mp (hperm.mem_iff.mpr hfound)
    have hin : owner.Has run.last := ⟨(hinside owner howner).1.trans hhas.1, hhas.2.trans (hinside owner howner).2⟩
    obtain rfl := hseparated.eq_of_near howner hrun hin run.has_last (by omega) (by omega)
    ext
    · exact le_antisymm (hholder owner hrun).2.1 (hinside owner hrun).1
    · exact le_antisymm (hinside owner hrun).2 hhas.2
  have hid : runs.map holder = runs := (List.map_congr_left hsame).trans (List.map_id' runs)
  rw [hid] at hperm
  exact hperm.symm

/-- In order, it is the same list. -/
theorem Separated.eq_of_length (hlength : others.length = runs.length)
    (hordered : others.Pairwise fun run later ↦ run.first ≤ later.first) : others = runs := by
  have hperm := hseparated.perm_of_length hcover hlength
  have hsorted : runs.Pairwise fun run later ↦ run.first ≤ later.first := by
    apply hseparated.imp
    intro run later hgap
    have := run.le
    omega
  refine hperm.eq_of_pairwise (fun run later hrun hlater hle hge ↦ ?_) hordered hsorted
  exact hseparated.eq_of_near (hperm.mem_iff.mp hrun) hlater run.has_first later.has_first (by omega) (by omega)

end Shortest

end Run

end Segments
