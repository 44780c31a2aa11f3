import Mathlib.Data.List.Forall2
import Mathlib.Data.Nat.Notation

/-!
# Lists and positions

Facts about the elements of a list at their positions: lists paired with their positions, changes at one position, and
lists that are related element by element.
-/

namespace Sequences

variable {α β γ : Type} {items : List α}

/-! ## Paired with positions -/

theorem getElem?_of_zipIdx {position : ℕ} {entry : α × ℕ} (h : items.zipIdx[position]? = some entry) :
    items[position]? = some entry.1 ∧ entry.2 = position := by
  rw [List.getElem?_zipIdx, Nat.zero_add] at h
  obtain ⟨item, hitem, rfl⟩ := Option.map_eq_some_iff.mp h
  exact ⟨hitem, rfl⟩

theorem map_zipIdx_fst (image : α → β) (items : List α) :
    items.zipIdx.map (fun entry ↦ image entry.1) = items.map image := by
  calc items.zipIdx.map (fun entry ↦ image entry.1)
    _ = (items.zipIdx.map Prod.fst).map image := by
      rw [List.map_map]
      rfl
    _ = items.map image := by rw [List.zipIdx_map_fst]

theorem countP_zipIdx (items : List α) (test : α → Bool) :
    items.zipIdx.countP (fun entry ↦ test entry.1) = items.countP test := by
  calc items.zipIdx.countP (fun entry ↦ test entry.1)
    _ = (items.zipIdx.map Prod.fst).countP test := by
      rw [List.countP_map]
      rfl
    _ = items.countP test := by rw [List.zipIdx_map_fst]

/-! ## Changes at one position -/

theorem zipIdx_modify (items : List α) (position : ℕ) (change : α → α) : (items.modify position change).zipIdx =
      items.zipIdx.map fun (item, index) ↦ (if index = position then change item else item, index) := by
  apply List.ext_getElem?
  intro index
  rw [List.getElem?_zipIdx, List.getElem?_map, List.getElem?_zipIdx, List.getElem?_modify]
  cases items[index]? with
  | none => rfl
  | some item => by_cases hindex : position = index <;> simp [hindex, eq_comm]

/-- A change that an image sees as another change. -/
theorem map_modify {view : α → β} {change : α → α} {change' : β → β}
    (h : ∀ item, view (change item) = change' (view item)) (items : List α) (position : ℕ) :
    (items.modify position change).map view = (items.map view).modify position change' := by
  apply List.ext_getElem?
  intro index
  rw [List.getElem?_map, List.getElem?_modify, List.getElem?_modify, List.getElem?_map]
  cases items[index]? with
  | none => rfl
  | some item => by_cases hindex : position = index <;> simp [hindex, h]

/-- A change that an image does not see. -/
theorem map_modify_eq {image : α → β} {change : α → α} (h : ∀ item, image (change item) = image item) (items : List α)
    (position : ℕ) : (items.modify position change).map image = items.map image := by
  exact (map_modify h items position).trans (List.modify_id _ _)

theorem set_of_getElem? {index : ℕ} {item : α} (h : items[index]? = some item) : items.set index item = items := by
  obtain ⟨hlt, rfl⟩ := List.getElem?_eq_some_iff.mp h
  exact List.set_getElem_self hlt

/-! ## Element by element -/

/-- Two lists with the same image have elements with the same image at each position. -/
theorem getElem?_of_map_eq {image : α → β} {first second : List α} (h : first.map image = second.map image)
    {index : ℕ} {item : α} (hitem : second[index]? = some item) :
    ∃ other, first[index]? = some other ∧ image other = image item := by
  have hindex : (first.map image)[index]? = (second.map image)[index]? := by rw [h]
  rw [List.getElem?_map, List.getElem?_map, hitem, Option.map_some] at hindex
  exact Option.map_eq_some_iff.mp hindex

theorem map_eq_of_forall₂ {first : α → γ} {second : β → γ} {images : List β}
    (h : List.Forall₂ (fun item image ↦ second image = first item) items images) :
    images.map second = items.map first := by
  induction h with
  | nil => rfl
  | cons hhead _ ih => rw [List.map_cons, List.map_cons, hhead, ih]

theorem forall_mem_of_forall₂ {good : β → Prop} {images : List β}
    (h : List.Forall₂ (fun _ image ↦ good image) items images) : ∀ image ∈ images, good image := by
  induction h with
  | nil => exact nofun
  | cons hhead _ ih => exact List.forall_mem_cons.mpr ⟨hhead, ih⟩

end Sequences
