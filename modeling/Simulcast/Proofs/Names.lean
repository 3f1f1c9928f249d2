import Mathlib.Data.List.Nodup
import Mathlib.Data.Nat.Basic
import Simulcast.Proofs.Text.Digits

/-!
# Names that tell things apart

Outputs, channels and processes are kept in lists and told apart by a name that each of them has to
itself. So a name chooses one of them, and whatever comes under a new name keeps them apart. Names
that are made by counting differ when the numbers do.
-/

namespace Simulcast

theorem numbered_injective (stem : String) {m n : Nat}
    (h : stem ++ toString m = stem ++ toString n) : m = n := by
  have hlists := congrArg String.toList h
  rw [String.toList_append, String.toList_append] at hlists
  exact digits_injective (String.toList_injective (List.append_cancel_left hlists))

section

variable {α β : Type} {name : α → β} {items : List α} {x : α}

theorem nodup_names_append (h : (items.map name).Nodup) (hnew : ∀ y ∈ items, name y ≠ name x) :
    ((items ++ [x]).map name).Nodup := by
  rw [List.map_append, List.map_singleton]
  refine List.nodup_append.mpr ⟨h, List.nodup_singleton _, ?_⟩
  intro a ha b hb
  obtain ⟨y, hy, rfl⟩ := List.mem_map.mp ha
  obtain rfl := List.mem_singleton.mp hb
  exact hnew y hy

variable [BEq β] [LawfulBEq β]

theorem filter_name (h : (items.map name).Nodup) (hx : x ∈ items) :
    items.filter (fun y => name y == name x) = [x] := by
  induction items with
  | nil => cases hx
  | cons y rest ih =>
    rw [List.map_cons, List.nodup_cons] at h
    obtain ⟨hy, hrest⟩ := h
    obtain rfl | hx := List.mem_cons.mp hx
    · have hno : rest.filter (fun y => name y == name x) = [] := by
        refine List.filter_eq_nil_iff.mpr fun y hmem he => hy ?_
        exact List.mem_map.mpr ⟨y, hmem, beq_iff_eq.mp he⟩
      simp [hno]
    · have hne : name y ≠ name x := fun he => hy (List.mem_map.mpr ⟨x, hx, he.symm⟩)
      simp [hne, ih hrest hx]

theorem find?_name (h : (items.map name).Nodup) (hx : x ∈ items) :
    items.find? (fun y => name y == name x) = some x := by
  rw [← List.head?_filter, filter_name h hx]
  rfl

theorem eraseIdx_name (h : (items.map name).Nodup) {i : Nat} (hx : items[i]? = some x) :
    items.eraseIdx i = items.filter (fun y => name y != name x) := by
  induction items generalizing i with
  | nil => cases hx
  | cons y rest ih =>
    rw [List.map_cons, List.nodup_cons] at h
    obtain ⟨hy, hrest⟩ := h
    cases i with
    | zero =>
      obtain rfl : y = x := Option.some.inj hx
      have hall : rest.filter (fun z => name z != name y) = rest := by
        refine List.filter_eq_self.mpr fun z hz => bne_iff_ne.mpr fun he => hy ?_
        exact List.mem_map.mpr ⟨z, hz, he⟩
      simp [hall]
    | succ i =>
      have hne : name y ≠ name x := fun he =>
        hy (List.mem_map.mpr ⟨x, List.mem_of_getElem? hx, he.symm⟩)
      simp [hne, ih hrest hx]

end

end Simulcast
