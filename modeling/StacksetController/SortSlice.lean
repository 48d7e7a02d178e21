import Mathlib.Data.List.Sort
import Mathlib.Order.Basic

set_option autoImplicit false

namespace StacksetController.Core

/-- A call of Go's `sort.Slice` with the comparison `less`: the slice comes back permuted so that no
element is less than one before it. The sort is not stable, and how it orders equal elements is
its own business, so every such function is a model of it. -/
structure SortSlice (α : Type) (less : α → α → Bool) where
  sort : List α → List α
  perm : ∀ xs, (sort xs).Perm xs
  sorted : ∀ xs, (sort xs).Pairwise fun a b => less b a = false

section ByKey

variable {α β : Type} [LinearOrder β] (key : α → β)

-- The comparisons the source sorts with: `a.key < b.key` on timestamps or names.
def keyLess (a b : α) : Bool := decide (key a < key b)

theorem sorted_key_le (s : SortSlice α (keyLess key)) (xs : List α) :
    (s.sort xs).Pairwise fun a b => key a ≤ key b :=
  (s.sorted xs).imp fun h => by simpa [keyLess] using h

-- Insertion sort, one model of sort.Slice, and the one used to evaluate the model.
def SortSlice.insertion : SortSlice α (keyLess key) where
  sort := List.insertionSort fun a b => key a ≤ key b
  perm := List.perm_insertionSort _
  sorted xs := by
    have : IsTotal α fun a b => key a ≤ key b := ⟨fun a b => le_total (key a) (key b)⟩
    have : IsTrans α fun a b => key a ≤ key b := ⟨fun _ _ _ => le_trans⟩
    exact (List.sorted_insertionSort _ xs).imp fun h => by simpa [keyLess] using h

variable {key}

theorem sort_map_key_eq {xs ys : List α} (s t : SortSlice α (keyLess key))
    (p : (xs.map key).Perm (ys.map key)) : (s.sort xs).map key = (t.sort ys).map key := by
  apply List.eq_of_perm_of_sorted (r := fun a b : β => a ≤ b)
  · exact (((s.perm xs).map key).trans p).trans ((t.perm ys).map key).symm
  · exact List.pairwise_map.mpr (sorted_key_le key s xs)
  · exact List.pairwise_map.mpr (sorted_key_le key t ys)

theorem sort_strict {xs : List α} (s : SortSlice α (keyLess key)) (distinct : (xs.map key).Nodup) :
    (s.sort xs).Pairwise fun a b => key a < key b := by
  have nodup : ((s.sort xs).map key).Nodup := ((s.perm xs).map key).nodup_iff.mpr distinct
  exact ((List.pairwise_map.mp nodup).and (sorted_key_le key s xs)).imp fun ⟨ne, le⟩ => lt_of_le_of_ne le ne

theorem sort_eq_of_perm {xs ys : List α} (s t : SortSlice α (keyLess key)) (p : xs.Perm ys)
    (distinct : (xs.map key).Nodup) : s.sort xs = t.sort ys := by
  have : IsAntisymm α fun a b => key a < key b :=
    ⟨fun _ _ ab ba => absurd (lt_trans ab ba) (lt_irrefl _)⟩
  exact List.eq_of_perm_of_sorted (((s.perm xs).trans p).trans (t.perm ys).symm)
    (sort_strict s distinct) (sort_strict t ((p.map key).nodup_iff.mp distinct))

end ByKey

end StacksetController.Core
