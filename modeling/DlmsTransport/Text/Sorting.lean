import Mathlib.Data.List.Sort

/-! Sorting by a key. The sort of a library need not be stable: where the keys are
distinct there is only one sorted arrangement. -/

set_option autoImplicit false

namespace DlmsTransport.Text

section Order

variable {κ : Type} [Ord κ]

/-- `operator <` where it is given by a three-way comparison. -/
def less (left right : κ) : Bool := compare left right == .lt

@[simp] theorem less_iff {left right : κ} : less left right = true ↔ compare left right = .lt := by
  simp [less]

variable [Std.TransOrd κ]

theorem not_less_iff {left right : κ} :
    (!less right left) = true ↔ (compare left right).isLE = true := by
  rw [Bool.not_eq_true', ← Bool.not_eq_true, less_iff, ← Std.OrientedCmp.gt_iff_lt]
  cases compare left right <;> simp

theorem not_less_trans {first second third : κ} (before : (!less second first) = true)
    (after : (!less third second) = true) : (!less third first) = true := by
  rw [not_less_iff] at *
  exact Std.TransCmp.isLE_trans before after

theorem not_less_total (left right : κ) : (!less right left || !less left right) = true := by
  rw [Bool.or_eq_true, not_less_iff, not_less_iff, Std.OrientedOrd.eq_swap (a := right)]
  cases compare left right <;> simp

variable [Std.LawfulEqOrd κ]

/-- Where neither is less, the two are one. -/
theorem eq_of_not_less {left right : κ} (above : (!less right left) = true)
    (below : (!less left right) = true) : left = right := by
  rw [not_less_iff] at *
  exact Std.LawfulEqCmp.compare_eq_iff_eq.mp (Std.OrientedCmp.isLE_antisymm above below)

theorem less_of_ne {left right : κ} (above : (!less right left) = true) (apart : left ≠ right) :
    less left right = true := by
  by_contra below
  rw [Bool.not_eq_true] at below
  exact apart (eq_of_not_less above (by rw [below]; rfl))

end Order

section Sorting

variable {α κ : Type} [Ord κ] (key : α → κ)

/-- `std::sort` with the comparison of the keys. -/
def sortByKey (items : List α) : List α :=
  items.mergeSort fun left right => !less (key right) (key left)

theorem sortByKey_perm (items : List α) : (sortByKey key items).Perm items :=
  List.mergeSort_perm items _

variable [Std.TransOrd κ]

theorem sortByKey_pairwise (items : List α) :
    (sortByKey key items).Pairwise fun left right => (!less (key right) (key left)) = true :=
  List.pairwise_mergeSort (fun _ _ _ => not_less_trans) (fun _ _ => not_less_total _ _) items

variable [Std.LawfulEqOrd κ] {key}

/-- Distinct keys are put in strictly increasing order. -/
theorem sortByKey_increasing {items : List α} (distinct : (items.map key).Nodup) :
    (sortByKey key items).Pairwise fun left right => less (key left) (key right) = true := by
  have apart : ((sortByKey key items).map key).Nodup :=
    ((sortByKey_perm key items).map key).nodup_iff.mpr distinct
  have ordered := sortByKey_pairwise key items
  rw [List.Nodup, List.pairwise_map] at apart
  exact ordered.imp₂ (fun _ _ => less_of_ne) apart

/-- Any sorted arrangement of items with distinct keys is this one. -/
theorem eq_sortByKey {items sorted : List α} (distinct : (items.map key).Nodup)
    (perm : sorted.Perm items)
    (ordered : sorted.Pairwise fun left right => (!less (key right) (key left)) = true) :
    sorted = sortByKey key items := by
  refine List.Perm.eq_of_pairwise ?_ ordered (sortByKey_pairwise key items)
    (perm.trans (sortByKey_perm key items).symm)
  intro left right member other above below
  have same := eq_of_not_less above below
  exact List.inj_on_of_nodup_map distinct (perm.mem_iff.mp member)
    ((sortByKey_perm key items).mem_iff.mp other) same

theorem sortByKey_eq_of_perm {items others : List α} (distinct : (items.map key).Nodup)
    (perm : others.Perm items) : sortByKey key others = sortByKey key items :=
  eq_sortByKey distinct ((sortByKey_perm key others).trans perm) (sortByKey_pairwise key others)

end Sorting

end DlmsTransport.Text
