import Mathlib.Data.List.Nodup
import SchemaTypes.Text.Sorted

/-!
# Sorting forgets the order

A sorted list in which no two entries have one name is determined by its entries alone
(`sortedBy_eq_of_perm`), so sorting commutes with mapping and with filtering. For texts no such
condition is needed, and `sortedOnce` depends on the set of the texts only.
-/

namespace SchemaTypes.Text

variable {α β : Type} {name : α → String} {xs ys : List α}

theorem eq_of_perm_of_sorted (hn : (xs.map name).Nodup) (hx : xs.Pairwise fun a b => name a ≤ name b)
    (hy : ys.Pairwise fun a b => name a ≤ name b) (h : xs.Perm ys) : xs = ys := by
  refine h.eq_of_pairwise (fun a b ha hb hab hba => ?_) hx hy
  exact List.inj_on_of_nodup_map hn ha (h.mem_iff.2 hb) (String.le_antisymm hab hba)

theorem nodup_map_sortedBy (hn : (xs.map name).Nodup) : ((sortedBy name xs).map name).Nodup :=
  ((sortedBy_perm name xs).map name).nodup_iff.2 hn

theorem pairwise_lt_sortedBy (hn : (xs.map name).Nodup) :
    (sortedBy name xs).Pairwise fun a b => name a < name b := by
  have hne : (sortedBy name xs).Pairwise fun a b => name a ≠ name b :=
    List.pairwise_map.1 (nodup_map_sortedBy hn)
  refine ((pairwise_sortedBy name xs).and hne).imp fun {a b} h => ?_
  exact String.not_le.1 fun hba => h.2 (String.le_antisymm h.1 hba)

theorem sortedBy_eq_of_perm (hn : (xs.map name).Nodup) (h : xs.Perm ys) :
    sortedBy name xs = sortedBy name ys := by
  have hp := ((sortedBy_perm name xs).trans h).trans (sortedBy_perm name ys).symm
  exact eq_of_perm_of_sorted (nodup_map_sortedBy hn) (pairwise_sortedBy name xs)
    (pairwise_sortedBy name ys) hp

theorem sortedBy_map (name : α → String) (f : β → α) (xs : List β) :
    sortedBy name (xs.map f) = (sortedBy (fun b => name (f b)) xs).map f := by
  unfold sortedBy
  rw [List.map_mergeSort (s := fun a b => decide (name a ≤ name b)) fun _ _ _ _ => rfl]

theorem filter_sortedBy (hn : (xs.map name).Nodup) (p : α → Bool) :
    (sortedBy name xs).filter p = sortedBy name (xs.filter p) := by
  have hp : ((sortedBy name xs).filter p).Perm (sortedBy name (xs.filter p)) :=
    ((sortedBy_perm name xs).filter p).trans (sortedBy_perm name _).symm
  refine eq_of_perm_of_sorted ?_ ((pairwise_sortedBy name xs).filter p) (pairwise_sortedBy name _) hp
  exact (nodup_map_sortedBy hn).sublist (List.filter_sublist.map name)

/-! ### Texts -/

theorem sorted_eq_of_perm {xs ys : List String} (h : xs.Perm ys) : sorted xs = sorted ys := by
  have hp := ((sortedBy_perm id xs).trans h).trans (sortedBy_perm id ys).symm
  exact hp.eq_of_pairwise (fun _ _ _ _ => String.le_antisymm) (pairwise_sortedBy id xs)
    (pairwise_sortedBy id ys)

theorem nodup_eraseDups (xs : List String) : xs.eraseDups.Nodup := by
  match xs with
  | [] => simp
  | x :: xs =>
    rw [List.eraseDups_cons, List.nodup_cons]
    refine ⟨fun h => ?_, nodup_eraseDups _⟩
    simp at h
termination_by xs.length
decreasing_by exact Nat.lt_succ_of_le (List.length_filter_le _ _)

theorem nodup_sortedOnce (xs : List String) : (sortedOnce xs).Nodup :=
  (sortedBy_perm id _).nodup_iff.2 (nodup_eraseDups xs)

@[simp] theorem mem_sortedOnce {xs : List String} {x : String} : x ∈ sortedOnce xs ↔ x ∈ xs := by
  simp [sortedOnce, sorted]

theorem sortedOnce_congr {xs ys : List String} (h : ∀ x, x ∈ xs ↔ x ∈ ys) :
    sortedOnce xs = sortedOnce ys := by
  refine sorted_eq_of_perm ((List.perm_ext_iff_of_nodup (nodup_eraseDups _) (nodup_eraseDups _)).2 ?_)
  intro x
  rw [List.mem_eraseDups, List.mem_eraseDups, h]

end SchemaTypes.Text
