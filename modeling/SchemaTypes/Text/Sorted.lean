/-!
# Sorted by name

Sorting by code points. Sorting is stable: entries of one name keep their order.
-/

namespace SchemaTypes.Text

variable {α : Type}

/-- The entries in the order of their names. -/
def sortedBy (name : α → String) (xs : List α) : List α :=
  xs.mergeSort fun a b => decide (name a ≤ name b)

def sorted (xs : List String) : List String := sortedBy id xs

/-- The texts in order, each once. -/
def sortedOnce (xs : List String) : List String := sorted xs.eraseDups

/-- The texts that occur more than once, in order. -/
def repeated (xs : List String) : List String := sortedOnce (xs.filter fun x => 1 < xs.count x)

theorem sortedBy_perm (name : α → String) (xs : List α) : (sortedBy name xs).Perm xs :=
  List.mergeSort_perm xs _

@[simp] theorem mem_sortedBy {name : α → String} {xs : List α} {x : α} :
    x ∈ sortedBy name xs ↔ x ∈ xs := (sortedBy_perm name xs).mem_iff

theorem pairwise_sortedBy (name : α → String) (xs : List α) :
    (sortedBy name xs).Pairwise fun a b => name a ≤ name b := by
  have h := @List.pairwise_mergeSort α (fun a b => decide (name a ≤ name b))
    (fun a b c hab hbc => by
      simp only [decide_eq_true_eq] at *
      exact String.le_trans hab hbc)
    (fun a b => by
      simp only [Bool.or_eq_true, decide_eq_true_eq]
      exact String.le_total (name a) (name b)) xs
  simpa [sortedBy] using h

end SchemaTypes.Text
