import SchemaTypes.Proofs.File.Growth

/-!
# Clearing a directory

To clear a directory takes away what lies in it or deeper, apart from the names to keep and what is below
them (`get?_clear_eq_none`), and nothing else (`get?_clear`).
-/

namespace SchemaTypes.FileTree

variable {t : FileTree} {dir k : Location} {keep : List String} {n : String}

theorem get?_foldl_prune (t : FileTree) (dir k : Location) (es : List (String × Entry)) :
    (es.foldl (fun t e => t.prune (dir ++ [e.1])) t).get? k =
      if ∃ e ∈ es, dir ++ [e.1] <+: k then none else t.get? k := by
  induction es generalizing t with
  | nil => simp
  | cons e es ih =>
    rw [List.foldl_cons, ih]
    by_cases hk : k = []
    · simp [hk]
    · rw [get?_prune hk]
      by_cases hhere : dir ++ [e.1] <+: k
      · rw [if_pos (List.isPrefixOf_iff_prefix.2 hhere), ite_self, if_pos]
        exact ⟨e, List.mem_cons_self, hhere⟩
      · rw [if_neg (mt List.isPrefixOf_iff_prefix.1 hhere)]
        simp only [List.exists_mem_cons_iff, or_iff_right hhere]

/-- Clearing leaves alone what is not below one of the other names in the directory. -/
theorem get?_clear (hk : ∀ n, n ∉ keep → ¬ dir ++ [n] <+: k) : (t.clear dir keep).get? k = t.get? k := by
  rw [clear, get?_foldl_prune, if_neg]
  rintro ⟨e, he, hbelow⟩
  have hkeep := (List.mem_filter.1 he).2
  exact hk e.1 (by simpa using hkeep) hbelow

theorem get?_clear_eq_none (hn : n ∉ keep) (hk : dir ++ [n] <+: k) : (t.clear dir keep).get? k = none := by
  rw [clear, get?_foldl_prune]
  split
  · rfl
  next hlisted =>
    -- the directory does not list the name, so nothing is below it
    by_contra hsome
    obtain ⟨x, hx⟩ := Option.ne_none_iff_exists'.1 hsome
    have hthere : (t.get? (dir ++ [n])).isSome := by
      by_cases hne : dir ++ [n] = k
      · rw [hne, hx]
        rfl
      · rw [directory_above hx hk hne]
        rfl
    obtain ⟨y, hy⟩ := exists_mem_children.2 hthere
    exact hlisted ⟨_, List.mem_filter.2 ⟨hy, by simpa using hn⟩, hk⟩

end SchemaTypes.FileTree
