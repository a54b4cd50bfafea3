import SchemaTypes.File.Tree

/-!
# Entries that are put again

An entry that is put takes the place of the one before it, or comes last. So a list of entries that is
put into a table which has them all already leaves the table as it is, order included, if no look-up
tells the difference (`putAll_eq_self`): what an entry had been in between is overwritten in its place.
-/

namespace SchemaTypes

namespace Entry.Table

variable {es : Table} {l k : Location} {x : Entry} {ps : List (Location × Entry)}

theorem put_of_find?_eq_none (h : es.find? l = none) : es.put l x = es ++ [(l, x)] := by
  induction es with
  | nil => rfl
  | cons e es ih =>
    rw [find?] at h
    split at h
    · cases h
    next he => rw [put, if_neg he, ih h, List.cons_append]

theorem find?_eq_none_iff : es.find? l = none ↔ ∀ e ∈ es, e.1 ≠ l := by
  induction es with
  | nil => simp [find?]
  | cons e es ih =>
    rw [find?, List.forall_mem_cons]
    split
    next he => simp [he]
    next he => simp [he, ih]

theorem mem_of_find? (h : es.find? l = some x) : (l, x) ∈ es := by
  induction es with
  | nil => cases h
  | cons e es ih =>
    rw [find?] at h
    split at h
    next he =>
      cases h
      rw [← he]
      exact List.mem_cons_self
    · exact List.mem_cons_of_mem e (ih h)

/-- A location where nothing is can be put and taken away again. -/
theorem filter_put_of_find?_eq_none (h : es.find? l = none) :
    (es.put l x).filter (fun e => decide (e.1 ≠ l)) = es := by
  have hkeep : es.filter (fun e => decide (e.1 ≠ l)) = es := by
    refine List.filter_eq_self.2 fun e he => ?_
    exact decide_eq_true (find?_eq_none_iff.1 h e he)
  rw [put_of_find?_eq_none h, List.filter_append, hkeep]
  simp

/-- What a filter does not keep at a location may change there. -/
theorem filter_put {q : Location × Entry → Bool} (hes : ∀ e ∈ es, e.1 = l → q e = false)
    (hx : q (l, x) = false) : (es.put l x).filter q = es.filter q := by
  induction es with
  | nil => simp [put, hx]
  | cons e es ih =>
    obtain ⟨he, hes⟩ := List.forall_mem_cons.1 hes
    rw [put]
    split
    next hl => rw [List.filter_cons_of_neg (by simp [hx]), List.filter_cons_of_neg (by simp [he hl])]
    · rw [List.filter_cons, List.filter_cons, ih hes]

/-- Puts entries, one after the other. -/
def putAll (es : Table) (ps : List (Location × Entry)) : Table := ps.foldl (fun es p => es.put p.1 p.2) es

theorem putAll_cons (es : Table) (p : Location × Entry) (ps : List (Location × Entry)) :
    es.putAll (p :: ps) = (es.put p.1 p.2).putAll ps := rfl

theorem find?_putAll (es : Table) (ps : List (Location × Entry)) (k : Location) :
    (es.putAll ps).find? k = ((putAll [] ps).find? k).or (es.find? k) := by
  induction ps generalizing es with
  | nil => rfl
  | cons p ps ih =>
    rw [putAll_cons, putAll_cons, ih, ih (put [] p.1 p.2), find?_put, find?_put]
    cases (putAll [] ps).find? k with
    | some x => rfl
    | none =>
      by_cases hk : p.1 = k
      · rw [if_pos hk, if_pos hk]
        rfl
      · rw [if_neg hk, if_neg hk]
        rfl

theorem find?_putAll_isSome : ((putAll [] ps).find? k).isSome ↔ k ∈ ps.map Prod.fst := by
  induction ps with
  | nil => simp [putAll, find?]
  | cons p ps ih =>
    rw [putAll_cons, find?_putAll, find?_put, Option.isSome_or, Bool.or_eq_true, ih, List.map_cons,
      List.mem_cons]
    by_cases hk : p.1 = k
    · simp [hk]
    · simp [hk, find?, Ne.symm hk]

theorem putAll_entry_cons (e : Location × Entry) (es : Table) (ps : List (Location × Entry)) :
    ∃ x, putAll (e :: es) ps = (e.1, x) :: putAll es (ps.filter fun p => decide (p.1 ≠ e.1)) := by
  induction ps generalizing e es with
  | nil => exact ⟨e.2, rfl⟩
  | cons p ps ih =>
    by_cases hp : e.1 = p.1
    · obtain ⟨x, hx⟩ := ih p es
      refine ⟨x, ?_⟩
      rw [putAll_cons, put, if_pos hp, hx, List.filter_cons_of_neg (by simp [hp]), hp]
    · obtain ⟨x, hx⟩ := ih e (es.put p.1 p.2)
      refine ⟨x, ?_⟩
      rw [putAll_cons, put, if_neg hp, hx, List.filter_cons_of_pos (by simp [Ne.symm hp]), putAll_cons]

theorem putAll_eq_self (hin : ∀ p ∈ ps, (es.find? p.1).isSome)
    (h : ∀ k, (es.putAll ps).find? k = es.find? k) : es.putAll ps = es := by
  induction es generalizing ps with
  | nil =>
    cases ps with
    | nil => rfl
    | cons p ps => cases hin p List.mem_cons_self
  | cons e es ih =>
    obtain ⟨x, hx⟩ := putAll_entry_cons e es ps
    -- the first entry keeps its place, and the rest of the table does not see what is put there
    have hrest : putAll es (ps.filter fun p => decide (p.1 ≠ e.1)) = es := by
      refine ih (fun p hp => ?_) fun k => ?_
      · obtain ⟨hp, hne⟩ := List.mem_filter.1 hp
        have hsome := hin p hp
        rwa [find?, if_neg (Ne.symm (of_decide_eq_true hne))] at hsome
      · by_cases hk : e.1 = k
        · have hnone : (putAll [] (ps.filter fun p => decide (p.1 ≠ e.1))).find? k = none := by
            rw [← Option.not_isSome_iff_eq_none, find?_putAll_isSome]
            intro hm
            obtain ⟨p, hp, hpk⟩ := List.mem_map.1 hm
            exact of_decide_eq_true (List.mem_filter.1 hp).2 (hpk.trans hk.symm)
          rw [find?_putAll, hnone]
          rfl
        · have hk' := h k
          rwa [hx, find?, if_neg hk, find?, if_neg hk] at hk'
    have hfirst := h e.1
    rw [hx, find?, if_pos rfl, find?, if_pos rfl] at hfirst
    have hsame : x = e.2 := Option.some.inj hfirst
    rw [hx, hrest, hsame]

end Entry.Table

namespace FileTree

variable {t t' : FileTree}

theorem eq_of_entries (h : t.entries = t'.entries) : t = t' := by
  cases t
  cases t'
  cases h
  rfl

end FileTree

end SchemaTypes
