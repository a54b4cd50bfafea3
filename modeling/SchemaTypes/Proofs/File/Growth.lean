import SchemaTypes.Proofs.File.Entries
import SchemaTypes.Proofs.File.Writing

/-!
# Trees that grow

Making directories and putting files take nothing away: what was a directory stays one, what was a file
stays one, and the files at other locations are the same as before, in the same order (`Extends`). So a
walk that ends at a directory ends there still, and one that meets a file does not get past it later
either.
-/

namespace SchemaTypes.FileTree

variable {t t' t'' : FileTree} {l k here : Location} {names : List String} {x : Entry}
  {limit : NameLimit} {content : List UInt8} {kept : Location → Bool}

/-- The entry is a file at one of the locations that are kept. -/
def keptFile (kept : Location → Bool) (e : Location × Entry) : Bool := kept e.1 && !e.2.isDirectory

/-- `t'` has the directories of `t`, and its files, which may hold something else where they are not
kept. No file is new at a kept location. -/
structure Extends (kept : Location → Bool) (t t' : FileTree) : Prop where
  directory : ∀ {k}, t.get? k = some .directory → t'.get? k = some .directory
  file : ∀ {k}, t.isFile k → t'.isFile k
  entries : t'.entries.filter (keptFile kept) = t.entries.filter (keptFile kept)

theorem isFile_iff : t.isFile k ↔ ∃ content, t.get? k = some (.file content) := by
  unfold isFile
  cases t.get? k with
  | none => simp
  | some x => cases x <;> simp [Entry.isDirectory]

theorem not_isFile_of_directory (h : t.get? k = some .directory) : ¬ t.isFile k := by
  rw [isFile_iff, h]
  rintro ⟨_, h⟩
  cases h

theorem directory_or_isFile (h : t.get? k = some x) : t.get? k = some .directory ∨ t.isFile k := by
  cases x with
  | directory => exact .inl h
  | file content => exact .inr (isFile_iff.2 ⟨content, h⟩)

theorem directory_above (h : t.get? l = some x) (hk : k <+: l) (hne : k ≠ l) :
    t.get? k = some .directory := by
  obtain ⟨names, rfl⟩ := hk
  induction names using List.reverseRecOn generalizing x with
  | nil => exact absurd (List.append_nil k).symm hne
  | append_singleton names n ih =>
    have hparent : t.get? (k ++ names) = some .directory := by
      have hparent := parent_isDirectory h
      rwa [← List.append_assoc, List.dropLast_concat] at hparent
    by_cases hnames : k = k ++ names
    · rwa [← hnames] at hparent
    · exact ih hparent hnames

theorem find?_keptFile {es : Entry.Table} (hk : kept k) (h : es.find? k = some (.file content)) :
    Entry.Table.find? (es.filter (keptFile kept)) k = some (.file content) := by
  induction es with
  | nil => cases h
  | cons e es ih =>
    rw [Entry.Table.find?] at h
    split at h
    next he =>
      have hfile : e.2 = .file content := Option.some.inj h
      have hkeep : keptFile kept e := by simp [keptFile, he, hk, hfile, Entry.isDirectory]
      rw [List.filter_cons_of_pos hkeep, Entry.Table.find?, if_pos he, hfile]
    next he =>
      rw [List.filter_cons]
      split
      · rw [Entry.Table.find?, if_neg he, ih h]
      · exact ih h

namespace Extends

theorem refl : Extends kept t t := ⟨id, id, rfl⟩

theorem trans (h : Extends kept t t') (h' : Extends kept t' t'') : Extends kept t t'' :=
  ⟨h'.directory ∘ h.directory, h'.file ∘ h.file, h'.entries.trans h.entries⟩

theorem isFile_of_kept (h : Extends kept t t') (hk : kept k) (hfile : t'.isFile k) : t.isFile k := by
  obtain ⟨content, hget⟩ := isFile_iff.1 hfile
  have hne : k ≠ [] := by
    rintro rfl
    cases hget
  have hmem : (k, Entry.file content) ∈ t.entries := by
    refine List.mem_of_mem_filter (p := keptFile kept) ?_
    rw [← h.entries]
    refine List.mem_filter.2 ⟨Entry.Table.mem_of_find? ?_, by simp [keptFile, hk, Entry.isDirectory]⟩
    rwa [get?, if_neg hne] at hget
  obtain ⟨x, hx⟩ : ∃ x, t.get? k = some x := by
    rw [get?, if_neg hne, ← Option.isSome_iff_exists, isSome_find?]
    exact ⟨_, hmem⟩
  rcases directory_or_isFile hx with hdir | hfile
  · rw [h.directory hdir] at hget
    cases hget
  · exact hfile

theorem get?_eq_none (h : Extends kept t t') (hnone : t'.get? k = none) : t.get? k = none := by
  cases hget : t.get? k with
  | none => rfl
  | some x =>
    rcases directory_or_isFile hget with hdir | hfile
    · rw [h.directory hdir] at hnone
      cases hnone
    · obtain ⟨content, hget'⟩ := isFile_iff.1 (h.file hfile)
      rw [hget'] at hnone
      cases hnone

theorem get?_eq (h : Extends kept t t') (hk : kept k) (hfile : t.isFile k) : t'.get? k = t.get? k := by
  obtain ⟨content, hget⟩ := isFile_iff.1 hfile
  obtain ⟨content', hget'⟩ := isFile_iff.1 (h.file hfile)
  have hne : k ≠ [] := by
    rintro rfl
    cases hget
  have hfind := hget
  have hfind' := hget'
  rw [get?, if_neg hne] at hfind hfind'
  have hsame := find?_keptFile hk hfind
  rw [← h.entries, find?_keptFile hk hfind'] at hsame
  rw [hget, hget', hsame]

end Extends

/-! ### Operations -/

theorem extends_put_directory {hp hk} (hfree : t.get? l = none) :
    Extends kept t (t.put l .directory hp hk) := by
  have hne : l ≠ [] := by
    rintro rfl
    cases hfree
  refine ⟨fun {k} hdir => ?_, fun {k} hfile => ?_, ?_⟩
  · rw [get?_put hne]
    split
    · rfl
    · exact hdir
  · obtain ⟨content, hget⟩ := isFile_iff.1 hfile
    rw [isFile_iff, get?_put hne]
    split
    next heq =>
      rw [← heq, hfree] at hget
      cases hget
    · exact ⟨content, hget⟩
  · refine Entry.Table.filter_put (fun e he hl => ?_) (by simp [keptFile, Entry.isDirectory])
    rw [get?, if_neg hne] at hfree
    exact absurd hl (Entry.Table.find?_eq_none_iff.1 hfree e he)

theorem extends_makeDirectory (h : t.makeDirectory limit names = .ok t') : Extends kept t t' := by
  unfold makeDirectory at h
  split at h
  · cases h
  · cases h
  · split at h
    · split at h
      next hfree =>
        cases h
        exact extends_put_directory hfree
      · cases h
    · cases h

/-- Making directories adds directories, also when it stops before the last one. -/
theorem extends_makeDirectories (kept : Location → Bool) (t : FileTree) (limit : NameLimit)
    (names : List String) :
    Extends kept t (t.makeDirectories limit names).1 := by
  fun_induction makeDirectories t limit names with
  | case1 names t' h => exact extends_makeDirectory h
  | case2 => exact .refl
  | case3 names _ _ t' _ habove ih => rwa [habove] at ih
  | case4 names _ _ t' habove t'' h ih =>
    rw [habove] at ih
    exact ih.trans (extends_makeDirectory h)
  | case5 names _ _ t' habove fault h ih => rwa [habove] at ih
  | case6 => exact .refl

/-- A file is put where no directory is, and changes what is kept nowhere else. -/
theorem extends_putFile (hl : kept l = false) (h : t.putFile l content = .ok t') : Extends kept t t' := by
  have hget := putFile_eq_ok h
  unfold putFile at h
  split at h
  · split at h
    · cases h
    next hbusy =>
      cases h
      refine ⟨fun {k} hdir => ?_, fun {k} hfile => ?_, ?_⟩
      · rw [hget, if_neg, hdir]
        rintro rfl
        exact hbusy hdir
      · rw [isFile_iff, hget]
        split
        · exact ⟨content, rfl⟩
        · exact isFile_iff.1 hfile
      · refine Entry.Table.filter_put (fun e _ he => ?_) ?_
        · simp [keptFile, he, hl]
        · simp [keptFile, hl]
  · cases h

/-! ### Walks -/

theorem walk_append (a b : List String) :
    t.walk limit here (a ++ b) = (t.walk limit here a >>= fun dir => t.walk limit dir b) := by
  induction a generalizing here with
  | nil => rfl
  | cons n ns ih =>
    rw [List.cons_append, walk, walk]
    split
    · exact ih
    · split
      · exact ih
      · rfl
      · rfl

theorem directory_of_walk (hhere : t.get? here = some .directory) (h : t.walk limit here names = .ok l) :
    t.get? l = some .directory := by
  induction names generalizing here with
  | nil =>
    cases h
    exact hhere
  | cons n ns ih =>
    rw [walk] at h
    split at h
    · exact ih (parent_isDirectory hhere) h
    · split at h
      next hdir => exact ih hdir h
      · cases h
      · cases h

theorem Extends.walk_eq_ok (h : Extends kept t t') (hwalk : t.walk limit here names = .ok l) :
    t'.walk limit here names = .ok l := by
  induction names generalizing here with
  | nil => exact hwalk
  | cons n ns ih =>
    rw [walk] at hwalk ⊢
    split
    next hn =>
      rw [if_pos hn] at hwalk
      exact ih hwalk
    next hn =>
      rw [if_neg hn] at hwalk
      split at hwalk
      next hdir =>
        rw [h.directory hdir]
        exact ih hwalk
      · cases hwalk
      · cases hwalk

end SchemaTypes.FileTree
