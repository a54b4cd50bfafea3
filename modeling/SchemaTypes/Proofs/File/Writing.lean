import Mathlib.Data.List.Infix
import SchemaTypes.File.Disk
import SchemaTypes.Proofs.File.Entries
import SchemaTypes.Proofs.Traversal

/-!
# What writing leaves alone

Every operation on a file tree has a frame (`FileTree.Frame`): away from the locations that it
changes the tree is as it was, but for directories that are new. Frames of two steps compose, so the
frame of a write (`Disk.write_ok`, `Disk.write_fault`) is that of its steps. The paths here have no
`..`: a tree is walked from the root, and the walk ends at the names themselves.
-/

namespace SchemaTypes

namespace FileTree

variable {t t' t'' : FileTree} {limit : NameLimit} {k l dir here : Location} {names : List String}
  {n name : String} {content : List UInt8} {changed made : Location → Prop}

/-- The content of the file at a location. -/
def content? (t : FileTree) (l : Location) : Option (List UInt8) :=
  match t.get? l with
  | some (.file content) => some content
  | _ => none

theorem content?_eq_some : t.content? l = some content ↔ t.get? l = some (.file content) := by
  unfold content?
  split
  next h => simp [h]
  next h =>
    constructor
    · intro hc
      cases hc
    · intro hf
      exact absurd hf (h content)

/-- Away from the `changed` locations the trees differ at most in directories, which are new in `t'`
and at `made` locations. -/
def Frame (changed made : Location → Prop) (t t' : FileTree) : Prop :=
  ∀ k, ¬ changed k → t'.get? k = t.get? k ∨ made k ∧ t.get? k = none ∧ t'.get? k = some .directory

namespace Frame

theorem refl : Frame changed made t t := fun _ _ => .inl rfl

theorem mono {changed' made' : Location → Prop} (h : Frame changed made t t')
    (hc : ∀ k, changed k → changed' k) (hm : ∀ k, ¬ changed' k → made k → made' k) :
    Frame changed' made' t t' := by
  intro k hk
  rcases h k (fun h => hk (hc k h)) with h | ⟨h, h'⟩
  · exact .inl h
  · exact .inr ⟨hm k hk h, h'⟩

theorem trans (h : Frame changed made t t') (h' : Frame changed made t' t'') :
    Frame changed made t t'' := by
  intro k hk
  rcases h k hk with h | ⟨hm, hnone, hdir⟩
  · have h' := h' k hk
    rwa [h] at h'
  · rcases h' k hk with h' | ⟨-, hnone', -⟩
    · exact .inr ⟨hm, hnone, h'.trans hdir⟩
    · rw [hdir] at hnone'
      cases hnone'

theorem of_dropLast (h : Frame changed (· <+: l.dropLast) t t') : Frame changed (· <+: l) t t' :=
  h.mono (fun _ => id) fun _ _ hk => hk.trans (List.dropLast_prefix l)

theorem content?_eq (h : Frame changed made t t') (hk : ¬ changed k) : t'.content? k = t.content? k := by
  unfold content?
  rcases h k hk with h | ⟨-, hnone, hdir⟩
  · rw [h]
  · rw [hnone, hdir]

end Frame

/-! ### Walking -/

theorem walk_eq_ok (hdots : ".." ∉ names) (h : t.walk limit here names = .ok l) : l = here ++ names := by
  induction names generalizing here with
  | nil =>
    cases h
    exact (List.append_nil l).symm
  | cons n ns ih =>
    obtain ⟨hn, hns⟩ := not_or.1 (mt List.mem_cons.2 hdots)
    rw [walk, if_neg (Ne.symm hn)] at h
    split at h
    · rw [ih hns h, List.append_assoc, List.singleton_append]
    · cases h
    · cases h

theorem place_eq_ok (h : t.place limit dir n = .ok (some l)) : n ≠ ".." ∧ l = dir ++ [n] := by
  unfold place at h
  split at h
  · cases h
  next hn =>
    split at h
    · cases h
    · cases h
      exact ⟨hn, rfl⟩

theorem target_eq_ok (hdots : ".." ∉ names) (h : t.target limit names = .ok (some l)) :
    l = names ∧ names ≠ [] := by
  unfold target at h
  dsimp only at h
  split at h
  · obtain ⟨_, hnul, -⟩ := Traversal.bind_eq_ok_iff.1 h
    cases hnul
  · obtain ⟨dir, hdir, h⟩ := Traversal.bind_eq_ok_iff.1 h
    have hdir := walk_eq_ok (fun hm => hdots (List.mem_of_mem_dropLast hm)) hdir
    split at h
    · cases h
    next n hn =>
      have hnames : names ≠ [] := by
        rintro rfl
        cases hn
      have hlast : names.dropLast ++ [n] = names :=
        List.dropLast_append_getLast? n hn
      obtain ⟨-, rfl⟩ := place_eq_ok h
      rw [hdir, List.nil_append, hlast]
      exact ⟨rfl, hnames⟩

/-! ### Directories -/

theorem frame_makeDirectory (hdots : ".." ∉ names) (h : t.makeDirectory limit names = .ok t') :
    Frame (fun _ => False) (· <+: names) t t' := by
  unfold makeDirectory at h
  split at h
  · cases h
  · cases h
  next l hl =>
    obtain ⟨rfl, hne⟩ := target_eq_ok hdots hl
    split at h
    · split at h
      next hfree =>
        cases h
        intro k _
        rw [get?_put hne]
        by_cases hk : l = k
        · subst hk
          exact .inr ⟨List.prefix_rfl, hfree, if_pos rfl⟩
        · exact .inl (if_neg hk)
      · cases h
    · cases h

theorem frame_makeDirectories (hdots : ".." ∉ names) :
    Frame (fun _ => False) (· <+: names) t (t.makeDirectories limit names).1 := by
  have hparent {names : List String} (hdots : ".." ∉ names) : ".." ∉ names.dropLast :=
    fun hm => hdots (List.mem_of_mem_dropLast hm)
  fun_induction makeDirectories t limit names with
  | case1 names t' h => exact frame_makeDirectory hdots h
  | case2 => exact .refl
  | case3 names _ _ t' _ habove ih =>
    have ih := ih (hparent hdots)
    rw [habove] at ih
    exact ih.of_dropLast
  | case4 names _ _ t' habove t'' h ih =>
    -- the directories above have been made, and the last one is new
    have ih := ih (hparent hdots)
    rw [habove] at ih
    exact ih.of_dropLast.trans (frame_makeDirectory hdots h)
  | case5 names _ _ t' habove fault h ih =>
    have ih := ih (hparent hdots)
    rw [habove] at ih
    exact ih.of_dropLast
  | case6 => exact .refl

/-! ### Files -/

theorem putFile_eq_ok (h : t.putFile l content = .ok t') :
    ∀ k, t'.get? k = if l = k then some (.file content) else t.get? k := by
  unfold putFile at h
  split at h
  · split at h
    · cases h
    next hbusy =>
      cases h
      have hne : l ≠ [] := by
        rintro rfl
        exact hbusy t.get?_nil
      intro k
      exact get?_put hne
  · cases h

theorem get?_eq_find? (h : l ≠ []) : t.get? l = t.entries.find? l := if_neg h

theorem entries_putFile (h : t.putFile l content = .ok t') :
    t'.entries = t.entries.put l (.file content) := by
  unfold putFile at h
  split at h
  · split at h
    · cases h
    · cases h
      rfl
  · cases h

theorem exists_putFile_eq_ok (content : List UInt8) (hparent : t.get? l.dropLast = some .directory)
    (hfree : t.get? l ≠ some .directory) : ∃ t', t.putFile l content = .ok t' := by
  unfold putFile
  rw [dif_pos hparent, dif_neg hfree]
  exact ⟨_, rfl⟩

theorem putFile_of_directory (h : t.get? l = some .directory) :
    t.putFile l content = .error .isDirectory := by
  unfold putFile
  rw [dif_pos (parent_isDirectory h), dif_pos h]

theorem putFile_of_missing (h : t.get? l.dropLast ≠ some .directory) :
    t.putFile l content = .error .notFound := by
  unfold putFile
  rw [dif_neg h]

theorem isSome_find? {es : Entry.Table} : (es.find? l).isSome ↔ ∃ x, (l, x) ∈ es := by
  induction es with
  | nil => simp [Entry.Table.find?]
  | cons e es ih =>
    rw [Entry.Table.find?]
    split
    next he =>
      subst he
      exact iff_of_true rfl ⟨e.2, List.mem_cons_self⟩
    next he =>
      rw [ih]
      constructor
      · rintro ⟨x, hx⟩
        exact ⟨x, List.mem_cons_of_mem e hx⟩
      · rintro ⟨x, hx⟩
        rcases List.mem_cons.1 hx with rfl | hx
        · exact absurd rfl he
        · exact ⟨x, hx⟩

theorem exists_mem_children {n : String} :
    (∃ x, (n, x) ∈ t.children dir) ↔ (t.get? (dir ++ [n])).isSome := by
  have hne : dir ++ [n] ≠ [] := by simp
  rw [get?, if_neg hne, isSome_find?]
  constructor
  · rintro ⟨x, hx⟩
    obtain ⟨e, he, hx⟩ := List.mem_filterMap.1 hx
    split at hx
    next hdir =>
      obtain ⟨m, hm, hx⟩ := Option.map_eq_some_iff.1 hx
      cases hx
      have hl : e.1 = dir ++ [n] := by
        rw [← hdir]
        exact (List.dropLast_append_getLast? n hm).symm
      exact ⟨e.2, hl ▸ he⟩
    · cases hx
  · rintro ⟨x, hx⟩
    exact ⟨x, List.mem_filterMap.2 ⟨_, hx, by simp⟩⟩

theorem le_foldl_max {xs : List Nat} {a b : Nat} (h : b ∈ a :: xs) : b ≤ xs.foldl max a := by
  induction xs generalizing a b with
  | nil => exact (List.mem_singleton.1 h).le
  | cons x xs ih =>
    rw [List.foldl_cons]
    have hstart : max a x ≤ xs.foldl max (max a x) := ih List.mem_cons_self
    rcases List.mem_cons.1 h with rfl | h
    · omega
    · rcases List.mem_cons.1 h with rfl | h
      · omega
      · exact ih (List.mem_cons_of_mem _ h)

/-- The fresh name is longer than every name in the directory. -/
theorem get?_freshName (t : FileTree) (dir : Location) (name : String) :
    t.get? (dir ++ [t.freshName dir name]) = none := by
  by_contra hsome
  obtain ⟨y, hy⟩ := exists_mem_children.2 (Option.isSome_iff_ne_none.2 hsome)
  have hlength : (t.freshName dir name).length ≤ ((t.children dir).map fun e => e.1.length).foldl max 0 :=
    le_foldl_max (List.mem_cons_of_mem 0 (List.mem_map.2 ⟨_, hy, rfl⟩))
  unfold freshName draftName at hlength
  simp only [String.length_append, String.length_ofList, List.length_replicate] at hlength
  have hdot : (".").length = 1 := rfl
  omega

theorem settled_eq_ok {r : Except FileFault FileTree} (h : t.settled r = (t', none)) : r = .ok t' := by
  cases r with
  | ok => exact congrArg Except.ok (congrArg Prod.fst h)
  | error => cases h

theorem settled_eq_fault {r : Except FileFault FileTree} {fault : FileFault} (h : t.settled r = (t', some fault)) :
    t' = t ∧ r = .error fault := by
  cases r with
  | ok => cases h
  | error =>
    cases h
    exact ⟨rfl, rfl⟩

/-- The detour through a fresh file is no detour: the same tree is left, down to the order of its
entries, and the same faults are met. -/
theorem replaceFile_eq : t.replaceFile l name content = t.settled (t.putFile l content) := by
  have hfresh := get?_freshName t l.dropLast name
  unfold replaceFile
  dsimp only
  generalize t.freshName l.dropLast name = fresh at hfresh ⊢
  by_cases hparent : t.get? l.dropLast = some .directory
  · obtain ⟨drafted, hput⟩ : ∃ drafted, t.putFile (l.dropLast ++ [fresh]) content = .ok drafted := by
      refine exists_putFile_eq_ok content (by rwa [List.dropLast_concat]) ?_
      rw [hfresh]
      simp
    have hget := putFile_eq_ok hput
    have hfile : drafted.isFile (l.dropLast ++ [fresh]) := by
      rw [isFile, hget, if_pos rfl]
      rfl
    -- taking the fresh file away gives the tree that was there before it
    have hback : drafted.erase (l.dropLast ++ [fresh]) hfile = t := by
      refine eq_of_entries ?_
      show drafted.entries.filter _ = _
      rw [entries_putFile hput]
      exact Entry.Table.filter_put_of_find?_eq_none (by rwa [get?_eq_find? (by simp)] at hfresh)
    have hbusy : drafted.get? l = some .directory ↔ t.get? l = some .directory := by
      rw [hget]
      split
      next heq =>
        rw [← heq, hfresh]
        simp
      · rfl
    rw [hput]
    dsimp only
    rw [moveFile, discard, dif_pos hfile, dif_pos hfile, hback]
    by_cases hdirectory : t.get? l = some .directory
    · rw [if_pos (hbusy.2 hdirectory), putFile_of_directory hdirectory]
      rfl
    · rw [if_neg (mt hbusy.1 hdirectory)]
      cases t.putFile l content <;> rfl
  · rw [putFile_of_missing hparent, putFile_of_missing (by rwa [List.dropLast_concat])]
    rfl

end FileTree

/-! ### Writing through the disk -/

namespace Disk
open FileTree
variable {t t' : FileTree} {limit : NameLimit} {cwd : Location} {mode : WriteMode} {l : Location}
  {bytes : List UInt8} {content : Content} {fault : FileFault}

theorem writeInto_fault (h : (Disk.mk t cwd).writeInto limit mode ⟨.slash, l⟩ bytes = (t', some fault)) :
    t' = t := by
  unfold writeInto at h
  dsimp only at h
  split at h
  · exact (congrArg Prod.fst h).symm
  · exact (congrArg Prod.fst h).symm
  · exact (settled_eq_fault h).1
  · exact (congrArg Prod.fst h).symm
  · split at h
    · rw [replaceFile_eq] at h
      exact (settled_eq_fault h).1
    · exact (congrArg Prod.fst h).symm

theorem writeInto_ok (hdots : ".." ∉ l)
    (h : (Disk.mk t cwd).writeInto limit mode ⟨.slash, l⟩ bytes = (t', none)) :
    ∀ k, t'.get? k = if l = k then some (.file bytes) else t.get? k := by
  unfold writeInto at h
  dsimp only [trail] at h
  have hl {k : Location} (hk : (if l = [] then .ok none else t.target limit l) = .ok (some k)) : k = l := by
    split at hk
    · cases hk
    · exact (target_eq_ok hdots hk).1
  split at h
  · cases h
  · cases h
  next k hk =>
    rw [hl hk] at h
    exact putFile_eq_ok (settled_eq_ok h)
  · cases h
  next k hk =>
    split at h
    · rw [hl hk, replaceFile_eq] at h
      exact putFile_eq_ok (settled_eq_ok h)
    · cases h

/-- A write that succeeds puts the file there, and changes no other. -/
theorem write_ok (hdots : ".." ∉ l)
    (h : (Disk.mk t cwd).write limit mode ⟨.slash, l⟩ content = (t', none)) :
    (∃ bytes, content.encode? = some bytes ∧ t'.get? l = some (.file bytes)) ∧
      Frame (· = l) (· <+: l) t t' := by
  have hmade : Frame _ _ t (t.makeDirectories limit l.dropLast).1 :=
    frame_makeDirectories fun hm => hdots (List.mem_of_mem_dropLast hm)
  unfold write at h
  split at h
  · cases h
  next t₁ hmake =>
    change t.makeDirectories limit l.dropLast = _ at hmake
    rw [hmake] at hmade
    split at h
    · cases h
    next bytes hbytes =>
      have hget := writeInto_ok hdots h
      refine ⟨⟨bytes, hbytes, (hget l).trans (if_pos rfl)⟩,
        Frame.trans (hmade.of_dropLast.mono ?_ fun _ _ => id) ?_⟩
      · intro k hk
        exact hk.elim
      · intro k hk
        exact .inl ((hget k).trans (if_neg (Ne.symm hk)))

/-- A write that fails changes no file: its directories are made, as far as they can be. -/
theorem tree_of_write_fault
    (h : (Disk.mk t cwd).write limit mode ⟨.slash, l⟩ content = (t', some fault)) :
    t' = (t.makeDirectories limit l.dropLast).1 := by
  unfold write at h
  split at h
  next t₁ _ _ hmake =>
    change t.makeDirectories limit l.dropLast = _ at hmake
    cases h
    rw [hmake]
  next t₁ hmake =>
    change t.makeDirectories limit l.dropLast = _ at hmake
    rw [hmake]
    split at h
    · exact (congrArg Prod.fst h).symm
    · exact writeInto_fault h

theorem write_fault (hdots : ".." ∉ l)
    (h : (Disk.mk t cwd).write limit mode ⟨.slash, l⟩ content = (t', some fault)) :
    Frame (fun _ => False) (· <+: l) t t' := by
  rw [tree_of_write_fault h]
  exact (frame_makeDirectories fun hm => hdots (List.mem_of_mem_dropLast hm)).of_dropLast

end Disk

end SchemaTypes
