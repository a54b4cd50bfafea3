import SchemaTypes.Proofs.File.Growth
import SchemaTypes.Proofs.File.Refusal

/-!
# Making directories

Names that lead to a location (`Leads`) go up only from directories that are there. Directories can be
made along them unless a file stands at the location or above it, or a name that is missing there is too
long (`makeDirectories_eq_none_iff`). Over a file nothing is made at all (`makeDirectories_blocked`).
Where names of every length are taken, there is nothing left to do the second time, on this tree or on
one that has grown since (`makeDirectories_again`).
-/

namespace SchemaTypes.FileTree

variable {t t' u : FileTree} {limit : NameLimit} {l k dir here : Location} {names : List String} {n : String}
  {kept : Location → Bool}

/-! ### Walking down -/

/-- Only where a walk stops short, the limit can be seen. -/
theorem walk_limit (h : t.walk limit here names = .ok l) (limit' : NameLimit) :
    t.walk limit' here names = .ok l := by
  induction names generalizing here with
  | nil => exact h
  | cons n ns ih =>
    rw [walk] at h ⊢
    split
    next hn =>
      rw [if_pos hn] at h
      exact ih h
    next hn =>
      rw [if_neg hn] at h
      split at h
      · exact ih h
      · cases h
      · cases h

/-- A walk that goes down sees nothing but the entries on its way. -/
theorem walk_congr (hdots : ".." ∉ names) (h : ∀ k, k <+: here ++ names → t.get? k = u.get? k) :
    t.walk limit here names = u.walk limit here names := by
  induction names generalizing here with
  | nil => rfl
  | cons n ns ih =>
    obtain ⟨hn, hns⟩ := not_or.1 (mt List.mem_cons.2 hdots)
    rw [List.append_cons] at h
    rw [walk, walk, if_neg (Ne.symm hn), if_neg (Ne.symm hn), h _ (List.prefix_append _ ns), ih hns h]

theorem walk_of_directory (hdots : ".." ∉ names) (h : t.get? (here ++ names) = some .directory) :
    t.walk limit here names = .ok (here ++ names) := by
  induction names generalizing here with
  | nil => rw [List.append_nil]; rfl
  | cons n ns ih =>
    obtain ⟨hn, hns⟩ := not_or.1 (mt List.mem_cons.2 hdots)
    rw [List.append_cons] at h ⊢
    have hdir : t.get? (here ++ [n]) = some .directory := by
      by_cases hne : here ++ [n] = here ++ [n] ++ ns
      · rwa [← hne] at h
      · exact directory_above h (List.prefix_append _ ns) hne
    rw [walk, if_neg (Ne.symm hn), hdir]
    exact ih hns h

theorem walk_of_isFile (hdots : ".." ∉ names) (hk : k <+: names) (hfile : t.isFile (here ++ k))
    (hhere : t.get? here = some .directory) : t.walk limit here names = .error .notDirectory := by
  induction names generalizing here k with
  | nil =>
    rw [List.prefix_nil.1 hk, List.append_nil] at hfile
    exact absurd hfile (not_isFile_of_directory hhere)
  | cons n ns ih =>
    obtain ⟨hn, hns⟩ := not_or.1 (mt List.mem_cons.2 hdots)
    rw [walk, if_neg (Ne.symm hn)]
    rcases List.prefix_cons_iff.1 hk with rfl | ⟨k, rfl, hk'⟩
    · rw [List.append_nil] at hfile
      exact absurd hfile (not_isFile_of_directory hhere)
    · rw [List.append_cons] at hfile
      obtain ⟨content, hget⟩ := isFile_iff.1 hfile
      by_cases hnil : k = []
      · rw [hnil, List.append_nil] at hget
        rw [hget]
      · have hdir : t.get? (here ++ [n]) = some .directory :=
          directory_above hget (List.prefix_append _ k) (by simpa using hnil)
        rw [hdir]
        exact ih hns hk' hfile hdir

/-- The names in the tree are such as the file system takes. -/
def Within (t : FileTree) (limit : NameLimit) : Prop :=
  ∀ k n, t.get? (k ++ [n]) ≠ none → limit.allows n

theorem Within.allows {x : Entry} (h : t.Within limit) (hget : t.get? l = some x) : ∀ n ∈ l, limit.allows n := by
  intro n hn
  obtain ⟨front, rest, rfl⟩ := List.append_of_mem hn
  rw [List.append_cons] at hget
  refine h front n ?_
  by_cases hrest : front ++ [n] = front ++ [n] ++ rest
  · rw [hrest, hget]
    exact Option.some_ne_none x
  · rw [directory_above hget (List.prefix_append _ rest) hrest]
    exact Option.some_ne_none _

/-- No name at the location or above it is missing and too long. -/
def Fits (t : FileTree) (limit : NameLimit) (l : Location) : Prop :=
  ∀ k n, k ++ [n] <+: l → t.get? (k ++ [n]) = none → limit.allows n

theorem fits_of_allows (h : ∀ n ∈ l, limit.allows n) : t.Fits limit l := fun k n hk _ =>
  h n (hk.subset (List.mem_append_right k (List.mem_singleton_self n)))

theorem fits_none : t.Fits none l := fits_of_allows fun _ _ => rfl

theorem Fits.of_prefix (h : t.Fits limit l) (hk : k <+: l) : t.Fits limit k :=
  fun k' n hn hfree => h k' n (hn.trans hk) hfree

theorem walk_of_missing (hdots : ".." ∉ names) (hclear : ∀ k, k <+: here ++ names → ¬ t.isFile k)
    (hfits : t.Fits limit (here ++ names)) (hmissing : t.get? (here ++ names) ≠ some .directory)
    (hhere : t.get? here = some .directory) : t.walk limit here names = .error .notFound := by
  induction names generalizing here with
  | nil => exact absurd (by rwa [List.append_nil]) hmissing
  | cons n ns ih =>
    obtain ⟨hn, hns⟩ := not_or.1 (mt List.mem_cons.2 hdots)
    rw [List.append_cons] at hclear hfits hmissing
    have hnext : here ++ [n] <+: here ++ [n] ++ ns := List.prefix_append _ ns
    rw [walk, if_neg (Ne.symm hn)]
    cases hget : t.get? (here ++ [n]) with
    | none =>
      show Except.error (limit.missing n) = _
      rw [NameLimit.missing, if_pos (hfits here n hnext hget)]
    | some x =>
      have hdir := (directory_or_isFile hget).resolve_right (hclear _ hnext)
      rw [hdir] at hget
      cases hget
      exact ih hns hclear hfits hmissing hdir

/-! ### Names that lead to a location -/

/-- The names lead to the location: after some of them, which can be followed, they only go down. -/
def Leads (t : FileTree) (names : List String) (l : Location) : Prop :=
  ∃ front rest dir, names = front ++ rest ∧ ".." ∉ rest ∧ t.walk none [] front = .ok dir ∧ l = dir ++ rest

namespace Leads

theorem of_plain (hdots : ".." ∉ names) : t.Leads names names := ⟨[], names, [], rfl, hdots, rfl, rfl⟩

theorem mono (hext : Extends kept t u) (h : t.Leads names l) : u.Leads names l := by
  obtain ⟨front, rest, dir, hnames, hdots, hwalk, hl⟩ := h
  exact ⟨front, rest, dir, hnames, hdots, hext.walk_eq_ok hwalk, hl⟩

theorem walk_of_directory (h : t.Leads names l) (hdir : t.get? l = some .directory) :
    t.walk limit [] names = .ok l := by
  obtain ⟨front, rest, dir, rfl, hdots, hwalk, rfl⟩ := h
  rw [walk_append, walk_limit hwalk]
  exact FileTree.walk_of_directory hdots hdir

theorem walk_of_isFile (h : t.Leads names l) (hk : k <+: l) (hfile : t.isFile k) :
    t.walk limit [] names = .error .notDirectory := by
  obtain ⟨front, rest, dir, rfl, hdots, hwalk, rfl⟩ := h
  have hdir : t.get? dir = some .directory := directory_of_walk t.get?_nil hwalk
  rw [walk_append, walk_limit hwalk]
  rcases List.prefix_or_prefix_of_prefix hk (List.prefix_append dir rest) with hk | ⟨k, rfl⟩
  · -- no file is above a directory
    refine absurd hfile (not_isFile_of_directory ?_)
    by_cases hne : k = dir
    · rwa [hne]
    · exact directory_above hdir hk hne
  · exact FileTree.walk_of_isFile hdots ((List.prefix_append_right_inj dir).1 hk) hfile hdir

theorem walk_of_missing (h : t.Leads names l) (hclear : ∀ k, k <+: l → ¬ t.isFile k)
    (hfits : t.Fits limit l) (hmissing : t.get? l ≠ some .directory) :
    t.walk limit [] names = .error .notFound := by
  obtain ⟨front, rest, dir, rfl, hdots, hwalk, rfl⟩ := h
  rw [walk_append, walk_limit hwalk]
  exact FileTree.walk_of_missing hdots hclear hfits hmissing (directory_of_walk t.get?_nil hwalk)

theorem walk_eq_ok (h : t.Leads names l) {l' : Location} (hwalk : t.walk limit [] names = .ok l') :
    l' = l ∧ t.get? l = some .directory := by
  have hwalk := walk_limit hwalk none
  by_cases hfile : ∃ k, k <+: l ∧ t.isFile k
  · obtain ⟨k, hk, hfile⟩ := hfile
    rw [h.walk_of_isFile hk hfile] at hwalk
    cases hwalk
  · by_cases hdir : t.get? l = some .directory
    · rw [h.walk_of_directory hdir] at hwalk
      cases hwalk
      exact ⟨rfl, hdir⟩
    · rw [h.walk_of_missing (fun k hk hf => hfile ⟨k, hk, hf⟩) fits_none hdir] at hwalk
      cases hwalk

end Leads

/-! ### What names stand for -/

theorem target_concat (hnul : ¬ HoldsNul (names ++ [n])) : t.target limit (names ++ [n]) =
    (t.walk limit [] names >>= fun dir => t.place limit dir n) := by
  unfold target
  rw [if_neg (mt holdsNul_iff.1 hnul), List.dropLast_concat, List.getLast?_concat]

theorem place_of_allowed (hn : n ≠ "..") (hfits : t.get? (dir ++ [n]) = none → limit.allows n) :
    t.place limit dir n = .ok (some (dir ++ [n])) := by
  rw [place, if_neg hn, if_neg]
  rintro ⟨hfree, hlong⟩
  rw [hfits hfree] at hlong
  cases hlong

theorem place_none : t.place none dir n = .ok (if n = ".." then none else some (dir ++ [n])) := by
  by_cases hn : n = ".."
  · rw [place, if_pos hn, if_pos hn]
  · rw [place_of_allowed hn fun _ => rfl, if_neg hn]

theorem target_eq_some (h : t.target limit names = .ok (some l)) : ¬ HoldsNul names ∧
    ∃ above n dir, names = above ++ [n] ∧ n ≠ ".." ∧ t.walk limit [] above = .ok dir ∧ l = dir ++ [n] := by
  have hnul : ¬ HoldsNul names := by
    intro hnul
    rw [target_eq_nul_iff.2 hnul] at h
    cases h
  refine ⟨hnul, ?_⟩
  cases names using List.reverseRecOn with
  | nil => cases h
  | append_singleton above n _ =>
    rw [target_concat hnul] at h
    obtain ⟨dir, hwalk, h⟩ := Traversal.bind_eq_ok_iff.1 h
    obtain ⟨hn, rfl⟩ := place_eq_ok h
    exact ⟨above, n, dir, rfl, hn, hwalk, rfl⟩

theorem stat_eq_directory_iff : t.stat names = some .directory ↔
    ¬ HoldsNul names ∧ ∃ l, t.walk none [] names = .ok l := by
  by_cases hnul : HoldsNul names
  · rw [stat, target_eq_nul_iff.2 hnul]
    simp [hnul]
  · rw [and_iff_right hnul, stat]
    cases names using List.reverseRecOn with
    | nil => exact iff_of_true rfl ⟨[], rfl⟩
    | append_singleton names n _ =>
      rw [target_concat hnul, walk_append]
      cases t.walk none [] names with
      | error e => simp [bind, Except.bind]
      | ok dir =>
        dsimp only [bind, Except.bind]
        rw [place_none]
        by_cases hn : n = ".."
        · simp [hn, walk]
        · simp only [if_neg hn, walk]
          cases t.get? (dir ++ [n]) with
          | none => simp
          | some x => cases x <;> simp

theorem target_of_stat (h : t.stat names = some x) :
    t.target limit names = t.target none names := by
  by_cases hnul : HoldsNul names
  · rw [target_eq_nul_iff.2 hnul, target_eq_nul_iff.2 hnul]
  · cases names using List.reverseRecOn with
    | nil => rfl
    | append_singleton names n _ =>
      rw [stat, target_concat hnul] at h
      rw [target_concat hnul, target_concat hnul]
      cases hwalk : t.walk none [] names with
      | error e =>
        rw [hwalk] at h
        cases h
      | ok dir =>
        rw [hwalk] at h
        rw [walk_limit hwalk limit]
        dsimp only [bind, Except.bind] at h ⊢
        rw [place_none] at h ⊢
        by_cases hn : n = ".."
        · rw [place, if_pos hn, if_pos hn]
        · rw [if_neg hn] at h ⊢
          dsimp only at h
          exact place_of_allowed hn fun hfree => by simp [hfree] at h

/-! ### Making them -/

theorem makeDirectory_of_stat (h : t.stat names = some .directory) :
    t.makeDirectory limit names = .error .present := by
  unfold makeDirectory
  rw [target_of_stat h]
  unfold stat at h
  split at h
  next l hl =>
    rw [hl]
    dsimp only
    rw [dif_pos (parent_isDirectory h), dif_neg (by simp [h])]
  next hl => rw [hl]
  · cases h

theorem makeDirectories_of_stat (h : t.stat names = some .directory) :
    t.makeDirectories limit names = (t, none) := by
  rw [makeDirectories, makeDirectory_of_stat h]
  simp [h]

theorem stat_of_makeDirectory (h : t.makeDirectory limit names = .ok t') : t'.stat names = some .directory := by
  have hext : Extends (fun _ => true) t t' := extends_makeDirectory h
  unfold makeDirectory at h
  split at h
  · cases h
  · cases h
  next l hl =>
    split at h
    · split at h
      next hfree =>
        cases h
        obtain ⟨hnul, above, n, dir, rfl, hn, hwalk, rfl⟩ := target_eq_some hl
        refine stat_eq_directory_iff.2 ⟨hnul, dir ++ [n], ?_⟩
        rw [walk_append, hext.walk_eq_ok (walk_limit hwalk none)]
        refine FileTree.walk_of_directory (by simpa using Ne.symm hn) ?_
        rw [get?_put (by simp), if_pos rfl]
      · cases h
    · cases h

theorem stat_of_makeDirectories (h : (t.makeDirectories limit names).2 = none) :
    (t.makeDirectories limit names).1.stat names = some .directory := by
  have hlast {t : FileTree} {names : List String} {fault : FileFault}
      (h : (if t.stat names = some .directory then none else some (fault, names)) = none) :
      t.stat names = some .directory := by
    split at h
    next hstat => exact hstat
    · cases h
  fun_induction makeDirectories t limit names with
  | case1 names t' hmake => exact stat_of_makeDirectory hmake
  | case2 => cases h
  | case3 => cases h
  | case4 names _ _ t' _ t'' hmake _ => exact stat_of_makeDirectory hmake
  | case5 names _ _ t' _ fault _ _ => exact hlast h
  | case6 names fault _ _ => exact hlast h

namespace Leads

theorem target (h : t.Leads names l) (hdir : t.get? l = some .directory) (hn : n ≠ "..")
    (hnul : ¬ HoldsNul (names ++ [n])) (hfits : t.get? (l ++ [n]) = none → limit.allows n) :
    t.target limit (names ++ [n]) = .ok (some (l ++ [n])) := by
  rw [target_concat hnul, h.walk_of_directory hdir]
  exact place_of_allowed hn hfits

/-- Names that do not lead to a directory go down in the end. -/
theorem exists_concat (h : t.Leads names l) (hdir : t.get? l ≠ some .directory) :
    ∃ above parent n, names = above ++ [n] ∧ l = parent ++ [n] ∧ n ≠ ".." ∧ t.Leads above parent := by
  obtain ⟨front, rest, dir, rfl, hdots, hwalk, rfl⟩ := h
  cases rest using List.reverseRecOn with
  | nil =>
    rw [List.append_nil] at hdir
    exact absurd (directory_of_walk t.get?_nil hwalk) hdir
  | append_singleton rest n _ =>
    have hdots : ".." ∉ rest ∧ ".." ≠ n := by simpa using hdots
    exact ⟨front ++ rest, dir ++ rest, n, (List.append_assoc ..).symm, (List.append_assoc ..).symm,
      Ne.symm hdots.2, front, rest, dir, rfl, hdots.1, hwalk, rfl⟩

theorem makeDirectory_last (h : t.Leads names l) (hdir : t.get? l = some .directory) (hn : n ≠ "..")
    (hnul : ¬ HoldsNul (names ++ [n])) (hfile : ¬ t.isFile (l ++ [n]))
    (hfits : t.get? (l ++ [n]) = none → limit.allows n) :
    (∃ t', t.makeDirectory limit (names ++ [n]) = .ok t') ∨ t.stat (names ++ [n]) = some .directory := by
  have htarget := h.target hdir hn hnul hfits
  cases hget : t.get? (l ++ [n]) with
  | none =>
    refine .inl ⟨t.put (l ++ [n]) .directory (by rwa [List.dropLast_concat]) (by simp [hget]), ?_⟩
    unfold makeDirectory
    rw [htarget]
    dsimp only
    rw [dif_pos (by rwa [List.dropLast_concat]), dif_pos hget]
  | some x =>
    right
    rw [stat, h.target hdir hn hnul fun _ => rfl]
    exact (directory_or_isFile hget).resolve_right hfile

end Leads

/-- A file at the location, or above it, is in the way, and nothing is made. -/
theorem makeDirectories_blocked (h : t.Leads names l) (hnul : ¬ HoldsNul names) (hk : k <+: l)
    (hfile : t.isFile k) : t.makeDirectories limit names =
      (t, some (if t.isFile l then .present else .notDirectory, names)) := by
  have hdir : t.get? l ≠ some .directory := by
    intro hdir
    by_cases hne : k = l
    · exact not_isFile_of_directory hdir (hne ▸ hfile)
    · exact not_isFile_of_directory (directory_above hdir hk hne) hfile
  have hstat : t.stat names ≠ some .directory := by
    intro hstat
    obtain ⟨-, l', hwalk⟩ := stat_eq_directory_iff.1 hstat
    exact hdir (h.walk_eq_ok hwalk).2
  obtain ⟨above, parent, n, rfl, rfl, hn, habove⟩ := h.exists_concat hdir
  have hmake : t.makeDirectory limit (above ++ [n]) =
      .error (if t.isFile (parent ++ [n]) then .present else .notDirectory) := by
    unfold makeDirectory
    by_cases hl : t.isFile (parent ++ [n])
    · obtain ⟨content, hget⟩ := isFile_iff.1 hl
      have hparent : t.get? parent = some .directory := by
        have hparent := parent_isDirectory hget
        rwa [List.dropLast_concat] at hparent
      rw [habove.target hparent hn hnul (by simp [hget]), if_pos hl]
      dsimp only
      rw [dif_pos (by rwa [List.dropLast_concat]), dif_neg (by simp [hget])]
    · have hk : k <+: parent := by
        rcases List.prefix_concat_iff.1 hk with rfl | hk
        · exact absurd hfile hl
        · exact hk
      rw [target_concat hnul, habove.walk_of_isFile hk hfile, if_neg hl]
      rfl
  rw [makeDirectories, hmake]
  by_cases hl : t.isFile (parent ++ [n])
  · simp [hl, hstat]
  · simp [hl, hstat]

/-- The last directory can be made after those above it. -/
theorem makeDirectories_concat {above : List String} (h : t.Leads above l) (hn : n ≠ "..")
    (hnul : ¬ HoldsNul (above ++ [n])) (hmissing : t.makeDirectory limit (above ++ [n]) = .error .notFound)
    (hnone : (t.makeDirectories limit above).2 = none) (hfile : ¬ t.isFile (l ++ [n]))
    (hallows : t.get? (l ++ [n]) = none → limit.allows n) :
    (t.makeDirectories limit (above ++ [n])).2 = none := by
  have hstat := stat_of_makeDirectories hnone
  have hext := extends_makeDirectories (fun _ => true) t limit above
  rw [makeDirectories, hmissing]
  dsimp only
  rw [if_neg (by simp), List.dropLast_concat]
  generalize t.makeDirectories limit above = made at hnone hstat hext ⊢
  obtain ⟨t', fault⟩ := made
  dsimp only at hnone hstat hext ⊢
  rw [hnone]
  dsimp only
  have habove := h.mono hext
  have hdir : t'.get? l = some .directory := by
    obtain ⟨-, l', hwalk⟩ := stat_eq_directory_iff.1 hstat
    exact (habove.walk_eq_ok hwalk).2
  rcases habove.makeDirectory_last hdir hn hnul (fun hf => hfile (hext.isFile_of_kept rfl hf))
    (hallows ∘ hext.get?_eq_none) with ⟨t'', hmake⟩ | hstat'
  · rw [hmake]
  · rw [makeDirectory_of_stat hstat']
    exact if_pos hstat'

/-- If no file is in the way and no name is too long, all directories can be made. -/
theorem makeDirectories_clear (h : t.Leads names l) (hnul : ¬ HoldsNul names)
    (hclear : ∀ k, k <+: l → ¬ t.isFile k) (hfits : t.Fits limit l) : (t.makeDirectories limit names).2 = none := by
  obtain ⟨front, rest, dir, rfl, hdots, hwalk, rfl⟩ := h
  induction rest using List.reverseRecOn with
  | nil =>
    rw [List.append_nil] at hnul ⊢
    rw [makeDirectories_of_stat (stat_eq_directory_iff.2 ⟨hnul, dir, hwalk⟩)]
  | append_singleton rest n ih =>
    have hdots : ".." ∉ rest ∧ ".." ≠ n := by simpa using hdots
    have habove : t.Leads (front ++ rest) (dir ++ rest) := ⟨front, rest, dir, rfl, hdots.1, hwalk, rfl⟩
    rw [← List.append_assoc] at hnul hclear hfits ⊢
    have hfile : ¬ t.isFile (dir ++ rest ++ [n]) := hclear _ List.prefix_rfl
    have hlast := hfits _ n List.prefix_rfl
    have hfits := hfits.of_prefix (List.prefix_append _ [n])
    have hclear : ∀ k, k <+: dir ++ rest → ¬ t.isFile k := fun k hk =>
      hclear k (hk.trans (List.prefix_append _ [n]))
    by_cases hdir : t.get? (dir ++ rest) = some .directory
    · rcases habove.makeDirectory_last hdir (Ne.symm hdots.2) hnul hfile hlast with ⟨t', hmake⟩ | hstat
      · rw [makeDirectories, hmake]
      · rw [makeDirectories_of_stat hstat]
    · have hmissing : t.makeDirectory limit (front ++ rest ++ [n]) = .error .notFound := by
        unfold makeDirectory
        rw [target_concat hnul, habove.walk_of_missing hclear hfits hdir]
        rfl
      have hnone := ih (fun hn => hnul (holdsNul_append.2 (.inl hn))) hdots.1 hclear hfits
      exact makeDirectories_concat habove (Ne.symm hdots.2) hnul hmissing hnone hfile hlast

theorem allows_of_makeDirectory (h : t.makeDirectory limit names = .ok t') (hfree : t.get? (k ++ [n]) = none)
    (hmade : t'.get? (k ++ [n]) ≠ none) : limit.allows n := by
  unfold makeDirectory at h
  split at h
  · cases h
  · cases h
  next l hl =>
    split at h
    · split at h
      next hnone =>
        cases h
        obtain ⟨hnul, above, m, dir, rfl, hm, hwalk, rfl⟩ := target_eq_some hl
        rw [get?_put (by simp)] at hmade
        split at hmade
        next heq =>
          obtain ⟨-, hmn⟩ := List.append_inj' heq rfl
          cases hmn
          by_contra hlong
          have hplace := hl
          rw [target_concat hnul, hwalk] at hplace
          dsimp only [bind, Except.bind] at hplace
          rw [place, if_neg hm, if_pos ⟨hnone, by simpa using hlong⟩] at hplace
          cases hplace
        · exact absurd hfree hmade
      · cases h
    · cases h

theorem allows_of_makeDirectories (hfree : t.get? (k ++ [n]) = none)
    (hmade : (t.makeDirectories limit names).1.get? (k ++ [n]) ≠ none) : limit.allows n := by
  fun_induction makeDirectories t limit names with
  | case1 names t' hmake => exact allows_of_makeDirectory hmake hfree hmade
  | case2 => exact absurd hfree hmade
  | case3 names _ _ t' _ habove ih =>
    rw [habove] at ih
    exact ih hmade
  | case4 names _ _ t' habove t'' hmake ih =>
    rw [habove] at ih
    by_cases hthere : t'.get? (k ++ [n]) = none
    · exact allows_of_makeDirectory hmake hthere hmade
    · exact ih hthere
  | case5 names _ _ t' habove _ _ ih =>
    rw [habove] at ih
    exact ih hmade
  | case6 => exact absurd hfree hmade

theorem makeDirectories_eq_none_iff (h : t.Leads names l) (hnul : ¬ HoldsNul names) :
    (t.makeDirectories limit names).2 = none ↔ (∀ k, k <+: l → ¬ t.isFile k) ∧ t.Fits limit l := by
  refine ⟨fun hnone => ⟨fun k hk hfile => ?_, fun k n hk hfree => ?_⟩,
    fun ⟨hclear, hfits⟩ => makeDirectories_clear h hnul hclear hfits⟩
  · rw [makeDirectories_blocked h hnul hk hfile] at hnone
    cases hnone
  · -- what is missing now is there in the end
    obtain ⟨-, l', hwalk⟩ := stat_eq_directory_iff.1 (stat_of_makeDirectories hnone)
    have hlast := ((h.mono (extends_makeDirectories (fun _ => true) t limit names)).walk_eq_ok hwalk).2
    have hthere : (t.makeDirectories limit names).1.get? (k ++ [n]) ≠ none := by
      by_cases hne : k ++ [n] = l
      · simp [hne, hlast]
      · simp [directory_above hlast hk hne]
    exact allows_of_makeDirectories hfree hthere

/-- Directories that could be made are there down from the root, and nothing else is new. -/
theorem get?_makeDirectories (hdots : ".." ∉ names) (h : (t.makeDirectories limit names).2 = none) (k : Location) :
    (t.makeDirectories limit names).1.get? k = if k <+: names then some .directory else t.get? k := by
  obtain ⟨-, l, hwalk⟩ := stat_eq_directory_iff.1 (stat_of_makeDirectories h)
  have hlast := ((Leads.of_plain hdots).walk_eq_ok hwalk).2
  split
  next hk =>
    by_cases hne : k = names
    · rwa [hne]
    · exact directory_above hlast hk hne
  next hk => exact (frame_makeDirectories hdots k id).resolve_right fun hnew => hk hnew.1

/-- What could be made is there, and what was in the way is so still. -/
theorem makeDirectories_again (h : t.Leads names l) (hext : Extends kept (t.makeDirectories none names).1 u) :
    u.makeDirectories none names = (u, (t.makeDirectories none names).2) := by
  cases hmade : (t.makeDirectories none names).2 with
  | none =>
    obtain ⟨hnul, l', hwalk⟩ := stat_eq_directory_iff.1 (stat_of_makeDirectories hmade)
    exact makeDirectories_of_stat (stat_eq_directory_iff.2 ⟨hnul, l', hext.walk_eq_ok hwalk⟩)
  | some fault =>
    by_cases hnul : HoldsNul names
    · rw [makeDirectories_of_holdsNul hnul] at hmade ⊢
      cases hmade
      rfl
    · by_cases hclear : ∀ k, k <+: l → ¬ t.isFile k
      · rw [makeDirectories_clear h hnul hclear fits_none] at hmade
        cases hmade
      · obtain ⟨k, hk, hfile⟩ : ∃ k, k <+: l ∧ t.isFile k := by simpa using hclear
        have hblocked : t.makeDirectories none names = _ := makeDirectories_blocked h hnul hk hfile
        rw [hblocked] at hext hmade
        have hlast : u.isFile l ↔ t.isFile l := by
          refine ⟨fun hl => ?_, hext.file⟩
          -- nothing is below a file, so the file in the way is the last one
          obtain ⟨content, hget⟩ := isFile_iff.1 hl
          by_cases hne : k = l
          · rwa [← hne]
          · exact absurd (hext.file hfile) (not_isFile_of_directory (directory_above hget hk hne))
        rw [makeDirectories_blocked (h.mono hext) hnul hk (hext.file hfile), ← hmade]
        simp only [hlast]

end SchemaTypes.FileTree
