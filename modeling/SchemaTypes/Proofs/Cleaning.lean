import SchemaTypes.Proofs.File.Agreement
import SchemaTypes.Proofs.Reexport

/-!
# Exports with cleaning

What an earlier export has left makes no difference to one that cleans first. Two trees that differ only
in stale locations, and in whether the output directory is there, agree once it is cleaned and made
(`exists_start`), and writes do not tell trees that agree apart (`writeAll_of_agree`). So the exports have
the same books and leave trees that agree, in which every stale location holds what was written just now
(`run_forgets`).
-/

namespace SchemaTypes

/-- The exports have noted the same, have both gone through to the end or both broken off, and leave trees
that agree. -/
structure Export.Agree (done other : Export) : Prop where
  exporter : done.exporter = other.exporter
  aborted : done.aborted = other.aborted
  tree : done.tree.Agree other.tree

namespace Exporter
open FileTree

variable {x : Exporter} {t u : FileTree} {k : Location} {contents : Drafts} {artifact : String}
  {content : Content}

/-! ### Writing on trees that agree -/

theorem write_of_agree (h : t.Agree u) : (x.write t artifact content).Agree (x.write u artifact content) := by
  obtain ⟨u', hwrite, hagree⟩ :=
    Disk.write_of_agree h x.limit x.mode (x.path.join (Path.ofText artifact)) content
  have hfault := congrArg Prod.snd hwrite
  rw [write_congr hfault]
  refine ⟨rfl, rfl, ?_⟩
  dsimp only
  rwa [tree_write, tree_write, hwrite]

theorem writeAll_of_agree (h : t.Agree u) : (x.writeAll t contents).Agree (x.writeAll u contents) := by
  induction contents generalizing x t u with
  | nil => exact ⟨rfl, rfl, h⟩
  | cons e rest ih =>
    have hfirst : (x.write t e.1 e.2).Agree (x.write u e.1 e.2) := write_of_agree h
    cases hend : (x.write t e.1 e.2).aborted with
    | true =>
      rw [writeAll_aborted hend, writeAll_aborted (hfirst.aborted.symm.trans hend)]
      exact hfirst
    | false =>
      have hrest := ih (x := (x.write t e.1 e.2).exporter) hfirst.tree
      obtain ⟨hexporter, htree, haborted⟩ := writeAll_cons rest hend
      obtain ⟨hexporter', htree', haborted'⟩ := writeAll_cons rest (hfirst.aborted.symm.trans hend)
      rw [← hfirst.exporter] at hexporter' htree' haborted'
      refine ⟨?_, ?_, ?_⟩
      · rw [hexporter, hexporter', hrest.exporter]
      · rw [haborted, haborted', hrest.aborted]
      · rw [htree, htree']
        exact hrest.tree

theorem fill_of_agree {made made' : FileTree} {fault : Option (FileFault × List String)}
    (hmake : t.makeDirectories x.limit x.directory = (made, fault))
    (hmake' : u.makeDirectories x.limit x.directory = (made', fault)) (h : made.Agree made') :
    (x.fill t contents).Agree (x.fill u contents) := by
  unfold fill
  rw [hmake, hmake']
  cases fault with
  | none => exact writeAll_of_agree h
  | some fault =>
    dsimp only
    unfold refuse
    split <;> exact ⟨rfl, rfl, h⟩

/-! ### The directory, cleaned and made -/

theorem get?_cleaned_of_stale (hclean : x.clean) (hk : Stale x.directory k) :
    (x.cleaned t).get? k = none := by
  unfold cleaned
  by_cases hdir : t.isDirectory x.directory
  · rw [hclean, hdir]
    obtain ⟨n, hn, hk⟩ := hk
    exact get?_clear_eq_none hn hk
  · rw [hclean, eq_false_of_ne_true hdir]
    show t.get? k = none
    -- nothing is below a directory that is not there
    by_contra hsome
    obtain ⟨y, hy⟩ := Option.ne_none_iff_exists'.1 hsome
    refine hdir (decide_eq_true (directory_above hy hk.below ?_))
    rintro rfl
    exact not_stale_above List.prefix_rfl hk

theorem get?_cleaned_self : (x.cleaned t).get? x.directory = t.get? x.directory :=
  get?_cleaned_of_not_stale (not_stale_above List.prefix_rfl)

theorem get?_cleaned_congr (hclean : x.clean)
    (hsame : ∀ k, k ≠ x.directory → ¬ Stale x.directory k → t.get? k = u.get? k) (hne : k ≠ x.directory) :
    (x.cleaned t).get? k = (x.cleaned u).get? k := by
  by_cases hk : Stale x.directory k
  · rw [get?_cleaned_of_stale hclean hk, get?_cleaned_of_stale hclean hk]
  · rw [get?_cleaned_of_not_stale hk, get?_cleaned_of_not_stale hk, hsame k hne hk]

/-- Where one of two trees has the output directory, no file stands above it in either. -/
theorem not_isFile_above (hcleaned : ∀ k, k ≠ x.directory → (x.cleaned t).get? k = (x.cleaned u).get? k)
    (hdirectory : t.get? x.directory ≠ u.get? x.directory) (hk : k <+: x.directory) (hne : k ≠ x.directory) :
    ¬ (x.cleaned t).isFile k := by
  cases hget : t.get? x.directory with
  | some y => exact not_isFile_of_directory (directory_above (get?_cleaned_self.trans hget) hk hne)
  | none =>
    obtain ⟨y, hget'⟩ := Option.ne_none_iff_exists'.1 (hget ▸ hdirectory.symm)
    rw [isFile, hcleaned k hne]
    exact not_isFile_of_directory (directory_above (get?_cleaned_self.trans hget') hk hne)

theorem makeDirectories_cleaned (hdots : ".." ∉ x.directory) (hnul : ¬ HoldsNul x.directory)
    (hallows : ∀ n ∈ x.directory, x.limit.allows n) (hfile : ¬ t.isFile x.directory)
    (habove : ∀ k, k <+: x.directory → k ≠ x.directory → ¬ (x.cleaned t).isFile k) :
    ((x.cleaned t).makeDirectories x.limit x.directory).2 = none := by
  refine makeDirectories_clear (.of_plain hdots) hnul (fun k hk => ?_) (fits_of_allows hallows)
  by_cases hne : k = x.directory
  · rwa [hne, isFile, get?_cleaned_self]
  · exact habove k hk hne

section Lookup
variable {fault : FileFault} (hdots : ".." ∉ x.directory) (hfault : x.lookupFault t = some fault)
include hdots hfault

theorem not_directory_of_lookupFault : t.get? x.directory ≠ some .directory := by
  intro hdirectory
  unfold lookupFault at hfault
  rw [walk_of_directory hdots hdirectory] at hfault
  cases hfault

theorem get?_of_lookupFault (hk : Stale x.directory k) : t.get? k = none := by
  by_contra hsome
  obtain ⟨y, hy⟩ := Option.ne_none_iff_exists'.1 hsome
  refine not_directory_of_lookupFault hdots hfault (directory_above hy hk.below ?_)
  rintro rfl
  exact not_stale_above List.prefix_rfl hk

theorem agree_of_lookupFault (hfault' : x.lookupFault u = some fault)
    (ht : ¬ t.isFile x.directory) (hu : ¬ u.isFile x.directory)
    (hsame : ∀ k, k ≠ x.directory → ¬ Stale x.directory k → t.get? k = u.get? k) : t.Agree u := by
  have hnone {v : FileTree} (hfile : ¬ v.isFile x.directory) (h : x.lookupFault v = some fault) :
      v.get? x.directory = none := by
    cases hget : v.get? x.directory with
    | none => rfl
    | some y =>
      rcases directory_or_isFile hget with hdirectory | hyes
      · exact absurd hdirectory (not_directory_of_lookupFault hdots h)
      · exact absurd hyes hfile
  intro k
  by_cases hne : k = x.directory
  · rw [hne, hnone ht hfault, hnone hu hfault']
  · by_cases hk : Stale x.directory k
    · rw [get?_of_lookupFault hdots hfault hk, get?_of_lookupFault hdots hfault' hk]
    · exact hsame k hne hk

end Lookup

section Start
variable (hlimit : t.Within x.limit) (hlimit' : u.Within x.limit)
include hlimit hlimit'

theorem allows_of_ne (hne : t.get? x.directory ≠ u.get? x.directory) : ∀ n ∈ x.directory, x.limit.allows n := by
  cases hget : t.get? x.directory with
  | some y => exact hlimit.allows hget
  | none =>
    obtain ⟨y, hget'⟩ := Option.ne_none_iff_exists'.1 (hget ▸ hne.symm)
    exact hlimit'.allows hget'

/-- The output directory is looked up with the same fault in both trees, or with none. -/
theorem lookupFault_congr (hdots : ".." ∉ x.directory)
    (hsame : ∀ k, k ≠ x.directory → ¬ Stale x.directory k → t.get? k = u.get? k) :
    x.lookupFault t = x.lookupFault u := by
  by_cases hdirectory : t.get? x.directory = u.get? x.directory
  · have hwalk : t.walk x.limit [] x.directory = u.walk x.limit [] x.directory := by
      refine walk_congr hdots fun k hk => ?_
      by_cases hne : k = x.directory
      · rw [hne, hdirectory]
      · exact hsame k hne (not_stale_above hk)
    rw [lookupFault, lookupFault, hwalk]
  · have hallows := allows_of_ne hlimit hlimit' hdirectory
    rw [lookupFault_eq_none fun _ => hallows, lookupFault_eq_none fun _ => hallows]

/-- With the output directory at most absent in one of two trees, and a directory in the other, both come
to the same directory once they are cleaned. Where its names cannot be made, it is absent in both. -/
theorem exists_start (hclean : x.clean) (hdots : ".." ∉ x.directory)
    (ht : ¬ t.isFile x.directory) (hu : ¬ u.isFile x.directory)
    (hnul : HoldsNul x.directory → t.get? x.directory = u.get? x.directory)
    (hsame : ∀ k, k ≠ x.directory → ¬ Stale x.directory k → t.get? k = u.get? k) :
    ∃ made made' fault, (x.cleaned t).makeDirectories x.limit x.directory = (made, fault) ∧
      (x.cleaned u).makeDirectories x.limit x.directory = (made', fault) ∧ made.Agree made' := by
  have hcleaned : ∀ k, k ≠ x.directory → (x.cleaned t).get? k = (x.cleaned u).get? k :=
    fun k hne => get?_cleaned_congr hclean hsame hne
  by_cases hdirectory : t.get? x.directory = u.get? x.directory
  · -- trees that agree on the directory too agree on everything
    have hagree : (x.cleaned t).Agree (x.cleaned u) := by
      intro k
      by_cases hne : k = x.directory
      · rw [hne, get?_cleaned_self, get?_cleaned_self, hdirectory]
      · exact hcleaned k hne
    obtain ⟨made', hmake', hagree'⟩ := hagree.makeDirectories x.directory
    exact ⟨_, made', _, rfl, hmake', hagree'⟩
  · -- the directory is in one of the trees, so it can be made in the other
    have hallows := allows_of_ne hlimit hlimit' hdirectory
    have hplain := mt hnul hdirectory
    have hmade := makeDirectories_cleaned hdots hplain hallows ht fun k hk hne =>
      not_isFile_above hcleaned hdirectory hk hne
    have hmade' := makeDirectories_cleaned hdots hplain hallows hu fun k hk hne =>
      not_isFile_above (fun k hne => (hcleaned k hne).symm) (Ne.symm hdirectory) hk hne
    refine ⟨_, _, none, Prod.ext rfl hmade, Prod.ext rfl hmade', fun k => ?_⟩
    rw [get?_makeDirectories hdots hmade, get?_makeDirectories hdots hmade']
    split
    · rfl
    next hk => exact hcleaned k fun hne => hk (hne ▸ List.prefix_rfl)

end Start

/-! ### What is new -/

/-- What writing the contents puts at a location: an artifact, or a directory on the way to one. -/
inductive Written (directory : Location) (contents : Drafts) : Location → Entry → Prop
  | file {e : String × Content} {bytes : List UInt8} (he : e ∈ contents) (hbytes : e.2.encode? = some bytes) :
    Written directory contents (locationIn directory e.1) (.file bytes)
  | directory {e : String × Content} {k : Location} (he : e ∈ contents)
    (hk : k <+: locationIn directory e.1) : Written directory contents k .directory

theorem Written.mono {directory : Location} {others : Drafts} {y : Entry} (hsub : contents ⊆ others)
    (h : Written directory contents k y) : Written directory others k y := by
  cases h with
  | file he hbytes => exact .file (hsub he) hbytes
  | directory he hk => exact .directory (hsub he) hk

section Written
variable {y : Entry} (hdots : ".." ∉ x.directory)
include hdots

theorem written_of_write (hpath : (Path.ofText artifact).Descends)
    (h : (x.write t artifact content).tree.get? k = some y) :
    t.get? k = some y ∨ Written x.directory [(artifact, content)] k y := by
  have hl := dotdot_not_mem_locationIn hdots hpath
  rw [tree_write, join_path hpath] at h
  cases hw : (Disk.mk t []).write x.limit x.mode ⟨.slash, locationIn x.directory artifact⟩ content with
  | mk t' fault =>
    rw [hw] at h
    cases fault with
    | none =>
      obtain ⟨⟨bytes, hbytes, hfile⟩, hframe⟩ := Disk.write_ok hl hw
      by_cases hk : k = locationIn x.directory artifact
      · subst hk
        cases hfile.symm.trans h
        exact .inr (.file (e := (artifact, content)) (List.mem_singleton_self _) hbytes)
      · rcases hframe k hk with hsame | ⟨hk, -, hdir⟩
        · exact .inl (hsame.symm.trans h)
        · cases hdir.symm.trans h
          exact .inr (.directory (e := (artifact, content)) (List.mem_singleton_self _) hk)
    | some fault =>
      rcases Disk.write_fault hl hw k id with hsame | ⟨hk, -, hdir⟩
      · exact .inl (hsame.symm.trans h)
      · cases hdir.symm.trans h
        exact .inr (.directory (e := (artifact, content)) (List.mem_singleton_self _) hk)

theorem written_of_writeAll (hpaths : ∀ e ∈ contents, (Path.ofText e.1).Descends)
    (h : (x.writeAll t contents).tree.get? k = some y) :
    t.get? k = some y ∨ Written x.directory contents k y := by
  induction contents generalizing x t with
  | nil => exact .inl h
  | cons e rest ih =>
    obtain ⟨hfirst, hrest⟩ := List.forall_mem_cons.1 hpaths
    have hstep (h : (x.write t e.1 e.2).tree.get? k = some y) :
        t.get? k = some y ∨ Written x.directory (e :: rest) k y :=
      (written_of_write hdots hfirst h).imp_right (.mono (by simp))
    cases hend : (x.write t e.1 e.2).aborted with
    | true =>
      rw [writeAll_aborted hend] at h
      exact hstep h
    | false =>
      have hdirectory : (x.write t e.1 e.2).exporter.directory = x.directory := directory_write
      rw [(writeAll_cons rest hend).2.1] at h
      rcases ih (hdirectory ▸ hdots) hrest h with h | h
      · exact hstep h
      · rw [hdirectory] at h
        exact .inr (h.mono (List.subset_cons_self e rest))

theorem written_of_run (hclean : x.clean) (hpaths : ∀ e ∈ contents, (Path.ofText e.1).Descends)
    (hk : Stale x.directory k) (h : (x.run t contents).tree.get? k = some y) :
    Written x.directory contents k y := by
  have hmade : ((x.cleaned t).makeDirectories x.limit x.directory).1.get? k ≠ some y := by
    intro hy
    rcases frame_makeDirectories hdots k id with hsame | ⟨habove, -⟩
    · rw [hsame, get?_cleaned_of_stale hclean hk] at hy
      cases hy
    · exact not_stale_above habove hk
  cases hlookup : x.lookupFault t with
  | some fault =>
    rw [(run_of_lookup_fault _ hlookup).2.1, get?_of_lookupFault hdots hlookup hk] at h
    cases h
  | none =>
    rw [(run_of_lookup _ hlookup).2.1] at h
    rcases fill_cases x (x.cleaned t) contents with hfill | ⟨htree, -⟩
    · rw [hfill] at h
      exact (written_of_writeAll hdots hpaths h).resolve_left hmade
    · rw [htree] at h
      exact absurd h hmade

end Written

/-! ### Two exports -/

/-- Exports that clean first, from trees that differ in stale locations and in whether the output
directory is there, agree, and leave at stale locations what they have written. -/
theorem run_forgets (output : Path) (cwd : List String) (mode : WriteMode) (limit : NameLimit)
    (contents : Drafts) (hlimit : t.Within limit) (hlimit' : u.Within limit)
    (hpaths : ∀ e ∈ contents, (Path.ofText e.1).Descends)
    (ht : ¬ t.isFile (output.absolute cwd)) (hu : ¬ u.isFile (output.absolute cwd))
    (hnul : HoldsNul (output.absolute cwd) → t.get? (output.absolute cwd) = u.get? (output.absolute cwd))
    (hsame : ∀ k, k ≠ output.absolute cwd → ¬ Stale (output.absolute cwd) k → t.get? k = u.get? k) :
    let x : Exporter := { directory := output.absolute cwd, clean := true, mode, limit }
    (x.run t contents).Agree (x.run u contents) ∧
      ∀ k y, Stale x.directory k → (x.run t contents).tree.get? k = some y →
        Written x.directory contents k y := by
  intro x
  have hdots : ".." ∉ x.directory := Path.dotdot_not_mem_absolute cwd output
  refine ⟨?_, fun k y => written_of_run hdots rfl hpaths⟩
  have hlookup : x.lookupFault t = x.lookupFault u := lookupFault_congr hlimit hlimit' hdots hsame
  cases hfault : x.lookupFault t with
  | some fault =>
    obtain ⟨hexporter, htree, haborted⟩ := run_of_lookup_fault contents hfault
    obtain ⟨hexporter', htree', haborted'⟩ := run_of_lookup_fault contents (hlookup ▸ hfault)
    refine ⟨hexporter.trans hexporter'.symm, haborted.trans haborted'.symm, ?_⟩
    rw [htree, htree']
    exact agree_of_lookupFault hdots hfault (hlookup ▸ hfault) ht hu hsame
  | none =>
    obtain ⟨made, made', fault, hmake, hmake', hagree⟩ :=
      exists_start (x := x) hlimit hlimit' rfl hdots ht hu hnul hsame
    have hfill : (x.fill (x.cleaned t) contents).Agree (x.fill (x.cleaned u) contents) :=
      fill_of_agree hmake hmake' hagree
    obtain ⟨hexporter, htree, haborted⟩ := run_of_lookup contents hfault
    obtain ⟨hexporter', htree', haborted'⟩ := run_of_lookup contents (hlookup ▸ hfault)
    refine ⟨?_, ?_, ?_⟩
    · rw [hexporter, hexporter', hfill.exporter]
    · rw [haborted, haborted', hfill.aborted]
    · rw [htree, htree']
      exact hfill.tree

theorem run_forgets_blocked :
    let x : Exporter := { directory := ["out"], clean := true }
    let base := (FileTree.empty.put ["out"] .directory rfl (by simp)).put ["out", ".gitkeep"]
      (.file []) rfl (by rintro ⟨⟩)
    -- what stands in the way in one tree or the other: a directory at `a`, a file at `c`
    let t := base.put ["out", "a"] .directory rfl (by simp)
    let u := base.put ["out", "c"] (.file []) rfl (by rintro ⟨⟩)
    let contents : Drafts := [("a", "x"), ("a/b", "y"), ("c/d", "z")]
    (∀ e ∈ contents, (Path.ofText e.1).Descends) ∧
      (x.run t contents).Agree (x.run u contents) ∧
      (x.run t contents).exporter.manifest.files.map FileRecord.path = ["a", "c/d"] := by
  intro x base t u contents
  have hpaths : ∀ e ∈ contents, (Path.ofText e.1).Descends := by
    unfold Path.Descends
    decide +kernel
  have hsame : ∀ k, k ≠ ["out"] → ¬ Stale ["out"] k → t.get? k = u.get? k := by
    intro k _ hk
    have hnew (n : String) (hn : n ∉ keptNames) : ["out", n] ≠ k := by
      rintro rfl
      exact hk ⟨n, hn, List.prefix_rfl⟩
    have ht : t.get? k = base.get? k := (get?_put (by simp)).trans (if_neg (hnew "a" (by decide)))
    have hu : u.get? k = base.get? k := (get?_put (by simp)).trans (if_neg (hnew "c" (by decide)))
    rw [ht, hu]
  have hnul : HoldsNul ["out"] → t.get? ["out"] = u.get? ["out"] := fun _ => rfl
  have hlimit (t : FileTree) : t.Within none := fun _ _ _ => rfl
  exact ⟨hpaths, (run_forgets ⟨.none, ["out"]⟩ [] .atomic none contents (hlimit t) (hlimit u) hpaths (by decide)
    (by decide) hnul hsame).1, by decide +kernel⟩

end Exporter

end SchemaTypes
