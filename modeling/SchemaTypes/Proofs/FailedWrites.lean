import SchemaTypes.Proofs.Bookkeeping
import SchemaTypes.Proofs.Reexport

/-!
# What a failed write leaves behind

Directories are made before the file is tried, and a temporary file is there before it is moved, so each
way for a write to fail has to be looked at. What it leaves are the directories above the file, as far as
they can be made (`Disk.tree_of_write_fault`). If a file is in their way, none is made; if they can be made
and a directory stands in the place of the file, they had been there before. So a write leaves nothing,
unless it is refused for itself: for a name that is too long, for the character NUL in the last name alone,
or for a content without bytes (`Disk.write_fault_eq`). And an export of artifacts that are not refused
for themselves leaves the tree that the successful ones alone leave (`Exporter.failed_writes`).
-/

namespace SchemaTypes

/-- A write is not refused for itself, or before any directory is made: the content has bytes, no name is
too long, and if the last name holds the character NUL, another one does so too. -/
structure Regular (limit : NameLimit) (mode : WriteMode) (names : List String) (content : Content) : Prop where
  encodable : content.Encodable
  fits : ∀ n ∈ names, limit.allows n
  given : ∀ n ∈ names.getLast?, limit.allows (mode.given n)
  nul : HoldsNul names → HoldsNul names.dropLast

namespace FileTree

variable {t : FileTree} {limit : NameLimit} {names : List String}

/-- Where not all of the directories can be made, though no name is too long, none is. -/
theorem makeDirectories_of_fault (hdots : ".." ∉ names) (hlimit : ∀ n ∈ names, limit.allows n)
    (h : (t.makeDirectories limit names).2 ≠ none) : (t.makeDirectories limit names).1 = t := by
  by_cases hnul : HoldsNul names
  · rw [makeDirectories_of_holdsNul hnul]
  · have hblocked := mt (makeDirectories_eq_none_iff (.of_plain hdots) hnul).2 h
    rw [and_iff_left (fits_of_allows hlimit)] at hblocked
    obtain ⟨k, hk, hfile⟩ : ∃ k, k <+: names ∧ t.isFile k := by simpa using hblocked
    rw [makeDirectories_blocked (.of_plain hdots) hnul hk hfile]

theorem directory_of_putFile {l : Location} {bytes : List UInt8} {fault : FileFault}
    (hparent : t.get? l.dropLast = some .directory) (h : t.putFile l bytes = .error fault) :
    t.get? l = some .directory := by
  by_contra hfree
  obtain ⟨t', hput⟩ := exists_putFile_eq_ok bytes hparent hfree
  rw [hput] at h
  cases h

end FileTree

namespace Disk
open FileTree

variable {t t' made : FileTree} {limit : NameLimit} {mode : WriteMode} {l : Location} {bytes : List UInt8}
  {content : Content} {fault : FileFault}

theorem made_of_writeInto_fault (hdots : ".." ∉ l) (hnul : ¬ HoldsNul l) (hregular : Regular limit mode l content)
    (hmake : t.makeDirectories limit l.dropLast = (made, none))
    (h : (Disk.mk made []).writeInto limit mode ⟨.slash, l⟩ bytes = (t', some fault)) : made = t := by
  have habove : ".." ∉ l.dropLast := fun hm => hdots (List.mem_of_mem_dropLast hm)
  have hstat : t.stat l.dropLast = some .directory := by
    cases l using List.reverseRecOn with
    | nil => rfl
    | append_singleton above n _ =>
      rw [List.dropLast_concat] at hmake habove ⊢
      have hget := get?_makeDirectories habove (by rw [hmake])
      rw [hmake] at hget
      have hparent : made.get? above = some .directory := (hget above).trans (if_pos List.prefix_rfl)
      have hlast : n ∈ above ++ [n] := List.mem_append_right above (List.mem_singleton_self _)
      have hn : n ≠ ".." := fun hn => hdots (hn ▸ hlast)
      have htarget := (Leads.of_plain habove).target hparent hn hnul fun _ => hregular.fits n hlast
      have hgiven : limit.allows (mode.given (Path.mk .slash (above ++ [n])).name) := by
        simpa [Path.name] using hregular.given n (by simp)
      rw [writeInto_of_place (p := ⟨.slash, above ++ [n]⟩) mode bytes htarget, if_pos (.inr hgiven)] at h
      -- the directory in the place of the file was there before, and so were those above it
      have hplace := directory_of_putFile (by rwa [List.dropLast_concat]) (settled_eq_fault h).2
      rw [hget, if_neg fun hprefix => absurd hprefix.length_le (by simp)] at hplace
      have hdirectory := parent_isDirectory hplace
      rw [List.dropLast_concat] at hdirectory
      refine stat_eq_directory_iff.2 ⟨fun h => hnul (holdsNul_append.2 (.inl h)), above, ?_⟩
      exact (Leads.of_plain habove).walk_of_directory hdirectory
  rw [makeDirectories_of_stat hstat] at hmake
  exact (congrArg Prod.fst hmake).symm

/-- A write that fails, and is not refused for itself, leaves the tree as it was. -/
theorem write_fault_eq (hdots : ".." ∉ l) (hregular : Regular limit mode l content)
    (h : (Disk.mk t []).write limit mode ⟨.slash, l⟩ content = (t', some fault)) : t' = t := by
  have habove : ".." ∉ l.dropLast := fun hm => hdots (List.mem_of_mem_dropLast hm)
  unfold write at h
  split at h
  next made refused _ hmake =>
    change t.makeDirectories limit l.dropLast = _ at hmake
    have hsame := makeDirectories_of_fault (t := t) habove
      (fun n hn => hregular.fits n (List.mem_of_mem_dropLast hn)) (by rw [hmake]; simp)
    rw [hmake] at hsame
    cases h
    exact hsame
  next made hmake =>
    change t.makeDirectories limit l.dropLast = _ at hmake
    have hnul : ¬ HoldsNul l := by
      intro hnul
      rw [makeDirectories_of_holdsNul (hregular.nul hnul)] at hmake
      cases hmake
    split at h
    next hbytes => exact absurd hregular.encodable (by simp [Content.Encodable, hbytes])
    next bytes hbytes =>
      exact (writeInto_fault h).trans (made_of_writeInto_fault hdots hnul hregular hmake h)

end Disk

/-! ### Exports -/

namespace Exporter
open FileTree

variable {x : Exporter} {t : FileTree} {contents : Drafts} {artifact : String} {content : Content}
  {fault : FileFault}

/-- The artifacts of the attempts that succeed, up to one that ends the export. -/
def succeededIn (attempts : List Attempt) : Drafts :=
  (written (attempts.takeWhile fun a => !a.fault.any FileFault.escapes)).map fun a => (a.artifact, a.content)

/-- The artifacts that an export writes. -/
def succeeded (x : Exporter) (t : FileTree) (contents : Drafts) : Drafts :=
  succeededIn (x.attempts t contents)

section
variable {a : Attempt} (as : List Attempt)

theorem succeededIn_of_none (h : a.fault = none) :
    succeededIn (a :: as) = (a.artifact, a.content) :: succeededIn as := by
  rw [succeededIn, List.takeWhile_cons_of_pos (by simp [h]), written, List.filter_cons_of_pos (by simp [h])]
  rfl

theorem succeededIn_of_escapes (h : a.fault.any FileFault.escapes) : succeededIn (a :: as) = [] := by
  rw [succeededIn, List.takeWhile_cons_of_neg (by simp [h])]
  rfl

theorem succeededIn_of_fault (h : a.fault = some fault) (hescapes : fault.escapes = false) :
    succeededIn (a :: as) = succeededIn as := by
  rw [succeededIn, List.takeWhile_cons_of_pos (by simp [h, hescapes]), written, List.filter_cons_of_neg (by simp [h])]
  rfl

end

/-- What one artifact may do: it is written, or it ends the export, or it is passed over. Where it is not
written, the tree is as it was. -/
theorem write_cases (t : FileTree) (hx : ".." ∉ x.directory) (h : (Path.ofText artifact).Descends)
    (hregular : Regular x.limit x.mode (locationIn x.directory artifact) content) :
    let fault := ((Disk.mk t []).write x.limit x.mode (x.path.join (Path.ofText artifact)) content).2
    let done := x.write t artifact content
    (fault = none ∧ done.aborted = false ∧ done.exporter.records = x.records ++ [recordOf artifact content]) ∨
    (fault.any FileFault.escapes ∧ done.aborted ∧ done.exporter.records = x.records ∧ done.tree = t) ∨
    (∃ f, f.escapes = false ∧ fault = some f ∧ done.aborted = false ∧ done.exporter.records = x.records ∧
      done.tree = t) := by
  have hdots := dotdot_not_mem_locationIn hx h
  dsimp only
  rw [write, join_path h]
  split
  next t' hw =>
    rw [hw]
    exact .inl ⟨rfl, rfl, rfl⟩
  next t' f hw =>
    rw [hw, Disk.write_fault_eq hdots hregular hw, aborted_refuse, tree_refuse]
    cases hescapes : f.escapes with
    | true =>
      rw [refuse_of_escapes hescapes]
      exact .inr (.inl ⟨hescapes, rfl, rfl, rfl⟩)
    | false =>
      rw [refuse_of_not_escapes hescapes]
      exact .inr (.inr ⟨f, hescapes, rfl, rfl, rfl, rfl⟩)

/-- Artifacts that are written one after the other leave the tree that the successful ones leave. -/
theorem writeAll_succeeded (hx : ".." ∉ x.directory) (hpaths : ∀ e ∈ contents, (Path.ofText e.1).Descends)
    (hregular : ∀ e ∈ contents, Regular x.limit x.mode (locationIn x.directory e.1) e.2) :
    let successful := succeededIn (x.attemptsOn t contents)
    successful.Sublist contents ∧
      (∀ fault ∈ writeFaults x.limit x.mode x.path t successful, fault = none) ∧
      (x.writeAll t contents).exporter.records = x.records ++ successful.map (fun e => recordOf e.1 e.2) ∧
      (x.writeAll t contents).tree = writeTree x.limit x.mode x.path t successful := by
  intro successful
  induction contents generalizing x t with
  | nil => exact ⟨.refl _, fun _ h => absurd h List.not_mem_nil, (List.append_nil _).symm, rfl⟩
  | cons e rest ih =>
    obtain ⟨he, hrest⟩ := List.forall_mem_cons.1 hpaths
    obtain ⟨hregular, hothers⟩ := List.forall_mem_cons.1 hregular
    have htree : (x.write t e.1 e.2).tree = _ := tree_write
    have hset : (x.write t e.1 e.2).exporter.SetUpAs x := setUpAs_write
    have ih := ih (x := (x.write t e.1 e.2).exporter) (t := (x.write t e.1 e.2).tree)
      (by rwa [hset.directory]) hrest (by rwa [hset.limit, hset.mode, hset.directory])
    rw [hset.limit, hset.mode, hset.path] at ih
    have hcases := write_cases t hx he hregular
    dsimp only at hcases
    subst successful
    rw [attemptsOn_cons]
    rcases hcases with ⟨hfault, hend, hrecords⟩ | ⟨hfault, hend, hrecords, hsame⟩ |
      ⟨f, hescapes, hfault, hend, hrecords, hsame⟩
    · -- written: it is the first of the successful ones
      obtain ⟨hsublist, hnone, hall, hlast⟩ := ih
      obtain ⟨hexporter, hthen, -⟩ := writeAll_cons rest hend
      rw [succeededIn_of_none _ hfault, hexporter, hthen, writeFaults, writeTree, ← htree]
      refine ⟨hsublist.cons_cons e, List.forall_mem_cons.2 ⟨hfault, hnone⟩, ?_, hlast⟩
      rw [hall, hrecords, List.append_assoc, List.map_cons, List.singleton_append]
    · -- it ends the export
      rw [succeededIn_of_escapes _ hfault, writeAll_aborted hend]
      exact ⟨List.nil_sublist _, fun _ h => absurd h List.not_mem_nil, hrecords.trans (List.append_nil _).symm,
        hsame⟩
    · -- passed over: the others find the tree as it was
      obtain ⟨hsublist, hnone, hall, hlast⟩ := ih
      obtain ⟨hexporter, hthen, -⟩ := writeAll_cons rest hend
      rw [succeededIn_of_fault _ hfault hescapes, hexporter, hthen]
      rw [hsame] at hsublist hnone hall hlast ⊢
      exact ⟨hsublist.cons e, hnone, hall.trans (by rw [hrecords]), hlast⟩

theorem run_succeeded (hx : ".." ∉ x.directory) (hdirectory : ∀ n ∈ x.directory, x.limit.allows n)
    (hpaths : ∀ e ∈ contents, (Path.ofText e.1).Descends)
    (hregular : ∀ e ∈ contents, Regular x.limit x.mode (locationIn x.directory e.1) e.2) :
    let successful := x.succeeded t contents
    successful.Sublist contents ∧
      (x.run t contents).exporter.records = x.records ++ successful.map (fun e => recordOf e.1 e.2) ∧
      (x.run t contents).tree = (x.run t successful).tree := by
  intro successful
  have hlookup : x.lookupFault t = none := lookupFault_eq_none fun _ => hdirectory
  rw [(run_of_lookup _ hlookup).1, (run_of_lookup _ hlookup).2.1, (run_of_lookup _ hlookup).2.1]
  subst successful
  cases hmake : (x.cleaned t).makeDirectories x.limit x.directory with
  | mk u fault =>
    cases fault with
    | none =>
      have hattempts : x.attempts t contents = x.attemptsOn u contents := by
        rw [attempts, directoryFault, start, hmake]
        rfl
      rw [fill_of_made hmake, fill_of_made hmake, succeeded, hattempts]
      obtain ⟨hsublist, hnone, hrecords, htree⟩ := writeAll_succeeded (t := u) hx hpaths hregular
      have hend : (x.writeAll u (succeededIn (x.attemptsOn u contents))).aborted = false := by
        refine Bool.eq_false_iff.2 fun haborted => ?_
        obtain ⟨fault, hfault, hescapes⟩ := (writeAll_contract x u _).1.1 haborted
        rw [hnone fault hfault] at hescapes
        cases hescapes
      rw [tree_writeAll hend]
      exact ⟨hsublist, hrecords, htree⟩
    | some fault =>
      have hattempts : x.attempts t contents = [] := by
        rw [attempts, directoryFault, hmake]
        rfl
      rw [tree_fill_of_fault hmake, tree_fill_of_fault hmake, succeeded, hattempts]
      refine ⟨List.nil_sublist _, ?_, rfl⟩
      rw [fill, hmake]
      dsimp only
      unfold refuse
      split <;> exact (List.append_nil _).symm

/-- A write that fails leaves the directories above it, as far as they can be made, and no temporary file;
where it is not refused for itself, it leaves the tree as it was. So an export of such artifacts leaves the
tree that its successful artifacts alone leave. -/
theorem failed_writes (output : Path) (cwd : List String) (clean : Bool) (mode : WriteMode) (limit : NameLimit)
    (errors : List ExportError) (records : List FileRecord) (t : FileTree) (contents : Drafts)
    (hdirectory : ∀ n ∈ output.absolute cwd, limit.allows n)
    (hpaths : ∀ e ∈ contents, (Path.ofText e.1).Descends) :
    let x : Exporter := { directory := output.absolute cwd, clean, mode, limit, errors, records }
    (∀ artifact content t' fault, (Path.ofText artifact).Descends →
      (Disk.mk t []).write limit mode (x.path.join (Path.ofText artifact)) content = (t', some fault) →
        t' = (t.makeDirectories limit (locationIn x.directory artifact).dropLast).1 ∧
          (Regular limit mode (locationIn x.directory artifact) content → t' = t)) ∧
    ((∀ e ∈ contents, Regular limit mode (locationIn x.directory e.1) e.2) →
      (x.succeeded t contents).Sublist contents ∧
      (x.run t contents).exporter.records =
        x.records ++ (x.succeeded t contents).map (fun e => recordOf e.1 e.2) ∧
      (x.run t contents).tree = (x.run t (x.succeeded t contents)).tree) := by
  intro x
  have hx : ".." ∉ x.directory := Path.dotdot_not_mem_absolute cwd output
  refine ⟨fun artifact content t' fault h hfault => ?_, run_succeeded hx hdirectory hpaths⟩
  rw [join_path h] at hfault
  exact ⟨Disk.tree_of_write_fault hfault, fun hregular =>
    Disk.write_fault_eq (dotdot_not_mem_locationIn hx h) hregular hfault⟩

/-- The first artifact stands in the way of the second, and a directory in the place of the third. -/
theorem failed_writes_blocked :
    let x : Exporter := { directory := ["out"], limit := some 20 }
    let t := (FileTree.empty.put ["out"] .directory rfl (by simp)).put ["out", "b"] .directory rfl (by simp)
    let contents : Drafts := [("a", "w"), ("a/c", "x"), ("b", "y"), ("d", "z")]
    let successful : Drafts := [("a", "w"), ("d", "z")]
    ((∀ n ∈ x.directory, x.limit.allows n) ∧ (∀ e ∈ contents, (Path.ofText e.1).Descends) ∧
        ∀ e ∈ contents, Regular x.limit x.mode (locationIn x.directory e.1) e.2) ∧
      x.succeeded t contents = successful ∧ (x.run t contents).tree = (x.run t successful).tree := by
  intro x t contents successful
  have hdirectory : ∀ n ∈ x.directory, x.limit.allows n := by decide
  have hpaths : ∀ e ∈ contents, (Path.ofText e.1).Descends := by
    unfold Path.Descends
    decide +kernel
  have hregular : ∀ e ∈ contents, Regular x.limit x.mode (locationIn x.directory e.1) e.2 := by
    have hnames : ∀ e ∈ contents, e.2.Encodable ∧
        (∀ n ∈ locationIn x.directory e.1, x.limit.allows n ∧ '\x00' ∉ n.toList) ∧
        ∀ n ∈ (locationIn x.directory e.1).getLast?, x.limit.allows (x.mode.given n) := by decide +kernel
    intro e he
    obtain ⟨hcontent, hnames, hgiven⟩ := hnames e he
    exact ⟨hcontent, fun n hn => (hnames n hn).1, hgiven, fun ⟨n, hn, hnul⟩ => absurd hnul (hnames n hn).2⟩
  have hsucceeded : x.succeeded t contents = successful := by decide +kernel
  obtain ⟨-, hrun⟩ := failed_writes ⟨.none, ["out"]⟩ [] false .atomic (some 20) [] [] t contents hdirectory hpaths
  exact ⟨⟨hdirectory, hpaths, hregular⟩, hsucceeded, hsucceeded ▸ (hrun hregular).2.2⟩

/-- Refused for themselves, writes leave the directory above: over NUL in the name, over a name that is too
long, and over a content without bytes. -/
theorem failed_write_leaves :
    let x : Exporter := { directory := ["out"], limit := some 20 }
    let t := FileTree.empty.put ["out"] .directory rfl (by simp)
    let write (artifact : String) (content : Content) :=
      (Disk.mk t []).write x.limit .atomic (x.path.join (Path.ofText artifact)) content
    let drafts : Drafts := [("a/\x00b.ts", ""), ("a/billing.ts", ""), ("a/b.ts", .surrogate "" 0 "")]
    (∀ e ∈ drafts, (Path.ofText e.1).Descends) ∧ t.get? x.directory = some .directory ∧
      (drafts.map fun e => (write e.1 e.2).2) = [some .nul, some .nameTooLong, some .unencodable] ∧
      (∀ e ∈ drafts, (write e.1 e.2).1 ≠ t) ∧
      ∀ e ∈ drafts, x.succeeded t [e] = [] ∧ (x.run t [e]).tree ≠ (x.run t []).tree := by
  intro x t write drafts
  have hpaths : ∀ e ∈ drafts, (Path.ofText e.1).Descends := by
    unfold Path.Descends
    decide +kernel
  have hmade : ∀ e ∈ drafts, (write e.1 e.2).1.get? ["out", "a"] = some .directory := by decide +kernel
  have hrun : ∀ e ∈ drafts, x.succeeded t [e] = [] ∧
      (x.run t [e]).tree.get? ["out", "a"] = some .directory := by decide +kernel
  have hnone : t.get? ["out", "a"] = none := by decide +kernel
  have hempty : (x.run t []).tree.get? ["out", "a"] = none := by decide +kernel
  refine ⟨hpaths, rfl, by decide +kernel, fun e he hsame => ?_, fun e he => ⟨(hrun e he).1, fun hsame => ?_⟩⟩
  · have hdirectory := hmade e he
    rw [hsame, hnone] at hdirectory
    cases hdirectory
  · have hdirectory := (hrun e he).2
    rw [hsame, hempty] at hdirectory
    cases hdirectory

end Exporter

end SchemaTypes
