import SchemaTypes.Proofs.Faults
import SchemaTypes.Proofs.File.Rewriting

/-!
# Exporting again

An export that is made once more, without cleaning and where names of every length are taken, finds the
tree that it has left itself. Every
directory is there, every artifact is put once more in its place, in the order of the first time, and
what could not be written is refused for the same reason (`writeTree_again`). As the first time the last
artifact of a location has stayed, so it does the second time (`Accounts.putAll_eq`), and the export ends
as before: with the same records, errors and notices, and the same tree (`run_again`).
-/

namespace SchemaTypes

/-! ### What is put, and what is left of it -/

namespace FileTree

variable {t t' made done : FileTree} {l : Location} {content : List UInt8}
  {puts : List (Location × Entry)}

/-- What becomes of `t` when the entries are put into it: `done` has the last entry of each location, and
the other files of `t`. -/
structure Accounts (puts : List (Location × Entry)) (t done : FileTree) : Prop where
  last : ∀ {k x}, (Entry.Table.putAll [] puts).find? k = some x → done.entries.find? k = some x
  other : ∀ {k}, t.isFile k → k ∉ puts.map Prod.fst → done.get? k = t.get? k

namespace Accounts

theorem nil : Accounts [] t t := by
  refine ⟨fun {k x} h => ?_, fun _ _ => rfl⟩
  cases h

theorem of_made (hmade : Extends (fun _ => true) t made) (h : Accounts puts made done) :
    Accounts puts t done := by
  refine ⟨h.last, fun {k} hfile hk => ?_⟩
  rw [h.other (hmade.file hfile) hk, hmade.get?_eq rfl hfile]

theorem cons (hl : l ≠ []) (hput : t.putFile l content = .ok t') (h : Accounts puts t' done) :
    Accounts ((l, .file content) :: puts) t done := by
  have hget := putFile_eq_ok hput
  have hfile : t'.isFile l := isFile_iff.2 ⟨content, by rw [hget, if_pos rfl]⟩
  constructor
  · intro k x hk
    rw [Entry.Table.putAll_cons, Entry.Table.find?_putAll] at hk
    cases hlast : (Entry.Table.putAll [] puts).find? k with
    | some y =>
      rw [hlast] at hk
      cases hk
      exact h.last hlast
    | none =>
      -- nothing is put there later, so that the file is still there
      have hmem : k ∉ puts.map Prod.fst := by
        rw [← Entry.Table.find?_putAll_isSome, hlast]
        exact Bool.false_ne_true
      rw [hlast, Option.none_or, Entry.Table.find?_put] at hk
      split at hk
      next heq =>
        subst heq
        have hsame := h.other hfile hmem
        rw [hget, if_pos rfl, get?_eq_find? hl] at hsame
        rw [hsame, hk]
      · cases hk
  · intro k hk hmem
    obtain ⟨hne, hmem⟩ := not_or.1 (mt List.mem_cons.2 hmem)
    have hsame : t'.get? k = t.get? k := by rw [hget, if_neg (Ne.symm hne)]
    rw [← hsame]
    refine h.other ?_ hmem
    rwa [isFile, hsame]

/-- To put everything again makes no difference. -/
theorem putAll_eq (h : Accounts puts t done) : done.entries.putAll puts = done.entries := by
  refine Entry.Table.putAll_eq_self (fun p hp => ?_) fun k => ?_
  · obtain ⟨x, hx⟩ := Option.isSome_iff_exists.1 (Entry.Table.find?_putAll_isSome.2 (List.mem_map_of_mem hp))
    rw [h.last hx]
    rfl
  · rw [Entry.Table.find?_putAll]
    cases hk : (Entry.Table.putAll [] puts).find? k with
    | none => rfl
    | some x => exact (h.last hk).symm

end Accounts

end FileTree

namespace Exporter
open FileTree

variable {x : Exporter} {t u : FileTree} {contents : Drafts} {limit : NameLimit} {mode : WriteMode}
  {directory : Path} {kept : Location → Bool}

/-! ### The tree that writes leave -/

/-- The tree after the artifacts are written, each on the tree that the one before left. -/
def writeTree (limit : NameLimit) (mode : WriteMode) (directory : Path) (t : FileTree) : Drafts → FileTree
  | [] => t
  | (artifact, content) :: rest =>
    writeTree limit mode directory
      ((Disk.mk t []).write limit mode (directory.join (Path.ofText artifact)) content).1 rest

/-- The artifacts have locations below the directory, and none that is kept. -/
def Spares (kept : Location → Bool) (directory : Path) (t : FileTree) (contents : Drafts) : Prop :=
  ∀ e ∈ contents, ∃ l, t.Reaches (directory.join (Path.ofText e.1)).names l ∧ kept l = false

theorem Spares.mono (hext : Extends kept t u) (h : Spares kept directory t contents) :
    Spares kept directory u contents := by
  intro e he
  obtain ⟨l, hreaches, hl⟩ := h e he
  exact ⟨l, hreaches.mono hext, hl⟩

theorem extends_writeTree (h : Spares kept directory t contents) :
    Extends kept t (writeTree limit mode directory t contents) := by
  induction contents generalizing t with
  | nil => exact .refl
  | cons e rest ih =>
    obtain ⟨⟨l, hreaches, hl⟩, hrest⟩ := List.forall_mem_cons.1 h
    have hfirst := Disk.extends_write hreaches hl limit mode e.2
    exact hfirst.trans (ih (Spares.mono hfirst hrest))

/-- The writes on a tree that has grown since the same writes have the same faults, and put files where
the first ones have put them. -/
theorem writeTree_again (mode : WriteMode) (h : Spares kept directory t contents)
    (hext : Extends kept (writeTree none mode directory t contents) u) :
    writeFaults none mode directory u contents = writeFaults none mode directory t contents ∧
      ∃ puts, (writeTree none mode directory u contents).entries = u.entries.putAll puts ∧
        Accounts puts t (writeTree none mode directory t contents) := by
  induction contents generalizing t u with
  | nil => exact ⟨rfl, [], rfl, .nil⟩
  | cons e rest ih =>
    obtain ⟨⟨l, hreaches, hl⟩, hrest⟩ := List.forall_mem_cons.1 h
    have hne : l ≠ [] := by
      obtain ⟨_, parent, n, -, rfl, -⟩ := hreaches
      simp
    have hfirst := Disk.extends_write hreaches hl none mode e.2
    have hrest := Spares.mono hfirst hrest
    have hmade : Extends (fun _ => true) t
        (t.makeDirectories none (directory.join (Path.ofText e.1)).parent.names).1 := extends_makeDirectories _ t _ _
    rw [writeTree] at hext ⊢
    rw [writeTree, writeFaults, writeFaults]
    rcases Disk.write_again hreaches mode e.2 hl ((extends_writeTree hrest).trans hext) with
      ⟨t', u', bytes, hdone, hagain, hput, hput'⟩ | ⟨fault, hdone, hagain⟩
    · rw [hdone] at hrest hext
      rw [hdone, hagain]
      obtain ⟨hfaults, puts, hputs, haccounts⟩ := ih hrest (hext.trans (extends_putFile hl hput'))
      refine ⟨congrArg (none :: ·) hfaults, (l, .file bytes) :: puts, ?_, ?_⟩
      · rw [hputs, entries_putFile hput', Entry.Table.putAll_cons]
      · exact (haccounts.cons hne hput).of_made hmade
    · rw [hdone] at hrest hext
      rw [hdone, hagain]
      obtain ⟨hfaults, puts, hputs, haccounts⟩ := ih hrest hext
      exact ⟨congrArg (some fault :: ·) hfaults, puts, hputs, haccounts.of_made hmade⟩

theorem writeTree_self (h : Spares kept directory t contents) :
    writeTree none mode directory (writeTree none mode directory t contents) contents =
      writeTree none mode directory t contents := by
  obtain ⟨-, puts, hputs, haccounts⟩ := writeTree_again mode h .refl
  exact eq_of_entries (hputs.trans haccounts.putAll_eq)

/-! ### The export -/

theorem tree_writeAll (hend : (x.writeAll t contents).aborted = false) :
    (x.writeAll t contents).tree = writeTree x.limit x.mode x.path t contents := by
  induction contents generalizing x t with
  | nil => rfl
  | cons e rest ih =>
    cases hfirst : (x.write t e.1 e.2).aborted with
    | true =>
      rw [writeAll_aborted hfirst, hfirst] at hend
      cases hend
    | false =>
      obtain ⟨-, htree, haborted⟩ := writeAll_cons rest hfirst
      rw [haborted] at hend
      have hset : (x.write t e.1 e.2).exporter.SetUpAs x := setUpAs_write
      rw [htree, ih hend, hset.limit, hset.mode, hset.path, tree_write]
      rfl

theorem refuse_congr {fault : FileFault} {e : ExportError} :
    x.refuse u fault e = { x.refuse t fault e with tree := (x.refuse u fault e).tree } := by
  unfold refuse
  split <;> rfl

theorem write_congr {artifact : String} {content : Content}
    (h : ((Disk.mk u []).write x.limit x.mode (x.path.join (Path.ofText artifact)) content).2 =
      ((Disk.mk t []).write x.limit x.mode (x.path.join (Path.ofText artifact)) content).2) :
    x.write u artifact content =
      { x.write t artifact content with tree := (x.write u artifact content).tree } := by
  unfold write
  dsimp only
  generalize (Disk.mk u []).write x.limit _ _ _ = again at h ⊢
  generalize (Disk.mk t []).write x.limit _ _ _ = done at h ⊢
  obtain ⟨u', fault⟩ := again
  obtain ⟨t', fault'⟩ := done
  cases h
  cases fault with
  | none => rfl
  | some fault => exact refuse_congr

theorem writeAll_congr
    (h : writeFaults x.limit x.mode x.path u contents = writeFaults x.limit x.mode x.path t contents) :
    x.writeAll u contents = { x.writeAll t contents with tree := (x.writeAll u contents).tree } := by
  induction contents generalizing x t u with
  | nil => rfl
  | cons e rest ih =>
    obtain ⟨hfault, hfaults⟩ := List.cons.inj h
    have hfirst := write_congr hfault
    have hset : (x.write t e.1 e.2).exporter.SetUpAs x := setUpAs_write
    have hrest := ih (x := (x.write t e.1 e.2).exporter) (t := (x.write t e.1 e.2).tree)
      (u := (x.write u e.1 e.2).tree) (by rwa [hset.limit, hset.mode, hset.path, tree_write, tree_write])
    have hsame : (x.write u e.1 e.2).aborted = (x.write t e.1 e.2).aborted := by
      rw [hfirst]
      rfl
    cases hend : (x.write t e.1 e.2).aborted with
    | true =>
      rw [writeAll_aborted hend, writeAll_aborted (hsame.trans hend)]
      exact hfirst
    | false =>
      have hexporter : (x.write u e.1 e.2).exporter = (x.write t e.1 e.2).exporter := by rw [hfirst]
      have hnotices : (x.write u e.1 e.2).notices = (x.write t e.1 e.2).notices := by rw [hfirst]
      rw [writeAll_of_end rest hend, writeAll_of_end rest (hsame.trans hend), hexporter, hnotices]
      dsimp only
      rw [hrest]

theorem writeAll_self (hlimit : x.limit = none) (h : Spares kept x.path t contents)
    (hend : (x.writeAll t contents).aborted = false) :
    x.writeAll (x.writeAll t contents).tree contents = x.writeAll t contents := by
  have htree := tree_writeAll hend
  obtain ⟨hfaults, -⟩ := writeTree_again x.mode h .refl
  rw [hlimit] at htree
  rw [← htree, ← hlimit] at hfaults
  have hsame := writeAll_congr hfaults
  have hend' : (x.writeAll (x.writeAll t contents).tree contents).aborted = false := by
    rw [hsame]
    exact hend
  rw [hsame, tree_writeAll hend', hlimit, htree, writeTree_self h, ← htree]

theorem fill_of_made (h : t.makeDirectories x.limit x.directory = (u, none)) :
    x.fill t contents = x.writeAll u contents := by
  unfold fill
  rw [h]

theorem tree_fill_of_fault {fault : FileFault × List String}
    (h : t.makeDirectories x.limit x.directory = (u, some fault)) : (x.fill t contents).tree = u := by
  unfold fill
  rw [h]
  exact tree_refuse

theorem fill_again (hlimit : x.limit = none) (hdots : ".." ∉ x.directory)
    (hspares : (t.makeDirectories x.limit x.directory).2 = none →
      Spares kept x.path (t.makeDirectories x.limit x.directory).1 contents)
    (hend : (x.fill t contents).aborted = false) :
    Extends kept t (x.fill t contents).tree ∧
      x.fill (x.fill t contents).tree contents = x.fill t contents := by
  have hmade : Extends kept t (t.makeDirectories x.limit x.directory).1 := extends_makeDirectories kept t _ _
  have hagain (u : FileTree) (hext : Extends kept (t.makeDirectories x.limit x.directory).1 u) :
      u.makeDirectories x.limit x.directory = (u, (t.makeDirectories x.limit x.directory).2) := by
    rw [hlimit] at hext ⊢
    exact makeDirectories_again (.of_plain hdots) hext
  cases hmake : t.makeDirectories x.limit x.directory with
  | mk t' fault =>
    rw [hmake] at hspares hmade hagain
    cases fault with
    | none =>
      rw [fill_of_made hmake] at hend ⊢
      have hext : Extends kept t' (x.writeAll t' contents).tree := by
        rw [tree_writeAll hend]
        exact extends_writeTree (hspares rfl)
      exact ⟨hmade.trans hext, by rw [fill_of_made (hagain _ hext), writeAll_self hlimit (hspares rfl) hend]⟩
    | some fault =>
      have htree : (x.fill t contents).tree = t' := tree_fill_of_fault hmake
      rw [htree]
      refine ⟨hmade, ?_⟩
      unfold fill
      rw [hmake, hagain t' .refl]

/-- An export without cleaning, made once more, ends as it did the first time. -/
theorem run_again (hlimit : x.limit = none) (hclean : x.clean = false) (hdots : ".." ∉ x.directory)
    (hspares : x.directoryFault t = none → Spares kept x.path (x.start t) contents)
    (hend : (x.run t contents).aborted = false) :
    Extends kept t (x.run t contents).tree ∧
      x.run (x.run t contents).tree contents = x.run t contents := by
  have hcleaned (t : FileTree) : x.cleaned t = t := by
    unfold cleaned
    rw [hclean, Bool.false_and]
    rfl
  have hlookup (t : FileTree) : x.lookupFault t = none := lookupFault_eq_none fun _ _ _ => by rw [hlimit]; rfl
  obtain ⟨-, htree, haborted⟩ := run_of_lookup contents (hlookup t)
  unfold directoryFault start at hspares
  rw [Option.map_eq_none_iff] at hspares
  rw [hcleaned] at hspares htree haborted
  rw [haborted] at hend
  obtain ⟨hext, hagain⟩ := fill_again hlimit hdots hspares hend
  rw [htree]
  refine ⟨hext, ?_⟩
  unfold run
  rw [hlookup, hlookup, hcleaned, hcleaned, hagain, hclean]
  rfl

end Exporter

end SchemaTypes
