import SchemaTypes.Proofs.File.Replacement

/-!
# Writing a file again

A path that ends in a name leads to a location, also where the directories above it are still missing
(`Reaches`). A write along it makes these directories and puts a file, or has a fault and puts none
(`Disk.write_cases`). On a tree that has grown since, the same write has the same fault, or puts the
file once more and makes nothing (`Disk.write_again`), where names of every length are taken.
-/

namespace SchemaTypes

namespace FileTree

variable {t u : FileTree} {limit : NameLimit} {names : List String} {l : Location} {kept : Location → Bool}

/-- The names lead to the location, and end in the name that it has there. -/
def Reaches (t : FileTree) (names : List String) (l : Location) : Prop :=
  ∃ above parent n, names = above ++ [n] ∧ l = parent ++ [n] ∧ n ≠ ".." ∧ t.Leads above parent

theorem Reaches.mono (hext : Extends kept t u) (h : t.Reaches names l) : u.Reaches names l := by
  obtain ⟨above, parent, n, hnames, hl, hn, hleads⟩ := h
  exact ⟨above, parent, n, hnames, hl, hn, hleads.mono hext⟩

theorem Reaches.target_eq_ok (h : t.Reaches names l) {place : Option Location}
    (htarget : t.target limit names = .ok place) : place = some l := by
  obtain ⟨above, parent, n, rfl, rfl, hn, hleads⟩ := h
  have hnul : ¬ HoldsNul (above ++ [n]) := by
    intro hnul
    rw [target_eq_nul_iff.2 hnul] at htarget
    cases htarget
  rw [target_concat hnul] at htarget
  obtain ⟨dir, hwalk, hplace⟩ := Traversal.bind_eq_ok_iff.1 htarget
  rw [(hleads.walk_eq_ok hwalk).1, FileTree.place, if_neg hn] at hplace
  split at hplace
  · cases hplace
  · exact (Except.ok.inj hplace).symm

/-- Names whose directories are there have a target, but for the character NUL. -/
theorem Reaches.target (h : t.Reaches names l) (hparent : t.stat names.dropLast = some .directory)
    (hnul : ¬ HoldsNul names) : t.target none names = .ok (some l) ∧ t.get? l.dropLast = some .directory := by
  obtain ⟨above, parent, n, rfl, rfl, hn, hleads⟩ := h
  rw [List.dropLast_concat] at hparent ⊢
  obtain ⟨-, l', hwalk⟩ := stat_eq_directory_iff.1 hparent
  have hdir := (hleads.walk_eq_ok hwalk).2
  exact ⟨hleads.target hdir hn hnul fun _ => rfl, hdir⟩

end FileTree

namespace Disk
open FileTree

variable {t u : FileTree} {limit : NameLimit} {p : Path} {l : Location} {kept : Location → Bool}

theorem writeInto_of_place (mode : WriteMode) (bytes : List UInt8)
    (htarget : t.target limit p.names = .ok (some l)) : (Disk.mk t []).writeInto limit mode p bytes =
      if mode = .plain ∨ limit.allows (mode.given p.name) then t.settled (t.putFile l bytes)
      else (t, some .nameTooLong) := by
  obtain ⟨-, above, n, dir, hnames, -⟩ := target_eq_some htarget
  exact writeInto_of_target (Disk.mk t []) mode bytes (by simp [hnames]) (by rwa [trail_nil])

theorem writeInto_of_error (mode : WriteMode) (bytes : List UInt8) {fault : FileFault}
    (htarget : t.target limit p.names = .error fault) :
    (Disk.mk t []).writeInto limit mode p bytes = (t, some fault) := by
  have hne : p.names ≠ [] := by
    intro hnil
    rw [hnil] at htarget
    cases htarget
  unfold writeInto
  dsimp only
  rw [trail_nil, if_neg hne, htarget]

theorem writeInto_cases (h : t.Reaches p.names l) (mode : WriteMode) (bytes : List UInt8) :
    (∃ t', (Disk.mk t []).writeInto limit mode p bytes = (t', none) ∧ t.putFile l bytes = .ok t') ∨
      ∃ fault, (Disk.mk t []).writeInto limit mode p bytes = (t, some fault) := by
  cases htarget : t.target limit p.names with
  | error fault => exact .inr ⟨fault, writeInto_of_error mode bytes htarget⟩
  | ok place =>
    rw [h.target_eq_ok htarget] at htarget
    rw [writeInto_of_place mode bytes htarget]
    split
    · cases hdone : t.putFile l bytes with
      | error fault => exact .inr ⟨fault, rfl⟩
      | ok t' => exact .inl ⟨t', rfl, rfl⟩
    · exact .inr ⟨_, rfl⟩

/-- A write makes directories, and then puts a file or has a fault. -/
theorem write_cases (h : t.Reaches p.names l) (limit : NameLimit) (mode : WriteMode) (content : Content) :
    let made := (t.makeDirectories limit p.parent.names).1
    (∃ t' bytes, (Disk.mk t []).write limit mode p content = (t', none) ∧
        made.putFile l bytes = .ok t') ∨
      ∃ fault, (Disk.mk t []).write limit mode p content = (made, some fault) := by
  have hmade := h.mono (extends_makeDirectories (fun _ => true) t limit p.parent.names)
  unfold write
  dsimp only
  rw [trail_nil]
  generalize t.makeDirectories limit p.parent.names = made at hmade ⊢
  obtain ⟨t', fault⟩ := made
  cases fault with
  | some fault => exact .inr ⟨fault.1, rfl⟩
  | none =>
    cases content.encode? with
    | none => exact .inr ⟨_, rfl⟩
    | some bytes => exact (writeInto_cases hmade mode bytes).imp_left fun ⟨t', hdone⟩ => ⟨t', bytes, hdone⟩

theorem extends_write (h : t.Reaches p.names l) (hl : kept l = false) (limit : NameLimit) (mode : WriteMode)
    (content : Content) : Extends kept t ((Disk.mk t []).write limit mode p content).1 := by
  have hmade : Extends kept t (t.makeDirectories limit p.parent.names).1 := extends_makeDirectories kept t _ _
  rcases write_cases h limit mode content with ⟨t', bytes, hdone, hput⟩ | ⟨fault, hdone⟩
  · rw [hdone]
    exact hmade.trans (extends_putFile hl hput)
  · rw [hdone]
    exact hmade

theorem writeInto_again (h : t.Reaches p.names l) (hparent : t.stat p.parent.names = some .directory)
    (mode : WriteMode) (bytes : List UInt8)
    (hbefore : Extends kept t u) (hext : Extends kept ((Disk.mk t []).writeInto none mode p bytes).1 u) :
    (∃ t' u', (Disk.mk t []).writeInto none mode p bytes = (t', none) ∧
        (Disk.mk u []).writeInto none mode p bytes = (u', none) ∧
        t.putFile l bytes = .ok t' ∧ u.putFile l bytes = .ok u') ∨
      ∃ fault, (Disk.mk t []).writeInto none mode p bytes = (t, some fault) ∧
        (Disk.mk u []).writeInto none mode p bytes = (u, some fault) := by
  by_cases hnul : HoldsNul p.names
  · exact .inr ⟨.nul, writeInto_of_error mode bytes (target_eq_nul_iff.2 hnul),
      writeInto_of_error mode bytes (target_eq_nul_iff.2 hnul)⟩
  · have hparent' : u.stat p.parent.names = some .directory := by
      obtain ⟨hnul, dir, hwalk⟩ := stat_eq_directory_iff.1 hparent
      exact stat_eq_directory_iff.2 ⟨hnul, dir, hbefore.walk_eq_ok hwalk⟩
    obtain ⟨htarget, hdir⟩ := h.target hparent hnul
    obtain ⟨htarget', hdir'⟩ := (h.mono hbefore).target hparent' hnul
    rw [writeInto_of_place mode bytes htarget, if_pos (.inr rfl)] at hext ⊢
    rw [writeInto_of_place mode bytes htarget', if_pos (.inr rfl)]
    by_cases hbusy : t.get? l = some .directory
    · rw [putFile_of_directory hbusy, putFile_of_directory (hbefore.directory hbusy)]
      exact .inr ⟨.isDirectory, rfl, rfl⟩
    · obtain ⟨t', hput⟩ := exists_putFile_eq_ok bytes hdir hbusy
      rw [hput] at hext ⊢
      have hfile : u.isFile l := hext.file (isFile_iff.2 ⟨bytes, by rw [settled, putFile_eq_ok hput, if_pos rfl]⟩)
      obtain ⟨u', hput'⟩ := exists_putFile_eq_ok bytes hdir' fun hbusy' =>
        not_isFile_of_directory hbusy' hfile
      rw [hput']
      exact .inl ⟨t', u', rfl, rfl, rfl, rfl⟩

/-- A write on a tree that has grown since the same write: the directories are there, and the file is
put again, or the fault is the same. -/
theorem write_again (h : t.Reaches p.names l) (mode : WriteMode) (content : Content)
    (hl : kept l = false) (hext : Extends kept ((Disk.mk t []).write none mode p content).1 u) :
    let made := (t.makeDirectories none p.parent.names).1
    (∃ t' u' bytes, (Disk.mk t []).write none mode p content = (t', none) ∧
        (Disk.mk u []).write none mode p content = (u', none) ∧
        made.putFile l bytes = .ok t' ∧ u.putFile l bytes = .ok u') ∨
      ∃ fault, (Disk.mk t []).write none mode p content = (made, some fault) ∧
        (Disk.mk u []).write none mode p content = (u, some fault) := by
  have hleads : ∃ parent, t.Leads p.parent.names parent := by
    obtain ⟨above, parent, n, hnames, -, -, hleads⟩ := h
    refine ⟨parent, ?_⟩
    rwa [Path.parent, hnames, List.dropLast_concat]
  obtain ⟨parent, hleads⟩ := hleads
  have hbefore : Extends kept (t.makeDirectories none p.parent.names).1 u := by
    refine Extends.trans ?_ hext
    rcases write_cases h none mode content with ⟨t', bytes, hdone, hput⟩ | ⟨fault, hdone⟩
    · rw [hdone]
      exact extends_putFile hl hput
    · rw [hdone]
      exact .refl
  have hagain := makeDirectories_again hleads hbefore
  have hmade := h.mono (extends_makeDirectories kept t none p.parent.names)
  have hstat : (t.makeDirectories none p.parent.names).2 = none →
      (t.makeDirectories none p.parent.names).1.stat p.parent.names = some .directory := stat_of_makeDirectories
  unfold write at hext ⊢
  dsimp only at hext ⊢
  rw [trail_nil] at hext ⊢
  rw [trail_nil, hagain]
  generalize t.makeDirectories none p.parent.names = made at hbefore hmade hstat hext ⊢
  obtain ⟨t', fault⟩ := made
  cases fault with
  | some fault => exact .inr ⟨fault.1, rfl, rfl⟩
  | none =>
    dsimp only at hext ⊢
    cases hbytes : content.encode? with
    | none => exact .inr ⟨_, rfl, rfl⟩
    | some bytes =>
      rw [hbytes] at hext
      exact (writeInto_again hmade (hstat rfl) mode bytes hbefore hext).imp_left
        fun ⟨t', u', hdone⟩ => ⟨t', u', bytes, hdone⟩

end Disk

end SchemaTypes
