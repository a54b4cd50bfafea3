import SchemaTypes.Proofs.Domain.Grouping
import SchemaTypes.Proofs.File.Directories

/-!
# Domains in a tree that has grown

The domains depend on the file tree through the schema files beside the main one. In a tree that has
grown by directories and other files they are the same as before (`detect_congr`), as long as the way to
the schema files is the same. It may go up: with a path such as `out/../schemas` there are no schema
files before there is a directory `out` (`GoesUpAlike`).
-/

namespace SchemaTypes

namespace FileTree

variable {t u : FileTree} {names : List String} {dir : Location} {kept : Location → Bool}

/-- Where the names can be followed in `u` up to a `..`, they can be followed in `t`. -/
def GoesUpAlike (t u : FileTree) (names : List String) : Prop :=
  ∀ above below l, names = above ++ ".." :: below → u.walk none [] above = .ok l → t.walk none [] above = .ok l

/-- Behind the last `..` the names go down, from a directory that was there before. -/
theorem GoesUpAlike.leads (h : GoesUpAlike t u names) (hwalk : u.walk none [] names = .ok dir) :
    ∃ l, t.Leads names l := by
  by_cases hdots : ".." ∈ names
  · obtain ⟨below, above, hnames, hlast⟩ := List.eq_append_cons_of_mem (List.mem_reverse.2 hdots)
    have hnames : names = above.reverse ++ ".." :: below.reverse := by
      rw [← List.reverse_inj, hnames]
      simp
    rw [hnames, walk_append] at hwalk
    obtain ⟨l, habove, -⟩ := Traversal.bind_eq_ok_iff.1 hwalk
    refine ⟨l.dropLast ++ below.reverse, above.reverse ++ [".."], below.reverse, l.dropLast, ?_, ?_, ?_, rfl⟩
    · rw [hnames, List.append_cons]
    · rwa [List.mem_reverse]
    · rw [walk_append, h _ _ _ hnames habove]
      rfl
  · exact ⟨names, .of_plain hdots⟩

theorem filter_children (hext : Extends kept t u) {q : String → Bool} (hq : ∀ n, q n → kept (dir ++ [n])) :
    (((u.children dir).filter fun e => !e.2.isDirectory).map Prod.fst).filter q =
      (((t.children dir).filter fun e => !e.2.isDirectory).map Prod.fst).filter q := by
  -- only the entries that are kept count
  have hkept (t : FileTree) : (((t.children dir).filter fun e => !e.2.isDirectory).map Prod.fst).filter q =
      (t.entries.filter (keptFile kept)).filterMap fun e =>
        (((if e.1.dropLast = dir then e.1.getLast?.map fun n => (n, e.2) else none).filter
          fun e => !e.2.isDirectory).map Prod.fst).filter q := by
    rw [children, List.filter_filterMap, List.map_filterMap, List.filter_filterMap, List.filterMap_filter]
    refine List.filterMap_congr fun e _ => ?_
    by_cases hfile : keptFile kept e
    · rw [if_pos hfile]
    · rw [if_neg hfile]
      cases hname : Option.filter q _ with
      | none => rfl
      | some n =>
        obtain ⟨hn, hqn⟩ := Option.filter_eq_some_iff.1 hname
        obtain ⟨⟨n', x⟩, hx, rfl⟩ := Option.map_eq_some_iff.1 hn
        obtain ⟨hx, hfile'⟩ := Option.filter_eq_some_iff.1 hx
        split at hx
        next hdir =>
          obtain ⟨m, hm, hx⟩ := Option.map_eq_some_iff.1 hx
          cases hx
          have hl : e.1 = dir ++ [n'] := by
            rw [← hdir]
            exact (List.dropLast_append_getLast? n' hm).symm
          exact absurd (by rw [keptFile, hl, hq n' hqn, hfile']; rfl) hfile
        · cases hx
  rw [hkept, hkept, hext.entries]

end FileTree

theorem FileTree.GoesUpAlike.of_plain {t u : FileTree} {names : List String} (hdots : ".." ∉ names) :
    FileTree.GoesUpAlike t u names := by
  rintro above below l rfl
  exact absurd (List.mem_append_right above List.mem_cons_self) hdots

theorem Disk.filter_fileNames {t u : FileTree} {kept : Location → Bool} {cwd : Location} {p : Path}
    (hext : FileTree.Extends kept t u) (hup : FileTree.GoesUpAlike t u ((Disk.mk t cwd).trail p))
    {q : String → Bool} (hq : ∀ dir n, q n → kept (dir ++ [n])) :
    ((Disk.mk u cwd).fileNames p).filter q = ((Disk.mk t cwd).fileNames p).filter q := by
  have htrail : (Disk.mk u cwd).trail p = (Disk.mk t cwd).trail p := rfl
  unfold fileNames
  rw [htrail]
  generalize (Disk.mk t cwd).trail p = names at hup ⊢
  cases ht : t.walk none [] names with
  | ok dir =>
    have hu : u.walk none [] names = .ok dir := hext.walk_eq_ok ht
    simp only [hu]
    exact FileTree.filter_children hext (hq dir)
  | error fault =>
    cases hu : u.walk none [] names with
    | error fault' => rfl
    | ok dir =>
      rw [List.filter_nil, FileTree.filter_children hext (hq dir), List.filter_eq_nil_iff]
      intro n hn hqn
      -- a file that was there before has its directory, and the names led to it
      obtain ⟨e, he, rfl⟩ := List.mem_map.1 hn
      have hsome := FileTree.exists_mem_children.1 ⟨e.2, (List.mem_filter.1 he).1⟩
      obtain ⟨x, hx⟩ := Option.isSome_iff_exists.1 hsome
      have hdir := FileTree.parent_isDirectory hx
      rw [List.dropLast_concat] at hdir
      obtain ⟨l, hleads⟩ := hup.leads hu
      obtain ⟨rfl, -⟩ := (hleads.mono hext).walk_eq_ok hu
      rw [hleads.walk_of_directory hdir] at ht
      cases ht

namespace Domain
variable {d : Document} {disk : Disk} {u : FileTree} {schemaPath : Option String}

/-- The last name has the ending of schema files. -/
def isSchema (l : Location) : Bool := (Path.mk .none l).ending = schemaEnding

theorem isSchema_concat (root : Path.Root) (names : List String) (dir : Location) (n : String) :
    isSchema (dir ++ [n]) = decide ((Path.mk root (names ++ [n])).ending = schemaEnding) := by
  unfold isSchema Path.ending Path.name
  rw [List.getLast?_concat, List.getLast?_concat]

theorem ofFiles_congr {directory : Path} {files files' : List String}
    (h : files.filter (fun f =>
        ({ directory with names := directory.names ++ [f] } : Path).ending = schemaEnding) =
      files'.filter fun f =>
        ({ directory with names := directory.names ++ [f] } : Path).ending = schemaEnding) :
    ofFiles d directory files = ofFiles d directory files' := by
  unfold ofFiles
  dsimp only
  rw [h]

/-- Without new schema files, and with the same way to them, a tree that has grown has the domains that
it had before. -/
theorem detect_congr (hext : FileTree.Extends isSchema disk.tree u)
    (hup : (∀ m ∈ d.models, ¬ m.Located) → ∀ p ∈ schemaPath,
      FileTree.GoesUpAlike disk.tree u (disk.trail (directoryBeside p))) :
    detect d { disk with tree := u } schemaPath = detect d disk schemaPath := by
  unfold detect
  cases hlocations : ofLocations d with
  | cons x xs => rfl
  | nil =>
    have hup := hup (ofLocations_eq_nil.1 hlocations)
    cases hpath : schemaPath.filter (· ≠ "") with
    | none => rfl
    | some p =>
      have hbeside : beside d { disk with tree := u } p = beside d disk p :=
        ofFiles_congr <| Disk.filter_fileNames hext (hup p (Option.filter_eq_some_iff.1 hpath).1)
          fun dir n hn => (isSchema_concat _ _ dir n).trans hn
      dsimp only [Option.map_some]
      rw [hbeside]

end Domain

end SchemaTypes
