import SchemaTypes.Domain
import SchemaTypes.Proofs.File.Names
import SchemaTypes.Proofs.File.Writing
import SchemaTypes.Proofs.Sorting
import SchemaTypes.Proofs.Text.Case

/-!
# Names of domains

The name of a domain is the last name of a path, or the stem of a file name, in lower case, so it
holds no slash (`slashless_detect`): lower case makes no slash.
-/

namespace SchemaTypes

namespace Text
variable {cs : List Char} {s : String}

theorem Slashless.lowercase (h : Slashless s) : Slashless (lowercase s) := by
  intro hm
  rw [Text.lowercase, String.toList_ofList] at hm
  exact h (mem_of_mem_lower (by decide) hm)

theorem slashless_ofList (h : '/' ∉ cs) : Slashless (String.ofList cs) := by
  rwa [Slashless, String.toList_ofList]

end Text

namespace Path
variable {p : Path} {c : Char} {cs : List Char}

theorem mem_of_mem_cutEnding (h : c ∈ (cutEnding cs).2) : c ∈ cs := by
  unfold cutEnding at h
  rw [List.span_eq_takeWhile_dropWhile] at h
  split at h
  next heq =>
    have hdrop := congrArg Prod.snd heq
    dsimp only at hdrop
    have hsub := (List.dropWhile_sublist (l := cs) fun c => decide (c ≠ '.')).subset
    rw [hdrop] at hsub
    exact hsub (List.mem_cons_of_mem _ h)
  · exact h

theorem slashless_stem (h : Text.Slashless p.name) : Text.Slashless p.stem := by
  refine Text.slashless_ofList fun hm => h ?_
  exact List.mem_reverse.1 (mem_of_mem_cutEnding (List.mem_reverse.1 hm))

end Path

namespace Domain
variable {d : Document} {disk : Disk} {schemaPath : Option String} {x : Domain}

theorem mem_of_mem_withoutEnding {ending cs : List Char} {c : Char} (h : c ∈ withoutEnding ending cs) :
    c ∈ cs := by
  unfold withoutEnding at h
  split at h
  next rest heq =>
    have hcs := Text.dropFront?_eq_some.1 heq
    exact List.mem_reverse.1 (hcs ▸ List.mem_append_right _ (List.mem_reverse.1 h))
  · exact h

theorem slashless_nameOf (file : String) : Text.Slashless (nameOf file) := by
  refine Text.Slashless.lowercase (Text.slashless_ofList fun hm => ?_)
  exact Path.slashless_name file (mem_of_mem_withoutEnding hm)

theorem slashless_fileNames (h : disk.tree.Slashless) (p : Path) :
    ∀ n ∈ disk.fileNames p, Text.Slashless n := by
  intro n hn
  unfold Disk.fileNames at hn
  split at hn
  · cases hn
  next dir _ =>
    obtain ⟨e, he, rfl⟩ := List.mem_map.1 hn
    have hin := FileTree.exists_mem_children.1 ⟨e.2, (List.mem_filter.1 he).1⟩
    obtain ⟨y, hy⟩ := Option.isSome_iff_exists.1 hin
    exact h _ y hy e.1 (by simp)

theorem slashless_beside (h : disk.tree.Slashless) (path : String) (hx : x ∈ beside d disk path) :
    Text.Slashless x.name := by
  obtain ⟨name, hname, rfl⟩ := List.mem_map.1 hx
  obtain ⟨file, hfile, rfl⟩ := List.mem_map.1 (Text.mem_sortedOnce.1 hname)
  refine (Path.slashless_stem ?_).lowercase
  have hfile : file ∈ disk.fileNames (directoryBeside path) := by
    have hsorted := (Text.sortedBy_perm id _).mem_iff.1 hfile
    exact (List.mem_filter.1 hsorted).1
  rw [Path.name, List.getLast?_append, List.getLast?_singleton]
  exact slashless_fileNames h _ file hfile

theorem slashless_detect (h : disk.tree.Slashless) (hx : x ∈ (detect d disk schemaPath).2) :
    Text.Slashless x.name := by
  have hlocations (hx : x ∈ ofLocations d) : Text.Slashless x.name := by
    obtain ⟨name, hname, rfl⟩ := List.mem_map.1 hx
    obtain ⟨file, -, rfl⟩ := List.mem_map.1 (Text.mem_sortedOnce.1 hname)
    exact slashless_nameOf file
  unfold detect at hx
  split at hx
  · split at hx
    next y ys hfiles =>
      obtain ⟨path, -, hpath⟩ := Option.map_eq_some_iff.1 hfiles
      rw [← hpath] at hx
      exact slashless_beside h path hx
    · rw [List.mem_singleton.1 hx]
      show Text.Slashless shared
      decide
  · exact hlocations hx

end Domain

end SchemaTypes
