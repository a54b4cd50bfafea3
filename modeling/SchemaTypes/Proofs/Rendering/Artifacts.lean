import SchemaTypes.Proofs.Domain.Grouping
import SchemaTypes.Proofs.Lookup
import SchemaTypes.Proofs.Rendering.Sites
import SchemaTypes.Proofs.Text.Lines

/-!
# The artifacts of a rendering

Each site has three files, placed in the directory of its domain. No two sites have one domain
(`nodup_domains`), so no two artifacts have one path (`nodup_paths`), and the contents by path are those of
the artifacts, none of them lost (`render_artifacts`).
-/

namespace SchemaTypes

variable {d : Document} {s : Settings} {disk : Disk} {r : Rendering} {ss : List Site}
  {runtimeModule : String}

namespace Site
variable {site site' : Site} {file file' : String}

/-- The names of the files of a site. -/
def fileNames : List String := ["enums.ts", "types.ts", "index.ts"]

theorem map_path_artifacts {as : List Artifact} (h : site.artifacts runtimeModule = .ok as) :
    as.map Artifact.path = fileNames.map (place site.directory) := by
  obtain ⟨t, -, hfiles⟩ := artifacts_eq_ok h
  have hpaths := congrArg (List.map Prod.fst) hfiles
  rw [List.map_map, List.map_map] at hpaths
  exact hpaths

theorem directory_eq_of_place_eq {directory directory' : String}
    (h : place directory file = place directory' file) : directory = directory' := by
  have hlonger (directory : String) : file ≠ directory ++ "/" ++ file := by
    intro heq
    have hlength := congrArg String.length heq
    rw [String.length_append, String.length_append, show "/".length = 1 from rfl] at hlength
    omega
  unfold place at h
  split at h
  next hempty =>
    split at h
    next hempty' => rw [hempty, hempty']
    · exact absurd h (hlonger _)
  · split at h
    · exact absurd h.symm (hlonger _)
    · exact (String.append_left_inj _).1 ((String.append_left_inj _).1 h)

theorem domain_eq_of_directory_eq (h : site.directory = site'.directory) : site.domain = site'.domain := by
  have hne (name : String) : "" ≠ name ++ "/src/generated" := by
    intro heq
    have hlength := congrArg String.length heq
    rw [String.length_append, show "/src/generated".length = 14 from rfl] at hlength
    exact absurd hlength (by simp)
  unfold directory at h
  cases hd : site.domain with
  | none =>
    cases hd' : site'.domain with
    | none => rfl
    | some name' => exact absurd (by rwa [hd, hd'] at h) (hne name')
  | some name =>
    cases hd' : site'.domain with
    | none => exact absurd (by rw [hd, hd'] at h; exact h.symm) (hne name)
    | some name' =>
      rw [hd, hd'] at h
      exact congrArg some ((String.append_left_inj _).1 h)

theorem suffix_place (directory file : String) : file.toList <:+ (place directory file).toList := by
  unfold place
  split
  · exact List.suffix_rfl
  · rw [String.toList_append]
    exact List.suffix_append _ _

/-- Files of two sites, or two files of one, have two paths. -/
theorem eq_of_place_eq (hfile : file ∈ fileNames) (hfile' : file' ∈ fileNames)
    (h : place site.directory file = place site'.directory file') :
    site.domain = site'.domain ∧ file = file' := by
  -- the names of the files are of one length, so both are the same end of the path
  have hlength : ∀ file ∈ fileNames, file.toList.length = 8 := by decide
  have hend : file'.toList <:+ (place site.directory file).toList := by
    rw [h]
    exact suffix_place _ _
  have hsuffix := List.suffix_of_suffix_length_le (suffix_place site.directory file) hend
    (by rw [hlength file hfile, hlength file' hfile'])
  obtain rfl : file = file' :=
    String.toList_inj.1 (hsuffix.eq_of_length (by rw [hlength file hfile, hlength file' hfile']))
  exact ⟨domain_eq_of_directory_eq (directory_eq_of_place_eq h), rfl⟩

/-- The site has these contents by path. -/
def Files (runtimeModule : String) (site : Site) (files : Contents) : Prop :=
  ∃ t, site.scope.typesFile = .ok t ∧
    files = (site.scope.files t runtimeModule).map fun f => (place site.directory f.1, f.2)

end Site

theorem map_path_renderSites (h : renderSites ss runtimeModule = .ok r) :
    r.artifacts.map Artifact.path = ss.flatMap fun s => Site.fileNames.map (Site.place s.directory) := by
  obtain ⟨groups, hgroups, hr⟩ := renderSites_eq_ok h
  rw [hr]
  clear h hr
  induction hgroups with
  | nil => rfl
  | cons has _ ih =>
    rw [List.flatten_cons, List.map_append, List.flatMap_cons, ih, Site.map_path_artifacts has]

theorem exists_files (h : renderSites ss runtimeModule = .ok r) : ∃ groups,
    List.Forall₂ (Site.Files runtimeModule) ss groups ∧
      r.artifacts.map (fun a => (a.path, a.content)) = groups.flatten := by
  obtain ⟨groups, hgroups, hr⟩ := renderSites_eq_ok h
  refine ⟨groups.map fun as => as.map fun a => (a.path, a.content), ?_, ?_⟩
  · exact List.forall₂_map_right_iff.2 (hgroups.imp fun site as has => Site.artifacts_eq_ok has)
  · rw [hr, List.map_flatten]

theorem domain_sites (h : sites d s disk = .ok ss) : ss.map Site.domain =
    if s.multiFileDomains then (Domain.detect d disk s.schemaPath).2.map fun x => some x.name
    else [none] := by
  unfold sites at h
  split at h
  next hm =>
    obtain ⟨ts, -, h⟩ := Traversal.bind_eq_ok_iff.1 h
    cases h
    rw [if_pos hm, List.map_map]
    rfl
  next hm =>
    obtain ⟨scope, -, h⟩ := Traversal.map_eq_ok_iff.1 h
    rw [← h, if_neg hm]
    rfl

theorem exists_domain_iff {name : String} (h : sites d s disk = .ok ss) : (∃ site ∈ ss, site.domain = some name) ↔
    s.multiFileDomains ∧ ∃ x ∈ (Domain.detect d disk s.schemaPath).2, x.name = name := by
  rw [← List.mem_map, domain_sites h]
  split
  next hm => simp [hm]
  next hm => simp [hm]

theorem nodup_domains (h : sites d s disk = .ok ss) : (ss.map Site.domain).Nodup := by
  rw [domain_sites h]
  split
  · have hn : ((Domain.detect d disk s.schemaPath).2.map Domain.name).Nodup := Domain.nodup_names_detect
    have hn := hn.map fun _ _ => Option.some.inj
    rwa [List.map_map] at hn
  · exact List.nodup_singleton none

theorem nodup_paths (h : render d s disk = .ok r) : (r.artifacts.map Artifact.path).Nodup := by
  obtain ⟨ss, hss, hr⟩ := Traversal.bind_eq_ok_iff.1 h
  rw [map_path_renderSites hr, List.nodup_flatMap]
  constructor
  · intro site _
    have hfiles : Site.fileNames.Nodup := by decide
    refine hfiles.map_on fun file hfile file' hfile' heq => ?_
    have heq : Site.place site.directory file = Site.place site.directory file' := heq
    exact (Site.eq_of_place_eq hfile hfile' heq).2
  · refine (List.pairwise_map.1 (nodup_domains hss)).imp fun {site site'} hne path hpath hpath' => ?_
    obtain ⟨file, hfile, rfl⟩ := List.mem_map.1 hpath
    obtain ⟨file', hfile', heq⟩ := List.mem_map.1 hpath'
    exact hne (Site.eq_of_place_eq hfile hfile' heq.symm).1

/-- The contents are those of the artifacts, in order. -/
theorem contents_eq (h : render d s disk = .ok r) :
    r.contents = r.artifacts.map fun a => (a.path, a.content) := by
  refine Keyed.ofList_of_nodup ?_
  rw [List.map_map]
  exact nodup_paths h

/-- The artifacts are the files of the sites, in order, and the contents by path have all of them. -/
theorem render_artifacts (h : render d s disk = .ok r) :
    (∃ ss groups, sites d s disk = .ok ss ∧ List.Forall₂ (Site.Files s.runtimeModule) ss groups ∧
        r.artifacts.map (fun a => (a.path, a.content)) = groups.flatten) ∧
      (r.artifacts.map Artifact.path).Nodup ∧
      r.contents = r.artifacts.map (fun a => (a.path, a.content)) ∧
      r.contents.length = r.fileCount ∧
      (r.contents.map fun e => Text.lineCount e.2).foldr (· + ·) 0 = r.lineCount := by
  have hcontents := contents_eq h
  refine ⟨?_, nodup_paths h, hcontents, ?_, ?_⟩
  · obtain ⟨ss, hss, hr⟩ := Traversal.bind_eq_ok_iff.1 h
    obtain ⟨groups, hgroups, hfiles⟩ := exists_files hr
    exact ⟨ss, groups, hss, hgroups, hfiles⟩
  · rw [hcontents, List.length_map]
    rfl
  · rw [hcontents, List.map_map, Rendering.lineCount]
    exact congrArg (List.foldr _ 0) (List.map_congr_left fun a _ => a.lineCount_eq.symm)

/-- Two locations whose domains have one name make one domain, with one set of files. -/
theorem render_artifacts_notes :
    let id : Field := { name := "id", kind := .string, isId := true }
    let note : Model := { name := "Note", location := some "Notes.prisma", fields := [id] }
    let draft : Model := { name := "_Draft", location := some "notes.prisma" }
    let d : Document := { models := [note, draft] }
    let s : Settings := { multiFileDomains := true }
    ∃ r, render d s {} = .ok r ∧ r.contents.length = r.fileCount ∧ r.contents.names =
      ["notes/src/generated/enums.ts", "notes/src/generated/types.ts", "notes/src/generated/index.ts"] := by
  intro id note draft d s
  have hnames : (render d s {}).toOption.map (fun r => r.contents.names) = some
      ["notes/src/generated/enums.ts", "notes/src/generated/types.ts", "notes/src/generated/index.ts"] := by
    decide +kernel
  cases hrender : render d s {} with
  | error x =>
    rw [hrender] at hnames
    cases hnames
  | ok r =>
    rw [hrender] at hnames
    exact ⟨r, rfl, (render_artifacts hrender).2.2.2.1, Option.some.inj hnames⟩

end SchemaTypes
