import SchemaTypes.Proofs.Domain.Names
import SchemaTypes.Proofs.Export
import SchemaTypes.Proofs.Rendering.Artifacts

/-!
# Where artifacts go

The path of an artifact is the name of its domain, two fixed names and the name of one of three files.
As the name of a domain holds no slash, it is one name of the path, unless it is empty or a point
(`Site.ofText_place`): an empty name makes the path start at the root, and the name `..` makes it go
up. All other paths descend (`render_descends_iff`), and no two of them lead to one location
(`nodup_locationsIn`).
-/

namespace SchemaTypes

variable {d : Document} {s : Settings} {disk : Disk} {r : Rendering}

namespace Site
variable {site site' : Site} {file runtimeModule : String}

/-- The names that lead to the directory of a site. -/
def names (s : Site) : List String :=
  match s.domain with
  | none => []
  | some name => (if name = "" ∨ name = "." then [] else [name]) ++ ["src", "generated"]

theorem ofText_place (hsite : ∀ name ∈ site.domain, Text.Slashless name) (hfile : Text.Slashless file)
    (hne : file ≠ "") (hdot : file ≠ ".") : Path.ofText (place site.directory file) =
      ⟨if site.domain = some "" then .slash else .none, site.names ++ [file]⟩ := by
  have hone : Path.ofText file = ⟨.none, [file]⟩ := Path.ofText_of_slashless hfile hne hdot
  cases hd : site.domain with
  | none =>
    have hplace : place site.directory file = file := by
      rw [place, directory, hd]
      exact if_pos rfl
    rw [hplace, hone, names, hd]
    rfl
  | some name =>
    have hname : Text.Slashless name := hsite name hd
    have hplace : place site.directory file =
        name ++ ("/" ++ ("src" ++ ("/" ++ ("generated" ++ ("/" ++ file))))) := by
      rw [place, directory, hd]
      refine String.toList_inj.1 ?_
      simp
    have hbelow : Path.ofText ("src" ++ ("/" ++ ("generated" ++ ("/" ++ file)))) =
        ⟨.none, ["src", "generated", file]⟩ := by
      rw [Path.ofText_append (by decide) (by decide), Path.ofText_append (by decide) (by decide), hone]
      rfl
    rw [hplace, names, hd]
    by_cases hempty : name = ""
    · rw [hempty, String.empty_append, Path.ofText_slash (by rw [hbelow]), hbelow]
      rfl
    · rw [Path.ofText_append hname hempty, hbelow]
      simp [hempty]

theorem fileNames_proper :
    ∀ file ∈ fileNames, Text.Slashless file ∧ file ≠ "" ∧ file ≠ "." ∧ file ≠ ".." := by
  decide

/-- The files of a site have paths that descend, unless the domain is named so that the path starts at
the root or goes up. -/
theorem descends_place_iff (hsite : ∀ name ∈ site.domain, Text.Slashless name)
    (hfile : file ∈ fileNames) : (Path.ofText (place site.directory file)).Descends ↔
    ∀ name ∈ site.domain, name ≠ "" ∧ name ≠ ".." := by
  obtain ⟨hslash, hne, hdot, hdots⟩ := fileNames_proper file hfile
  rw [ofText_place hsite hslash hne hdot, Path.Descends, names]
  cases site.domain with
  | none => simpa using hdots.symm
  | some name =>
    by_cases hempty : name = ""
    · simp [hempty]
    · by_cases hpoint : name = "."
      · simp [hpoint, hdots.symm]
      · simp [hempty, hpoint, hdots.symm, eq_comm]

end Site

section Sites
variable {ss : List Site} {name : String}

theorem slashless_domain (htree : disk.tree.Slashless) (h : sites d s disk = .ok ss) :
    ∀ site ∈ ss, ∀ name ∈ site.domain, Text.Slashless name := by
  intro site hsite name hname
  obtain ⟨-, x, hx, rfl⟩ := (exists_domain_iff h).1 ⟨site, hsite, hname⟩
  exact Domain.slashless_detect htree hx

end Sites

/-- The paths of a rendering descend if and only if no domain has an empty name or the name `..`. -/
theorem render_descends_iff (htree : disk.tree.Slashless) (h : render d s disk = .ok r) :
    (∀ a ∈ r.artifacts, (Path.ofText a.path).Descends) ↔
      (s.multiFileDomains →
        ∀ x ∈ (Domain.detect d disk s.schemaPath).2, x.name ≠ "" ∧ x.name ≠ "..") := by
  obtain ⟨ss, hss, hr⟩ := Traversal.bind_eq_ok_iff.1 h
  have hslash := slashless_domain htree hss
  have hpaths : (∀ a ∈ r.artifacts, (Path.ofText a.path).Descends) ↔
      ∀ site ∈ ss, ∀ name ∈ site.domain, name ≠ "" ∧ name ≠ ".." := by
    have hmem : ∀ p, (∃ a ∈ r.artifacts, a.path = p) ↔
        ∃ site ∈ ss, ∃ file ∈ Site.fileNames, Site.place site.directory file = p := by
      intro p
      rw [← List.mem_map, map_path_renderSites hr]
      simp only [List.mem_flatMap, List.mem_map]
    constructor
    · intro hall site hsite
      obtain ⟨a, ha, hpath⟩ := (hmem _).2 ⟨site, hsite, "enums.ts", by decide, rfl⟩
      exact (Site.descends_place_iff (hslash site hsite) (by decide)).1 (hpath ▸ hall a ha)
    · intro hall a ha
      obtain ⟨site, hsite, file, hfile, hpath⟩ := (hmem _).1 ⟨a, ha, rfl⟩
      rw [← hpath]
      exact (Site.descends_place_iff (hslash site hsite) hfile).2 (hall site hsite)
  rw [hpaths]
  constructor
  · intro hall hm x hx
    obtain ⟨site, hsite, hdomain⟩ := (exists_domain_iff hss).2 ⟨hm, x, hx, rfl⟩
    exact hall site hsite x.name hdomain
  · intro hall site hsite name hname
    obtain ⟨hm, x, hx, rfl⟩ := (exists_domain_iff hss).1 ⟨site, hsite, hname⟩
    exact hall hm x hx

theorem Site.domain_eq_of_names_eq {site site' : Site} (h : ∀ name ∈ site.domain, name ≠ "")
    (h' : ∀ name ∈ site'.domain, name ≠ "") (heq : site.names = site'.names) :
    site.domain = site'.domain := by
  unfold names at heq
  cases hd : site.domain with
  | none =>
    cases hd' : site'.domain with
    | none => rfl
    | some name' => simp [hd, hd'] at heq
  | some name =>
    cases hd' : site'.domain with
    | none => simp [hd, hd'] at heq
    | some name' =>
      have hne : name ≠ "" := h name hd
      have hne' : name' ≠ "" := h' name' hd'
      rw [hd, hd'] at heq
      have hfront := List.append_cancel_right heq
      simp only [hne, hne', false_or] at hfront
      by_cases hpoint : name = "."
      · by_cases hpoint' : name' = "."
        · rw [hpoint, hpoint']
        · rw [if_pos hpoint, if_neg hpoint'] at hfront
          cases hfront
      · by_cases hpoint' : name' = "."
        · rw [if_neg hpoint, if_pos hpoint'] at hfront
          cases hfront
        · rw [if_neg hpoint, if_neg hpoint'] at hfront
          rw [List.singleton_inj.1 hfront]

theorem map_locationIn_paths {ss : List Site} {runtimeModule : String} {directory : Location}
    (hslash : ∀ site ∈ ss, ∀ name ∈ site.domain, Text.Slashless name)
    (h : renderSites ss runtimeModule = .ok r) :
    (r.artifacts.map Artifact.path).map (locationIn directory) =
      ss.flatMap fun site => Site.fileNames.map fun file => directory ++ (site.names ++ [file]) := by
  rw [map_path_renderSites h, List.map_flatMap]
  refine List.flatMap_congr fun site hsite => ?_
  rw [List.map_map]
  refine List.map_congr_left fun file hfile => ?_
  obtain ⟨hf, hne, hdot, -⟩ := Site.fileNames_proper file hfile
  show directory ++ (Path.ofText _).names = _
  rw [Site.ofText_place (hslash site hsite) hf hne hdot]

theorem contents_descend (h : render d s disk = .ok r)
    (hpaths : ∀ a ∈ r.artifacts, (Path.ofText a.path).Descends) :
    ∀ e ∈ r.contents, (Path.ofText e.1).Descends := by
  intro e he
  rw [contents_eq h] at he
  obtain ⟨a, ha, rfl⟩ := List.mem_map.1 he
  exact hpaths a ha

section Locations
variable (htree : disk.tree.Slashless) (h : render d s disk = .ok r)
  (hpaths : ∀ a ∈ r.artifacts, (Path.ofText a.path).Descends)
include htree h hpaths

theorem nodup_locations (directory : Location) :
    ((r.artifacts.map Artifact.path).map (locationIn directory)).Nodup := by
  have hnames := (render_descends_iff htree h).1 hpaths
  obtain ⟨ss, hss, hr⟩ := Traversal.bind_eq_ok_iff.1 h
  have hslash := slashless_domain htree hss
  have hproper : ∀ site ∈ ss, ∀ name ∈ site.domain, name ≠ "" := by
    intro site hsite name hname
    obtain ⟨hm, x, hx, rfl⟩ := (exists_domain_iff hss).1 ⟨site, hsite, hname⟩
    exact (hnames hm x hx).1
  rw [map_locationIn_paths hslash hr, List.nodup_flatMap]
  constructor
  · intro site _
    refine List.Nodup.map (fun file file' heq => ?_) (by decide)
    simpa using heq
  · -- the files of two sites are in two directories
    refine (List.pairwise_map.1 (nodup_domains hss)).imp_of_mem fun {site site'} hsite hsite' hne => ?_
    intro l hl hl'
    obtain ⟨file, -, rfl⟩ := List.mem_map.1 hl
    obtain ⟨file', -, heq⟩ := List.mem_map.1 hl'
    have heq := (List.append_inj' (List.append_cancel_left heq) rfl).1
    exact hne (Site.domain_eq_of_names_eq (hproper site hsite) (hproper site' hsite') heq.symm)

theorem nodup_locationsIn (directory : Location) : (locationsIn directory r.contents).Nodup := by
  have hn := nodup_locations htree h hpaths directory
  rw [locationsIn, contents_eq h, List.map_map]
  rwa [List.map_map] at hn

end Locations

end SchemaTypes
