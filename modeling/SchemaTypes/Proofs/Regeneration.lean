import SchemaTypes.Proofs.Domain.Stability
import SchemaTypes.Proofs.Generation
import SchemaTypes.Proofs.Reexport

/-!
# Generating again

A run without cleaning finds the same domains when it is made once more, and so the same artifacts: the
first run has added directories, and no schema files. And it exports them as the first time. So it ends
as the first run, with the same report, the same tree and the same notices (`generate_again`), whatever
has failed in the first run. The exception are directories that the first run has made and from which
the path of the schema goes up: then there may be schema files beside it that were not there before
(`generate_not_again`).
-/

namespace SchemaTypes
open FileTree

variable {d : Document} {s : Settings} {mode : WriteMode} {disk disk' : Disk} {r : Rendering}
  {report : Report}

/-! ### The locations of the artifacts -/

namespace Site
variable {site : Site} {file : String} {t : FileTree} {directory : Location}

/-- A file of a site has a location, also where the path goes up from the output directory. -/
theorem reaches (hdots : ".." ∉ directory) (hdir : t.get? directory = some .directory)
    (hsite : ∀ name ∈ site.domain, Text.Slashless name) (hfile : file ∈ fileNames) :
    ∃ parent, t.Reaches ((Path.mk .slash directory).join (Path.ofText (place site.directory file))).names
      (parent ++ [file]) := by
  obtain ⟨hslash, hne, hdot, hup⟩ := fileNames_proper file hfile
  suffices h : ∃ above parent,
      ((Path.mk .slash directory).join (Path.ofText (place site.directory file))).names = above ++ [file] ∧
        t.Leads above parent by
    obtain ⟨above, parent, hnames, hleads⟩ := h
    exact ⟨parent, above, parent, file, hnames, rfl, hup, hleads⟩
  rw [ofText_place hsite hslash hne hdot, Path.join]
  by_cases hempty : site.domain = some ""
  · -- the path starts at the root
    rw [if_pos hempty]
    refine ⟨site.names, site.names, rfl, .of_plain ?_⟩
    simp [names, hempty]
  · rw [if_neg hempty]
    refine ⟨directory ++ site.names, ?_⟩
    dsimp only
    rw [List.append_assoc]
    by_cases hdotdot : site.domain = some ".."
    · -- the path goes up from the output directory, which is there
      have hwalk : t.walk none [] (directory ++ [".."]) = .ok directory.dropLast := by
        rw [walk_append, (Leads.of_plain hdots).walk_of_directory hdir]
        rfl
      refine ⟨_, rfl, directory ++ [".."], ["src", "generated"], _, ?_, by decide, hwalk, rfl⟩
      simp [names, hdotdot]
    · refine ⟨_, rfl, .of_plain ?_⟩
      rw [List.mem_append, not_or]
      refine ⟨hdots, ?_⟩
      unfold names
      cases hname : site.domain with
      | none => simp
      | some name =>
        have hname : name ≠ ".." := fun h => hdotdot (h ▸ hname)
        by_cases hpoint : name = "" ∨ name = "."
        · simp [hpoint]
        · simp [hpoint, Ne.symm hname]

end Site

theorem isSchema_fileName (parent : Location) {file : String} (hfile : file ∈ Site.fileNames) :
    Domain.isSchema (parent ++ [file]) = false := by
  have hall : ∀ file ∈ Site.fileNames, Domain.isSchema [file] = false := by decide
  rw [← hall file hfile]
  exact Domain.isSchema_concat .none [] parent file

theorem Exporter.get?_start {x : Exporter} {t : FileTree} (hdots : ".." ∉ x.directory)
    (h : x.directoryFault t = none) : (x.start t).get? x.directory = some .directory := by
  rw [directoryFault, Option.map_eq_none_iff] at h
  rw [start, get?_makeDirectories hdots h, if_pos List.prefix_rfl]

theorem spares_rendering {ss : List Site} {runtimeModule : String} {t : FileTree} {directory : Location}
    (hslash : ∀ site ∈ ss, ∀ name ∈ site.domain, Text.Slashless name)
    (hr : renderSites ss runtimeModule = .ok r) (hdots : ".." ∉ directory)
    (hdir : t.get? directory = some .directory) :
    Exporter.Spares Domain.isSchema ⟨.slash, directory⟩ t r.contents.drafts := by
  intro e he
  obtain ⟨own, hown, rfl⟩ := List.mem_map.1 he
  obtain ⟨site, hsite, file, hfile, hplace⟩ := (exists_contents_iff hr).1 ⟨own, hown, rfl⟩
  obtain ⟨parent, hreaches⟩ := Site.reaches hdots hdir (hslash site hsite) hfile
  rw [hplace] at hreaches
  exact ⟨parent ++ [file], hreaches, isSchema_fileName parent hfile⟩

/-! ### Where the domains are the same -/

section SameDomains
variable (h : s.multiFileDomains → Domain.detect d disk' s.schemaPath = Domain.detect d disk s.schemaPath)
include h

theorem sites_congr : sites d s disk' = sites d s disk := by
  unfold sites
  split
  next hm => rw [h hm]
  · rfl

theorem renderStageNotices_congr : renderStageNotices d s disk' = renderStageNotices d s disk := by
  have hsites : siteNotices d s disk' = siteNotices d s disk := by
    unfold siteNotices
    by_cases hm : s.multiFileDomains
    · rw [h hm]
    · rw [if_neg hm, if_neg hm]
  unfold renderStageNotices renderNotices
  rw [hsites, sites_congr h]

end SameDomains

/-! ### The run -/

/-- A rendering that is exported again leaves the tree of the first time, which has no new schema files. -/
theorem exportRendering_again {ss : List Site} {path : Path} {base : Report} (htree : disk.tree.Slashless)
    (hclean : s.cleanOutput = false) (hss : sites d s disk = .ok ss)
    (hr : renderSites ss s.runtimeModule = .ok r)
    (h : (exportRendering s mode disk path base r).outcome = .ok report) :
    let u := (exportRendering s mode disk path base r).tree
    Extends Domain.isSchema disk.tree u ∧
      exportRendering s mode { disk with tree := u } path base r = exportRendering s mode disk path base r := by
  intro u
  let x : Exporter := { directory := path.absolute disk.cwd, clean := s.cleanOutput, mode }
  have hdots : ".." ∉ x.directory := Path.dotdot_not_mem_absolute disk.cwd path
  have hspares (hfault : x.directoryFault disk.tree = none) :
      Exporter.Spares Domain.isSchema x.path (x.start disk.tree) r.contents.drafts :=
    spares_rendering (slashless_domain htree hss) hr hdots (Exporter.get?_start hdots hfault)
  obtain ⟨hext, hagain⟩ := Exporter.run_again rfl hclean hdots hspares (exportRendering_eq_ok h).1
  refine ⟨hext, ?_⟩
  have hagain : x.run u r.contents.drafts = x.run disk.tree r.contents.drafts := hagain
  unfold exportRendering
  dsimp only
  rw [hagain]

/-- A run without cleaning that gives a report, made once more, ends as it did the first time, unless it
has made a directory from which the path to the schema files goes up. -/
theorem generate_again (htree : disk.tree.Slashless) (hclean : s.cleanOutput = false)
    (h : (generate d s mode false disk).outcome = .ok report)
    (hup : s.multiFileDomains → (∀ m ∈ d.models, ¬ m.Located) → ∀ p ∈ s.schemaPath,
      GoesUpAlike disk.tree (generate d s mode false disk).tree (disk.trail (Domain.directoryBeside p))) :
    generate d s mode false { disk with tree := (generate d s mode false disk).tree } =
      generate d s mode false disk := by
  obtain ⟨output, ss, r, houtput, hnul, hss, hr⟩ := exists_sites_of_report h
  let base := Report.ofRendering ((Path.ofText output).resolve disk.cwd).text ss r
  have hrun : generate d s mode false disk = .after (renderStageNotices d s disk)
      (exportRendering s mode disk (Path.ofText output) base r) :=
    generate_of_sites houtput mode false hnul hss hr
  rw [hrun] at h
  obtain ⟨hext, hagain⟩ := exportRendering_again htree hclean hss hr h
  generalize hu : (exportRendering s mode disk (Path.ofText output) base r).tree = u at hext hagain
  rw [show (generate d s mode false disk).tree = u from (congrArg Run.tree hrun).trans hu] at hup ⊢
  have hdomains (hm : s.multiFileDomains) :
      Domain.detect d { disk with tree := u } s.schemaPath = Domain.detect d disk s.schemaPath :=
    Domain.detect_congr hext (hup hm)
  have hss' : sites d s { disk with tree := u } = .ok ss := (sites_congr hdomains).trans hss
  rw [hrun, generate_of_sites houtput mode false hnul hss' hr, renderStageNotices_congr hdomains]
  exact congrArg (Run.after _) hagain

/-- The first run makes the directory `out`, and with it the way to the schema file of the users. -/
theorem generate_not_again :
    let d : Document := { models := [{ name := "_Draft" }] }
    let s : Settings := {
      output := some "out", multiFileDomains := true, schemaPath := some "out/../main.prisma" }
    let t := (FileTree.empty.put ["schemas"] .directory rfl (by simp)).put ["schemas", "user.prisma"]
      (.file []) rfl (by decide)
    let first := generate d s .atomic false { tree := t }
    let second := generate d s .atomic false { tree := first.tree }
    (first.outcome.toOption.map Report.domains = some ["shared"] ∧
        first.tree.get? ["out", "user"] = none) ∧
      second.outcome.toOption.map Report.domains = some ["user"] ∧
        second.tree.get? ["out", "user"] = some .directory := by
  decide +kernel

/-- A file stands where the runs want a directory, and both write no artifact. -/
theorem generate_again_users :
    let d : Document := { models := [{ name := "_Draft" }] }
    let s : Settings := { output := some "out", multiFileDomains := true, schemaPath := some "main.prisma" }
    let t := (((((FileTree.empty.put ["schemas"] .directory rfl (by simp)).put ["schemas", "user.prisma"]
      (.file []) rfl (by decide)).put ["out"] .directory rfl (by decide)).put ["out", "user"] .directory rfl
      (by decide)).put ["out", "user", "src"] .directory rfl (by decide)).put ["out", "user", "src", "generated"]
      (.file []) rfl (by decide)
    let run := generate d s .atomic false { tree := t }
    ∃ report, (t.Slashless ∧ s.cleanOutput = false ∧ run.outcome = .ok report ∧ report.domains = ["user"] ∧
        report.success = false) ∧
      generate d s .atomic false { tree := run.tree } = run := by
  intro d s t run
  have htree : t.Slashless := by
    refine ((((slashless_empty.put ?_ ?_).put ?_ ?_).put ?_ ?_).put ?_ ?_).put ?_ ?_ |>.put ?_ ?_ <;> decide
  have hdomains : run.outcome.toOption.map Report.domains = some ["user"] := by decide +kernel
  have hsuccess : run.outcome.toOption.map Report.success = some false := by decide +kernel
  cases hrun : run.outcome with
  | error f =>
    rw [hrun] at hdomains
    cases hdomains
  | ok report =>
    rw [hrun] at hdomains hsuccess
    refine ⟨report, ⟨htree, rfl, rfl, Option.some.inj hdomains, Option.some.inj hsuccess⟩, ?_⟩
    refine generate_again htree rfl hrun fun _ _ p hp => GoesUpAlike.of_plain ?_
    cases hp
    decide

end SchemaTypes
