import SchemaTypes.Code.Rendering
import SchemaTypes.Proofs.Traversal

/-!
# Rendering site by site

A rendering holds the files of its sites and nothing else, so it succeeds if and only if `types.ts`
of every site does (`exists_renderSites_eq_ok`), and a failure is that of one of them.
-/

namespace SchemaTypes

variable {ss ts : List Site} {runtimeModule : String} {x : RenderFailure} {r : Rendering}

theorem mem_publicModels {ms : List Model} {m : Model} :
    m ∈ publicModels ms ↔ m ∈ ms ∧ ¬ m.isInternal := by
  simp [publicModels]

/-- The contents of the files of a scope, by file name. -/
def Scope.files (s : Scope) (t : TypesFile) (runtimeModule : String) : Contents := [
  ("enums.ts", enumsText s.enums), ("types.ts", t.text s.enums runtimeModule), ("index.ts", indexText)]

namespace Site
variable {s : Site}

theorem artifacts_eq_ok {as : List Artifact} (h : s.artifacts runtimeModule = .ok as) :
    ∃ t, s.scope.typesFile = .ok t ∧ as.map (fun a => (a.path, a.content)) =
      (s.scope.files t runtimeModule).map fun f => (place s.directory f.1, f.2) := by
  obtain ⟨t, ht, h⟩ := Traversal.bind_eq_ok_iff.1 h
  cases h
  exact ⟨t, ht, rfl⟩

theorem exists_artifacts_eq_ok :
    (∃ as, s.artifacts runtimeModule = .ok as) ↔ ∃ t, s.scope.typesFile = .ok t := by
  simp only [artifacts, Traversal.bind_eq_ok_iff]
  exact ⟨fun ⟨_, t, ht, _⟩ => ⟨t, ht⟩, fun ⟨t, ht⟩ => ⟨_, t, ht, rfl⟩⟩

theorem artifacts_eq_error (h : s.artifacts runtimeModule = .error x) : s.scope.typesFile = .error x := by
  rcases Traversal.bind_eq_error_iff.1 h with h | ⟨_, -, h⟩
  · exact h
  · cases h

end Site

theorem renderSites_eq_ok (h : renderSites ss runtimeModule = .ok r) : ∃ groups,
    List.Forall₂ (fun s as => s.artifacts runtimeModule = .ok as) ss groups ∧
      r.artifacts = groups.flatten := by
  obtain ⟨groups, hgroups, h⟩ := Traversal.bind_eq_ok_iff.1 h
  cases h
  exact ⟨groups, Traversal.eq_ok_iff.1 hgroups, rfl⟩

theorem exists_renderSites_eq_ok : (∃ r, renderSites ss runtimeModule = .ok r) ↔
    ∀ s ∈ ss, ∃ t, s.scope.typesFile = .ok t := by
  have hgroups : (∃ groups, (ss.mapM fun s => s.artifacts runtimeModule) = .ok groups) ↔
      ∀ s ∈ ss, ∃ as, s.artifacts runtimeModule = .ok as := Traversal.exists_ok_iff
  simp only [Site.exists_artifacts_eq_ok] at hgroups
  rw [← hgroups]
  simp only [renderSites, Traversal.bind_eq_ok_iff]
  exact ⟨fun ⟨_, groups, hg, _⟩ => ⟨groups, hg⟩, fun ⟨groups, hg⟩ => ⟨_, groups, hg, rfl⟩⟩

theorem renderSites_eq_error (h : renderSites ss runtimeModule = .error x) :
    ∃ s ∈ ss, s.scope.typesFile = .error x := by
  rcases Traversal.bind_eq_error_iff.1 h with h | ⟨_, -, h⟩
  · obtain ⟨s, hs, h⟩ := Traversal.exists_of_eq_error h
    exact ⟨s, hs, Site.artifacts_eq_error h⟩
  · cases h

theorem renderSites_congr (h : List.Forall₂ (fun s t => t.domain = s.domain ∧
      t.artifacts runtimeModule = s.artifacts runtimeModule) ss ts) :
    renderSites ts runtimeModule = renderSites ss runtimeModule := by
  have hgroups : (ss.mapM fun s => s.artifacts runtimeModule) = ts.mapM fun s => s.artifacts runtimeModule :=
    Traversal.congr (h.imp fun _ _ hst => hst.2.symm)
  have hdomains : ts.filterMap (·.domain) = ss.filterMap (·.domain) := by
    clear hgroups
    induction h with
    | nil => rfl
    | cons hst _ ih => rw [List.filterMap_cons, List.filterMap_cons, hst.1, ih]
  unfold renderSites
  rw [hgroups, hdomains]

theorem mem_artifacts (h : renderSites ss runtimeModule = .ok r) {path content : String} :
    (path, content) ∈ r.artifacts.map (fun a => (a.path, a.content)) ↔
      ∃ s ∈ ss, ∃ t, s.scope.typesFile = .ok t ∧
        ∃ f ∈ s.scope.files t runtimeModule, Site.place s.directory f.1 = path ∧ f.2 = content := by
  obtain ⟨groups, hgroups, hr⟩ := renderSites_eq_ok h
  rw [hr]
  clear h hr
  induction hgroups with
  | nil => simp
  | cons has _ ih =>
    obtain ⟨t, ht, hfiles⟩ := Site.artifacts_eq_ok has
    rw [List.flatten_cons, List.map_append, List.mem_append, ih, hfiles, List.exists_mem_cons_iff]
    -- the first site has one `types.ts`, with `t`
    simp [ht]

/-! ### The whole schema, and domain by domain -/

section Render
variable {d : Document} {s : Settings} {disk : Disk}

/-- Without join tables nothing is rendered, whichever the sites are. -/
theorem render_error_of_joinTables (h : joinTables d.models = .error x) : render d s disk = .error x := by
  unfold render sites Scope.whole
  rw [h]
  split <;> rfl

theorem sites_whole :
    sites d { s with multiFileDomains := false } disk =
      (fun ts => [{ scope := Scope.of d none ts }]) <$> joinTables d.models := by
  unfold sites Scope.whole
  cases joinTables d.models <;> rfl

theorem sites_whole_eq_ok {ts : List JoinTable} (h : joinTables d.models = .ok ts) :
    sites d { s with multiFileDomains := false } disk = .ok [{ scope := Scope.of d none ts }] := by
  rw [sites_whole, h]
  rfl

theorem exists_render_whole_eq_ok : (∃ r, render d { s with multiFileDomains := false } disk = .ok r) ↔
      ∃ ts, joinTables d.models = .ok ts ∧ ∃ t, (Scope.of d none ts).typesFile = .ok t := by
  simp only [render, Traversal.bind_eq_ok_iff, sites_whole, Traversal.map_eq_ok_iff]
  constructor
  · rintro ⟨r, _, ⟨ts, hts, rfl⟩, hr⟩
    have ht := exists_renderSites_eq_ok.1 ⟨r, hr⟩
    simp only [List.forall_mem_singleton] at ht
    exact ⟨ts, hts, ht⟩
  · rintro ⟨ts, hts, ht⟩
    have hsites : ∀ site ∈ [({ scope := Scope.of d none ts } : Site)],
        ∃ t, site.scope.typesFile = .ok t := by
      simpa only [List.forall_mem_singleton] using ht
    obtain ⟨r, hr⟩ := exists_renderSites_eq_ok.2 hsites
    exact ⟨r, _, ⟨ts, hts, rfl⟩, hr⟩

theorem render_whole_eq_ok (h : render d { s with multiFileDomains := false } disk = .ok r) :
    ∃ ts, joinTables d.models = .ok ts ∧ ∃ t, (Scope.of d none ts).typesFile = .ok t ∧
      r.contents = (Scope.of d none ts).files t s.runtimeModule := by
  obtain ⟨ss, hss, h⟩ := Traversal.bind_eq_ok_iff.1 h
  rw [sites_whole, Traversal.map_eq_ok_iff] at hss
  obtain ⟨ts, hts, rfl⟩ := hss
  obtain ⟨groups, hgroups, hr⟩ := renderSites_eq_ok h
  obtain ⟨as, _, has, hnil, rfl⟩ := List.forall₂_cons_left_iff.1 hgroups
  obtain ⟨t, ht, hfiles⟩ := Site.artifacts_eq_ok has
  refine ⟨ts, hts, t, ht, ?_⟩
  rw [List.forall₂_nil_left_iff.1 hnil, List.flatten_cons, List.flatten_nil, List.append_nil] at hr
  rw [Rendering.contents, hr, hfiles]
  rfl

theorem sites_domains : sites d { s with multiFileDomains := true } disk =
    (fun ts => (Domain.detect d disk s.schemaPath).2.map fun x =>
      { domain := some x.name, scope := Scope.of d (some x.models) ts }) <$> joinTables d.models := by
  unfold sites
  cases joinTables d.models <;> rfl

/-- The only model of a schema, where it names a location, has its own domain. -/
theorem sites_of_located {m : Model} {place : String} {ts : List JoinTable} (hd : d.models = [m])
    (hplace : Domain.located? m = some place) (htables : joinTables [m] = .ok ts) :
    sites d { s with multiFileDomains := true } disk =
      .ok [{ domain := some (Domain.nameOf place), scope := Scope.of d (some [m]) ts }] := by
  have hdomains : Domain.ofLocations d =
      [{ name := Domain.nameOf place, models := [m], source := some place }] := by
    simp [Domain.ofLocations, hd, hplace, Text.sortedOnce, Text.sorted, Text.sortedBy, List.eraseDups_cons]
  rw [sites_domains, hd, htables, Domain.detect, hdomains]
  rfl

theorem render_domains_eq_ok : render d { s with multiFileDomains := true } disk = .ok r ↔
    ∃ ts, joinTables d.models = .ok ts ∧
      renderSites ((Domain.detect d disk s.schemaPath).2.map fun x =>
        { domain := some x.name, scope := Scope.of d (some x.models) ts }) s.runtimeModule = .ok r := by
  simp only [render, Traversal.bind_eq_ok_iff, sites_domains, Traversal.map_eq_ok_iff]
  constructor
  · rintro ⟨_, ⟨ts, hts, rfl⟩, h⟩
    exact ⟨ts, hts, h⟩
  · rintro ⟨ts, hts, h⟩
    exact ⟨_, ⟨ts, hts, rfl⟩, h⟩

end Render

end SchemaTypes
