import SchemaTypes.Proofs.Column.Wrapped
import SchemaTypes.Proofs.Rendering.Imports

/-!
# Type notes that name wrappers of enums

A type note may name the wrapper of an enum in its text, which then stands in `types.ts` as a word. The
search finds it there if the scope has the enum. The scope of the whole schema has all enums, that of a
domain only those that fields of the kind enum refer to (`mem_enums_iff_of_mem_sites`). So in a domain
the name of the wrapper is left without an import, and without a declaration, where no such field refers
to the enum or to one with the same wrapper (`typeNote_resolved_iff`).
-/

namespace SchemaTypes
open Text

variable {d : Document} {settings : Settings} {disk : Disk} {ss : List Site} {site : Site}
  {runtimeModule text : String} {as : List Artifact} {t : TypesFile} {m : Model} {f : Field} {e : Enumeration}

/-- The enum is that of a field of the models. -/
def Enumeration.ReferredIn (e : Enumeration) (models : List Model) : Prop :=
  ∃ m ∈ models, ∃ f ∈ m.fields, f.kind = .enum ∧ f.enumName = some e.name

/-- Among the files `as` of a site with the declarations `t`, the one imports the name, and the other
declares it. -/
structure Site.Resolves (site : Site) (runtimeModule : String) (t : TypesFile) (as : List Artifact)
    (name : String) : Prop where
  imported : name ∈ t.imports site.scope.enums
  text : ∃ a ∈ as, a.path = place site.directory "types.ts" ∧ a.content =
    Text.blocks (banner :: importsText runtimeModule (t.imports site.scope.enums) ::
      t.statements.map Statement.text) ++ "\n"
  declared : ∃ a ∈ as, a.path = place site.directory "enums.ts" ∧ Text.Exports a.content name

/-! ### The enums of a site -/

theorem mem_enums_iff_of_mem_sites (h : sites d settings disk = .ok ss) (hs : site ∈ ss) :
    e ∈ site.scope.enums ↔ e ∈ d.enums ∧ (site.domain = none ∨ e.ReferredIn site.scope.models) := by
  unfold sites at h
  split at h
  · obtain ⟨ts, -, h⟩ := Traversal.bind_eq_ok_iff.1 h
    cases h
    obtain ⟨x, -, rfl⟩ := List.mem_map.1 hs
    refine mem_sortedBy.trans (List.mem_filter.trans (and_congr_right fun _ => ?_))
    rw [List.contains_eq_mem, decide_eq_true_eq, mem_referredEnums e.name_ne]
    constructor
    · rintro ⟨m, hm, hi, hfield⟩
      exact .inr ⟨m, mem_publicModels.2 ⟨hm, hi⟩, hfield⟩
    · rintro (hnone | ⟨m, hm, hfield⟩)
      · cases hnone
      · exact ⟨m, (mem_publicModels.1 hm).1, (mem_publicModels.1 hm).2, hfield⟩
  · obtain ⟨scope, hscope, rfl⟩ := Traversal.map_eq_ok_iff.1 h
    obtain ⟨ts, -, rfl⟩ := Traversal.map_eq_ok_iff.1 hscope
    rw [List.mem_singleton.1 hs]
    exact mem_sortedBy.trans (and_iff_left (.inl rfl)).symm

theorem TypesFile.exists_of_mem_imports {enums : List Enumeration} {name : String} (h : name ∈ t.imports enums) :
    ∃ e ∈ enums, e.wrapper = name := by
  obtain ⟨hmem, -⟩ := List.mem_filter.1 (mem_sortedOnce.1 h)
  exact List.mem_map.1 hmem

/-- A site resolves the wrapper of an enum that stands in its declarations just if its scope has an enum
with this wrapper. -/
theorem Site.resolves_iff (ha : site.artifacts runtimeModule = .ok as) (ht : site.scope.typesFile = .ok t)
    (hletter : e.name.toList.head?.any Char.isAlpha) (hword : HasWord (unlines t.blocks) e.wrapper) :
    site.Resolves runtimeModule t as e.wrapper ↔ ∃ e' ∈ site.scope.enums, e'.wrapper = e.wrapper := by
  refine ⟨fun h => TypesFile.exists_of_mem_imports h.imported, ?_⟩
  rintro ⟨e', he', hsame⟩
  obtain ⟨t', ht', hfiles⟩ := exists_mem_artifacts ha
  obtain rfl : t' = t := Except.ok.inj (ht'.symm.trans ht)
  refine ⟨?_, ?_, ?_⟩
  · exact TypesFile.mem_imports_of_hasWord (List.mem_map.2 ⟨e', he', hsame⟩) hletter hword
  · obtain ⟨a, ha, hpath, hcontent⟩ := hfiles ("types.ts", t'.text site.scope.enums runtimeModule)
      (List.mem_cons_of_mem _ List.mem_cons_self)
    exact ⟨a, ha, hpath, hcontent.trans (t'.text_eq _ _)⟩
  · obtain ⟨a, ha, hpath, hcontent⟩ := hfiles ("enums.ts", enumsText site.scope.enums) List.mem_cons_self
    refine ⟨a, ha, hpath, ?_⟩
    rw [hcontent]
    exact exports_enumsText e.wrapper
      (List.mem_flatMap.2 ⟨e', he', by rw [← hsame]; exact List.mem_cons_of_mem _ List.mem_cons_self⟩)

/-- A type note that names the wrapper of an enum stands in `types.ts`. The site resolves the name if it is
the only one, and in a domain just if a field of the kind enum refers to an enum with this wrapper. -/
theorem typeNote_resolved_iff (he : e ∈ d.enums) (hletter : e.name.toList.head?.any Char.isAlpha)
    (h : sites d settings disk = .ok ss) (hs : site ∈ ss) (ha : site.artifacts runtimeModule = .ok as)
    (hm : m ∈ site.scope.models) (hf : f ∈ m.columns) (hnote : f.override? = some text)
    (hword : HasWord text e.wrapper) :
    ∃ t, site.scope.typesFile = .ok t ∧
      (∃ c, .base c ∈ t.statements ∧ c.base = "_" ++ m.name ∧ (f.name, f.wrap text) ∈ c.columns) ∧
      (site.Resolves runtimeModule t as e.wrapper ↔ site.domain = none ∨
        ∃ e' ∈ d.enums, e'.wrapper = e.wrapper ∧ e'.ReferredIn site.scope.models) := by
  obtain ⟨t, ht, -⟩ := Site.exists_mem_artifacts ha
  have hrelation : ¬ f.isRelation := fun hr => (Model.mem_columns.1 hf).2 (Field.isRelation_iff.1 hr)
  obtain ⟨c, hc, hmodel, hcolumn⟩ := Scope.exists_mem_columns ht hm hf (Field.baseType_of_override? hrelation hnote)
  have hblocks : HasWord (unlines t.blocks) e.wrapper :=
    (TypesFile.hasWord_blocks hc hcolumn).trans ((f.hasWord_wrap text).trans hword)
  refine ⟨t, ht, ⟨c, (TypesFile.statements_mem hc).1, hmodel, hcolumn⟩, ?_⟩
  rw [Site.resolves_iff ha ht hletter hblocks]
  constructor
  · rintro ⟨e', he', hsame⟩
    obtain ⟨he', hnone | hreferred⟩ := (mem_enums_iff_of_mem_sites h hs).1 he'
    · exact .inl hnone
    · exact .inr ⟨e', he', hsame, hreferred⟩
  · rintro (hnone | ⟨e', he', hsame, hreferred⟩)
    · exact ⟨e, (mem_enums_iff_of_mem_sites h hs).2 ⟨he, .inl hnone⟩, rfl⟩
    · exact ⟨e', (mem_enums_iff_of_mem_sites h hs).2 ⟨he', .inr hreferred⟩, hsame⟩

/-- A user has a role, and by a type note a list of roles: resolved without domains and in a domain of
users. -/
theorem typeNote_resolved_iff_roles :
    let role : Enumeration := { name := "Role", members := [{ name := "ADMIN" }] }
    let note : Field := { name := "roles", kind := .json
                          documentation := some "@customType(Schema.Array(RoleSchema))" }
    let user : Model := { name := "User", location := some "user.prisma", fields := [
      { name := "id", kind := .string, isId := true },
      { name := "role", kind := .enum, enumName := some "Role" }, note] }
    let d : Document := { models := [user], enums := [role] }
    let Resolved (settings : Settings) (domain : Option String) : Prop :=
      ∃ ss site as t, (role ∈ d.enums ∧ role.name.toList.head?.any Char.isAlpha ∧ sites d settings {} = .ok ss ∧
          site ∈ ss ∧ site.artifacts "prisma-effect-kysely" = .ok as ∧ user ∈ site.scope.models ∧
          note ∈ user.columns ∧ note.override? = some "Schema.Array(RoleSchema)" ∧
          HasWord "Schema.Array(RoleSchema)" role.wrapper) ∧
        site.domain = domain ∧ site.scope.typesFile = .ok t ∧
        site.Resolves "prisma-effect-kysely" t as role.wrapper
    Resolved {} none ∧ Resolved { multiFileDomains := true } (some "user") := by
  intro role note user d Resolved
  have hcomplete : ∀ m ∈ d.models, (∃ f ∈ m.fields, f.isId) ∧ ∀ f ∈ m.fields,
      (f.isId → f.kind ≠ .relation) ∧ (f.kind = .enum → ∃ e ∈ d.enums, f.enumName = some e.name) := by
    decide
  have hcolumn : note ∈ user.columns := Model.mem_columns.2 ⟨by decide, by decide⟩
  have hnote : note.override? = some "Schema.Array(RoleSchema)" := by decide +kernel
  have hword : HasWord "Schema.Array(RoleSchema)" role.wrapper :=
    ⟨"Schema.Array(", ")", by decide +kernel, by decide, by decide⟩
  have hrole : role ∈ d.enums := List.mem_singleton_self role
  have hletter : role.name.toList.head?.any Char.isAlpha := by decide
  have hresolved {settings : Settings} {site : Site} (hsites : sites d settings {} = .ok [site])
      (hscope : site.scope = Scope.of d none [] ∨ site.scope = Scope.of d (some [user]) []) :
      Resolved settings site.domain := by
    have hmodel : user ∈ site.scope.models := by
      rcases hscope with h | h <;> rw [h] <;>
        exact mem_publicModels.2 ⟨List.mem_singleton_self user, by decide⟩
    obtain ⟨as, has⟩ : ∃ as, site.artifacts "prisma-effect-kysely" = .ok as := by
      refine Site.exists_artifacts_eq_ok.2 ?_
      rcases hscope with h | h <;> rw [h] <;>
        exact Scope.exists_typesFile_of_complete fun m hm => hcomplete m (mem_publicModels.1 hm).1
    obtain ⟨t, ht, -, hiff⟩ := typeNote_resolved_iff hrole hletter hsites (List.mem_singleton_self site) has
      hmodel hcolumn hnote hword
    refine ⟨[site], site, as, t, ⟨hrole, hletter, hsites, List.mem_singleton_self site, has, hmodel, hcolumn,
      hnote, hword⟩, rfl, ht, hiff.2 (.inr ⟨role, hrole, rfl, user, hmodel, ?_⟩)⟩
    exact ⟨_, List.mem_cons_of_mem _ List.mem_cons_self, rfl, rfl⟩
  have hname : Domain.nameOf "user.prisma" = "user" := by cbv
  have htables : joinTables [user] = .ok [] := by cbv
  have hlocated : sites d { multiFileDomains := true } {} =
      .ok [{ domain := some "user", scope := Scope.of d (some [user]) [] }] := by
    rw [← hname]
    exact sites_of_located (s := {}) rfl rfl htables
  exact ⟨hresolved (sites_whole_eq_ok (s := {}) htables) (.inl rfl), hresolved hlocated (.inr rfl)⟩

/-- A domain that names an enum in a type note alone: the wrapper stands in `types.ts`, and is neither
imported nor declared. -/
theorem typeNote_unresolved :
    let role : Enumeration := { name := "Role", members := [{ name := "ADMIN" }] }
    let note : Field := { name := "role", kind := .string, documentation := some "@customType(RoleSchema)" }
    let user : Model := { name := "User", location := some "user.prisma", fields := [
      { name := "id", kind := .string, isId := true }, note] }
    let d : Document := { models := [user], enums := [role] }
    ∃ ss site as t c, sites d { multiFileDomains := true } {} = .ok ss ∧ site ∈ ss ∧ site.domain = some "user" ∧
      site.artifacts "prisma-effect-kysely" = .ok as ∧ user ∈ site.scope.models ∧ note ∈ user.columns ∧
      note.override? = some role.wrapper ∧ site.scope.typesFile = .ok t ∧
      (.base c ∈ t.statements ∧ c.base = "_User" ∧ ("role", role.wrapper) ∈ c.columns) ∧
      role.wrapper ∉ t.imports site.scope.enums ∧ role ∉ site.scope.enums := by
  intro role note user d
  let site : Site := { domain := some "user", scope := Scope.of d (some [user]) [] }
  have hname : Domain.nameOf "user.prisma" = "user" := by cbv
  have hsites : sites d { multiFileDomains := true } {} = .ok [site] := by
    refine (sites_of_located (s := {}) rfl rfl (by cbv)).trans ?_
    rw [hname]
  have hmem : site ∈ [site] := List.mem_singleton_self site
  have hcomplete : ∀ m ∈ d.models, (∃ f ∈ m.fields, f.isId) ∧ ∀ f ∈ m.fields,
      (f.isId → f.kind ≠ .relation) ∧ (f.kind = .enum → ∃ e ∈ d.enums, f.enumName = some e.name) := by
    decide
  obtain ⟨t, ht⟩ : ∃ t, site.scope.typesFile = .ok t :=
    Scope.exists_typesFile_of_complete fun m hm => hcomplete m (mem_publicModels.1 hm).1
  obtain ⟨as, has⟩ : ∃ as, site.artifacts "prisma-effect-kysely" = .ok as := Site.exists_artifacts_eq_ok.2 ⟨t, ht⟩
  have hmodel : user ∈ site.scope.models := mem_publicModels.2 ⟨List.mem_singleton_self user, by decide⟩
  have hcolumn : note ∈ user.columns :=
    Model.mem_columns.2 ⟨List.mem_cons_of_mem _ (List.mem_singleton_self note), by decide⟩
  have hnote : note.override? = some role.wrapper := by decide +kernel
  obtain ⟨c, hc, hbase, hmemc⟩ := Scope.exists_mem_columns ht hmodel hcolumn
    (Field.baseType_of_override? (by decide) hnote)
  -- no field of the domain has the kind enum
  have hnone : ∀ e, e ∉ site.scope.enums := by
    intro e he
    obtain ⟨-, hdomain | ⟨m, hm, f, hf, hk, -⟩⟩ := (mem_enums_iff_of_mem_sites hsites hmem).1 he
    · cases hdomain
    · obtain rfl := List.mem_singleton.1 (mem_publicModels.1 hm).1
      have hkinds : ∀ f ∈ user.fields, f.kind ≠ .enum := by decide
      exact hkinds f hf hk
  refine ⟨[site], site, as, t, c, hsites, hmem, rfl, has, hmodel, hcolumn, hnote, ht,
    ⟨(TypesFile.statements_mem hc).1, hbase, hmemc⟩, fun himport => ?_, hnone role⟩
  obtain ⟨e, he, -⟩ := TypesFile.exists_of_mem_imports himport
  exact hnone e he

end SchemaTypes
