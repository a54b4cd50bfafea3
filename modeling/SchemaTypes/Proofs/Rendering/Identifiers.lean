import SchemaTypes.Proofs.Naming
import SchemaTypes.Proofs.Relation.Inference
import SchemaTypes.Proofs.Rendering.References

/-!
# Which identifiers a scope binds twice

The files of a scope export names in Pascal case, with and without a suffix, and base schemas, whose
names start with a low line. No name in Pascal case has a low line, and no two suffixes end alike. So
no identifier is bound twice if and only if the names in Pascal case are distinct and none of them is
another one with its suffix (`exported_once_iff`). Distinct names of the schema may well have the
same name in Pascal case (`exported_twice`).
-/

namespace SchemaTypes
open Naming

/-- A line of the text exports the identifier. -/
def Text.Exports (text name : String) : Prop :=
  HasLine text ("export enum " ++ name ++ " \x7b") ∨ HasLine text ("export const " ++ name ++ " = ")

namespace Scope

/-- The identifiers that `enums.ts` and `types.ts` bind. -/
def identifiers (s : Scope) (t : TypesFile) : List String := s.enums.flatMap Enumeration.names ++ t.names

/-- The names of the models, and of the relations that have a join table. -/
def tableNames (s : Scope) : List String := s.models.map Model.name ++ s.tables.map JoinTable.relation

/-- The names in Pascal case: those of the enums, and of the operational schemas. -/
def pascalNames (s : Scope) : List String := s.enums.map Enumeration.pascalName ++ s.tableNames.map pascal

/-- The names in Pascal case with a suffix: those of the runtime schemas, and of the brands. -/
def suffixedNames (s : Scope) : List String :=
  (s.enums.map Enumeration.pascalName).map (· ++ "Schema") ++
    ((s.models.filter fun m => m.soleIdentifier?.isSome).map fun m => pascal m.name).map (· ++ "Id")

end Scope

variable {d : Document} {s : Scope} {t : TypesFile}

/-! ### Lines that export -/

theorem Enumeration.exports_names (e : Enumeration) : ∀ x ∈ e.names, Text.Exports e.text x := by
  intro x hx
  rcases List.mem_cons.1 hx with rfl | hx
  · exact .inl (Text.hasLine_of_mem (List.mem_append_left _ List.mem_cons_self))
  · rw [List.mem_singleton.1 hx]
    refine .inr (Text.hasLine_unlines ("Schema.Enums(" ++ e.pascalName ++ ");") ?_)
    refine List.mem_append_right _ (List.mem_cons_of_mem _ (List.mem_cons_of_mem _ ?_))
    have hjoin : " = Schema.Enums(" = " = " ++ "Schema.Enums(" := by decide
    simp only [hjoin, String.append_assoc, List.mem_cons_self]

theorem hasLine_enumsText {enums : List Enumeration} {e : Enumeration} (he : e ∈ enums) {start : String}
    (h : Text.HasLine e.text start) : Text.HasLine (enumsText enums) start := by
  have hne : ¬ enums.isEmpty := by
    rw [List.isEmpty_iff]
    exact List.ne_nil_of_mem he
  refine (Text.HasLine.intercalate ⟨"", rfl⟩ ?_ h).append _
  rw [if_neg hne]
  exact List.mem_append_right _ (List.mem_cons_of_mem _ (List.mem_flatMap.2 ⟨e, he, by simp⟩))

theorem exports_enumsText {enums : List Enumeration} :
    ∀ x ∈ enums.flatMap Enumeration.names, Text.Exports (enumsText enums) x := by
  intro x hx
  obtain ⟨e, he, hx⟩ := List.mem_flatMap.1 hx
  exact (e.exports_names x hx).imp (hasLine_enumsText he) (hasLine_enumsText he)

theorem hasLine_operationalText (base name : String) :
    Text.HasLine (operationalText base name) ("export const " ++ name ++ " = ") := by
  have hjoin : " = getSchemas(" = " = " ++ "getSchemas(" := by decide
  refine ⟨"", "getSchemas(" ++ base ++ ");", ?_, .inl rfl⟩
  show "export const " ++ name ++ " = getSchemas(" ++ base ++ ");" = _
  rw [hjoin, String.empty_append]
  simp only [String.append_assoc]

namespace TypesFile

theorem hasLine_text {start : String} {x : Statement} (hx : x ∈ t.statements) (h : Text.HasLine x.text start)
    (enums : List Enumeration) (runtimeModule : String) :
    Text.HasLine (t.text enums runtimeModule) start := by
  rw [text_eq]
  refine (Text.HasLine.intercalate ⟨"\n", by decide⟩ ?_ h).append _
  exact List.mem_cons_of_mem _ (List.mem_cons_of_mem _ (List.mem_map_of_mem hx))

theorem exports_names (t : TypesFile) (enums : List Enumeration) (runtimeModule : String) :
    ∀ x ∈ t.names, Text.Exports (t.text enums runtimeModule) x := by
  intro x hx
  right
  rcases List.mem_append.1 hx with hx | hx
  · obtain ⟨b, hb, rfl⟩ := List.mem_map.1 hx
    exact hasLine_text (brand_mem hb) b.hasLine enums runtimeModule
  · obtain ⟨c, hc, hx⟩ := List.mem_flatMap.1 hx
    have hmem : ∀ y ∈ c.statements, y ∈ t.statements := fun y hy =>
      List.mem_append_left _ (List.mem_append_right _ (List.mem_flatMap.2 ⟨c, hc, hy⟩))
    rcases List.mem_cons.1 hx with rfl | hx
    · refine hasLine_text (hmem (.base c) (by simp [TableDecl.statements])) ?_ enums runtimeModule
      obtain ⟨before, after, heq, hbefore⟩ := c.hasLine
      have hjoin : " = Schema.Struct(\x7b" = " = " ++ "Schema.Struct(\x7b" := by decide
      refine ⟨before, "Schema.Struct(\x7b" ++ after, ?_, hbefore⟩
      simp only [Statement.text, heq, hjoin, String.append_assoc]
    · rw [List.mem_singleton.1 hx]
      exact hasLine_text (hmem (.operational c.base c.name) (by simp [TableDecl.statements]))
        (hasLine_operationalText c.base c.name) enums runtimeModule

end TypesFile

/-! ### The names that a scope gives -/

theorem Model.brand_eq_ok {m : Model} {b : Option BrandDecl} (h : m.brand d = .ok b) :
    b.map BrandDecl.model = m.owner? := by
  obtain ⟨_, -, h⟩ := Traversal.bind_eq_ok_iff.1 h
  unfold owner?
  cases hkey : m.soleIdentifier? with
  | none =>
    rw [hkey] at h
    cases h
    rfl
  | some key =>
    rw [hkey] at h
    obtain ⟨_, -, h⟩ := Traversal.bind_eq_ok_iff.1 h
    cases h
    rfl

theorem filterMap_owner? (ms : List Model) :
    ms.filterMap Model.owner? = (ms.filter fun m => m.soleIdentifier?.isSome).map Model.name := by
  induction ms with
  | nil => rfl
  | cons m ms ih => cases h : m.soleIdentifier? <;> simp [Model.owner?, h, ih]

namespace Scope

theorem map_name_brands (h : s.brands = .ok t.brands) : t.brands.map BrandDecl.name =
    ((s.models.filter fun m => m.soleIdentifier?.isSome).map fun m => pascal m.name).map (· ++ "Id") := by
  obtain ⟨bs, hbs, heq⟩ := Traversal.map_eq_ok_iff.1 h
  have howners : bs.map (Option.map BrandDecl.model) = s.models.map Model.owner? :=
    Traversal.map_eq_of_ok (fun _ _ => Model.brand_eq_ok) hbs
  have hmodels : t.brands.map BrandDecl.model = s.models.filterMap Model.owner? := by
    have hfilter := congrArg (List.filterMap id) howners
    rw [List.filterMap_map, List.filterMap_map] at hfilter
    rw [← heq, List.map_filterMap]
    exact hfilter
  have hnames : t.brands.map BrandDecl.name = (t.brands.map BrandDecl.model).map brandName := by
    rw [List.map_map]
    rfl
  rw [hnames, hmodels, filterMap_owner?, List.map_map, List.map_map]
  exact List.map_congr_left fun m _ => pascalWith_of_ne m.name_ne

theorem map_tables (h : s.typesFile = .ok t) (htables : ∀ j ∈ s.tables, j.table = "_" ++ j.relation) :
    t.tables.map TableDecl.name = s.tableNames.map pascal ∧
      t.tables.map TableDecl.base = s.tableNames.map ("_" ++ ·) := by
  obtain ⟨-, cs, hcs, heq, -⟩ := typesFile_eq_ok h
  rw [heq, tableNames]
  simp only [List.map_append, List.map_map]
  refine ⟨congrArg₂ _ (Traversal.map_eq_of_ok (fun m c hc => (Model.tableDecl_eq_ok hc).2.1) hcs) rfl,
    congrArg₂ _ (Traversal.map_eq_of_ok (fun m c hc => (Model.tableDecl_eq_ok hc).1) hcs) ?_⟩
  exact List.map_congr_left htables

theorem flatMap_pair_perm {α β : Type} (f g : α → β) (xs : List α) :
    (xs.flatMap fun x => [f x, g x]).Perm (xs.map f ++ xs.map g) := by
  rw [List.map_eq_flatMap, List.map_eq_flatMap]
  exact (List.flatMap_append_perm xs (fun x => [f x]) fun x => [g x]).symm

theorem identifiers_perm (h : s.typesFile = .ok t) (htables : ∀ j ∈ s.tables, j.table = "_" ++ j.relation) :
    (s.identifiers t).Perm (s.pascalNames ++ s.suffixedNames ++ s.tableNames.map ("_" ++ ·)) := by
  obtain ⟨hnames, hbases⟩ := map_tables h htables
  have hwrappers : s.enums.map Enumeration.wrapper =
      (s.enums.map Enumeration.pascalName).map (· ++ "Schema") := by
    rw [List.map_map]
    exact List.map_congr_left fun e _ => pascalWith_of_ne e.name_ne
  have henums := flatMap_pair_perm Enumeration.pascalName Enumeration.wrapper s.enums
  have htypes := flatMap_pair_perm TableDecl.base TableDecl.name t.tables
  rw [hwrappers] at henums
  rw [hbases, hnames] at htypes
  rw [identifiers, TypesFile.names, map_name_brands (typesFile_eq_ok h).1, pascalNames, suffixedNames]
  refine (henums.append (htypes.append_left _)).trans (List.perm_iff_count.2 fun x => ?_)
  simp only [List.count_append]
  omega

/-! ### Which of them are distinct -/

theorem nodup_tableNames (h : s.pascalNames.Nodup) : s.tableNames.Nodup :=
  (List.nodup_append.1 h).2.1.of_map

theorem nodup_suffixedNames (h : s.pascalNames.Nodup) : s.suffixedNames.Nodup := by
  obtain ⟨henums, htables, -⟩ := List.nodup_append'.1 h
  have hmodels : (s.models.map fun m => pascal m.name).Nodup := by
    rw [tableNames, List.map_append, List.map_map] at htables
    exact (List.nodup_append'.1 htables).1
  have hinj (suffix : String) : Function.Injective (· ++ suffix) := fun _ _ => String.append_left_inj _ |>.1
  refine List.nodup_append'.2 ⟨henums.map (hinj _), ?_, fun x hx hy => ?_⟩
  · exact (hmodels.sublist (List.filter_sublist.map _)).map (hinj _)
  · -- the suffixes end in different letters
    obtain ⟨y, -, rfl⟩ := List.mem_map.1 hx
    obtain ⟨z, -, hz⟩ := List.mem_map.1 hy
    have hlast := congrArg (fun x => x.toList.getLast?) hz
    simp at hlast

theorem lowLine_not_mem_names {x : String} (h : x ∈ s.pascalNames ++ s.suffixedNames) : '_' ∉ x.toList := by
  have hpascal (name suffix : String) (hs : '_' ∉ suffix.toList) : '_' ∉ (pascal name ++ suffix).toList := by
    rw [String.toList_append, List.mem_append]
    exact not_or.2 ⟨lowLine_not_mem_pascal name, hs⟩
  rcases List.mem_append.1 h with h | h
  · rcases List.mem_append.1 h with h | h
    · obtain ⟨e, -, rfl⟩ := List.mem_map.1 h
      exact lowLine_not_mem_pascal e.name
    · obtain ⟨name, -, rfl⟩ := List.mem_map.1 h
      exact lowLine_not_mem_pascal name
  · rcases List.mem_append.1 h with h | h
    · obtain ⟨_, hy, rfl⟩ := List.mem_map.1 h
      obtain ⟨e, -, rfl⟩ := List.mem_map.1 hy
      exact hpascal e.name "Schema" (by decide)
    · obtain ⟨_, hy, rfl⟩ := List.mem_map.1 h
      obtain ⟨m, -, rfl⟩ := List.mem_map.1 hy
      exact hpascal m.name "Id" (by decide)

theorem nodup_identifiers_iff (h : s.typesFile = .ok t)
    (htables : ∀ j ∈ s.tables, j.table = "_" ++ j.relation) :
    (s.identifiers t).Nodup ↔ s.pascalNames.Nodup ∧ s.pascalNames.Disjoint s.suffixedNames := by
  rw [(identifiers_perm h htables).nodup_iff]
  constructor
  · intro hn
    obtain ⟨hpascal, -, hdisjoint⟩ := List.nodup_append'.1 (List.nodup_append'.1 hn).1
    exact ⟨hpascal, hdisjoint⟩
  · rintro ⟨hpascal, hdisjoint⟩
    refine List.nodup_append'.2 ⟨List.nodup_append'.2 ⟨hpascal, nodup_suffixedNames hpascal, hdisjoint⟩,
      ?_, fun x hx hbase => ?_⟩
    · exact (nodup_tableNames hpascal).map fun _ _ => String.append_right_inj _ |>.1
    · obtain ⟨name, -, rfl⟩ := List.mem_map.1 hbase
      exact lowLine_not_mem_names hx (by simp)

end Scope

/-! ### Sites -/

variable {settings : Settings} {disk : Disk} {ss : List Site} {site : Site}

theorem table_eq_of_mem_sites (h : sites d settings disk = .ok ss) (hs : site ∈ ss) :
    ∀ j ∈ site.scope.tables, j.table = "_" ++ j.relation := by
  have htables {ts : List JoinTable} (hts : joinTables d.models = .ok ts) (names : List String) :
      ∀ j ∈ joinTablesTouching ts names, j.table = "_" ++ j.relation := by
    intro j hj
    obtain ⟨p, -, hp⟩ := (mem_joinTables hts).1 (List.mem_of_mem_filter hj)
    obtain ⟨hrelation, htable, -⟩ := Pairing.joinTable_eq_ok hp
    rw [htable, hrelation]
  unfold sites at h
  split at h
  · obtain ⟨ts, hts, h⟩ := Traversal.bind_eq_ok_iff.1 h
    cases h
    obtain ⟨x, -, rfl⟩ := List.mem_map.1 hs
    exact htables hts _
  · obtain ⟨scope, hscope, rfl⟩ := Traversal.map_eq_ok_iff.1 h
    obtain ⟨ts, hts, rfl⟩ := Traversal.map_eq_ok_iff.1 hscope
    rw [List.mem_singleton.1 hs]
    exact htables hts _

/-- The files of a site export its identifiers. No identifier is bound twice if and only if the names in
Pascal case are distinct and none of them is one with a suffix. -/
theorem exported_once_iff {runtimeModule : String} {as : List Artifact}
    (h : sites d settings disk = .ok ss) (hs : site ∈ ss) (ha : site.artifacts runtimeModule = .ok as) :
    ∃ t, site.scope.typesFile = .ok t ∧
      (∀ x ∈ site.scope.identifiers t, ∃ a ∈ as, Text.Exports a.content x) ∧
      ((site.scope.identifiers t).Nodup ↔
        site.scope.pascalNames.Nodup ∧ site.scope.pascalNames.Disjoint site.scope.suffixedNames) := by
  obtain ⟨t, ht, hfiles⟩ := Site.artifacts_eq_ok ha
  refine ⟨t, ht, fun x hx => ?_, Scope.nodup_identifiers_iff ht (table_eq_of_mem_sites h hs)⟩
  have hcontent {f : String × String} (hf : f ∈ site.scope.files t runtimeModule) (hx : Text.Exports f.2 x) :
      ∃ a ∈ as, Text.Exports a.content x := by
    have hmem := List.mem_map_of_mem (f := fun f => (Site.place site.directory f.1, f.2)) hf
    rw [← hfiles] at hmem
    obtain ⟨a, ha, heq⟩ := List.mem_map.1 hmem
    have hsame : a.content = f.2 := congrArg Prod.snd heq
    exact ⟨a, ha, hsame ▸ hx⟩
  rcases List.mem_append.1 hx with hx | hx
  · exact hcontent List.mem_cons_self (exports_enumsText x hx)
  · exact hcontent (List.mem_cons_of_mem _ List.mem_cons_self)
      (t.exports_names site.scope.enums runtimeModule x hx)

/-- A user has a role and a name that the enum of the roles does not have. -/
theorem exported_once_iff_users :
    let role : Enumeration := { name := "Role", members := [{ name := "ADMIN" }] }
    let user : Model := { name := "User", fields := [
      { name := "id", kind := .string, isId := true },
      { name := "role", kind := .enum, enumName := some "Role" }] }
    let d : Document := { models := [user], enums := [role] }
    ∃ ss site as t, (sites d {} {} = .ok ss ∧ site ∈ ss ∧ site.artifacts "" = .ok as) ∧
      site.scope.typesFile = .ok t ∧
      (∀ x ∈ site.scope.identifiers t, ∃ a ∈ as, Text.Exports a.content x) ∧
      ((site.scope.identifiers t).Nodup ↔
        site.scope.pascalNames.Nodup ∧ site.scope.pascalNames.Disjoint site.scope.suffixedNames) := by
  intro role user d
  let site : Site := { scope := Scope.of d none [] }
  have hsites : sites d {} {} = .ok [site] := sites_whole_eq_ok (s := {}) (by decide +kernel)
  have hcomplete : ∀ m ∈ d.models, (∃ f ∈ m.fields, f.isId) ∧ ∀ f ∈ m.fields,
      (f.isId → f.kind ≠ .relation) ∧ (f.kind = .enum → ∃ e ∈ d.enums, f.enumName = some e.name) := by
    decide
  obtain ⟨as, has⟩ : ∃ as, site.artifacts "" = .ok as :=
    Site.exists_artifacts_eq_ok.2 (Scope.exists_typesFile_of_complete fun m hm =>
      hcomplete m (mem_publicModels.1 hm).1)
  have hmem : site ∈ [site] := List.mem_singleton_self site
  obtain ⟨t, ht⟩ := exported_once_iff hsites hmem has
  exact ⟨[site], site, as, t, ⟨hsites, hmem, has⟩, ht⟩

/-- Two enums with distinct names that are the same in Pascal case. -/
theorem exported_twice :
    let d : Document := { enums := [
      { name := "user_role", members := [{ name := "ADMIN" }] },
      { name := "UserRole", members := [{ name := "USER" }] }] }
    ∃ ss site as t, sites d {} {} = .ok ss ∧ site ∈ ss ∧ site.artifacts "" = .ok as ∧
      site.scope.typesFile = .ok t ∧ ¬ (site.scope.identifiers t).Nodup := by
  intro d
  let site : Site := { scope := Scope.of d none [] }
  have hsites : sites d {} {} = .ok [site] := sites_whole_eq_ok (s := {}) (by decide +kernel)
  obtain ⟨t, ht⟩ : ∃ t, site.scope.typesFile = .ok t :=
    Scope.exists_typesFile_of_complete fun m hm => absurd (mem_publicModels.1 hm).1 List.not_mem_nil
  obtain ⟨as, has⟩ : ∃ as, site.artifacts "" = .ok as := Site.exists_artifacts_eq_ok.2 ⟨t, ht⟩
  have hmem : site ∈ [site] := List.mem_singleton_self site
  refine ⟨[site], site, as, t, hsites, hmem, has, ht, fun hn => ?_⟩
  have htables := table_eq_of_mem_sites hsites hmem
  have hpascal := ((Scope.nodup_identifiers_iff ht htables).1 hn).1
  have hsorted : ((Text.sortedBy Enumeration.name d.enums).map Enumeration.pascalName).Nodup :=
    (List.nodup_append'.1 hpascal).1
  have hnames : (d.enums.map Enumeration.pascalName).Nodup :=
    ((Text.sortedBy_perm Enumeration.name d.enums).map _).nodup_iff.1 hsorted
  revert hnames
  decide +kernel

end SchemaTypes
