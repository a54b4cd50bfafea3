import SchemaTypes.Proofs.Domain.Grouping
import SchemaTypes.Proofs.Relation.Separation
import SchemaTypes.Proofs.Rendering.Columns
import SchemaTypes.Proofs.Rendering.Sites

/-!
# The files of a domain depend on the domain alone

`Document.part d x` is the schema with nothing but the models of the domain `x` and the enums that
they use. What the whole schema adds is not seen: a foreign key to another domain is out of scope in
one case and has no target in the other, and the join tables are the same where no relation name
is used on both sides of the domain (`Apart`). So rendering the part gives the files of the domain.
-/

namespace SchemaTypes

/-- The part of a schema that a domain makes up: its models, and the enums that the fields of its
models name, internal models apart. -/
def Document.part (d : Document) (x : Domain) : Document where
  models := d.models.filter (· ∈ x.models)
  enums := d.enums.filter fun e =>
    ∃ m ∈ x.models, ¬ m.isInternal ∧ ∃ f ∈ m.fields, f.kind = .enum ∧ f.enumName = some e.name
  models_nodup := d.models_nodup.sublist (List.filter_sublist.map _)
  enums_nodup := d.enums_nodup.sublist (List.filter_sublist.map _)

variable {d e : Document} {x : Domain} {m : Model} {f : Field} {s : Scope} {t : TypesFile}

/-! ### Another document behind the same models -/

namespace Field

theorem kindType_mono {b : BaseType} (h : ∀ y, f.kind = .enum → f.enum? d = some y → f.enum? e = some y)
    (hb : f.kindType d = .ok b) : f.kindType e = .ok b := by
  unfold kindType at *
  cases hk : f.kind with
  | enum =>
    simp only [hk] at hb
    cases hd : f.enum? d with
    | none => simp [hd] at hb
    | some y =>
      rw [hd] at hb
      rw [h y hk hd]
      exact hb
  | _ => simpa only [hk] using hb

theorem baseType_mono {owner : Option String} {keys : ForeignKeys} {b : BaseType}
    (h : ∀ c, f.kindType d = .ok c → f.kindType e = .ok c) (hb : f.baseType d owner keys = .ok b) :
    f.baseType e owner keys = .ok b := by
  revert hb
  unfold baseType
  -- only the last of the branches looks at the document
  cases f.isRelation with
  | true => exact id
  | false => cases f.override? with
    | some text => exact id
    | none => cases owner.filter fun _ => f.isId with
      | some model => exact id
      | none => cases keys.get? f.name with
        | some target => exact id
        | none => exact h b

end Field

namespace Model

theorem brand_mono {b : Option BrandDecl}
    (h : ∀ f ∈ m.fields, ∀ c, f.kindType d = .ok c → f.kindType e = .ok c) (hb : m.brand d = .ok b) :
    m.brand e = .ok b := by
  obtain ⟨key, hkey, hb⟩ := Traversal.bind_eq_ok_iff.1 hb
  refine Traversal.bind_eq_ok_iff.2 ⟨key, hkey, ?_⟩
  cases hs : m.soleIdentifier? with
  | none => rwa [hs] at hb
  | some f =>
    have hf : f ∈ m.markedFields := by simp [soleIdentifier?_eq_some.1 hs]
    rw [hs] at hb
    obtain ⟨c, hc, hb⟩ := Traversal.bind_eq_ok_iff.1 hb
    exact Traversal.bind_eq_ok_iff.2 ⟨c, h f (mem_markedFields.1 hf).1 c hc, hb⟩

theorem tableDecl_mono {c : TableDecl}
    (hk : ∀ f ∈ m.fields, ∀ b, f.kindType s.document = .ok b → f.kindType e = .ok b)
    (hf : m.foreignKeys e (some s.modelNames) = m.foreignKeys s.document (some s.modelNames))
    (h : m.tableDecl s = .ok c) : m.tableDecl { s with document := e } = .ok c := by
  have hkeys : m.keysIn { s with document := e } = m.keysIn s := hf
  obtain ⟨cs, hcs, h⟩ := Traversal.bind_eq_ok_iff.1 h
  refine Traversal.bind_eq_ok_iff.2 ⟨cs, Traversal.ok_mono (fun f hmem y hy => ?_) hcs, h⟩
  obtain ⟨text, htext, rfl⟩ := Traversal.map_eq_ok_iff.1 hy
  obtain ⟨b, hb, rfl⟩ := Traversal.map_eq_ok_iff.1 htext
  refine Traversal.map_eq_ok_iff.2 ⟨_, Traversal.map_eq_ok_iff.2 ⟨b, ?_, rfl⟩, rfl⟩
  rw [hkeys]
  exact Field.baseType_mono (hk f (mem_columns.1 hmem).1) hb

end Model

/-- Another document behind a scope: `types.ts` stays if the fields of the scope keep the types that
they have by kind, and the models their foreign keys. -/
theorem Scope.typesFile_mono
    (hk : ∀ m ∈ s.models, ∀ f ∈ m.fields, ∀ b, f.kindType s.document = .ok b → f.kindType e = .ok b)
    (hf : ∀ m ∈ s.models,
      m.foreignKeys e (some s.modelNames) = m.foreignKeys s.document (some s.modelNames))
    (h : s.typesFile = .ok t) : { s with document := e }.typesFile = .ok t := by
  obtain ⟨brands, hbrands, h⟩ := Traversal.bind_eq_ok_iff.1 h
  obtain ⟨tables, htables, h⟩ := Traversal.bind_eq_ok_iff.1 h
  obtain ⟨bs, hbs, rfl⟩ := Traversal.map_eq_ok_iff.1 hbrands
  have hbs' := Traversal.ok_mono (fun m hm b hb => Model.brand_mono (hk m hm) hb) hbs
  have htables' := Traversal.ok_mono (fun m hm c hc => Model.tableDecl_mono (hk m hm) (hf m hm) hc) htables
  exact Traversal.bind_eq_ok_iff.2 ⟨_, Traversal.map_eq_ok_iff.2 ⟨bs, hbs', rfl⟩,
    Traversal.bind_eq_ok_iff.2 ⟨tables, htables', h⟩⟩

/-! ### The part of a domain -/

theorem mem_part_models : m ∈ (d.part x).models ↔ m ∈ d.models ∧ m ∈ x.models := by
  simp [Document.part]

theorem mem_part_enums {y : Enumeration} : y ∈ (d.part x).enums ↔ y ∈ d.enums ∧
    ∃ m ∈ x.models, ¬ m.isInternal ∧ ∃ f ∈ m.fields, f.kind = .enum ∧ f.enumName = some y.name := by
  simp [Document.part]

theorem part_models {p : Model → Bool} (hx : x.models = d.models.filter p) :
    (d.part x).models = x.models := by
  show d.models.filter (· ∈ x.models) = x.models
  rw [hx]
  refine List.filter_congr fun m hm => ?_
  simp [hm]

theorem kindType_part {b : BaseType} (hm : m ∈ publicModels x.models) (hf : f ∈ m.fields)
    (hb : f.kindType d = .ok b) : f.kindType (d.part x) = .ok b := by
  obtain ⟨hmem, hi⟩ := mem_publicModels.1 hm
  refine Field.kindType_mono (fun y hk hy => ?_) hb
  obtain ⟨hy, hname⟩ := Field.enum?_eq_some.1 hy
  exact Field.enum?_eq_some.2 ⟨mem_part_enums.2 ⟨hy, m, hmem, hi, f, hf, hk, hname⟩, hname⟩

theorem foreignKeys_part (hx : x.models.Sublist d.models) :
    m.foreignKeys (d.part x) (some ((publicModels x.models).map Model.name)) =
      m.foreignKeys d (some ((publicModels x.models).map Model.name)) := by
  have hlink : ∀ f, Model.linkOf? (d.part x) (some ((publicModels x.models).map Model.name)) f =
      Model.linkOf? d (some ((publicModels x.models).map Model.name)) f := by
    intro f
    refine Option.ext fun ⟨target, key⟩ => ?_
    rw [Model.linkOf?_eq_some, Model.linkOf?_eq_some]
    refine and_congr_right fun _ => ?_
    constructor
    · rintro ⟨⟨ht, hname⟩, h⟩
      exact ⟨⟨(mem_part_models.1 ht).1, hname⟩, h⟩
    · rintro ⟨⟨ht, hname⟩, hs, hkey⟩
      obtain ⟨u, hu, hut⟩ := List.mem_map.1 (hs _ rfl)
      have hu := (mem_publicModels.1 hu).1
      have : u = target := d.model_ext (hx.subset hu) ht hut
      exact ⟨⟨mem_part_models.2 ⟨ht, this ▸ hu⟩, hname⟩, hs, hkey⟩
  unfold Model.foreignKeys Model.keysOf
  simp only [hlink]

theorem mem_referredEnums {ms : List Model} {name : String} (hne : name ≠ "") :
    name ∈ referredEnums (publicModels ms) ↔
      ∃ m ∈ ms, ¬ m.isInternal ∧ ∃ f ∈ m.fields, f.kind = .enum ∧ f.enumName = some name := by
  simp only [referredEnums, List.mem_filterMap, List.mem_flatMap, mem_publicModels, Field.isEnum,
    Option.ite_none_right_eq_some, Option.filter_eq_some_iff, decide_eq_true_eq]
  constructor
  · rintro ⟨f, ⟨m, ⟨hm, hi⟩, hf⟩, hk, hname, -⟩
    exact ⟨m, hm, hi, f, hf, hk, hname⟩
  · rintro ⟨m, hm, hi, f, hf, hk, hname⟩
    exact ⟨f, ⟨m, ⟨hm, hi⟩, hf⟩, hk, hname, hne⟩

/-- The scope of the part as a whole is that of the domain in the whole schema. -/
theorem scope_part {p : Model → Bool} (hx : x.models = d.models.filter p) (ts : List JoinTable) :
    Scope.of (d.part x) none (joinTablesTouching ts (x.models.map Model.name)) =
      { Scope.of d (some x.models) ts with document := d.part x } := by
  have henums : (d.part x).enums = d.enums.filter fun y =>
      (referredEnums (publicModels x.models)).contains y.name := by
    refine List.filter_congr fun y _ => ?_
    rw [List.contains_eq_mem, decide_eq_decide, mem_referredEnums y.name_ne]
  have htables : joinTablesTouching (joinTablesTouching ts (x.models.map Model.name))
      ((publicModels x.models).map Model.name) =
      joinTablesTouching ts ((publicModels x.models).map Model.name) := by
    have hsub : ∀ name ∈ (publicModels x.models).map Model.name, name ∈ x.models.map Model.name := by
      intro name hname
      obtain ⟨m, hm, rfl⟩ := List.mem_map.1 hname
      exact List.mem_map_of_mem (mem_publicModels.1 hm).1
    unfold joinTablesTouching
    rw [List.filter_filter]
    refine List.filter_congr fun t _ => ?_
    refine Bool.and_eq_left_iff_imp.2 fun h => ?_
    simp only [List.contains_eq_mem, Bool.or_eq_true, decide_eq_true_eq] at h ⊢
    exact h.imp (hsub _) (hsub _)
  unfold Scope.of
  simp only [Option.getD_none, Option.getD_some, part_models hx, henums, htables]

/-! ### Paths -/

theorem place_domain (name file : String) :
    Site.place (name ++ "/src/generated") file = name ++ "/src/generated/" ++ file := by
  have hne : name ++ "/src/generated" ≠ "" := by
    intro h
    simpa using congrArg String.toList h
  have hslash : "/src/generated/" = "/src/generated" ++ "/" := by decide
  rw [Site.place, if_neg hne, hslash, String.append_assoc, String.append_assoc, String.append_assoc,
    String.append_assoc]

/-- Files of names of one length have one path only in one domain and under one name. -/
theorem place_domain_inj {a b file other : String} (hl : file.length = other.length)
    (h : a ++ "/src/generated/" ++ file = b ++ "/src/generated/" ++ other) : a = b ∧ file = other := by
  have h := congrArg String.toList h
  simp only [String.toList_append] at h
  obtain ⟨hdirectory, hfile⟩ := List.append_inj' h hl
  exact ⟨String.toList_inj.1 (List.append_cancel_right hdirectory), String.toList_inj.1 hfile⟩

theorem Scope.length_of_mem_files {runtimeModule : String} {file : String × String}
    (h : file ∈ s.files t runtimeModule) : file.1.length = 8 := by
  have hname : file.1 ∈ ["enums.ts", "types.ts", "index.ts"] := List.mem_map_of_mem (f := Prod.fst) h
  have hlength : ∀ name ∈ ["enums.ts", "types.ts", "index.ts"], name.length = 8 := by decide
  exact hlength _ hname

/-- What a rendering holds for a file of a domain. -/
theorem get?_contents_domain {disk : Disk} {path : Option String} {runtimeModule : String} {r : Rendering}
    {ts : List JoinTable}
    (hr : renderSites ((Domain.detect d disk path).2.map fun x =>
      { domain := some x.name, scope := Scope.of d (some x.models) ts }) runtimeModule = .ok r)
    (hx : x ∈ (Domain.detect d disk path).2)
    (ht : (Scope.of d (some x.models) ts).typesFile = .ok t) {file : String × String}
    (hf : file ∈ (Scope.of d (some x.models) ts).files t runtimeModule) :
    r.contents.get? (x.name ++ "/src/generated/" ++ file.1) = some file.2 := by
  have hmem : (x.name ++ "/src/generated/" ++ file.1, file.2) ∈
      r.artifacts.map (fun a => (a.path, a.content)) :=
    (mem_artifacts hr).2 ⟨_, List.mem_map_of_mem hx, t, ht, file, hf, place_domain _ _, rfl⟩
  refine Keyed.get?_ofList_of_mem (fun content hc => ?_) hmem
  obtain ⟨_, hsite, t', ht', file', hf', hpath, rfl⟩ := (mem_artifacts hr).1 hc
  obtain ⟨y, hy, rfl⟩ := List.mem_map.1 hsite
  -- the path tells the domain and the name of the file
  have hl : file'.1.length = file.1.length := by
    rw [Scope.length_of_mem_files hf', Scope.length_of_mem_files hf]
  have hpath : y.name ++ "/src/generated/" ++ file'.1 = x.name ++ "/src/generated/" ++ file.1 :=
    (place_domain _ _).symm.trans hpath
  obtain ⟨hname, hfile⟩ := place_domain_inj hl hpath
  obtain rfl : y = x := List.inj_on_of_nodup_map Domain.nodup_names_detect hy hx hname
  obtain rfl : t' = t := Except.ok.inj (ht'.symm.trans ht)
  have hnames : ((Scope.of d (some y.models) ts).files t' runtimeModule).map Prod.fst |>.Nodup := by
    show ["enums.ts", "types.ts", "index.ts"].Nodup
    decide
  rw [List.inj_on_of_nodup_map hnames hf' hf hfile]

/-- Rendering the part of a domain as a whole gives the files that rendering all domains puts below
the directory of that domain. -/
theorem render_part (settings : Settings) (disk other : Disk) {r : Rendering}
    (hx : x ∈ (Domain.detect d disk settings.schemaPath).2)
    (hapart : Apart d.models fun m => m ∈ x.models)
    (hr : render d { settings with multiFileDomains := true } disk = .ok r) :
    ∃ alone, render (d.part x) { settings with multiFileDomains := false } other = .ok alone ∧
      alone.contents.names = ["enums.ts", "types.ts", "index.ts"] ∧
      ∀ file ∈ alone.contents.names,
        r.contents.get? (x.name ++ "/src/generated/" ++ file) = alone.contents.get? file := by
  obtain ⟨p, hp⟩ := Domain.exists_models_eq_filter hx
  have hsub := Domain.models_sublist hx
  obtain ⟨ts, hts, hr⟩ := render_domains_eq_ok.1 hr
  obtain ⟨t, ht⟩ := exists_renderSites_eq_ok.1 ⟨r, hr⟩ _ (List.mem_map_of_mem hx)
  have hts' : joinTables (d.part x).models = .ok (joinTablesTouching ts (x.models.map Model.name)) := by
    have h := joinTables_filter d.models_nodup hapart hts
    rw [← part_models hp]
    exact h
  have ht' : (Scope.of (d.part x) none (joinTablesTouching ts (x.models.map Model.name))).typesFile = .ok t := by
    rw [scope_part hp]
    exact Scope.typesFile_mono (fun m hm f hf b hb => kindType_part hm hf hb)
      (fun m hm => foreignKeys_part hsub) ht
  obtain ⟨alone, halone⟩ : ∃ alone,
      render (d.part x) { settings with multiFileDomains := false } other = .ok alone :=
    exists_render_whole_eq_ok.2 ⟨_, hts', t, ht'⟩
  have hcontents : alone.contents = (Scope.of d (some x.models) ts).files t settings.runtimeModule := by
    obtain ⟨us, hus, t', ht'', hfiles⟩ := render_whole_eq_ok halone
    obtain rfl : us = joinTablesTouching ts (x.models.map Model.name) := Except.ok.inj (hus.symm.trans hts')
    obtain rfl : t' = t := Except.ok.inj (ht''.symm.trans ht')
    rw [hfiles, scope_part hp]
    rfl
  refine ⟨alone, halone, by rw [hcontents]; rfl, fun name hname => ?_⟩
  rw [hcontents] at hname ⊢
  obtain ⟨file, hfile, rfl⟩ := List.mem_map.1 hname
  rw [get?_contents_domain hr hx ht hfile]
  simp only [Scope.files, List.mem_cons, List.not_mem_nil, or_false] at hfile
  rcases hfile with rfl | rfl | rfl <;> rfl

/-- Invoices have users, which are of another domain. -/
theorem render_part_billing :
    let user : Model := { name := "User", location := some "auth.prisma", fields := [
      { name := "id", kind := .string, isId := true }] }
    let invoice : Model := { name := "Invoice", location := some "billing.prisma", fields := [
      { name := "id", kind := .string, isId := true },
      { name := "status", kind := .enum, enumName := some "Status" },
      { name := "userId", kind := .string },
      { name := "user", kind := .relation, relationTarget := some "User", fromFields := ["userId"],
        toFields := ["id"] }] }
    let status : Enumeration := { name := "Status", members := [{ name := "PAID" }] }
    let role : Enumeration := { name := "Role", members := [{ name := "ADMIN" }] }
    let d : Document := { models := [user, invoice], enums := [status, role] }
    let billing : Domain := { name := "billing", models := [invoice], source := some "billing.prisma" }
    ∃ r, (billing ∈ (Domain.detect d {} none).2 ∧ Apart d.models (fun m => m ∈ billing.models) ∧
        render d { multiFileDomains := true } {} = .ok r) ∧
      ∃ alone, render (d.part billing) {} {} = .ok alone ∧
        alone.contents.names = ["enums.ts", "types.ts", "index.ts"] ∧
        ∀ file ∈ alone.contents.names,
          r.contents.get? ("billing" ++ "/src/generated/" ++ file) = alone.contents.get? file := by
  intro user invoice status role d billing
  have hdomains : (Domain.detect d {} none).2 =
      [{ name := "auth", models := [user], source := some "auth.prisma" }, billing] := by
    have hplaces : d.models.filterMap Domain.located? = ["auth.prisma", "billing.prisma"] := by decide
    have huser : Domain.located? user = some "auth.prisma" := by decide
    have hinvoice : Domain.located? invoice = some "billing.prisma" := by decide
    have hauth : Domain.nameOf "auth.prisma" = "auth" := by cbv
    have hbilling : Domain.nameOf "billing.prisma" = "billing" := by cbv
    have hnames : Text.sortedOnce ["auth", "billing"] = ["auth", "billing"] := by cbv
    unfold Domain.detect Domain.ofLocations
    simp only [hplaces, List.map_cons, List.map_nil, hauth, hbilling, hnames]
    simp [d, huser, hinvoice, hauth, hbilling, billing]
  have hmem : billing ∈ (Domain.detect d {} none).2 := by simp [hdomains]
  have hnolist : ∀ m ∈ d.models, ∀ f ∈ m.fields, ¬ f.isList := by decide
  have hapart : Apart d.models fun m => m ∈ billing.models := by
    rintro m hm - n - - relation - ⟨f, hf, hlist, -⟩
    exact absurd hlist (hnolist m hm f hf)
  have htables : joinTables d.models = .ok [] := by cbv
  have hfields : ∀ m ∈ d.models, (∃ f ∈ m.fields, f.isId) ∧ ∀ f ∈ m.fields,
      (f.isId → f.kind ≠ .relation) ∧ (f.kind = .enum → ∃ e ∈ d.enums, f.enumName = some e.name) := by
    decide
  obtain ⟨r, hr⟩ : ∃ r, render d { multiFileDomains := true } {} = .ok r := by
    have hsites : ∀ site ∈ (Domain.detect d {} none).2.map fun x =>
        ({ domain := some x.name, scope := Scope.of d (some x.models) [] } : Site),
        ∃ t, site.scope.typesFile = .ok t := by
      intro site hsite
      obtain ⟨x, hx, rfl⟩ := List.mem_map.1 hsite
      refine Scope.exists_typesFile_of_complete fun m hm => hfields m ?_
      exact (Domain.models_sublist hx).subset (mem_publicModels.1 hm).1
    obtain ⟨r, hr⟩ := exists_renderSites_eq_ok.2 hsites
    exact ⟨r, (render_domains_eq_ok (s := {})).2 ⟨[], htables, hr⟩⟩
  exact ⟨r, ⟨hmem, hapart, hr⟩, render_part {} {} {} hmem hapart hr⟩

end SchemaTypes
