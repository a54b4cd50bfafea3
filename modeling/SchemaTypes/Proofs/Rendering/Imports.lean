import SchemaTypes.Proofs.Rendering.Identifiers
import SchemaTypes.Proofs.Rendering.Locality
import SchemaTypes.Proofs.Text.Word

/-!
# What `types.ts` imports from `enums.ts`

The imports are found by a search through the text of the declarations, so two things are to be said of
them. A name is imported only if an enum of the scope has it as its wrapper, and those are the enums that
`enums.ts` declares. And the search finds every wrapper that a column has for its type: however the
column wraps it, the characters beside it are those of the wrapping (`Field.hasWord_wrap`).
-/

namespace SchemaTypes
open Text

variable {d : Document} {s : Scope} {t : TypesFile} {m : Model} {f : Field} {e : Enumeration}

/-- The files `as` of a site with the declarations `t`: what the one imports, the other declares, and
what a column needs is imported. -/
structure Site.ImportsEnums (site : Site) (runtimeModule : String) (t : TypesFile) (as : List Artifact) :
    Prop where
  text : ∃ a ∈ as, a.path = place site.directory "types.ts" ∧ a.content =
    Text.blocks (banner :: importsText runtimeModule (t.imports site.scope.enums) ::
      t.statements.map Statement.text) ++ "\n"
  declared : ∀ x ∈ t.imports site.scope.enums, ∃ e ∈ site.scope.enums, e.wrapper = x ∧
    ∃ a ∈ as, a.path = place site.directory "enums.ts" ∧ Text.Exports a.content x
  /-- A column has the wrapper of its enum for its type, unless a type note, the brand of its model or
  the brand of a target goes first. -/
  columns : ∀ m ∈ site.scope.models, ∀ f ∈ m.fields, f.kind = .enum → f.override? = none →
    m.markedFields ≠ [f] →
    (∀ target, ¬ m.Qualifies site.scope.document (some site.scope.modelNames) f.name target) →
    ∃ e ∈ site.scope.enums, f.enumName = some e.name ∧
      (∃ c, .base c ∈ t.statements ∧ c.base = "_" ++ m.name ∧ (f.name, f.wrap e.wrapper) ∈ c.columns) ∧
      e.wrapper ∈ t.imports site.scope.enums

/-! ### The search finds the type of a column -/

namespace Wrapped

theorem hasWord_list (x : String) : HasWord (list x) x := ⟨"Schema.Array(", ")", rfl, by decide, by decide⟩

theorem hasWord_optional (x : String) : HasWord (optional x) x :=
  ⟨"Schema.NullishOr(", ")", rfl, by decide, by decide⟩

theorem hasWord_readOnly (x : String) : HasWord (readOnly x) x :=
  ⟨"columnType(", ", Schema.Never, Schema.Never)", rfl, by decide, by decide⟩

theorem hasWord_generated (x : String) : HasWord (generated x) x :=
  ⟨"generated(", ")", rfl, by decide, by decide⟩

theorem hasWord_bound (column x : String) : HasWord (bound column x) x := by
  have hassoc (a b c e : String) : a ++ x ++ b ++ c ++ e = a ++ x ++ (b ++ (c ++ e)) := by
    simp only [String.append_assoc]
  refine ⟨"Schema.propertySignature(", ").pipe(Schema.fromKey(" ++ (quote column ++ "))"), ?_, by decide, ?_⟩
  · exact hassoc _ _ _ _
  · exact SetOffAhead.append_left (by decide) (by decide)

end Wrapped

theorem Access.hasWord_wrap (a : Access) (x : String) : HasWord (a.wrap x) x := by
  cases a with
  | plain => exact .refl x
  | generated => exact Wrapped.hasWord_generated x
  | readOnly => exact Wrapped.hasWord_readOnly x

namespace Field

theorem hasWord_wrapShape (f : Field) (x : String) : HasWord (f.wrapShape x) x := by
  have hlist : HasWord (if f.isList then Wrapped.list x else x) x := by
    split
    · exact Wrapped.hasWord_list x
    · exact .refl x
  show HasWord (if f.isRequired then _ else Wrapped.optional _) x
  split
  · exact hlist
  · exact (Wrapped.hasWord_optional _).trans hlist

theorem hasWord_wrapBinding (f : Field) (x : String) : HasWord (f.wrapBinding x) x := by
  unfold wrapBinding
  split
  · exact Wrapped.hasWord_bound _ x
  · exact .refl x

theorem hasWord_wrap (f : Field) (x : String) : HasWord (f.wrap x) x :=
  (f.hasWord_wrapBinding _).trans ((f.access.hasWord_wrap _).trans (f.hasWord_wrapShape x))

end Field

theorem TableDecl.hasWord_baseText {c : TableDecl} {column : String × String} (h : column ∈ c.columns) :
    HasWord c.baseText column.2 := by
  have hline : HasWord (column.1 ++ ": " ++ column.2 ++ ",") column.2 :=
    (HasWord.refl column.2).within (SetOffBehind.append_right (by decide) (by decide)) (by decide)
  obtain ⟨l, hl, hword⟩ := hline.indent
    (List.mem_map_of_mem (f := fun c : String × String => c.1 ++ ": " ++ c.2 ++ ",") h)
  exact hword.unlines (List.mem_append_left _ (List.mem_append_right _ hl))

theorem TypesFile.hasWord_blocks {c : TableDecl} (hc : c ∈ t.tables) {column : String × String}
    (h : column ∈ c.columns) : HasWord (unlines t.blocks) column.2 := by
  have htable : HasWord c.text column.2 := (c.hasWord_baseText h).blocks List.mem_cons_self
  refine htable.unlines (List.mem_append_left _ (List.mem_append_right _ ?_))
  exact List.mem_map_of_mem hc

theorem Enumeration.wrapper_eq (e : Enumeration) : e.wrapper = Naming.pascal e.name ++ "Schema" :=
  Naming.pascalWith_of_ne e.name_ne

/-- The wrapper of an enum whose name starts with a letter is found wherever it stands as a word. -/
theorem TypesFile.mem_imports_of_hasWord {enums : List Enumeration}
    (he : e.wrapper ∈ enums.map Enumeration.wrapper) (hletter : e.name.toList.head?.any Char.isAlpha)
    (hword : HasWord (unlines t.blocks) e.wrapper) : e.wrapper ∈ t.imports enums := by
  have hfirst : e.wrapper.toList.head?.any isWord := by
    obtain ⟨x, hx, hletter⟩ := (Option.any_eq_true _ _).1 (Naming.isAlpha_head?_pascal hletter)
    rw [e.wrapper_eq, String.toList_append, List.head?_append, hx]
    exact isWord_of_isAlpha hletter
  have hlast : e.wrapper.toList.getLast?.any isWord := by
    rw [e.wrapper_eq, String.toList_append, List.getLast?_append]
    rfl
  refine mem_sortedOnce.2 (List.mem_filter.2 ⟨he, ?_⟩)
  exact hword.occursAsWord hfirst hlast

/-! ### The enums of a scope -/

theorem Scope.exists_mem_enums {subset : Option (List Model)} {ts : List JoinTable}
    (hm : m ∈ (Scope.of d subset ts).models) (hf : f ∈ m.fields) (hk : f.kind = .enum) (he : e ∈ d.enums)
    (hname : f.enumName = some e.name) : e ∈ (Scope.of d subset ts).enums := by
  refine mem_sortedBy.2 ?_
  cases subset with
  | none => exact he
  | some ms =>
    obtain ⟨hm, hi⟩ := mem_publicModels.1 hm
    refine List.mem_filter.2 ⟨he, ?_⟩
    rw [List.contains_eq_mem, decide_eq_true_eq]
    exact (mem_referredEnums e.name_ne).2 ⟨m, hm, hi, f, hf, hk, hname⟩

/-- A column has the wrapper of its enum for its type where nothing goes first. -/
theorem Scope.exists_baseType_wrapper (ht : s.typesFile = .ok t) (hm : m ∈ s.models) (hf : f ∈ m.fields)
    (hk : f.kind = .enum) (hnote : f.override? = none) (hmarked : m.markedFields ≠ [f])
    (htarget : ∀ target, ¬ m.Qualifies s.document (some s.modelNames) f.name target) :
    ∃ e ∈ s.document.enums, f.enumName = some e.name ∧
      f.baseType s.document m.owner? (m.keysIn s) = .ok (.wrapper e.name) := by
  have hrelation : ¬ f.isRelation := by simp [Field.isRelation, hk]
  have hne : f.kind ≠ .relation := by simp [hk]
  obtain ⟨e, he, hname⟩ : f.NamesEnum s.document := by
    have hcolumns := Model.exists_tableDecl_eq_ok.1 (Scope.exists_typesFile_eq_ok.1 ⟨t, ht⟩ m hm).2
    exact (Model.exists_column_eq_ok hf hne).1 (hcolumns f hf hne) hk hnote hmarked htarget
  refine ⟨e, he, hname, ?_⟩
  have howner : (m.owner?.filter fun _ => f.isId) = none := (Model.filter_owner? hf).2 hmarked
  have hkeys : (m.keysIn s).get? f.name = none := by
    rw [← Option.not_isSome_iff_eq_none]
    intro hsome
    obtain ⟨target, hqualifies⟩ := Model.get?_foreignKeys_isSome.1 hsome
    exact htarget target hqualifies
  have henum : f.enum? s.document = some e := Field.enum?_eq_some.2 ⟨he, hname⟩
  rw [Field.baseType, if_neg hrelation, hnote, howner, hkeys]
  simp only [Field.kindType, hk, henum]

/-! ### Sites -/

section Sites
variable {settings : Settings} {disk : Disk} {ss : List Site} {site : Site} {runtimeModule : String}
  {as : List Artifact}

theorem Site.exists_mem_artifacts (ha : site.artifacts runtimeModule = .ok as) :
    ∃ t, site.scope.typesFile = .ok t ∧ ∀ f ∈ site.scope.files t runtimeModule,
      ∃ a ∈ as, a.path = place site.directory f.1 ∧ a.content = f.2 := by
  obtain ⟨t, ht, hfiles⟩ := artifacts_eq_ok ha
  refine ⟨t, ht, fun f hf => ?_⟩
  have hmem : (place site.directory f.1, f.2) ∈ as.map fun a => (a.path, a.content) := by
    rw [hfiles]
    exact List.mem_map_of_mem (f := fun f => (place site.directory f.1, f.2)) hf
  obtain ⟨a, ha, heq⟩ := List.mem_map.1 hmem
  exact ⟨a, ha, congrArg Prod.fst heq, congrArg Prod.snd heq⟩

/-- The `types.ts` of every site imports only what its `enums.ts` declares, and all that its columns
need, if the names of the enums start with letters. -/
theorem imports_enums (hletters : ∀ e ∈ d.enums, e.name.toList.head?.any Char.isAlpha)
    (h : sites d settings disk = .ok ss) (hs : site ∈ ss) (ha : site.artifacts runtimeModule = .ok as) :
    ∃ t, site.scope.typesFile = .ok t ∧ site.ImportsEnums runtimeModule t as := by
  obtain ⟨t, ht, hfiles⟩ := Site.exists_mem_artifacts ha
  obtain ⟨subset, ts, hscope, -⟩ := scope_eq_of_mem_sites h hs
  have hdocument : site.scope.document = d := by rw [hscope]; rfl
  refine ⟨t, ht, ⟨?_, fun x hx => ?_, fun m hm f hf hk hnote hmarked htarget => ?_⟩⟩
  · obtain ⟨a, ha, hpath, hcontent⟩ := hfiles ("types.ts", t.text site.scope.enums runtimeModule)
      (List.mem_cons_of_mem _ List.mem_cons_self)
    exact ⟨a, ha, hpath, hcontent.trans (t.text_eq _ _)⟩
  · obtain ⟨hx, -⟩ := List.mem_filter.1 (mem_sortedOnce.1 hx)
    obtain ⟨e, he, rfl⟩ := List.mem_map.1 hx
    obtain ⟨a, ha, hpath, hcontent⟩ := hfiles ("enums.ts", enumsText site.scope.enums) List.mem_cons_self
    refine ⟨e, he, rfl, a, ha, hpath, ?_⟩
    rw [hcontent]
    exact exports_enumsText e.wrapper
      (List.mem_flatMap.2 ⟨e, he, List.mem_cons_of_mem _ List.mem_cons_self⟩)
  · obtain ⟨e, he, hname, hbase⟩ := Scope.exists_baseType_wrapper ht hm hf hk hnote hmarked htarget
    rw [hdocument] at he
    have henum : e ∈ site.scope.enums := by
      rw [hscope] at hm ⊢
      exact Scope.exists_mem_enums hm hf hk he hname
    have hcolumn : f ∈ m.columns := Model.mem_columns.2 ⟨hf, by simp [hk]⟩
    obtain ⟨c, hc, hmodel, hmem⟩ := Scope.exists_mem_columns ht hm hcolumn hbase
    refine ⟨e, henum, hname, ⟨c, (TypesFile.statements_mem hc).1, hmodel, hmem⟩, ?_⟩
    exact TypesFile.mem_imports_of_hasWord (List.mem_map_of_mem henum) (hletters e he)
      ((TypesFile.hasWord_blocks hc hmem).trans (f.hasWord_wrap e.wrapper))

/-- A user has roles, which may be absent and have another name in the database. -/
theorem imports_enums_users :
    let role : Enumeration := { name := "Role", members := [{ name := "ADMIN" }] }
    let user : Model := { name := "User", fields := [
      { name := "id", kind := .string, isId := true },
      { name := "roles", kind := .enum, enumName := some "Role", isList := true, isRequired := false,
        dbName := some "user_roles" }] }
    let d : Document := { models := [user], enums := [role] }
    ∃ ss site as t, ((∀ e ∈ d.enums, e.name.toList.head?.any Char.isAlpha) ∧ sites d {} {} = .ok ss ∧
      site ∈ ss ∧ site.artifacts "prisma-effect-kysely" = .ok as) ∧
      site.scope.typesFile = .ok t ∧ site.ImportsEnums "prisma-effect-kysely" t as := by
  intro role user d
  let site : Site := { scope := Scope.of d none [] }
  have hletters : ∀ e ∈ d.enums, e.name.toList.head?.any Char.isAlpha := by decide
  have hsites : sites d {} {} = .ok [site] := sites_whole_eq_ok (s := {}) (by decide +kernel)
  have hcomplete : ∀ m ∈ d.models, (∃ f ∈ m.fields, f.isId) ∧ ∀ f ∈ m.fields,
      (f.isId → f.kind ≠ .relation) ∧ (f.kind = .enum → ∃ e ∈ d.enums, f.enumName = some e.name) := by
    decide
  obtain ⟨as, has⟩ : ∃ as, site.artifacts "prisma-effect-kysely" = .ok as :=
    Site.exists_artifacts_eq_ok.2 (Scope.exists_typesFile_of_complete fun m hm =>
      hcomplete m (mem_publicModels.1 hm).1)
  have hmem : site ∈ [site] := List.mem_singleton_self site
  obtain ⟨t, ht⟩ := imports_enums hletters hsites hmem has
  exact ⟨[site], site, as, t, ⟨hletters, hsites, hmem, has⟩, ht⟩

end Sites

end SchemaTypes
