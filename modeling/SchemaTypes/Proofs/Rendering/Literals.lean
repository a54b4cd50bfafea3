import SchemaTypes.Proofs.Rendering.Artifacts
import SchemaTypes.Proofs.Rendering.Imports
import SchemaTypes.Proofs.Text.Quoted

/-!
# The literals of the generated files

Free texts of a schema get into the generated files as literals: the values that enums store, the names of
columns in the database, the names of brands, and the module that is imported. Each stands in a line behind
code that is known, and read from its opening quote it gives the text and ends where the code goes on
(`Scope.ReadsLiterals`), whatever characters the text has.
-/

namespace SchemaTypes
open Text

/-- A line of the text starts with `opening`, and goes on with a literal. Read from behind its first quote,
this gives `v`, and `closing` stands behind the quote that ends it. -/
def Text.HasLiteral (text opening v closing : String) : Prop :=
  ∃ before rest after : String, text = before ++ opening ++ "\"" ++ rest ∧
    (before = "" ∨ ∃ lines, before = lines ++ "\n") ∧
    readQuoted rest.toList = some (v.toList, (closing ++ after).toList)

/-- What stands in front of the name in the database. -/
def Wrapped.front (e : String) : String := "Schema.propertySignature(" ++ e ++ ").pipe(Schema.fromKey("

/-- In the texts `enums` and `types` of the files of a scope, the literals are read as what they stand for. -/
structure Scope.ReadsLiterals (s : Scope) (runtimeModule enums types : String) : Prop where
  stored : ∀ e ∈ s.enums, ∀ m ∈ e.members, HasLiteral enums ("  " ++ m.name ++ " = ") m.stored ","
  imported : HasLiteral types "import \x7b columnType, generated, getSchemas \x7d from " runtimeModule ";"
  brands : ∀ m ∈ s.models, ∀ key, m.soleIdentifier? = some key → ∃ b, key.kindType s.document = .ok b ∧
    HasLiteral types ("export const " ++ Naming.brandName m.name ++ " = " ++ b.expression ++ ".pipe(Schema.brand(")
      (Naming.brandName m.name) "));"
  /-- Only a column whose name in the database differs has this name as a literal. -/
  columns : ∀ m ∈ s.models, ∀ f ∈ m.columns, ∀ column, f.binding? = some column →
    ∃ b, f.baseType s.document m.owner? (m.keysIn s) = .ok b ∧
      HasLiteral types ("  " ++ f.name ++ ": " ++ Wrapped.front (f.access.wrap (f.wrapShape b.expression))) column ")),"
  joined : ∀ j ∈ s.tables,
    HasLiteral types ("  " ++ JoinTable.columnName j.modelA ++ ": " ++
      Wrapped.front (Wrapped.readOnly (joinBaseType j.kindA j.uuidA).expression)) "A" "))," ∧
    HasLiteral types ("  " ++ JoinTable.columnName j.modelB ++ ": " ++
      Wrapped.front (Wrapped.readOnly (joinBaseType j.kindB j.uuidB).expression)) "B" ")),"

/-! ### Lines with a literal -/

namespace Text
variable {text opening v closing : String}

theorem HasLine.hasLiteral (h : HasLine text (opening ++ quote v ++ closing)) :
    HasLiteral text opening v closing := by
  obtain ⟨before, after, rfl, hbefore⟩ := h
  refine ⟨before, String.ofList (escaped v.toList ++ '"' :: (closing ++ after).toList), after, ?_, hbefore, ?_⟩
  · refine String.toList_inj.1 ?_
    simp [toList_quote]
  · rw [String.toList_ofList]
    exact readQuoted_escaped _ _

/-- An entry with its comma is no blank line, so it is indented. -/
theorem hasLine_of_indent_subset {ls lines : List String} {l : String} (hlines : indent ls ⊆ lines)
    (h : l ++ "," ∈ ls) : HasLine (unlines lines) ("  " ++ (l ++ ",")) := by
  have hblank : ¬ allBlank (l ++ ",") := by
    intro hall
    exact absurd (List.all_eq_true.1 hall ',' (by simp)) (by decide)
  have hindented : "  " ++ (l ++ ",") ∈ indent ls := List.mem_map.2 ⟨_, h, if_neg hblank⟩
  exact hasLine_of_mem (hlines hindented)

end Text

theorem Enumeration.hasLine_member {e : Enumeration} {m : Member} (hm : m ∈ e.members) :
    HasLine e.text ("  " ++ m.name ++ " = " ++ quote m.stored ++ ",") := by
  have hline : HasLine e.text ("  " ++ (m.name ++ " = " ++ quote m.stored ++ ",")) :=
    hasLine_of_indent_subset (fun l hl => List.mem_append_left _ (List.mem_cons_of_mem _ hl))
      (List.mem_map_of_mem (f := fun m : Member => m.name ++ " = " ++ quote m.stored ++ ",") hm)
  simpa only [String.append_assoc] using hline

theorem BrandDecl.hasLine_quote (b : BrandDecl) : HasLine b.text
    ("export const " ++ b.name ++ " = " ++ b.base.expression ++ ".pipe(Schema.brand(" ++ quote b.name ++ "));") :=
  hasLine_of_mem (List.mem_cons_of_mem _ List.mem_cons_self)

theorem Wrapped.bound_eq (column e : String) : bound column e = front e ++ quote column ++ "))" := rfl

theorem TableDecl.hasLine_bound {c : TableDecl} {name column e : String}
    (h : (name, Wrapped.bound column e) ∈ c.columns) :
    HasLine c.baseText ("  " ++ name ++ ": " ++ Wrapped.front e ++ quote column ++ ")),") := by
  have hmem : name ++ ": " ++ Wrapped.bound column e ++ "," ∈ c.columns.map fun c => c.1 ++ ": " ++ c.2 ++ "," :=
    List.mem_map.2 ⟨(name, Wrapped.bound column e), h, by rfl⟩
  have hline : HasLine c.baseText ("  " ++ (name ++ ": " ++ Wrapped.bound column e ++ ",")) := by
    refine hasLine_of_indent_subset (fun l hl => ?_) hmem
    exact List.mem_append_left _ (List.mem_append_right _ hl)
  simp only [Wrapped.bound_eq, String.append_assoc] at hline ⊢
  exact hline

/-! ### The files of a scope -/

variable {s : Scope} {t : TypesFile} {m : Model} {runtimeModule : String}

theorem TypesFile.hasLine_imports (t : TypesFile) (enums : List Enumeration) (runtimeModule : String) :
    HasLine (t.text enums runtimeModule)
      ("import \x7b columnType, generated, getSchemas \x7d from " ++ quote runtimeModule ++ ";") := by
  have himports : HasLine (importsText runtimeModule (t.imports enums))
      ("import \x7b columnType, generated, getSchemas \x7d from " ++ quote runtimeModule ++ ";") :=
    hasLine_of_mem (List.mem_append_left _ (List.mem_cons_of_mem _ List.mem_cons_self))
  rw [TypesFile.text_eq]
  exact (himports.intercalate ⟨"\n", by decide⟩ (List.mem_cons_of_mem _ List.mem_cons_self)).append _

theorem TypesFile.hasLine_bound {c : TableDecl} (hc : c ∈ t.tables) {name column e : String}
    (h : (name, Wrapped.bound column e) ∈ c.columns) (enums : List Enumeration) (runtimeModule : String) :
    HasLine (t.text enums runtimeModule) ("  " ++ name ++ ": " ++ Wrapped.front e ++ quote column ++ ")),") :=
  TypesFile.hasLine_text (TypesFile.statements_mem hc).1 (TableDecl.hasLine_bound h) enums runtimeModule

theorem Scope.exists_baseType (ht : s.typesFile = .ok t) (hm : m ∈ s.models) {f : Field} (hf : f ∈ m.columns) :
    ∃ b, f.baseType s.document m.owner? (m.keysIn s) = .ok b := by
  obtain ⟨hf, hk⟩ := Model.mem_columns.1 hf
  have hcolumn := Model.exists_tableDecl_eq_ok.1 (Scope.exists_typesFile_eq_ok.1 ⟨t, ht⟩ m hm).2 f hf hk
  rwa [Model.column, Field.columnType, Traversal.exists_map_eq_ok_iff, Traversal.exists_map_eq_ok_iff] at hcolumn

theorem Scope.readsLiterals (ht : s.typesFile = .ok t) (runtimeModule : String) :
    s.ReadsLiterals runtimeModule (enumsText s.enums) (t.text s.enums runtimeModule) where
  stored e he m hm := (hasLine_enumsText he (Enumeration.hasLine_member hm)).hasLiteral
  imported := (t.hasLine_imports s.enums runtimeModule).hasLiteral
  brands m hm key hkey := by
    obtain ⟨b, hb, hbrand⟩ := Scope.exists_mem_brands ht hm hkey
    exact ⟨b, hb, (TypesFile.hasLine_text (TypesFile.brand_mem hbrand) (BrandDecl.hasLine_quote _) _ _).hasLiteral⟩
  columns m hm f hf column hcolumn := by
    obtain ⟨b, hb⟩ := Scope.exists_baseType ht hm hf
    obtain ⟨c, hc, -, hmem⟩ := Scope.exists_mem_columns ht hm hf hb
    rw [Field.wrap, Field.wrapBinding, hcolumn] at hmem
    exact ⟨b, hb, (TypesFile.hasLine_bound hc hmem _ _).hasLiteral⟩
  joined j hj := by
    obtain ⟨-, tables, -, heq, -⟩ := Scope.typesFile_eq_ok ht
    have htable : j.tableDecl ∈ t.tables := by
      rw [heq]
      exact List.mem_append_right _ (List.mem_map_of_mem hj)
    have ha : (JoinTable.columnName j.modelA, joinColumnType j.kindA j.uuidA "A") ∈ j.tableDecl.columns :=
      List.mem_cons_self
    have hb : (JoinTable.columnName j.modelB, joinColumnType j.kindB j.uuidB "B") ∈ j.tableDecl.columns :=
      List.mem_cons_of_mem _ List.mem_cons_self
    exact ⟨(TypesFile.hasLine_bound htable ha _ _).hasLiteral, (TypesFile.hasLine_bound htable hb _ _).hasLiteral⟩

/-! ### Renderings -/

/-- The literal of a text is read as this text up to its last character, and no quote in front of that one ends
it; distinct texts have distinct literals. In the files of a rendering the literals are read as the values,
brands, names in the database and module that they stand for. -/
theorem literals_read_back :
    (∀ v : String, ∃ cs, (quote v).toList = '"' :: cs ∧
      cs = slashed '"' (slashed '\\' v.toList) ++ ['"'] ∧ readQuoted cs = some (v.toList, []) ∧
      ∀ text rest, (∃ body, cs = body ++ '"' :: rest ∧ Spells body text) ↔ text = v.toList ∧ rest = []) ∧
    Function.Injective quote ∧
    ∀ (d : Document) (settings : Settings) (disk : Disk) (r : Rendering), render d settings disk = .ok r →
      ∃ ss, sites d settings disk = .ok ss ∧ ∀ site ∈ ss, ∃ enums types,
        (Site.place site.directory "enums.ts", enums) ∈ r.contents ∧
        (Site.place site.directory "types.ts", types) ∈ r.contents ∧
        site.scope.ReadsLiterals settings.runtimeModule enums types := by
  refine ⟨exists_toList_quote, quote_injective, fun d settings disk r h => ?_⟩
  obtain ⟨ss, hss, hr⟩ := Traversal.bind_eq_ok_iff.1 h
  refine ⟨ss, hss, fun site hsite => ?_⟩
  obtain ⟨t, ht⟩ := exists_renderSites_eq_ok.1 ⟨r, hr⟩ site hsite
  have hfile : ∀ f ∈ site.scope.files t settings.runtimeModule,
      (Site.place site.directory f.1, f.2) ∈ r.contents := by
    intro f hf
    rw [contents_eq h]
    exact (mem_artifacts hr).2 ⟨site, hsite, t, ht, f, hf, rfl, rfl⟩
  exact ⟨_, _, hfile _ List.mem_cons_self, hfile _ (List.mem_cons_of_mem _ List.mem_cons_self),
    Scope.readsLiterals ht settings.runtimeModule⟩

/-- A stored value, a column and a module with quotes and backslashes in them, also at their ends. -/
theorem literals_read_back_users :
    let admin : Member := { name := "ADMIN", dbName := some "\\\"\\" }
    let role : Enumeration := { name := "Role", members := [admin] }
    let home : Field := { name := "home", kind := .string, dbName := some "C:\\\"home\"\\" }
    let user : Model := { name := "User", fields := [{ name := "id", kind := .string, isId := true }, home] }
    let d : Document := { models := [user], enums := [role] }
    let settings : Settings := { runtimeModule := "./lib\"" }
    ∃ r enums types, render d settings {} = .ok r ∧ ("enums.ts", enums) ∈ r.contents ∧
      ("types.ts", types) ∈ r.contents ∧ HasLiteral enums "  ADMIN = " "\\\"\\" "," ∧
      HasLiteral types "import \x7b columnType, generated, getSchemas \x7d from " "./lib\"" ";" ∧
      HasLiteral types ("  home: " ++ Wrapped.front "Schema.String") "C:\\\"home\"\\" "))," := by
  intro admin role home user d settings
  have htables : joinTables d.models = .ok [] := by decide +kernel
  have hcomplete : ∀ m ∈ d.models, (∃ f ∈ m.fields, f.isId) ∧ ∀ f ∈ m.fields,
      (f.isId → f.kind ≠ .relation) ∧ (f.kind = .enum → ∃ e ∈ d.enums, f.enumName = some e.name) := by
    decide
  obtain ⟨t, ht⟩ : ∃ t, (Scope.of d none []).typesFile = .ok t :=
    Scope.exists_typesFile_of_complete fun m hm => hcomplete m (mem_publicModels.1 hm).1
  obtain ⟨r, hr⟩ : ∃ r, render d settings {} = .ok r :=
    exists_render_whole_eq_ok (s := settings).2 ⟨[], htables, t, ht⟩
  obtain ⟨ss, hss, hall⟩ := literals_read_back.2.2 d settings {} r hr
  obtain rfl := Except.ok.inj (hss.symm.trans (sites_whole_eq_ok (s := settings) htables))
  obtain ⟨enums, types, henums, htypes, hreads⟩ := hall _ (List.mem_singleton_self _)
  have hrole : role ∈ (Scope.of d none []).enums := mem_sortedBy.2 (List.mem_singleton_self role)
  have huser : user ∈ (Scope.of d none []).models := mem_publicModels.2 ⟨List.mem_singleton_self user, by decide⟩
  have hhome : home ∈ user.columns :=
    Model.mem_columns.2 ⟨List.mem_cons_of_mem _ (List.mem_singleton_self home), by decide⟩
  have htext : home.baseType d user.owner? (user.keysIn (Scope.of d none [])) = .ok .text := by decide +kernel
  obtain ⟨b, hb, hcolumn⟩ := hreads.columns user huser home hhome _ rfl
  obtain rfl := Except.ok.inj (hb.symm.trans htext)
  exact ⟨r, enums, types, hr, henums, htypes, hreads.stored role hrole admin (List.mem_singleton_self admin),
    hreads.imported, hcolumn⟩

end SchemaTypes
