import SchemaTypes.Proofs.Domain.Grouping
import SchemaTypes.Proofs.Rendering.Columns
import SchemaTypes.Proofs.Rendering.Sites

/-!
# What `types.ts` refers to, it declares

`types.ts` is a sequence of statements (`TypesFile.text_eq`). `TypesFile.Closed` says that what they
refer to is there: the brands of columns, ahead of all base schemas, the base schema of each
operational schema, ahead of it, and the aliases that the interface of the database names. A column
has the brand of its model or of a target in the scope (`Model.exists_owner`), and both are branded
for the same reason: they mark one identifier (`Scope.exists_mem_brands`).
-/

namespace SchemaTypes

/-- Some line of the text starts so. -/
def Text.HasLine (text start : String) : Prop :=
  ∃ before after, text = before ++ start ++ after ∧ (before = "" ∨ ∃ lines, before = lines ++ "\n")

/-- A block of `types.ts`. -/
inductive Statement where
  | brand (b : BrandDecl)
  | base (t : TableDecl)
  | operational (base name : String)
  | aliases (name : String)
  | database (entries : List (String × String))

namespace Statement

def text : Statement → String
  | brand b => b.text
  | base t => t.baseText
  | operational schema name => operationalText schema name
  | aliases name => aliasesText name
  | database entries => databaseText entries

end Statement

/-- The blocks of a table. -/
def TableDecl.statements (t : TableDecl) : List Statement :=
  [.base t, .operational t.base t.name, .aliases t.name]

/-- The blocks of `types.ts` behind its imports. -/
def TypesFile.statements (t : TypesFile) : List Statement :=
  t.brands.map .brand ++ t.tables.flatMap TableDecl.statements ++ [.database t.database]

/-- The file of a scope is a sequence of statements, and what they refer to is among them. -/
structure TypesFile.Closed (t : TypesFile) (s : Scope) : Prop where
  text : ∀ enums runtimeModule, t.text enums runtimeModule =
    Text.blocks (banner :: importsText runtimeModule (t.imports enums) ::
      t.statements.map Statement.text) ++ "\n"
  /-- A column whose base type is a brand is emitted with it, and the brand is declared. -/
  brands : ∀ m ∈ s.models, ∀ f ∈ m.columns, ∀ owner,
    f.baseType s.document m.owner? (m.keysIn s) = .ok (.brand owner) →
      (∃ c, .base c ∈ t.statements ∧ c.base = "_" ++ m.name ∧
        (f.name, f.wrap (Naming.brandName owner)) ∈ c.columns) ∧
      ∃ b, .brand b ∈ t.statements ∧
        Text.HasLine b.text ("export const " ++ Naming.brandName owner ++ " = ")
  brandsFirst : ∀ before b after, t.statements = before ++ .brand b :: after →
    ∀ c, .base c ∉ before
  operational : ∀ before base name after, t.statements = before ++ .operational base name :: after →
    ∃ c, .base c ∈ before ∧ Text.HasLine c.baseText ("export const " ++ base ++ " = Schema.Struct(\x7b")
  database : ∀ entries, .database entries ∈ t.statements → ∀ e ∈ entries,
    ∃ name, e.2 = name ++ "SelectEncoded" ∧ .aliases name ∈ t.statements ∧
      Text.HasLine (aliasesText name) ("export type " ++ e.2 ++ " = ")

/-! ### Lines and blocks -/

namespace Text
variable {start : String} {ls bs : List String}

theorem blocks_cons {b : String} (h : bs ≠ []) : blocks (b :: bs) = b ++ "\n\n" ++ blocks bs :=
  String.intercalate_cons_of_ne_nil h

theorem blocks_append {cs : List String} (hb : bs ≠ []) (hc : cs ≠ []) :
    blocks (bs ++ cs) = blocks bs ++ "\n\n" ++ blocks cs :=
  String.intercalate_append_of_ne_nil hb hc

theorem HasLine.append {text : String} (h : HasLine text start) (rest : String) :
    HasLine (text ++ rest) start := by
  obtain ⟨before, after, rfl, hbefore⟩ := h
  exact ⟨before, after ++ rest, by simp only [String.append_assoc], hbefore⟩

theorem HasLine.below {text : String} (h : HasLine text start) (lines : String) :
    HasLine (lines ++ "\n" ++ text) start := by
  obtain ⟨before, after, rfl, hbefore⟩ := h
  refine ⟨lines ++ "\n" ++ before, after, by simp only [String.append_assoc], .inr ?_⟩
  rcases hbefore with rfl | ⟨more, rfl⟩
  · exact ⟨lines, by rw [String.append_empty]⟩
  · exact ⟨lines ++ "\n" ++ more, by simp only [String.append_assoc]⟩

theorem HasLine.intercalate {sep b : String} (hsep : ∃ more, sep = more ++ "\n") (hb : b ∈ bs)
    (h : HasLine b start) : HasLine (sep.intercalate bs) start := by
  obtain ⟨more, rfl⟩ := hsep
  obtain ⟨before, after, heq, hbefore, -⟩ := exists_intercalate_eq hb
  rw [heq]
  refine HasLine.append ?_ after
  rcases hbefore with rfl | ⟨front, rfl⟩
  · rwa [String.empty_append]
  · rw [← String.append_assoc]
    exact h.below _

theorem hasLine_unlines (rest : String) (h : start ++ rest ∈ ls) : HasLine (unlines ls) start :=
  HasLine.intercalate ⟨"", rfl⟩ h ⟨"", rest, by rw [String.empty_append], .inl rfl⟩

theorem hasLine_of_mem (h : start ∈ ls) : HasLine (unlines ls) start :=
  hasLine_unlines "" (by rwa [String.append_empty])

theorem blocks_flatMap {α : Type} (xs : List α) (f : α → List String) (hf : ∀ x ∈ xs, f x ≠ []) :
    blocks (xs.map fun x => blocks (f x)) = blocks (xs.flatMap f) := by
  induction xs with
  | nil => rfl
  | cons x xs ih =>
    have ih := ih fun y hy => hf y (List.mem_cons_of_mem x hy)
    have hx := hf x List.mem_cons_self
    rw [List.map_cons, List.flatMap_cons]
    by_cases hxs : xs = []
    · rw [hxs, List.map_nil, List.flatMap_nil, List.append_nil, blocks, String.intercalate_singleton]
    · have hne : xs.flatMap f ≠ [] := by
        obtain ⟨y, ys, rfl⟩ := List.exists_cons_of_ne_nil hxs
        rw [List.flatMap_cons]
        exact List.append_ne_nil_of_left_ne_nil (hf y (by simp)) _
      have hmap : (xs.map fun x => blocks (f x)) ≠ [] := by simpa using hxs
      rw [blocks_cons hmap, ih, blocks_append hx hne]

end Text

/-- The text of `types.ts` is its opening and the statements, block by block. -/
theorem TypesFile.text_eq (t : TypesFile) (enums : List Enumeration) (runtimeModule : String) :
    t.text enums runtimeModule = Text.blocks (banner :: importsText runtimeModule (t.imports enums) ::
      t.statements.map Statement.text) ++ "\n" := by
  -- each block of the file is one of statements
  let units : List (List String) := [banner] :: [importsText runtimeModule (t.imports enums)] ::
    (t.brands.map (fun b => [b.text]) ++
      t.tables.map (fun t => [t.baseText, operationalText t.base t.name, aliasesText t.name]) ++
      [[databaseText t.database]])
  have hunits : ∀ u ∈ units, u ≠ [] := by
    intro u hu
    simp only [units, List.mem_cons, List.mem_append, List.mem_map, List.not_mem_nil, or_false] at hu
    rcases hu with rfl | rfl | (⟨_, -, rfl⟩ | ⟨_, -, rfl⟩) | rfl <;> simp
  have hflat := Text.blocks_flatMap units id hunits
  have hmap : (units.map fun u => Text.blocks (id u)) =
      banner :: importsText runtimeModule (t.imports enums) :: t.blocks := by
    simp [units, TypesFile.blocks, Text.blocks, TableDecl.text, Function.comp_def]
  have hstatements : units.flatMap id =
      banner :: importsText runtimeModule (t.imports enums) :: t.statements.map Statement.text := by
    simp [units, statements, TableDecl.statements, Statement.text, List.flatMap_def, List.map_flatten,
      Function.comp_def]
    exact List.map_eq_flatMap.symm
  rw [hmap, hstatements] at hflat
  rw [← hflat]
  rfl

/-! ### Declarations -/

theorem BrandDecl.hasLine (b : BrandDecl) : Text.HasLine b.text ("export const " ++ b.name ++ " = ") := by
  refine Text.hasLine_unlines (b.base.expression ++ ".pipe(Schema.brand(" ++
    Text.quote b.name ++ "));") ?_
  simp [String.append_assoc]

theorem TableDecl.hasLine (t : TableDecl) :
    Text.HasLine t.baseText ("export const " ++ t.base ++ " = Schema.Struct(\x7b") := by
  refine Text.hasLine_of_mem ?_
  simp

theorem hasLine_aliasesText (name : String) :
    Text.HasLine (aliasesText name) ("export type " ++ rowAlias name ++ " = ") := by
  refine Text.hasLine_unlines ("Schema.Schema.Encoded<typeof " ++ name ++ ".Selectable>;") ?_
  refine List.mem_append_right _ (List.mem_map.2 ⟨("Select", "Selectable"), by simp [operations], ?_⟩)
  refine String.toList_inj.1 ?_
  simp [rowAlias]

/-! ### Statements of a scope -/

variable {d : Document} {s : Scope} {t : TypesFile} {m : Model}

theorem Scope.typesFile_eq_ok (h : s.typesFile = .ok t) :
    s.brands = .ok t.brands ∧ ∃ tables, s.models.mapM (fun m => m.tableDecl s) = .ok tables ∧
      t.tables = tables ++ s.tables.map JoinTable.tableDecl ∧ t.database = s.database := by
  obtain ⟨brands, hbrands, h⟩ := Traversal.bind_eq_ok_iff.1 h
  obtain ⟨tables, htables, h⟩ := Traversal.bind_eq_ok_iff.1 h
  cases h
  exact ⟨hbrands, tables, htables, rfl, rfl⟩

theorem Model.tableDecl_eq_ok {c : TableDecl} (h : m.tableDecl s = .ok c) :
    c.base = "_" ++ m.name ∧ c.name = Naming.pascal m.name ∧ m.columns.mapM (m.column s) = .ok c.columns := by
  obtain ⟨columns, hcolumns, h⟩ := Traversal.bind_eq_ok_iff.1 h
  cases h
  exact ⟨rfl, rfl, hcolumns⟩

theorem Scope.exists_mem_brands (h : s.typesFile = .ok t) (hm : m ∈ s.models) {key : Field}
    (hkey : m.soleIdentifier? = some key) :
    ∃ base, key.kindType s.document = .ok base ∧ ⟨m.name, base⟩ ∈ t.brands := by
  obtain ⟨bs, hbs, heq⟩ := Traversal.map_eq_ok_iff.1 (Scope.typesFile_eq_ok h).1
  obtain ⟨b, hb⟩ := Traversal.exists_ok_iff.1 ⟨bs, hbs⟩ m hm
  have hmem : b ∈ bs := (Traversal.mem_iff hbs).2 ⟨m, hm, hb⟩
  obtain ⟨_, -, hb⟩ := Traversal.bind_eq_ok_iff.1 hb
  rw [hkey] at hb
  obtain ⟨base, hbase, hb⟩ := Traversal.bind_eq_ok_iff.1 hb
  cases hb
  refine ⟨base, hbase, ?_⟩
  rw [← heq]
  exact List.mem_filterMap.2 ⟨_, hmem, rfl⟩

theorem Field.kindType_ne_brand {f : Field} {owner : String} : f.kindType d ≠ .ok (.brand owner) := by
  intro h
  unfold kindType at h
  cases hk : f.kind with
  | enum =>
    rw [hk] at h
    dsimp only at h
    split at h <;> cases h
  | string =>
    rw [hk] at h
    dsimp only at h
    split at h <;> cases h
  | _ =>
    rw [hk] at h
    cases h

theorem Model.exists_owner (hs : ∀ m ∈ s.models, m ∈ s.document.models) (hm : m ∈ s.models) {f : Field}
    {owner : String} (h : f.baseType s.document m.owner? (m.keysIn s) = .ok (.brand owner)) :
    ∃ n ∈ s.models, n.name = owner ∧ ∃ key, n.soleIdentifier? = some key := by
  unfold Field.baseType at h
  split at h
  · cases h
  split at h
  · cases h
  split at h
  next model hmodel =>
    cases h
    obtain ⟨howner, -⟩ := Option.filter_eq_some_iff.1 hmodel
    obtain ⟨key, hkey, rfl⟩ := Option.map_eq_some_iff.1 howner
    exact ⟨m, hm, rfl, key, hkey⟩
  split at h
  next target htarget =>
    cases h
    obtain ⟨n, ⟨-, hn, hscope, r, -, -, -, key, hkey, -⟩, rfl⟩ := qualifies_of_get?_foreignKeys htarget
    obtain ⟨u, hu, hun⟩ := List.mem_map.1 (hscope _ rfl)
    -- the model of the scope that has the name of the target is the target
    obtain rfl : u = n := s.document.model_ext (hs u hu) hn hun
    exact ⟨u, hu, rfl, key, soleIdentifier?_eq_some.2 hkey⟩
  · exact absurd h Field.kindType_ne_brand

namespace TypesFile

theorem brand_mem {b : BrandDecl} (h : b ∈ t.brands) : .brand b ∈ t.statements := by
  simp [statements, h]

theorem statements_mem {c : TableDecl} (h : c ∈ t.tables) : .base c ∈ t.statements ∧
    .aliases c.name ∈ t.statements := by
  have hmem : ∀ x ∈ c.statements, x ∈ t.statements := fun x hx =>
    List.mem_append_left _ (List.mem_append_right _ (List.mem_flatMap.2 ⟨c, h, hx⟩))
  exact ⟨hmem _ (by simp [TableDecl.statements]), hmem _ (by simp [TableDecl.statements])⟩

theorem mem_entries {entries : List (String × String)} (h : .database entries ∈ t.statements) :
    entries = t.database := by
  simpa [statements, TableDecl.statements] using h

theorem exists_eq_append {front back before after : List Statement} {x : Statement}
    (h : front ++ back = before ++ x :: after) (hx : x ∉ front) :
    ∃ rest, before = front ++ rest ∧ back = rest ++ x :: after := by
  rcases List.append_eq_append_iff.1 h with ⟨rest, hbefore, hback⟩ | ⟨rest, hfront, hrest⟩
  · exact ⟨rest, hbefore, hback⟩
  · cases rest with
    | nil => exact ⟨[], by simpa using hfront.symm, by simpa using hrest.symm⟩
    | cons y rest =>
      obtain ⟨rfl, -⟩ := List.cons_eq_cons.1 hrest
      exact absurd (by simp [hfront]) hx

theorem brand_before {before after : List Statement} {b : BrandDecl}
    (h : t.statements = before ++ .brand b :: after) (c : TableDecl) : .base c ∉ before := by
  intro hc
  obtain ⟨front, back, rfl⟩ := List.append_of_mem hc
  rw [statements, List.append_assoc, List.append_assoc, List.cons_append] at h
  obtain ⟨rest, -, htables⟩ := exists_eq_append h (by simp)
  -- behind the brands there is no brand
  have hb : .brand b ∈ t.tables.flatMap TableDecl.statements ++ [.database t.database] := by
    simp [htables]
  simp [TableDecl.statements] at hb

theorem operational_after {before after : List Statement} {base name : String}
    (h : t.statements = before ++ .operational base name :: after) :
    ∃ c, .base c ∈ before ∧ c.base = base := by
  have htables : ∀ (tables : List TableDecl) {before : List Statement},
      tables.flatMap TableDecl.statements ++ [.database t.database] =
        before ++ .operational base name :: after → ∃ c, .base c ∈ before ∧ c.base = base := by
    intro tables
    induction tables with
    | nil =>
      intro before h
      have hmem : Statement.operational base name ∈ [.database t.database] := by
        rw [List.flatMap_nil, List.nil_append] at h
        simp [h]
      simp at hmem
    | cons c tables ih =>
      intro before h
      rw [List.flatMap_cons, TableDecl.statements] at h
      -- the statement is the second one of the first table, or it belongs to the others
      match before with
      | [] => simp at h
      | [x] =>
        simp only [List.cons_append, List.nil_append, List.cons.injEq] at h
        obtain ⟨rfl, hop, -⟩ := h
        cases hop
        exact ⟨c, List.mem_singleton_self _, rfl⟩
      | [x, y] => simp at h
      | x :: y :: z :: before =>
        simp only [List.cons_append, List.nil_append, List.cons.injEq] at h
        obtain ⟨e, he, hbase⟩ := ih h.2.2.2
        exact ⟨e, by simp [he], hbase⟩
  rw [statements, List.append_assoc] at h
  obtain ⟨rest, rfl, hrest⟩ := exists_eq_append h (by simp)
  obtain ⟨c, hc, hbase⟩ := htables t.tables hrest
  exact ⟨c, List.mem_append_right _ hc, hbase⟩

end TypesFile

theorem Scope.exists_mem_tables (h : s.typesFile = .ok t) {e : String × String} (he : e ∈ s.database) :
    ∃ c ∈ t.tables, e.2 = rowAlias c.name := by
  obtain ⟨-, tables, htables, heq, -⟩ := Scope.typesFile_eq_ok h
  rw [heq]
  rcases List.mem_append.1 he with he | he
  · obtain ⟨m, hm, rfl⟩ := List.mem_map.1 he
    obtain ⟨c, hc⟩ := Traversal.exists_ok_iff.1 ⟨tables, htables⟩ m hm
    refine ⟨c, List.mem_append_left _ ((Traversal.mem_iff htables).2 ⟨m, hm, hc⟩), ?_⟩
    rw [(Model.tableDecl_eq_ok hc).2.1]
  · obtain ⟨j, hj, rfl⟩ := List.mem_map.1 he
    exact ⟨j.tableDecl, List.mem_append_right _ (List.mem_map_of_mem hj), rfl⟩

theorem Scope.exists_mem_columns (h : s.typesFile = .ok t) (hm : m ∈ s.models) {f : Field}
    (hf : f ∈ m.columns) {b : BaseType} (hb : f.baseType s.document m.owner? (m.keysIn s) = .ok b) :
    ∃ c ∈ t.tables, c.base = "_" ++ m.name ∧ (f.name, f.wrap b.expression) ∈ c.columns := by
  obtain ⟨-, tables, htables, heq, -⟩ := Scope.typesFile_eq_ok h
  obtain ⟨c, hc⟩ := Traversal.exists_ok_iff.1 ⟨tables, htables⟩ m hm
  obtain ⟨hbase, -, hcolumns⟩ := Model.tableDecl_eq_ok hc
  refine ⟨c, ?_, hbase, (Traversal.mem_iff hcolumns).2 ⟨f, hf, ?_⟩⟩
  · rw [heq]
    exact List.mem_append_left _ ((Traversal.mem_iff htables).2 ⟨m, hm, hc⟩)
  · rw [Model.column, Field.columnType, hb]
    rfl

theorem Scope.closed_typesFile (hs : ∀ m ∈ s.models, m ∈ s.document.models) (h : s.typesFile = .ok t) :
    t.Closed s := by
  refine ⟨t.text_eq, fun m hm f hf owner hb => ?_, fun before b after heq c => ?_,
    fun before base name after heq => ?_, fun entries hentries e he => ?_⟩
  · obtain ⟨c, hc, hbase, hcolumn⟩ := Scope.exists_mem_columns h hm hf hb
    obtain ⟨n, hn, rfl, key, hkey⟩ := Model.exists_owner hs hm hb
    obtain ⟨base, -, hbrand⟩ := Scope.exists_mem_brands h hn hkey
    exact ⟨⟨c, (TypesFile.statements_mem hc).1, hbase, hcolumn⟩, ⟨n.name, base⟩, TypesFile.brand_mem hbrand,
      BrandDecl.hasLine _⟩
  · exact TypesFile.brand_before heq c
  · obtain ⟨c, hc, rfl⟩ := TypesFile.operational_after heq
    exact ⟨c, hc, c.hasLine⟩
  · obtain rfl := TypesFile.mem_entries hentries
    obtain ⟨-, -, -, -, hdatabase⟩ := Scope.typesFile_eq_ok h
    rw [hdatabase] at he
    obtain ⟨c, hc, hrow⟩ := Scope.exists_mem_tables h he
    refine ⟨c.name, hrow, (TypesFile.statements_mem hc).2, ?_⟩
    rw [hrow]
    exact hasLine_aliasesText c.name

/-! ### Sites -/

theorem scope_eq_of_mem_sites {settings : Settings} {disk : Disk} {ss : List Site} {site : Site}
    (h : sites d settings disk = .ok ss) (hs : site ∈ ss) :
    ∃ subset ts, site.scope = Scope.of d subset ts ∧ ∀ m ∈ subset.getD d.models, m ∈ d.models := by
  unfold sites at h
  split at h
  · obtain ⟨ts, -, h⟩ := Traversal.bind_eq_ok_iff.1 h
    cases h
    obtain ⟨x, hx, rfl⟩ := List.mem_map.1 hs
    exact ⟨some x.models, ts, rfl, fun m hm => (Domain.models_sublist hx).subset hm⟩
  · obtain ⟨scope, hscope, rfl⟩ := Traversal.map_eq_ok_iff.1 h
    obtain ⟨ts, -, rfl⟩ := Traversal.map_eq_ok_iff.1 hscope
    rw [List.mem_singleton.1 hs]
    exact ⟨none, ts, rfl, fun m hm => hm⟩

/-- The `types.ts` of every site declares what it refers to. -/
theorem typesFile_closed {settings : Settings} {disk : Disk} {ss : List Site} {site : Site}
    (h : sites d settings disk = .ok ss) (hs : site ∈ ss) (ht : site.scope.typesFile = .ok t) :
    t.Closed site.scope := by
  obtain ⟨subset, ts, hscope, hsubset⟩ := scope_eq_of_mem_sites h hs
  refine Scope.closed_typesFile (fun m hm => ?_) ht
  rw [hscope] at hm ⊢
  exact hsubset m (mem_publicModels.1 hm).1

/-- Posts have a user, tags, and an internal model behind a key. -/
theorem typesFile_closed_posts :
    let user : Model := { name := "User", fields := [{ name := "id", kind := .string, isId := true }] }
    let audit : Model := { name := "_Audit", fields := [{ name := "id", kind := .int, isId := true }] }
    let tag : Model := { name := "Tag", fields := [
      { name := "id", kind := .int, isId := true },
      { name := "posts", kind := .relation, isList := true, relationName := some "PostToTag",
        relationTarget := some "Post" }] }
    let post : Model := { name := "Post", fields := [
      { name := "id", kind := .string, isId := true },
      { name := "userId", kind := .string },
      { name := "auditId", kind := .int },
      { name := "user", kind := .relation, relationTarget := some "User", fromFields := ["userId"],
        toFields := ["id"] },
      { name := "audit", kind := .relation, relationTarget := some "_Audit", fromFields := ["auditId"],
        toFields := ["id"] },
      { name := "tags", kind := .relation, isList := true, relationName := some "PostToTag",
        relationTarget := some "Tag" }] }
    let d : Document := { models := [user, audit, tag, post] }
    ∃ ss site t, (sites d {} {} = .ok ss ∧ site ∈ ss ∧ site.scope.typesFile = .ok t) ∧
      t.Closed site.scope := by
  intro user audit tag post d
  let ts : List JoinTable := [
    { table := "_PostToTag", relation := "PostToTag", modelA := "Post", modelB := "Tag",
      kindA := .string, kindB := .int, uuidA := true, uuidB := true }]
  have htables : joinTables d.models = .ok ts := by decide +kernel
  have hfields : ∀ m ∈ d.models, (∃ f ∈ m.fields, f.isId) ∧ ∀ f ∈ m.fields,
      (f.isId → f.kind ≠ .relation) ∧ (f.kind = .enum → ∃ e ∈ d.enums, f.enumName = some e.name) := by
    decide
  have hsites : sites d {} {} = .ok [{ scope := Scope.of d none ts }] := by
    refine (sites_whole (s := {})).trans ?_
    rw [htables]
    rfl
  obtain ⟨t, ht⟩ : ∃ t, (Scope.of d none ts).typesFile = .ok t :=
    Scope.exists_typesFile_of_complete fun m hm => hfields m (mem_publicModels.1 hm).1
  exact ⟨_, _, t, ⟨hsites, List.mem_singleton_self _, ht⟩,
    typesFile_closed hsites (List.mem_singleton_self _) ht⟩

end SchemaTypes
