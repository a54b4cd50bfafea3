import SchemaTypes.Proofs.Naming.Inverse
import SchemaTypes.Proofs.Relation.Inference
import SchemaTypes.Proofs.Rendering.Columns

/-!
# The columns of join tables

A join table holds the identifiers of two models. What their columns are typed as is decided from a copy of
the kind, by a table of its own, which takes every kind that it does not name for a text. So a column has
the type of its identifier just for some of the kinds (`joinTable_columns`).

The columns go by the names of the two models in snake case, which keeps the words of a name and not its
capitals. So they have different names just where the names of the models have different words
(`joinTable_keys`).
-/

namespace SchemaTypes

/-- The kinds of identifiers that join tables hold as what they are. -/
def Kind.joined : List Kind := [.string, .int, .float, .bigInt, .decimal]

variable {d : Document} {models : List Model} {f : Field} {ts : List JoinTable} {t : JoinTable}

/-- By its kind alone, the field is typed by the expression. -/
def Field.HasType (f : Field) (d : Document) (expression : String) : Prop :=
  ∃ b, f.kindType d = .ok b ∧ expression = b.expression

/-- The field is the identifier of the model of this name. -/
def Document.Identifies (d : Document) (model : String) (f : Field) : Prop :=
  ∃ m, d.model? model = some m ∧ m.identifier = .ok f

theorem wrapperName_ne_text (e : Enumeration) : Naming.wrapperName e.name ≠ BaseType.text.expression := by
  intro heq
  have hend : "Schema".toList <:+ (Naming.wrapperName e.name).toList := by
    rw [Naming.wrapperName, Naming.pascalWith_of_ne e.name_ne, String.toList_append]
    exact List.suffix_append _ _
  rw [heq] at hend
  exact absurd hend (by decide)

/-- The two tables of types agree on these kinds, and on no other that has a type. -/
theorem Field.hasType_joinBaseType_iff (hk : f.kind ≠ .relation) (he : f.kind = .enum → f.NamesEnum d) :
    f.HasType d (joinBaseType f.kind f.isUuid).expression ↔ f.kind ∈ Kind.joined := by
  unfold HasType kindType
  cases hkind : f.kind with
  | relation => exact absurd hkind hk
  | enum =>
    obtain ⟨e, he⟩ := Option.isSome_iff_exists.1 (enum?_isSome.2 (he hkind))
    refine iff_of_false ?_ (by decide)
    rintro ⟨b, hb, htype⟩
    simp only [he, Except.ok.injEq] at hb
    subst hb
    exact wrapperName_ne_text e htype.symm
  | string => exact iff_of_true ⟨_, rfl, rfl⟩ (by decide)
  | int => exact iff_of_true ⟨_, rfl, rfl⟩ (by decide)
  | float => exact iff_of_true ⟨_, rfl, rfl⟩ (by decide)
  | bigInt => exact iff_of_true ⟨_, rfl, rfl⟩ (by decide)
  | decimal => exact iff_of_true ⟨_, rfl, rfl⟩ (by decide)
  | _ =>
    refine iff_of_false ?_ (by decide)
    rintro ⟨b, hb, htype⟩
    cases hb
    change BaseType.text.expression = _ at htype
    revert htype
    decide

theorem exists_joins_of_nodup (hn : (models.map Model.name).Nodup) (h : joinTables models = .ok ts) (ht : t ∈ ts) :
    ∃ low ∈ models, ∃ high ∈ models, t.Joins low high := by
  obtain ⟨p, hp, hpt⟩ := (mem_joinTables h).1 ht
  obtain ⟨-, -, hjoins⟩ := Pairing.joinTable_eq_ok hpt
  have hdeclared := List.mem_of_find?_eq_some (Pairing.mem_firsts.1 hp)
  obtain ⟨hlow, hhigh⟩ := Pairing.mem_models_of_mem_declared hn hdeclared
  exact ⟨p.low, hlow, p.high, hhigh, hjoins⟩

theorem exists_joins (h : joinTables d.models = .ok ts) (ht : t ∈ ts) : ∃ low high,
    d.model? t.modelA = some low ∧ d.model? t.modelB = some high ∧ t.Joins low high := by
  obtain ⟨low, hlow, high, hhigh, hjoins⟩ := exists_joins_of_nodup d.models_nodup h ht
  exact ⟨low, high, Document.model?_eq_some.2 ⟨hlow, hjoins.modelA.symm⟩,
    Document.model?_eq_some.2 ⟨hhigh, hjoins.modelB.symm⟩, hjoins⟩

/-- The columns of a join table hold the identifiers of two models. Where an identifier has a type, its
column has it too just if the kind is one that join tables know. -/
theorem joinTable_columns (h : joinTables d.models = .ok ts) (ht : t ∈ ts) : ∃ keyA keyB typeA typeB,
    d.Identifies t.modelA keyA ∧ d.Identifies t.modelB keyB ∧
      t.tableDecl.columns = [
        (JoinTable.columnName t.modelA, Wrapped.bound "A" (Wrapped.readOnly typeA)),
        (JoinTable.columnName t.modelB, Wrapped.bound "B" (Wrapped.readOnly typeB))] ∧
      (keyA.kind ≠ .relation → (keyA.kind = .enum → keyA.NamesEnum d) →
        (keyA.HasType d typeA ↔ keyA.kind ∈ Kind.joined)) ∧
      (keyB.kind ≠ .relation → (keyB.kind = .enum → keyB.NamesEnum d) →
        (keyB.HasType d typeB ↔ keyB.kind ∈ Kind.joined)) := by
  obtain ⟨low, high, hlow, hhigh, hjoins⟩ := exists_joins h ht
  obtain ⟨keyA, hkeyA, hkindA, huuidA⟩ := hjoins.columnA
  obtain ⟨keyB, hkeyB, hkindB, huuidB⟩ := hjoins.columnB
  refine ⟨keyA, keyB, _, _, ⟨low, hlow, hkeyA⟩, ⟨high, hhigh, hkeyB⟩, rfl, ?_, ?_⟩
  · rw [hkindA, huuidA]
    exact Field.hasType_joinBaseType_iff
  · rw [hkindB, huuidB]
    exact Field.hasType_joinBaseType_iff

/-- Days, which are identified by a date, and tags, which are identified by a number. -/
def calendar : Document where
  models := [
    { name := "Day", fields := [
      { name := "date", kind := .dateTime, isId := true },
      { name := "tags", kind := .relation, isList := true, relationName := some "DayToTag",
        relationTarget := some "Tag" }] },
    { name := "Tag", fields := [
      { name := "id", kind := .int, isId := true },
      { name := "days", kind := .relation, isList := true, relationName := some "DayToTag",
        relationTarget := some "Day" }] }]

/-- The join table of days and tags. -/
def dayToTag : JoinTable where
  table := "_DayToTag"
  relation := "DayToTag"
  modelA := "Day"
  modelB := "Tag"
  kindA := .dateTime
  kindB := .int
  uuidB := true

theorem joinTable_columns_tag :
    (joinTables calendar.models = .ok [dayToTag] ∧ dayToTag ∈ [dayToTag]) ∧
      ∃ keyA keyB typeA typeB, calendar.Identifies "Day" keyA ∧ calendar.Identifies "Tag" keyB ∧
        dayToTag.tableDecl.columns = [
          ("day_id", Wrapped.bound "A" (Wrapped.readOnly typeA)),
          ("tag_id", Wrapped.bound "B" (Wrapped.readOnly typeB))] ∧
        keyB.kind = .int ∧ keyB.HasType calendar typeB := by
  have h : joinTables calendar.models = .ok [dayToTag] := by decide +kernel
  obtain ⟨keyA, keyB, typeA, typeB, hkeyA, hkeyB, hcolumns, -, htypeB⟩ :=
    joinTable_columns h (List.mem_singleton_self dayToTag)
  have hkind : keyB.kind = .int := by
    obtain ⟨m, hm, hkey⟩ := hkeyB
    cases hm
    cases hkey
    rfl
  refine ⟨⟨h, List.mem_singleton_self _⟩, keyA, keyB, typeA, typeB, hkeyA, hkeyB, hcolumns, hkind, ?_⟩
  rw [htypeB (by simp [hkind]) (by simp [hkind]), hkind]
  decide

/-- The column for the identifier of a day is a text. -/
theorem joinTable_columns_day : ∃ key, joinTables calendar.models = .ok [dayToTag] ∧
    calendar.Identifies dayToTag.modelA key ∧ key.kind ≠ .relation ∧
    (key.kind = .enum → key.NamesEnum calendar) ∧ dayToTag.tableDecl.columns.head? = some
      (JoinTable.columnName dayToTag.modelA, Wrapped.bound "A" (Wrapped.readOnly "Schema.String")) ∧
    ¬ key.HasType calendar "Schema.String" := by
  have h : joinTables calendar.models = .ok [dayToTag] := by decide +kernel
  refine ⟨{ name := "date", kind := .dateTime, isId := true }, h, ⟨_, rfl, rfl⟩, by decide, by simp,
    rfl, ?_⟩
  rintro ⟨b, hb, htype⟩
  cases hb
  exact absurd htype (by decide)

/-! ### The names of the columns -/

/-- Two columns for identifiers have one name just if the names of their models have the same words. -/
theorem JoinTable.columnName_inj {a b : String} :
    columnName a = columnName b ↔ Naming.words a.toList = Naming.words b.toList := by
  rw [columnName, columnName, String.append_left_inj, Naming.snake_inj]

/-- The columns of a join table are named after two different models. Their names differ just if the names of
the models have different words, and so wherever both are made of words in Pascal case. -/
theorem joinTable_keys (hn : (models.map Model.name).Nodup) (h : joinTables models = .ok ts) (ht : t ∈ ts) :
    ∃ low ∈ models, ∃ high ∈ models, ∃ typeA typeB, low.name ≠ high.name ∧
      t.tableDecl.columns = [
        (JoinTable.columnName low.name, Wrapped.bound "A" typeA),
        (JoinTable.columnName high.name, Wrapped.bound "B" typeB)] ∧
      (JoinTable.columnName low.name ≠ JoinTable.columnName high.name ↔
        Naming.words low.name.toList ≠ Naming.words high.name.toList) ∧
      (low.name ∈ Naming.pascalNames → high.name ∈ Naming.pascalNames →
        JoinTable.columnName low.name ≠ JoinTable.columnName high.name) := by
  obtain ⟨low, hlow, high, hhigh, hjoins⟩ := exists_joins_of_nodup hn h ht
  have hne : low.name ≠ high.name := by
    rw [← hjoins.modelA, ← hjoins.modelB]
    exact String.ne_of_lt t.ordered
  have hdistinct (hA : low.name ∈ Naming.pascalNames) (hB : high.name ∈ Naming.pascalNames) :
      JoinTable.columnName low.name ≠ JoinTable.columnName high.name := by
    rw [Ne, JoinTable.columnName_inj, ← Naming.snake_inj]
    exact fun hsnake => hne (Naming.snake_injOn hA hB hsnake)
  refine ⟨low, hlow, high, hhigh, Wrapped.readOnly (joinBaseType t.kindA t.uuidA).expression,
    Wrapped.readOnly (joinBaseType t.kindB t.uuidB).expression, hne, ?_,
    not_congr JoinTable.columnName_inj, hdistinct⟩
  rw [← hjoins.modelA, ← hjoins.modelB]
  rfl

theorem joinTable_keys_tag :
    ((calendar.models.map Model.name).Nodup ∧ joinTables calendar.models = .ok [dayToTag] ∧
      dayToTag ∈ [dayToTag]) ∧ (∀ m ∈ calendar.models, m.name ∈ Naming.pascalNames) ∧
      ∃ keyA keyB typeA typeB, dayToTag.tableDecl.columns = [
        (keyA, Wrapped.bound "A" typeA), (keyB, Wrapped.bound "B" typeB)] ∧ keyA ≠ keyB := by
  have h : joinTables calendar.models = .ok [dayToTag] := by decide +kernel
  have hnames : ∀ m ∈ calendar.models, m.name ∈ Naming.pascalNames := by
    have hword : ∀ m ∈ calendar.models, Naming.PascalWord m.name.toList := by decide
    exact fun m hm => ⟨[m.name], by simpa using hword m hm, by simp [String.join]⟩
  obtain ⟨low, hlow, high, hhigh, typeA, typeB, -, hcolumns, -, hne⟩ :=
    joinTable_keys calendar.models_nodup h (List.mem_singleton_self dayToTag)
  exact ⟨⟨calendar.models_nodup, h, List.mem_singleton_self _⟩, hnames, _, _, typeA, typeB, hcolumns,
    hne (hnames low hlow) (hnames high hhigh)⟩

/-- Two models whose names differ only in how an acronym is spelled. -/
def spellings : List Model := [
  { name := "APIKey", fields := [
    { name := "id", kind := .string, isId := true },
    { name := "old", kind := .relation, isList := true, relationName := some "Keys",
      relationTarget := some "ApiKey" }] },
  { name := "ApiKey", fields := [
    { name := "id", kind := .string, isId := true },
    { name := "new", kind := .relation, isList := true, relationName := some "Keys",
      relationTarget := some "APIKey" }] }]

/-- The join table of the two spellings. -/
def apiKeys : JoinTable where
  table := "_Keys"
  relation := "Keys"
  modelA := "APIKey"
  modelB := "ApiKey"
  kindA := .string
  kindB := .string
  uuidA := true
  uuidB := true

/-- Both columns of this join table have one name. -/
theorem joinTable_keys_clash : (spellings.map Model.name).Nodup ∧ joinTables spellings = .ok [apiKeys] ∧
    apiKeys.tableDecl.columns.map Prod.fst = ["api_key_id", "api_key_id"] := by
  decide +kernel

end SchemaTypes
