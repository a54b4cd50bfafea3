import SchemaTypes.Proofs.Source.NormalForm
import SchemaTypes.Proofs.Traversal

/-!
# Datamodels and the schemas in them

`InDatamodel` says which entries describe a schema as a datamodel, whatever else stands there. A
datamodel names either an enum or a target, so it describes a field only if the field does
(`Field.Plain`). The normal form of a datamodel then describes the same schema
(`Datamodel.exists_normalized_eq_ok`), and each way to hold the schema in a document gives this schema
(`parse_eq_ok`).
-/

namespace SchemaTypes

/-! ### Descriptions -/

/-- What a datamodel calls a kind. -/
def Kind.classWord : Kind → String
  | enum => "enum"
  | relation => "object"
  | _ => "scalar"

namespace Field

/-- What a datamodel names as the type of the field. -/
def typeValue (f : Field) : Value :=
  match f.kind with
  | .enum => .ofText? f.enumName
  | .relation => .ofText? f.relationTarget
  | k => .text k.word

/-- Only a field of an enum names an enum, and only a relation names a target. -/
def Plain (f : Field) : Prop :=
  (f.enumName ≠ none → f.kind = .enum) ∧ (f.relationTarget ≠ none → f.kind = .relation)

/-- The entries describe the field in a datamodel. -/
structure InDatamodel (f : Field) (es : Entries) : Prop extends Described f es where
  kind : es.get "kind" = .text f.kind.classWord
  type : es.get "type" = f.typeValue

end Field

structure Model.InDatamodel (m : Model) (es : Entries) : Prop extends Described m es where
  fields : (Source.orEmpty (es.get "fields")).Lists (fun f => Value.IsRecord f.InDatamodel) m.fields

structure Enumeration.InDatamodel (e : Enumeration) (es : Entries) : Prop extends Described e es where
  values : (Source.orEmpty (es.get "values")).Lists (fun m => Value.IsRecord m.Described) e.members

/-- The entries describe the schema as a datamodel. -/
structure Document.InDatamodel (d : Document) (es : Entries) : Prop where
  models : (Source.orEmpty (es.get "models")).Lists (fun m => Value.IsRecord m.InDatamodel) d.models
  enums : (Source.orEmpty (es.get "enums")).Lists (fun e => Value.IsRecord e.InDatamodel) d.enums

def Document.Plain (d : Document) : Prop := ∀ m ∈ d.models, ∀ f ∈ m.fields, f.Plain

/-! ### Fields -/

variable {es : Entries} {key : String} {v : Value} {f : Field}

namespace Datamodel

/-- The entries of a field under the keys that keep their names, and further ones. -/
theorem get?_kept (es : Entries) (more : Keyed Value) (key : String) :
    Entries.get? ((keptEntries es ++ more).map fun e => (.text e.1, e.2)) key =
      (if key ∈ fieldKeys then es.get? key else none).or (more.get? key) := by
  rw [Entries.get?_record, Keyed.get?_append, keptEntries, Keyed.get?_filterMap]

theorem only_kept (es : Entries) {more : Keyed Value} (h : ∀ e ∈ more, e.1 ∈ Field.keys) :
    Entries.Only ((keptEntries es ++ more).map fun e => (.text e.1, e.2)) Field.keys := by
  intro e he
  obtain ⟨x, hx, rfl⟩ := List.mem_map.1 he
  refine ⟨x.1, ?_, rfl⟩
  rcases List.mem_append.1 hx with hx | hx
  · obtain ⟨k, hk, hx⟩ := List.mem_filterMap.1 hx
    obtain ⟨v, -, rfl⟩ := Option.map_eq_some_iff.1 hx
    have hkeys : ∀ k ∈ fieldKeys, k ∈ Field.keys := by decide
    exact hkeys k hk
  · exact h x hx

end Datamodel

/-- A description of a field holds of all entries that agree on the keys that keep their names. -/
theorem Field.Described.congr {out : Entries} (h : f.Described es)
    (hsame : ∀ key ∈ Datamodel.fieldKeys, out.get? key = es.get? key) : f.Described out := by
  cases h
  constructor <;> simpa (disch := decide) only [Entries.get, hsame]

namespace Datamodel

def typeKeys : List String := ["kind", "enumName", "relationTarget"]

theorem inNormalForm_kept (h : f.Described es) {more : Keyed Value} (hmore : ∀ e ∈ more, e.1 ∈ typeKeys)
    (hkind : more.get? "kind" = some (.text f.kind.word))
    (henum : (more.get? "enumName").getD .null = .ofText? f.enumName)
    (htarget : (more.get? "relationTarget").getD .null = .ofText? f.relationTarget) :
    f.InNormalForm ((keptEntries es ++ more).map fun e => (.text e.1, e.2)) := by
  have hother {key : String} (hkey : key ∉ typeKeys) : more.get? key = none :=
    Keyed.get?_eq_none fun e he heq => hkey (heq ▸ hmore e he)
  -- so the entries that are kept and the further ones do not hide each other
  have hkept : ∀ key ∈ fieldKeys, key ∉ typeKeys := by decide
  refine { h.congr fun key hkey => ?_ with
    only := only_kept es fun e he => ?_, kind := .inl ⟨?_, ?_⟩, enumName := ?_, relationTarget := ?_ }
  · rw [get?_kept, if_pos hkey, hother (hkept key hkey), Option.or_none]
  · have hkeys : ∀ k ∈ typeKeys, k ∈ Field.keys := by decide
    exact hkeys _ (hmore e he)
  · rw [Entries.get, get?_kept, if_neg (by decide), Option.none_or, hkind]
    rfl
  · rw [get?_kept, if_neg (by decide), hother (by decide)]
    rfl
  · rwa [Entries.get, get?_kept, if_neg (by decide), Option.none_or]
  · rwa [Entries.get, get?_kept, if_neg (by decide), Option.none_or]

theorem exists_field_eq_ok (model : Value) (hf : f.Plain) (h : f.InDatamodel es) :
    ∃ out, field model (.mapping es) = .ok (.mapping out) ∧ f.InNormalForm out := by
  have htype := h.type
  have hkind := h.kind
  have hnoEnum (hne : f.kind ≠ .enum) : .null = Value.ofText? f.enumName := by
    rw [not_ne_iff.1 (mt hf.1 hne)]
    rfl
  have hnoTarget (hne : f.kind ≠ .relation) : .null = Value.ofText? f.relationTarget := by
    rw [not_ne_iff.1 (mt hf.2 hne)]
    rfl
  unfold Field.typeValue at htype
  unfold field
  dsimp only
  by_cases henum : f.kind = .enum
  · rw [henum] at hkind htype hnoTarget
    rw [hkind]
    refine ⟨_, rfl, inNormalForm_kept h.toDescribed (by simp [typeKeys]) ?_ htype (hnoTarget nofun)⟩
    rw [henum]
    rfl
  by_cases hrelation : f.kind = .relation
  · rw [hrelation] at hkind htype hnoEnum
    rw [hkind]
    refine ⟨_, rfl, inNormalForm_kept h.toDescribed (by simp [typeKeys]) ?_ (hnoEnum nofun) htype⟩
    rw [hrelation]
    rfl
  · -- the type of a scalar is its kind
    have hclass : f.kind.classWord = "scalar" := by
      unfold Kind.classWord
      split <;> simp_all
    have hword : es.get "type" = .text f.kind.word := by
      split at htype <;> simp_all
    rw [hkind, hclass]
    refine ⟨_, rfl, inNormalForm_kept h.toDescribed (by simp [typeKeys]) ?_ (hnoEnum henum)
      (hnoTarget hrelation)⟩
    rw [hword]
    rfl

/-! ### Models and enums -/

/-- What a loop visits describes what the list describes; a void value lists nothing. -/
theorem visited_eq_ok {α : Type} {R : α → Value → Prop} {xs : List α} (h : (Source.orEmpty v).Lists R xs) :
    ∃ vs, v.visited = .ok vs ∧ List.Forall₂ R xs vs := by
  obtain ⟨vs, hvs, hall⟩ := h
  refine ⟨vs, ?_, hall⟩
  unfold Source.orEmpty at hvs
  unfold Value.visited
  split at hvs
  next hvoid =>
    cases hvs
    rw [if_pos hvoid]
  next hvoid =>
    rw [if_neg hvoid, hvs]
    rfl

theorem exists_model_eq_ok {m : Model} (hm : ∀ f ∈ m.fields, f.Plain) (h : m.InDatamodel es) :
    ∃ out, model (.mapping es) = .ok (.mapping out) ∧ m.InNormalForm out := by
  obtain ⟨vs, hvs, hall⟩ := visited_eq_ok h.fields
  have hfield : ∀ f ∈ m.fields, ∀ w, Value.IsRecord f.InDatamodel w →
      ∃ out, field (.text m.name) w = .ok out ∧ Value.IsRecord f.InNormalForm out := by
    rintro f hf _ ⟨fs, rfl, hfs⟩
    obtain ⟨out, hout, hnormal⟩ := exists_field_eq_ok (.text m.name) (hm f hf) hfs
    exact ⟨_, hout, out, rfl, hnormal⟩
  obtain ⟨fields, hfields, hdescribed⟩ := Traversal.exists_ok_forall₂ hfield hall
  let out : Entries := [(.text "name", .text m.name), (.text "dbName", es.get "dbName"),
    (.text "primaryKey", es.get "primaryKey"), (.text "schemaLocation", es.get "schemaLocation"),
    (.text "fields", .list fields)]
  have hname : Entries.get? es "name" = some (.text m.name) := Entries.get?_of_get h.name nofun
  refine ⟨out, ?_, ⟨rfl, h.dbName, h.primaryKey, h.location⟩, ?_, fields, rfl, hdescribed⟩
  · show ((es.get "fields").visited.mapError _ >>= _) = _
    rw [hvs, hname]
    show (vs.mapM (field (.text m.name)) >>= _) = _
    rw [hfields]
    rfl
  · simp [out, Entries.Only, Model.attributes]

theorem member_eq_ok {m : Member} (h : m.Described es) :
    ∃ out, member (.mapping es) = .ok out ∧ m.InNormalForm out := by
  refine ⟨_, rfl, .inr ⟨_, rfl, ⟨h.name, h.dbName⟩, ?_⟩⟩
  simp [Entries.Only, Member.attributes]

theorem exists_enumeration_eq_ok {e : Enumeration} (h : e.InDatamodel es) :
    ∃ out, enumeration (.mapping es) = .ok (.mapping out) ∧ e.InNormalForm out := by
  obtain ⟨vs, hvs, hall⟩ := visited_eq_ok h.values
  have hmember : ∀ m ∈ e.members, ∀ w, Value.IsRecord m.Described w →
      ∃ out, member w = .ok out ∧ m.InNormalForm out := by
    rintro m - _ ⟨ms, rfl, hms⟩
    exact member_eq_ok hms
  obtain ⟨members, hmembers, hdescribed⟩ := Traversal.exists_ok_forall₂ hmember hall
  let out : Entries := [(.text "name", es.get "name"), (.text "dbName", es.get "dbName"),
    (.text "values", .list members)]
  refine ⟨out, ?_, ⟨h.name, h.dbName⟩, ?_, members, rfl, hdescribed⟩
  · show ((es.get "values").visited >>= fun vs => _) = _
    rw [hvs]
    show (vs.mapM member >>= _) = _
    rw [hmembers]
    rfl
  · simp [out, Entries.Only, Enumeration.attributes]

theorem exists_normalized_eq_ok {d : Document} (hd : d.Plain) (h : d.InDatamodel es) :
    ∃ models enums, normalized (.mapping es) = .ok (.record [("models", models), ("enums", enums)]) ∧
      models.Lists (fun m => Value.IsRecord m.InNormalForm) d.models ∧
      enums.Lists (fun e => Value.IsRecord e.InNormalForm) d.enums := by
  obtain ⟨ms, hms, hallModels⟩ := visited_eq_ok h.models
  obtain ⟨vs, hvs, hallEnums⟩ := visited_eq_ok h.enums
  have hmodel : ∀ m ∈ d.models, ∀ w, Value.IsRecord m.InDatamodel w →
      ∃ out, model w = .ok out ∧ Value.IsRecord m.InNormalForm out := by
    rintro m hm _ ⟨fs, rfl, hfs⟩
    obtain ⟨out, hout, hnormal⟩ := exists_model_eq_ok (hd m hm) hfs
    exact ⟨_, hout, out, rfl, hnormal⟩
  have henum : ∀ e ∈ d.enums, ∀ w, Value.IsRecord e.InDatamodel w →
      ∃ out, enumeration w = .ok out ∧ Value.IsRecord e.InNormalForm out := by
    rintro e - _ ⟨fs, rfl, hfs⟩
    obtain ⟨out, hout, hnormal⟩ := exists_enumeration_eq_ok hfs
    exact ⟨_, hout, out, rfl, hnormal⟩
  obtain ⟨models, hmodels, hdescribedModels⟩ := Traversal.exists_ok_forall₂ hmodel hallModels
  obtain ⟨enums, henums, hdescribedEnums⟩ := Traversal.exists_ok_forall₂ henum hallEnums
  refine ⟨.list models, .list enums, ?_, ⟨models, rfl, hdescribedModels⟩, enums, rfl, hdescribedEnums⟩
  show ((es.get "models").visited.mapError _ >>= _) = _
  rw [hms]
  show (ms.mapM model >>= _) = _
  rw [hmodels]
  show ((es.get "enums").visited.mapError _ >>= _) = _
  rw [hvs]
  show ((vs.mapM enumeration).mapError _ >>= _) = _
  rw [henums]
  rfl

end Datamodel

/-! ### Documents that hold a schema -/

namespace Source
variable {raw : Entries} {d : Document} {s : Settings}

/-- The ways in which a document holds a schema. Other entries may stand beside it. -/
inductive Presents (raw : Entries) (d : Document) : Prop
  | normalForm (hdmmf : ∀ es, raw.get "dmmf" ≠ .mapping es)
      (hdatamodel : ∀ es, raw.get "datamodel" ≠ .mapping es)
      (hkey : raw.hasKey "models" || raw.hasKey "enums") (h : d.InNormalForm raw)
  | datamodel (hdmmf : ∀ es, raw.get "dmmf" ≠ .mapping es) {es : Entries}
      (hes : raw.get "datamodel" = .mapping es) (h : d.InDatamodel es)
  | nested {outer es : Entries} (houter : raw.get "dmmf" = .mapping outer)
      (hes : outer.get "datamodel" = .mapping es) (h : d.InDatamodel es)

/-- The settings that stand beside the schema are in order. -/
def Configures (raw : Entries) (s : Settings) : Prop :=
  ∃ es, settingEntries raw = .ok es ∧ Settings.check (.mapping es) = .good s

theorem schemaValue_eq (hdmmf : ∀ es, raw.get "dmmf" ≠ .mapping es) : schemaValue raw =
    match raw.get "datamodel" with
    | .mapping es => Datamodel.normalized (.mapping es)
    | _ =>
      if raw.hasKey "models" || raw.hasKey "enums" then
        .ok (.record [("models", orEmpty (raw.get "models")), ("enums", orEmpty (raw.get "enums"))])
      else .error (.load .noSchema) := by
  unfold schemaValue
  generalize raw.get "dmmf" = v at hdmmf
  cases v with
  | mapping es => exact absurd rfl (hdmmf es)
  | _ => rfl

/-- The document holds the datamodel, at the top level or under its key for one. -/
inductive HoldsDatamodel (raw es : Entries) : Prop
  | top (hdmmf : ∀ outer, raw.get "dmmf" ≠ .mapping outer) (h : raw.get "datamodel" = .mapping es)
  | nested {outer : Entries} (houter : raw.get "dmmf" = .mapping outer)
      (h : outer.get "datamodel" = .mapping es)

theorem schemaValue_of_datamodel (h : HoldsDatamodel raw es) :
    schemaValue raw = Datamodel.normalized (.mapping es) := by
  cases h with
  | top hdmmf h => rw [schemaValue_eq hdmmf, h]
  | nested houter h =>
    unfold schemaValue
    simp only [houter, h]

theorem exists_schemaValue_eq_ok (hd : d.Plain) (h : Presents raw d) :
    ∃ models enums, schemaValue raw = .ok (.record [("models", models), ("enums", enums)]) ∧
      models.Lists (fun m => Value.IsRecord m.InNormalForm) d.models ∧
      enums.Lists (fun e => Value.IsRecord e.InNormalForm) d.enums := by
  cases h with
  | normalForm hdmmf hdatamodel hkey h =>
    rw [schemaValue_eq hdmmf]
    split
    next es hes => exact absurd hes (hdatamodel es)
    · rw [if_pos hkey]
      exact ⟨_, _, rfl, h.models, h.enums⟩
  | datamodel hdmmf hes h =>
    rw [schemaValue_of_datamodel (.top hdmmf hes)]
    exact Datamodel.exists_normalized_eq_ok hd h
  | nested houter hes h =>
    rw [schemaValue_of_datamodel (.nested houter hes)]
    exact Datamodel.exists_normalized_eq_ok hd h

/-- Whichever way a document holds a plain schema, this is the schema that is read from it. -/
theorem parse_of_presents (hd : d.Plain) (h : Presents raw d) (hs : Configures raw s) :
    parse (.mapping raw) = .ok (d, s) := by
  obtain ⟨models, enums, hvalue, hmodels, henums⟩ := exists_schemaValue_eq_ok hd h
  obtain ⟨es, hes, hsettings⟩ := hs
  show (schemaValue raw >>= _) = _
  rw [hvalue]
  show ((Document.check _).toExcept.mapError _ >>= _) = _
  rw [Document.check_eq_good hmodels henums]
  show ((settingEntries raw).mapError _ >>= _) = _
  rw [hes]
  show ((Settings.check (.mapping es)).toExcept.mapError _ >>= _) = _
  rw [hsettings]
  rfl

end Source

/-! ### Writing datamodels -/

/-- The field in a datamodel, where its storage type has arguments. -/
def Field.datamodel (f : Field) : Entries :=
  f.entriesWith ((f.nativeType.map fun t => .list [.text t, .list []]).getD .null)
    [("kind", .text f.kind.classWord), ("type", f.typeValue)]

theorem Field.inDatamodel_datamodel (f : Field) : f.InDatamodel f.datamodel := by
  refine ⟨f.described_entriesWith ?_ _, rfl, rfl⟩
  cases f.nativeType with
  | none => exact .inl rfl
  | some t => exact .inr (.inl ⟨_, rfl⟩)

/-- The model in a datamodel, where its identifier of several columns has a name. -/
def Model.datamodel (m : Model) : Entries := [
  (.text "name", .text m.name), (.text "dbName", .ofText? m.dbName),
  (.text "fields", .list (m.fields.map fun f => .mapping f.datamodel)),
  (.text "primaryKey", .record [("name", .null), ("fields", .texts m.primaryKey)]),
  (.text "schemaLocation", .ofText? m.location)]

theorem Model.inDatamodel_datamodel (m : Model) : m.InDatamodel m.datamodel := by
  refine ⟨⟨rfl, rfl, .inr ⟨_, rfl, .inl rfl⟩, rfl⟩, ?_⟩
  show (Source.orEmpty (.list _)).Lists _ _
  rw [Source.orEmpty_list]
  exact Value.lists_map fun f _ => ⟨_, rfl, f.inDatamodel_datamodel⟩

/-- The schema as a datamodel; its enums are written as in normal form. -/
def Document.datamodel (d : Document) : Entries := [
  (.text "models", .list (d.models.map fun m => .mapping m.datamodel)),
  (.text "enums", .list (d.enums.map fun e => .mapping e.normalForm))]

theorem Document.inDatamodel_datamodel (d : Document) : d.InDatamodel d.datamodel := by
  constructor
  · show (Source.orEmpty (.list _)).Lists _ _
    rw [Source.orEmpty_list]
    exact Value.lists_map fun m _ => ⟨_, rfl, m.inDatamodel_datamodel⟩
  · show (Source.orEmpty (.list _)).Lists _ _
    rw [Source.orEmpty_list]
    refine Value.lists_map fun e _ => ⟨_, rfl, ⟨rfl, rfl⟩, ?_⟩
    show (Source.orEmpty (.list _)).Lists _ _
    rw [Source.orEmpty_list]
    exact Value.lists_map fun m _ => ⟨_, rfl, rfl, rfl⟩

/-- A plain schema is read from each document that presents it, in whichever form and beside whichever
settings. So it is read from its datamodel, at the top or one level down, and from its normal form. -/
theorem parse_eq_ok {d : Document} (hd : d.Plain) :
    (∀ raw s, Source.Presents raw d → Source.Configures raw s → Source.parse (.mapping raw) = .ok (d, s)) ∧
    Source.parse (.record [("datamodel", .mapping d.datamodel)]) = .ok (d, {}) ∧
    Source.parse (.record [("dmmf", .record [("datamodel", .mapping d.datamodel)])]) = .ok (d, {}) ∧
    Source.parse (.mapping d.normalForm) = .ok (d, {}) := by
  refine ⟨fun raw s h hs => Source.parse_of_presents hd h hs, ?_, ?_, ?_⟩
  · exact Source.parse_of_presents hd (.datamodel nofun rfl d.inDatamodel_datamodel) ⟨[], rfl, rfl⟩
  · exact Source.parse_of_presents hd (.nested rfl rfl d.inDatamodel_datamodel) ⟨[], rfl, rfl⟩
  · exact Source.parse_of_presents hd (.normalForm nofun nofun rfl d.inNormalForm_normalForm) ⟨[], rfl, rfl⟩

/-- Users have a role and memberships, which have an identifier of two columns. -/
theorem parse_eq_ok_users :
    let role : Enumeration := { name := "Role", members := [{ name := "ADMIN" }, {
      name := "USER", dbName := some "user" }] }
    let user : Model := { name := "User", dbName := some "users", fields := [
      { name := "id", kind := .string, isId := true, nativeType := some "Uuid" },
      { name := "role", kind := .enum, enumName := some "Role" },
      { name := "memberships", kind := .relation, isList := true, relationTarget := some "Membership" }] }
    let membership : Model := { name := "Membership", primaryKey := ["userId", "teamId"], fields := [
      { name := "userId", kind := .string }, { name := "teamId", kind := .int },
      { name := "user", kind := .relation, relationTarget := some "User", fromFields := ["userId"],
        toFields := ["id"] }] }
    let d : Document := { models := [user, membership], enums := [role] }
    d.Plain ∧
    (∀ raw s, Source.Presents raw d → Source.Configures raw s → Source.parse (.mapping raw) = .ok (d, s)) ∧
    Source.parse (.record [("datamodel", .mapping d.datamodel)]) = .ok (d, {}) ∧
    Source.parse (.record [("dmmf", .record [("datamodel", .mapping d.datamodel)])]) = .ok (d, {}) ∧
    Source.parse (.mapping d.normalForm) = .ok (d, {}) := by
  intro role user membership d
  have hall : ∀ m ∈ d.models, ∀ f ∈ m.fields, (f.enumName ≠ none → f.kind = .enum) ∧
      (f.relationTarget ≠ none → f.kind = .relation) := by decide
  have hd : d.Plain := hall
  exact ⟨hd, parse_eq_ok hd⟩

end SchemaTypes
