import SchemaTypes.Proofs.Source.Datamodel
import SchemaTypes.Proofs.Source.Failures

/-!
# Documents of the wrong shape

A document is read as a schema, or refused with a load failure, unless a datamodel or the settings of a
generator block have a shape that the step which takes it for granted cannot use (`Astray`): then parsing
ends in a mishap, which says nothing about the document (`parse_reported_iff`). A datamodel is worked off
in order. So a field of an unsupported kind, for which it is refused, hides what comes after it.
-/

namespace SchemaTypes

/-- The step ends in a mishap. -/
def Lost {α : Type} (x : Except Failure α) : Prop := ∃ m, x = .error (.mishap m)

namespace Lost
variable {α β : Type}

theorem bind_iff {x : Except Failure α} {k : α → Except Failure β} :
    Lost (x >>= k) ↔ Lost x ∨ ∃ a, x = .ok a ∧ Lost (k a) := by
  cases x <;> simp [Lost, bind, Except.bind]

theorem mapError_iff {x : Except Mishap α} : Lost (x.mapError .mishap) ↔ ¬ ∃ a, x = .ok a := by
  cases x <;> simp [Lost, Except.mapError]

theorem map_iff {x : Except Failure α} {f : α → β} : Lost (f <$> x) ↔ Lost x := by
  simp [Lost, Traversal.map_eq_error_iff]

theorem not_ok {a : α} : ¬ Lost (.ok a : Except Failure α) := by
  rintro ⟨m, h⟩
  cases h

theorem not_load {f : LoadFailure} : ¬ Lost (.error (.load f) : Except Failure α) := by
  rintro ⟨m, h⟩
  cases h

theorem not_mapError_load {ε : Type} {x : Except ε α} {g : ε → LoadFailure} :
    ¬ Lost (x.mapError fun e => .load (g e)) := by
  cases x with
  | error e => exact not_load
  | ok a => exact not_ok

theorem mapM_iff {f : α → Except Failure β} {xs : List α} : Lost (xs.mapM f) ↔
    ∃ before x after, xs = before ++ x :: after ∧ (∀ y ∈ before, ∃ z, f y = .ok z) ∧ Lost (f x) := by
  simp only [Lost, Traversal.eq_error_iff]
  constructor
  · rintro ⟨m, before, x, after, hxs, hbefore, hx⟩
    exact ⟨before, x, after, hxs, hbefore, m, hx⟩
  · rintro ⟨before, x, after, hxs, hbefore, m, hx⟩
    exact ⟨m, before, x, after, hxs, hbefore, hx⟩

end Lost

/-! ### Rows -/

namespace Value
variable {fits astray : Value → Prop} {v : Value}

/-- The value is void, or a list of values that fit. -/
def Rows (fits : Value → Prop) (v : Value) : Prop := v.isVoid ∨ ∃ xs, v = .list xs ∧ ∀ x ∈ xs, fits x

/-- The value is neither void nor a list, or it is a list in which the first value that does not fit is
astray. -/
def RowsAstray (fits astray : Value → Prop) (v : Value) : Prop :=
  ¬ v.isVoid ∧ ∀ xs, v = .list xs →
    ∃ before x after, xs = before ++ x :: after ∧ (∀ y ∈ before, fits y) ∧ astray x

/-- A loop over a value visits nothing, the values of a list, or scalars; or there is no such loop. -/
theorem visited_cases (v : Value) : v.isVoid ∧ v.visited = .ok [] ∨
    ¬ v.isVoid ∧ ((∃ xs, v = .list xs ∧ v.visited = .ok xs) ∨
      (∀ xs, v ≠ .list xs) ∧ ((∃ m, v.visited = .error m) ∨ ∃ s rest, v.visited = .ok (.scalar s :: rest))) := by
  unfold visited
  by_cases hvoid : v.isVoid
  · exact .inl ⟨hvoid, if_pos hvoid⟩
  refine .inr ⟨hvoid, ?_⟩
  rw [if_neg hvoid]
  cases v with
  | list xs => exact .inl ⟨xs, rfl, rfl⟩
  | mapping es =>
    cases es with
    | nil => exact absurd rfl hvoid
    | cons e es => exact .inr ⟨by simp, .inr ⟨e.1, _, rfl⟩⟩
  | set xs =>
    cases xs with
    | nil => exact absurd rfl hvoid
    | cons x xs => exact .inr ⟨by simp, .inr ⟨x, _, rfl⟩⟩
  | scalar s =>
    refine .inr ⟨by simp, ?_⟩
    cases s with
    | text s =>
      cases hs : s.toList with
      | nil => exact absurd (by simpa [isVoid] using hs) hvoid
      | cons c cs => simp [visited?, hs]
    | bytes bs =>
      cases bs with
      | nil => exact absurd rfl hvoid
      | cons b bs => exact .inr ⟨_, _, rfl⟩
    | _ => exact .inl ⟨_, rfl⟩

theorem rows_iff {ε β : Type} {f : Value → Except ε β} (hok : ∀ v, (∃ y, f v = .ok y) ↔ fits v)
    (hscalar : ∀ s, ¬ fits (.scalar s)) :
    (∃ xs, v.visited = .ok xs ∧ ∃ ys, xs.mapM f = .ok ys) ↔ v.Rows fits := by
  simp only [Traversal.exists_ok_iff, hok]
  rcases v.visited_cases with ⟨hvoid, hvisited⟩ | ⟨hvoid, ⟨xs, rfl, hvisited⟩ | ⟨hlist, hvisited⟩⟩
  · exact iff_of_true ⟨[], hvisited, by simp⟩ (.inl hvoid)
  · simp [Rows, hvoid, hvisited]
  · refine iff_of_false ?_ ?_
    · rintro ⟨xs, hxs, hall⟩
      rcases hvisited with ⟨m, hvisited⟩ | ⟨s, rest, hvisited⟩
      · cases hvisited.symm.trans hxs
      · cases hvisited.symm.trans hxs
        exact hscalar s (hall _ List.mem_cons_self)
    · rintro (h | ⟨xs, rfl, -⟩)
      · exact hvoid h
      · exact hlist xs rfl

/-- The values that a loop over a value visits, converted. -/
def each {β : Type} (f : Value → Except Failure β) (v : Value) : Except Failure (List β) :=
  v.visited.mapError .mishap >>= fun xs => xs.mapM f

section
variable {β : Type} {f : Value → Except Failure β} (hok : ∀ v, (∃ y, f v = .ok y) ↔ fits v)
include hok

theorem exists_each_iff (hscalar : ∀ s, ¬ fits (.scalar s)) :
    (∃ ys, v.each f = .ok ys) ↔ v.Rows fits := by
  rw [← rows_iff hok hscalar]
  simp only [each, Traversal.bind_eq_ok_iff, Traversal.mapError_eq_ok_iff]
  constructor
  · rintro ⟨ys, xs, hxs, hys⟩
    exact ⟨xs, hxs, ys, hys⟩
  · rintro ⟨xs, hxs, ys, hys⟩
    exact ⟨ys, xs, hxs, hys⟩

theorem lost_each (hlost : ∀ v, Lost (f v) ↔ astray v) (hscalar : ∀ s, astray (.scalar s)) :
    Lost (v.each f) ↔ v.RowsAstray fits astray := by
  unfold each
  rw [Lost.bind_iff, Lost.mapError_iff]
  simp only [Traversal.mapError_eq_ok_iff, Lost.mapM_iff, hok, hlost]
  rcases v.visited_cases with ⟨hvoid, hvisited⟩ | ⟨hvoid, ⟨xs, rfl, hvisited⟩ | ⟨hlist, hvisited⟩⟩
  · simp [RowsAstray, hvoid, hvisited]
  · simp [RowsAstray, hvoid, hvisited]
  · refine iff_of_true ?_ ⟨hvoid, fun xs h => absurd h (hlist xs)⟩
    rcases hvisited with ⟨m, hvisited⟩ | ⟨s, rest, hvisited⟩
    · simp [hvisited]
    · exact .inr ⟨_, hvisited, [], _, rest, rfl, by simp, hscalar s⟩

end

end Value

/-! ### Datamodels -/

namespace Datamodel
variable {es : Entries}

/-- The kinds of fields that a datamodel may have. -/
def fieldKinds : List String := ["scalar", "enum", "object"]

/-- A field of a datamodel. -/
def FieldFits (v : Value) : Prop := v.IsRecord fun es => ∃ k ∈ fieldKinds, Entries.get es "kind" = .text k

/-- A model of a datamodel. -/
def ModelFits (v : Value) : Prop := v.IsRecord fun es => (Entries.get es "fields").Rows FieldFits

/-- A value that is no model, or a model that is lost before a field is refused. -/
def ModelAstray (v : Value) : Prop :=
  ∀ es, v = .mapping es → (Entries.get es "fields").RowsAstray FieldFits fun f => ∀ es, f ≠ .mapping es

/-- An enum of a datamodel. -/
def EnumFits (v : Value) : Prop :=
  v.IsRecord fun es => (Entries.get es "values").Rows fun m => ∃ es, m = .mapping es

/-- The datamodel is lost before one of its fields is refused. -/
def Astray (es : Entries) : Prop :=
  (Entries.get es "models").RowsAstray ModelFits ModelAstray ∨
    (Entries.get es "models").Rows ModelFits ∧ ¬ (Entries.get es "enums").Rows EnumFits

theorem exists_field_iff (model v : Value) : (∃ y, field model v = .ok y) ↔ FieldFits v := by
  unfold field
  split
  next es =>
    dsimp only
    split
    next hkind => simp [FieldFits, Value.IsRecord, fieldKinds, hkind]
    next hkind => simp [FieldFits, Value.IsRecord, fieldKinds, hkind]
    next hkind => simp [FieldFits, Value.IsRecord, fieldKinds, hkind]
    next hscalar henum hobject =>
      refine iff_of_false (by simp) ?_
      rintro ⟨_, ⟨⟩, k, hk, hkind⟩
      simp only [fieldKinds, List.mem_cons, List.not_mem_nil, or_false] at hk
      rcases hk with rfl | rfl | rfl
      · exact hscalar hkind
      · exact henum hkind
      · exact hobject hkind
  next hmapping =>
    refine iff_of_false (by simp) ?_
    rintro ⟨es, hv, -⟩
    exact hmapping es hv

theorem lost_field (model v : Value) : Lost (field model v) ↔ ∀ es, v ≠ .mapping es := by
  unfold field
  split
  next es =>
    dsimp only
    split <;> simp [Lost]
  next hmapping => exact iff_of_true ⟨_, rfl⟩ hmapping

theorem exists_member_iff (v : Value) : (∃ y, member v = .ok y) ↔ ∃ es, v = .mapping es := by
  cases v <;> simp [member, Value.entries, bind, Except.bind, pure, Except.pure]

theorem exists_enumeration_iff (v : Value) : (∃ y, enumeration v = .ok y) ↔ EnumFits v := by
  have hrows (es : Entries) := Value.rows_iff (v := Entries.get es "values") exists_member_iff (by simp)
  simp only [enumeration, Traversal.bind_eq_ok_iff, EnumFits, Value.IsRecord, ← hrows]
  cases v <;> simp [Value.entries, pure, Except.pure]

theorem not_fieldFits_scalar (s : Scalar) : ¬ FieldFits (.scalar s) := by simp [FieldFits, Value.IsRecord]

theorem exists_model_mapping (es : Entries) : ∃ g name,
    model (.mapping es) = g <$> (Entries.get es "fields").each (field name) :=
  ⟨_, _, by
    rw [map_eq_pure_bind, Value.each, bind_assoc]
    rfl⟩

theorem exists_model_iff (v : Value) : (∃ y, model v = .ok y) ↔ ModelFits v := by
  cases v with
  | mapping es =>
    obtain ⟨g, name, hmodel⟩ := exists_model_mapping es
    rw [hmodel, Traversal.exists_map_eq_ok_iff,
      Value.exists_each_iff (exists_field_iff name) not_fieldFits_scalar]
    simp [ModelFits, Value.IsRecord]
  | _ => exact iff_of_false (by rintro ⟨y, ⟨⟩⟩) (by rintro ⟨es, ⟨⟩, -⟩)

theorem lost_model (v : Value) : Lost (model v) ↔ ModelAstray v := by
  cases v with
  | mapping es =>
    obtain ⟨g, name, hmodel⟩ := exists_model_mapping es
    rw [hmodel, Lost.map_iff, Value.lost_each (exists_field_iff name) (lost_field name) (by simp)]
    simp [ModelAstray]
  | _ => exact iff_of_true ⟨_, rfl⟩ fun es h => by cases h

theorem lost_enums (vs : List Value → Value) :
    Lost ((Entries.get es "enums").visited.mapError .mishap >>= fun xs =>
      (xs.mapM enumeration).mapError .mishap >>= fun enums => pure (vs enums)) ↔
      ¬ (Entries.get es "enums").Rows EnumFits := by
  rw [← Value.rows_iff exists_enumeration_iff (by simp [EnumFits, Value.IsRecord]), Lost.bind_iff,
    Lost.mapError_iff]
  simp only [Traversal.mapError_eq_ok_iff, Lost.bind_iff, Lost.mapError_iff]
  cases (Entries.get es "enums").visited with
  | error m => simp
  | ok xs => simp [Lost.not_ok, pure, Except.pure]

theorem lost_normalized : Lost (normalized (.mapping es)) ↔ Astray es := by
  have hmodels := Value.lost_each (v := Entries.get es "models") exists_model_iff lost_model
    (by simp [ModelAstray])
  have hfits := Value.exists_each_iff (v := Entries.get es "models") exists_model_iff
    (by simp [ModelFits, Value.IsRecord])
  have hsteps : normalized (.mapping es) = ((Entries.get es "models").each model >>= fun models =>
      (Entries.get es "enums").visited.mapError .mishap >>= fun xs =>
        (xs.mapM enumeration).mapError .mishap >>= fun enums =>
          pure (.record [("models", .list models), ("enums", .list enums)])) := by
    rw [Value.each, bind_assoc]
    rfl
  rw [hsteps, Lost.bind_iff, hmodels, Astray, ← hfits]
  simp only [lost_enums, exists_and_right]

end Datamodel

/-! ### Settings -/

namespace Value
variable {v : Value}

/-- The value can be taken as a key and the value under it. -/
def IsPair (v : Value) : Prop := ∃ k x, v.visited? = some [.scalar k, x]

/-- The value can be taken as settings: it is void, a mapping, or it consists of keys and values. -/
def HoldsSettings (v : Value) : Prop :=
  v.isVoid ∨ (∃ es, v = .mapping es) ∨ ∃ xs, v.visited? = some xs ∧ ∀ x ∈ xs, x.IsPair

end Value

namespace Source
variable {raw es generator : Entries} {v : Value}

theorem exists_settingPair_iff (v : Value) : (∃ p, settingPair v = .ok p) ↔ v.IsPair := by
  unfold settingPair Value.IsPair
  split <;> simp_all

theorem exists_generatorSettings_iff : (∃ es, generatorSettings v = .ok es) ↔ v.HoldsSettings := by
  unfold generatorSettings Value.HoldsSettings
  by_cases hvoid : v.isVoid
  · simp [hvoid]
  rw [if_neg hvoid]
  split
  · simp
  next hmapping =>
    have hnone : ¬ ∃ es, v = .mapping es := by simpa using hmapping
    split
    next hvisited => simp [hvoid, hnone, hvisited]
    next xs hvisited =>
      rw [Traversal.exists_ok_iff]
      simp only [exists_settingPair_iff]
      simp [hvoid, hnone, hvisited]

theorem exists_ofGenerator_iff :
    (∃ es, ofGenerator generator = .ok es) ↔ (Entries.get generator "config").HoldsSettings := by
  rw [← exists_generatorSettings_iff]
  unfold ofGenerator
  cases generatorSettings (Entries.get generator "config") with
  | error m => simp [bind, Except.bind]
  | ok es =>
    refine iff_of_true ?_ ⟨es, rfl⟩
    dsimp only [bind, Except.bind]
    split <;> split <;> exact ⟨_, rfl⟩

theorem exists_settingEntries_iff : (∃ es, settingEntries raw = .ok es) ↔
    ∀ generator, raw.get "generator" = .mapping generator →
      (Entries.get generator "config").HoldsSettings := by
  unfold settingEntries
  cases raw.get "generator" with
  | mapping generator =>
    simp only [Value.mapping.injEq, forall_eq', ← exists_ofGenerator_iff]
    cases ofGenerator generator with
    | error m => simp [bind, Except.bind]
    | ok es => exact iff_of_true ⟨_, rfl⟩ ⟨_, rfl⟩
  | _ => exact iff_of_true ⟨_, rfl⟩ (by simp)

theorem not_lost_schemaValue (h : ∀ es, ¬ HoldsDatamodel raw es) : ¬ Lost (schemaValue raw) := by
  unfold schemaValue
  dsimp only
  split
  next es hes =>
    refine absurd ?_ (h es)
    cases hdmmf : raw.get "dmmf" with
    | mapping outer =>
      rw [hdmmf] at hes
      exact .nested hdmmf hes
    | _ =>
      rw [hdmmf] at hes
      exact .top (by simp [hdmmf]) hes
  · split
    · exact Lost.not_ok
    · exact Lost.not_load

theorem lost_schemaValue :
    Lost (schemaValue raw) ↔ ∃ es, HoldsDatamodel raw es ∧ Datamodel.Astray es := by
  constructor
  · intro hlost
    obtain ⟨es, hes⟩ : ∃ es, HoldsDatamodel raw es := by
      by_contra hnone
      exact not_lost_schemaValue (not_exists.1 hnone) hlost
    exact ⟨es, hes, Datamodel.lost_normalized.1 (schemaValue_of_datamodel hes ▸ hlost)⟩
  · rintro ⟨es, hes, hastray⟩
    rw [schemaValue_of_datamodel hes]
    exact Datamodel.lost_normalized.2 hastray

/-- Parsing the document is lost: over its datamodel, or, once there is a schema, over the settings of its
generator block. -/
inductive Astray (raw : Entries) : Prop
  | datamodel {es : Entries} (hdatamodel : HoldsDatamodel raw es) (h : Datamodel.Astray es)
  | settings {v : Value} {d : Document} {generator : Entries} (hschema : schemaValue raw = .ok v)
      (hcheck : Document.check v = .good d) (hgenerator : raw.get "generator" = .mapping generator)
      (h : ¬ (Entries.get generator "config").HoldsSettings)

theorem lost_parse : Lost (parse (.mapping raw)) ↔ Astray raw := by
  show Lost (schemaValue raw >>= _) ↔ _
  simp only [Lost.bind_iff, lost_schemaValue, Lost.not_mapError_load, false_or, Lost.mapError_iff,
    Traversal.mapError_eq_ok_iff, Checked.toExcept_eq_ok_iff, Lost.not_ok, and_false, exists_false, or_false,
    exists_settingEntries_iff, pure, Except.pure, not_forall]
  constructor
  · rintro (⟨es, hes, h⟩ | ⟨v, hv, d, hd, generator, hgenerator, h⟩)
    · exact .datamodel hes h
    · exact .settings hv hd hgenerator h
  · rintro (⟨hes, h⟩ | ⟨hv, hd, hgenerator, h⟩)
    · exact .inl ⟨_, hes, h⟩
    · exact .inr ⟨_, hv, _, hd, _, hgenerator, h⟩

/-- A document is read as a schema with its settings, or refused with a load failure, just if it does not
go astray. -/
theorem parse_reported_iff (raw : Entries) :
    ((∃ d s, parse (.mapping raw) = .ok (d, s)) ∨ ∃ f, parse (.mapping raw) = .error (.load f)) ↔
      ¬ Astray raw := by
  rw [← lost_parse]
  constructor
  · rintro (⟨d, s, h⟩ | ⟨f, h⟩)
    · exact h ▸ Lost.not_ok
    · exact h ▸ Lost.not_load
  · intro hlost
    cases hparse : parse (.mapping raw) with
    | ok r => exact .inl ⟨r.1, r.2, rfl⟩
    | error f =>
      cases parse_eq_error hparse with
      | load f => exact .inr ⟨f, rfl⟩
      | mishap m => exact absurd ⟨m, hparse⟩ hlost

theorem parse_number_for_model :
    let raw : Entries := [(.text "datamodel", .record [("models", .list [.int 1])])]
    ¬ ((∃ d s, parse (.mapping raw) = .ok (d, s)) ∨ ∃ f, parse (.mapping raw) = .error (.load f)) := by
  intro raw
  have hparse : parse (.mapping raw) = .error (.mishap .noLookup) := rfl
  rintro (⟨d, s, h⟩ | ⟨f, h⟩)
  · cases hparse.symm.trans h
  · cases hparse.symm.trans h

end Source

end SchemaTypes
