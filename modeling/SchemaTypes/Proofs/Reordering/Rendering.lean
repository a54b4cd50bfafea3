import SchemaTypes.Proofs.Domain.Grouping
import SchemaTypes.Proofs.Rendering.Sites
import SchemaTypes.Proofs.Reordering.JoinTables

/-!
# Rendering does not depend on the order of declarations

Everything that reaches a file is looked up by name or sorted by name: the models of a scope and of
each domain, their columns, the enums, the join tables. So two documents that declare the same in
another order have the same artifacts, provided that the order itself decides nothing
(`Document.Unambiguous`).
-/

namespace SchemaTypes

variable {g : Model → Model} {d e : Document} {m : Model}

namespace Document.ReorderedBy

/-! ### Domains -/

/-- The domain `y` holds the models of the domain `x` as `g` gives them, in another order. -/
def Regrouped (g : Model → Model) (x y : Domain) : Prop :=
  y.name = x.name ∧ y.models.Perm (x.models.map g)

theorem regrouped_groups (h : ReorderedBy g d e) {key : Model → Option String}
    (hk : ∀ m, key (g m) = key m) (names : List String) (source source' : String → Option String) :
    List.Forall₂ (Regrouped g)
      (names.map fun name =>
        { name, models := d.models.filter fun m => key m = some name, source := source name })
      (names.map fun name =>
        { name, models := e.models.filter fun m => key m = some name, source := source' name }) := by
  refine List.forall₂_map_left_iff.2 (List.forall₂_map_right_iff.2 (List.forall₂_same.2 fun name _ => ?_))
  refine ⟨rfl, (h.models.filter _).trans (.of_eq ?_)⟩
  rw [List.filter_map]
  simp only [Function.comp_def, hk]

theorem regrouped_ofLocations (h : ReorderedBy g d e) :
    List.Forall₂ (Regrouped g) (Domain.ofLocations d) (Domain.ofLocations e) := by
  have hloc : ∀ m, Domain.located? (g m) = Domain.located? m := fun m => by
    rw [Domain.located?, Domain.located?, (h.model m).location]
  have hplaces : (e.models.filterMap Domain.located?).Perm (d.models.filterMap Domain.located?) := by
    refine (h.models.filterMap _).trans (.of_eq ?_)
    rw [List.filterMap_map]
    simp only [Function.comp_def, hloc]
  have hnames : Text.sortedOnce ((e.models.filterMap Domain.located?).map Domain.nameOf) =
      Text.sortedOnce ((d.models.filterMap Domain.located?).map Domain.nameOf) :=
    Text.sortedOnce_congr fun _ => (hplaces.map _).mem_iff
  unfold Domain.ofLocations
  simp only [hnames]
  exact h.regrouped_groups (fun m => by rw [hloc]) _ _ _

theorem regrouped_beside (h : ReorderedBy g d e) (disk : Disk) (path : String) :
    List.Forall₂ (Regrouped g) (Domain.beside d disk path) (Domain.beside e disk path) := by
  unfold Domain.beside Domain.ofFiles
  refine h.regrouped_groups (fun m => ?_) _ _ _
  rw [Domain.claim, Domain.claim, (h.model m).name]

theorem regrouped_detect (h : ReorderedBy g d e) (disk : Disk) (path : Option String) :
    List.Forall₂ (Regrouped g) (Domain.detect d disk path).2 (Domain.detect e disk path).2 := by
  have hloc := h.regrouped_ofLocations
  have heverything : List.Forall₂ (Regrouped g) [{ name := Domain.shared, models := d.models }]
      [{ name := Domain.shared, models := e.models }] := .cons ⟨rfl, h.models⟩ .nil
  unfold Domain.detect
  cases hd : Domain.ofLocations d with
  | cons x xs =>
    rw [hd] at hloc
    cases he : Domain.ofLocations e with
    | nil => rw [he] at hloc; cases hloc
    | cons y ys => rwa [he] at hloc
  | nil =>
    rw [hd] at hloc
    rw [List.forall₂_nil_left_iff.1 hloc]
    cases path.filter (· ≠ "") with
    | none => exact heverything
    | some p =>
      have hbeside := h.regrouped_beside disk p
      simp only [Option.map_some]
      cases hd : Domain.beside d disk p with
      | nil =>
        rw [hd] at hbeside
        rw [List.forall₂_nil_left_iff.1 hbeside]
        exact heverything
      | cons x xs =>
        rw [hd] at hbeside
        cases he : Domain.beside e disk p with
        | nil => rw [he] at hbeside; cases hbeside
        | cons y ys => rwa [he] at hbeside

/-! ### Columns and tables -/

theorem brand (h : ReorderedBy g d e) (hd : d.Unambiguous) (hm : m ∈ d.models) :
    (g m).brand e = m.brand d := by
  have hu := hd.models m hm
  unfold Model.brand
  rw [(h.model m).identifier hu, (h.model m).soleIdentifier? hu]
  simp only [h.kindType, (h.model m).name]

theorem columnType (h : ReorderedBy g d e) (hd : d.Unambiguous) {scope : Option (List String)}
    (hkeys : ∀ column t u, m.Qualifies d scope column t → m.Qualifies d scope column u → t = u)
    (f : Field) (owner : Option String) :
    f.columnType e owner ((g m).foreignKeys e scope) = f.columnType d owner (m.foreignKeys d scope) := by
  simp only [Field.columnType, Field.baseType, h.get?_foreignKeys hd (hkeys _), h.kindType]

end Document.ReorderedBy

namespace Scope

/-- The scope `t` is the scope `s` with the document and the models that `g` gives. -/
structure ReorderedBy (g : Model → Model) (s t : Scope) : Prop where
  document : s.document.ReorderedBy g t.document
  mem : ∀ m ∈ s.models, m ∈ s.document.models ∧ ¬ m.isInternal
  models : t.models = s.models.map g
  enums : t.enums = s.enums
  tables : t.tables = s.tables

namespace ReorderedBy
variable {s t : Scope}

theorem modelNames (h : ReorderedBy g s t) : t.modelNames = s.modelNames := by
  simp [Scope.modelNames, h.models, Function.comp_def, (h.document.model _).name]

theorem keys_unique (h : ReorderedBy g s t) (hd : s.document.Unambiguous) (hm : m ∈ s.models)
    {column : String} {a b : Model} (ha : m.Qualifies s.document (some s.modelNames) column a)
    (hb : m.Qualifies s.document (some s.modelNames) column b) : a = b := by
  have hpublic : ∀ a, m.Qualifies s.document (some s.modelNames) column a → ¬ a.isInternal := by
    rintro a ⟨-, -, hs, -⟩
    obtain ⟨k, hk, hka⟩ := List.mem_map.1 (hs _ rfl)
    rw [Model.isInternal, ← hka]
    exact (h.mem k hk).2
  obtain ⟨hmem, hi⟩ := h.mem m hm
  exact hd.keys m hmem hi column a b (hpublic a ha) (hpublic b hb) ha.unscoped hb.unscoped

theorem tableDecl (h : ReorderedBy g s t) (hd : s.document.Unambiguous) (hm : m ∈ s.models) :
    (g m).tableDecl t = m.tableDecl s := by
  have hu := hd.models m (h.mem m hm).1
  have hcolumn : (g m).column t = m.column s := by
    funext f
    rw [Model.column, Model.column, Model.keysIn, Model.keysIn, (h.document.model m).owner? hu,
      h.modelNames, h.document.columnType hd fun _ _ _ => h.keys_unique hd hm]
  unfold Model.tableDecl
  rw [(h.document.model m).columns hu, hcolumn, (h.document.model m).name]

theorem typesFile (h : ReorderedBy g s t) (hd : s.document.Unambiguous) : t.typesFile = s.typesFile := by
  have hbrands : t.brands = s.brands := by
    rw [Scope.brands, Scope.brands, h.models]
    refine congrArg _ (Traversal.congr (List.forall₂_map_left_iff.2 (List.forall₂_same.2 fun m hm => ?_)))
    exact h.document.brand hd (h.mem m hm).1
  have htables : (t.models.mapM fun m => m.tableDecl t) = s.models.mapM fun m => m.tableDecl s := by
    rw [h.models]
    refine Traversal.congr (List.forall₂_map_left_iff.2 (List.forall₂_same.2 fun m hm => ?_))
    exact h.tableDecl hd hm
  have hdatabase : t.database = s.database := by
    simp only [Scope.database, h.models, h.tables, List.map_map, Function.comp_def,
      (h.document.model _).table, (h.document.model _).name]
  unfold Scope.typesFile
  rw [hbrands, htables, hdatabase, h.tables]

end ReorderedBy

end Scope

namespace Document.ReorderedBy

theorem publicModels (h : ReorderedBy g d e) {xs ys : List Model} (hn : (xs.map Model.name).Nodup)
    (hp : ys.Perm (xs.map g)) : publicModels ys = (SchemaTypes.publicModels xs).map g := by
  have hname : ∀ m, (g m).name = m.name := fun m => (h.model m).name
  have hinternal : ∀ m, (g m).isInternal = m.isInternal := fun m => (h.model m).isInternal
  have hn' : (ys.map Model.name).Nodup := by
    rw [(hp.map Model.name).nodup_iff, List.map_map]
    simpa only [Function.comp_def, hname] using hn
  unfold SchemaTypes.publicModels
  rw [Text.sortedBy_eq_of_perm (hn'.sublist (List.filter_sublist.map _)) (hp.filter _), List.filter_map,
    Text.sortedBy_map]
  simp only [Function.comp_def, hname, hinternal]

theorem mem_referredEnums (h : ReorderedBy g d e) {ms : List Model} {name : String} :
    name ∈ referredEnums (ms.map g) ↔ name ∈ referredEnums ms := by
  simp only [referredEnums, List.mem_filterMap, List.mem_flatMap, List.mem_map,
    exists_exists_and_eq_and, (h.model _).mem_fields]

theorem scope (h : ReorderedBy g d e) (subset subset' : Option (List Model))
    (hsub : ∀ m ∈ subset.getD d.models, m ∈ d.models)
    (hn : ((subset.getD d.models).map Model.name).Nodup)
    (hp : (subset'.getD e.models).Perm ((subset.getD d.models).map g))
    (hnone : subset'.isNone = subset.isNone) (tables : List JoinTable) :
    Scope.ReorderedBy g (Scope.of d subset tables) (Scope.of e subset' tables) := by
  have hmodels := h.publicModels hn hp
  have hnames : (SchemaTypes.publicModels (subset'.getD e.models)).map Model.name =
      (SchemaTypes.publicModels (subset.getD d.models)).map Model.name := by
    simp [hmodels, Function.comp_def, (h.model _).name]
  refine ⟨h, fun m hm => ?_, hmodels, ?_, ?_⟩
  · obtain ⟨hm, hi⟩ := mem_publicModels.1 hm
    exact ⟨hsub m hm, hi⟩
  · cases subset <;> cases subset' <;> simp only [Option.isNone_none, Option.isNone_some,
      Bool.false_eq_true, Bool.true_eq_false] at hnone
    · exact Text.sortedBy_eq_of_perm ((h.enums.map _).nodup_iff.2 d.enums_nodup) h.enums
    · refine Text.sortedBy_eq_of_perm ?_ ((h.enums.filter _).trans (.of_eq ?_))
      · exact e.enums_nodup.sublist (List.filter_sublist.map _)
      · refine List.filter_congr fun x _ => ?_
        simp only [hmodels, List.contains_eq_mem, h.mem_referredEnums]
  · exact congrArg (joinTablesTouching tables) hnames

/-! ### Artifacts -/

theorem artifacts {s t : Scope} (h : Scope.ReorderedBy g s t) (hd : s.document.Unambiguous)
    (domain : Option String) (runtimeModule : String) :
    Site.artifacts { domain, scope := t } runtimeModule =
      Site.artifacts { domain, scope := s } runtimeModule := by
  unfold Site.artifacts
  simp only [h.typesFile hd, h.enums]
  rfl

/-- Once the join tables are found, the two documents are rendered alike. -/
theorem render_eq (h : ReorderedBy g d e) (hd : d.Unambiguous) {tables : List JoinTable}
    (ht : joinTables d.models = .ok tables) (s : Settings) (disk : Disk) :
    render e s disk = render d s disk := by
  have ht' : joinTables e.models = .ok tables := (h.joinTables_eq_ok_iff hd).2 ht
  unfold render sites Scope.whole
  rw [ht, ht']
  split
  next =>
    have hdomains := (List.forall₂_and_left _ _).2
      ⟨fun x hx => Domain.models_sublist hx, h.regrouped_detect disk s.schemaPath⟩
    refine renderSites_congr (List.forall₂_map_left_iff.2 (List.forall₂_map_right_iff.2 ?_))
    refine hdomains.imp fun x y ⟨hx, hname, hp⟩ => ⟨congrArg some hname, ?_⟩
    have hn : (x.models.map Model.name).Nodup := d.models_nodup.sublist (hx.map _)
    have hscope : Scope.ReorderedBy g (Scope.of d (some x.models) tables) (Scope.of e (some y.models) tables) :=
      h.scope (some x.models) (some y.models) (fun m hm => hx.subset hm) hn hp rfl tables
    rw [hname]
    exact artifacts hscope hd _ _
  next =>
    have hscope : Scope.ReorderedBy g (Scope.of d none tables) (Scope.of e none tables) :=
      h.scope none none (fun m hm => hm) d.models_nodup h.models rfl tables
    exact renderSites_congr (.cons ⟨rfl, artifacts hscope hd _ _⟩ .nil)

end Document.ReorderedBy

/-- Documents that declare the same in another order are rendered to the same files, or neither is
rendered. -/
theorem render_reordered (h : d.Reordered e) (hd : d.Unambiguous) (s : Settings) (disk : Disk) :
    (∃ r, render d s disk = .ok r ∧ render e s disk = .ok r) ∨
      ∃ x y, render d s disk = .error x ∧ render e s disk = .error y := by
  obtain ⟨g, h⟩ := h
  cases ht : joinTables d.models with
  | ok tables =>
    rw [h.render_eq hd ht]
    cases hr : render d s disk with
    | ok r => exact .inl ⟨r, rfl, rfl⟩
    | error x => exact .inr ⟨x, x, rfl, rfl⟩
  | error x =>
    obtain ⟨y, hy⟩ : ∃ y, joinTables e.models = .error y := by
      cases ht' : joinTables e.models with
      | error y => exact ⟨y, rfl⟩
      | ok tables =>
        rw [(h.joinTables_eq_ok_iff hd).1 ht'] at ht
        cases ht
    -- each document fails with what its own join tables lack
    exact .inr ⟨x, y, render_error_of_joinTables ht, render_error_of_joinTables hy⟩

theorem render_reordered_posts :
    let post : Model := { name := "Post", fields := [
      { name := "id", kind := .string, isId := true },
      { name := "authorId", kind := .string },
      { name := "author", kind := .relation, relationTarget := some "User", fromFields := ["authorId"],
        toFields := ["id"] },
      { name := "tags", kind := .relation, isList := true, relationName := some "PostTags",
        relationTarget := some "Tag" }] }
    let tag : Model := { name := "Tag", fields := [
      { name := "name", kind := .string, isId := true },
      { name := "posts", kind := .relation, isList := true, relationName := some "PostTags",
        relationTarget := some "Post" }] }
    let user : Model := { name := "User", fields := [{ name := "id", kind := .string, isId := true }] }
    let turned : Model → Model := fun m => { m with fields := m.fields.reverse }
    let d : Document := { models := [post, tag, user] }
    let e : Document := { models := [turned user, turned tag, turned post] }
    (d.Reordered e ∧ d.Unambiguous) ∧
      ((∃ r, render d {} {} = .ok r ∧ render e {} {} = .ok r) ∨
        ∃ x y, render d {} {} = .error x ∧ render e {} {} = .error y) := by
  intro post tag user turned d e
  have hreordered : d.Reordered e := by
    refine ⟨turned, fun m => ⟨rfl, rfl, rfl, rfl, List.reverse_perm _⟩, ?_, .rfl⟩
    exact List.reverse_perm [turned post, turned tag, turned user]
  have hfields : ∀ m ∈ d.models, (m.fields.map (·.name)).Nodup ∧ m.markedFields.length ≤ 1 := by decide
  -- the only relation that names columns is the one to the author
  have hauthor : ∀ m ∈ d.models, ∀ r ∈ m.fields, r.kind = .relation → r.fromFields ≠ [] →
      r.target = "User" := by decide
  have hlists : (d.models.flatMap Model.fields).countP (·.isList) ≤ 2 := by decide
  have hd : d.Unambiguous := by
    refine ⟨fun m hm => ⟨(hfields m hm).1, (hfields m hm).2⟩, fun relation _ => ?_, ?_⟩
    · exact Nat.le_trans (List.countP_mono_left fun f _ h => (Bool.and_eq_true_iff.1 h).1) hlists
    · intro m hm _ column t u _ _ ht hu
      have huser : ∀ {t : Model}, m.Qualifies d none column t → t.name = "User" := by
        rintro t ⟨-, -, -, r, hr, hk, ht, key, -, hpair⟩
        rw [← ht]
        refine hauthor m hm r hr hk fun h => ?_
        simp [h] at hpair
      exact d.model_ext ht.2.1 hu.2.1 ((huser ht).trans (huser hu).symm)
  exact ⟨⟨hreordered, hd⟩, render_reordered hreordered hd {} {}⟩

end SchemaTypes
