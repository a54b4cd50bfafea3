import SchemaTypes.Proofs.Relation.Pairing
import SchemaTypes.Proofs.Rendering.Columns
import SchemaTypes.Proofs.Rendering.Sites

/-!
# When a whole schema is rendered

`Renderable` says on the schema what rendering it as a whole takes: the models that its relations
pair have identifiers, and so have the models that are not internal; the identifiers that are
branded have types, and the enums that give columns their types are there. This is all that it
takes, and what a failure reports is one of these that is not so.
-/

namespace SchemaTypes

namespace Document

/-- What rendering the schema as a whole takes. -/
structure Renderable (d : Document) : Prop where
  /-- The first field that declares a relation connects identified models. -/
  relations : ∀ relation before m f after, fieldsInOrder d.models = before ++ (m, f) :: after →
    (∀ p ∈ before, ∀ n, ¬ Declares d.models p.1 p.2 relation n) →
    ∀ n, Declares d.models m f relation n → m.Identified ∧ n.Identified
  models : ∀ m ∈ d.models, ¬ m.isInternal → m.Identified
  /-- The only marked field of a model has a type. -/
  keys : ∀ m ∈ d.models, ¬ m.isInternal → ∀ f, m.markedFields = [f] →
    f.kind ≠ .relation ∧ (f.kind = .enum → f.NamesEnum d)
  /-- A field has its enum, unless a type note, the brand of its model or the brand of a target that
  is not internal hides it. -/
  enums : ∀ m ∈ d.models, ¬ m.isInternal → ∀ f ∈ m.fields, f.kind = .enum → f.override? = none →
    m.markedFields ≠ [f] → (∀ t, m.Qualifies d none f.name t → t.isInternal) → f.NamesEnum d

end Document

variable {d : Document} {x : RenderFailure}

/-! ### Relations -/

namespace Pairing
variable {p : Pairing}

theorem declared_eq (d : Document) :
    declared d.models = (fieldsInOrder d.models).filterMap fun q => declared? d.models q.1 q.2 := by
  simp [declared, fieldsInOrder, List.filterMap_flatMap, List.filterMap_map]

/-- The pairing of a relation that counts is that of the first field that declares the relation. -/
theorem mem_firsts_declared : p ∈ firsts (declared d.models) ↔
    ∃ before m f after, fieldsInOrder d.models = before ++ (m, f) :: after ∧
      (∀ q ∈ before, ∀ n, ¬ Declares d.models q.1 q.2 p.relation n) ∧
      declared? d.models m f = some p := by
  have hany : ∀ m f, ((declared? d.models m f).any fun q => q.relation = p.relation) ↔
      ∃ n, Declares d.models m f p.relation n := by
    intro m f
    rw [Option.any_eq_true]
    constructor
    · rintro ⟨q, hq, hr⟩
      obtain ⟨n, hn, -⟩ := (declared?_eq_some d.models_nodup).1 hq
      exact ⟨n, of_decide_eq_true hr ▸ hn⟩
    · rintro ⟨n, hn⟩
      obtain ⟨q, hq, hr, -⟩ := exists_declared? d.models_nodup hn
      exact ⟨q, hq, decide_eq_true hr⟩
  rw [mem_firsts, declared_eq, List.find?_filterMap, Option.bind_eq_some_iff]
  simp only [List.find?_eq_some_iff_append, Bool.not_eq_true', Bool.eq_false_iff, ne_eq, hany, not_exists]
  constructor
  · rintro ⟨⟨m, f⟩, ⟨-, before, after, heq, hbefore⟩, hp⟩
    exact ⟨before, m, f, after, heq, hbefore, hp⟩
  · rintro ⟨before, m, f, after, heq, hbefore, hp⟩
    obtain ⟨n, hn, -⟩ := (declared?_eq_some d.models_nodup).1 hp
    exact ⟨(m, f), ⟨⟨n, hn⟩, before, after, heq, hbefore⟩, hp⟩

theorem identified_iff {relation : String} {m n : Model} (h : of? relation m n = some p) :
    p.low.Identified ∧ p.high.Identified ↔ m.Identified ∧ n.Identified := by
  rcases (of?_eq_some.1 h).2 with ⟨hl, hh⟩ | ⟨hl, hh⟩
  · rw [hl, hh]
  · rw [hl, hh, and_comm]

end Pairing

theorem exists_joinTables_eq_ok : (∃ ts, joinTables d.models = .ok ts) ↔
    ∀ relation before m f after, fieldsInOrder d.models = before ++ (m, f) :: after →
      (∀ p ∈ before, ∀ n, ¬ Declares d.models p.1 p.2 relation n) →
      ∀ n, Declares d.models m f relation n → m.Identified ∧ n.Identified := by
  rw [joinTables, Traversal.exists_map_eq_ok_iff, Traversal.exists_ok_iff]
  simp only [Pairing.exists_joinTable_eq_ok]
  constructor
  · intro h relation before m f after heq hbefore n hn
    obtain ⟨p, hp, rfl, hof⟩ := Pairing.exists_declared? d.models_nodup hn
    have hmem := Pairing.mem_firsts_declared.2 ⟨before, m, f, after, heq, hbefore, hp⟩
    exact (Pairing.identified_iff hof).1 (h p hmem)
  · intro h p hmem
    obtain ⟨before, m, f, after, heq, hbefore, hp⟩ := Pairing.mem_firsts_declared.1 hmem
    obtain ⟨n, hn, hof⟩ := (Pairing.declared?_eq_some d.models_nodup).1 hp
    exact (Pairing.identified_iff hof).2 (h p.relation before m f after heq hbefore n hn)

theorem joinTables_eq_error (h : joinTables d.models = .error x) : x.Holds d := by
  obtain ⟨p, hp, h⟩ := Traversal.exists_of_eq_error (Traversal.map_eq_error_iff.1 h)
  obtain ⟨hlow, hhigh⟩ := Pairing.mem_models_of_mem_declared d.models_nodup
    (List.mem_of_find?_eq_some (Pairing.mem_firsts.1 hp))
  rcases Traversal.bind_eq_error_iff.1 h with h | ⟨_, -, h⟩
  · exact Model.identifier_eq_error hlow h
  · rcases Traversal.bind_eq_error_iff.1 h with h | ⟨_, -, h⟩
    · exact Model.identifier_eq_error hhigh h
    · cases h

/-! ### The whole schema -/

theorem qualifies_whole_iff {m t : Model} {ts : List JoinTable} {column : String} :
    m.Qualifies d (some (Scope.of d none ts).modelNames) column t ↔
      m.Qualifies d none column t ∧ ¬ t.isInternal := by
  have hname : t ∈ d.models → (t.name ∈ (Scope.of d none ts).modelNames ↔ ¬ t.isInternal) := by
    intro ht
    show t.name ∈ (publicModels d.models).map Model.name ↔ _
    rw [List.mem_map]
    constructor
    · rintro ⟨u, hu, hut⟩
      obtain ⟨hu, hi⟩ := mem_publicModels.1 hu
      rwa [← d.model_ext hu ht hut]
    · exact fun hi => ⟨t, mem_publicModels.2 ⟨ht, hi⟩, rfl⟩
  simp only [Model.Qualifies, Option.some.injEq, forall_eq', reduceCtorEq, false_implies, implies_true,
    true_and]
  constructor
  · rintro ⟨hf, ht, hs, hr⟩
    exact ⟨⟨hf, ht, hr⟩, (hname ht).1 hs⟩
  · rintro ⟨⟨hf, ht, hr⟩, hi⟩
    exact ⟨hf, ht, (hname ht).2 hi, hr⟩

theorem exists_typesFile_whole_eq_ok {ts : List JoinTable} :
    (∃ t, (Scope.of d none ts).typesFile = .ok t) ↔ ∀ m ∈ d.models, ¬ m.isInternal →
      (m.Identified ∧ ∀ f, m.markedFields = [f] → f.kind ≠ .relation ∧ (f.kind = .enum → f.NamesEnum d)) ∧
      ∀ f ∈ m.fields, f.kind = .enum → f.override? = none → m.markedFields ≠ [f] →
        (∀ t, m.Qualifies d none f.name t → t.isInternal) → f.NamesEnum d := by
  have hdocument : (Scope.of d none ts).document = d := rfl
  have hmodels : (Scope.of d none ts).models = publicModels d.models := rfl
  rw [Scope.exists_typesFile_eq_ok, hmodels]
  simp only [mem_publicModels, and_imp, hdocument, Model.exists_brand_eq_ok, Field.exists_kindType_eq_ok,
    Model.exists_tableDecl_eq_ok]
  refine forall₃_congr fun m hm hi => and_congr_right fun _ => forall₂_congr fun f hf => ?_
  constructor
  · intro h hk
    have hne : f.kind ≠ .relation := by simp [hk]
    have h := (Model.exists_column_eq_ok hf hne).1 (h hne) hk
    simpa only [hdocument, qualifies_whole_iff, not_and, not_not] using h
  · intro h hne
    refine (Model.exists_column_eq_ok hf hne).2 fun hk => ?_
    simpa only [hdocument, qualifies_whole_iff, not_and, not_not] using h hk

theorem render_whole_eq_error {s : Settings} {disk : Disk}
    (h : render d { s with multiFileDomains := false } disk = .error x) : x.Holds d := by
  rcases Traversal.bind_eq_error_iff.1 h with h | ⟨ss, hss, h⟩
  · rw [sites_whole, Traversal.map_eq_error_iff] at h
    exact joinTables_eq_error h
  · rw [sites_whole, Traversal.map_eq_ok_iff] at hss
    obtain ⟨ts, -, rfl⟩ := hss
    obtain ⟨site, hsite, h⟩ := renderSites_eq_error h
    rw [List.mem_singleton.1 hsite] at h
    exact Scope.typesFile_eq_error (fun m hm => mem_publicModels.1 hm) h

/-- A schema is rendered as a whole if and only if it is renderable. Otherwise the failure says what
is not so of the schema. -/
theorem render_whole_iff (d : Document) (s : Settings) (disk : Disk) :
    ((∃ r, render d { s with multiFileDomains := false } disk = .ok r) ↔ d.Renderable) ∧
      (¬ d.Renderable →
        ∃ x, render d { s with multiFileDomains := false } disk = .error x ∧ x.Holds d) := by
  have hiff : (∃ r, render d { s with multiFileDomains := false } disk = .ok r) ↔ d.Renderable := by
    simp only [exists_render_whole_eq_ok, exists_typesFile_whole_eq_ok, exists_and_right,
      exists_joinTables_eq_ok]
    constructor
    · rintro ⟨hr, h⟩
      exact ⟨hr, fun m hm hi => (h m hm hi).1.1, fun m hm hi => (h m hm hi).1.2,
        fun m hm hi => (h m hm hi).2⟩
    · rintro ⟨hr, hm, hk, he⟩
      exact ⟨hr, fun m hm' hi => ⟨⟨hm m hm' hi, hk m hm' hi⟩, he m hm' hi⟩⟩
  refine ⟨hiff, fun hn => ?_⟩
  cases h : render d { s with multiFileDomains := false } disk with
  | ok r => exact absurd (hiff.1 ⟨r, h⟩) hn
  | error x => exact ⟨x, rfl, render_whole_eq_error h⟩

end SchemaTypes
