import Mathlib.Data.List.Flatten
import Mathlib.Data.List.Perm.Subperm
import SchemaTypes.Proofs.Reordering.Document

/-!
# Join tables do not depend on the order

At most two lists of an unambiguous document carry a relation name. A pairing needs two models that
both carry one, so there are no others: every relation has at most one pairing, it is the same from
both of its sides, and each of the two models has one list only to answer with. What is left of the
order is which missing identifier is found first.
-/

namespace SchemaTypes

theorem countP_flatMap_le (p : Field → Bool) {xs ms : List Model} (hn : xs.Nodup) (hs : xs ⊆ ms) :
    (xs.flatMap Model.fields).countP p ≤ (ms.flatMap Model.fields).countP p := by
  obtain ⟨ys, hperm, hsub⟩ := List.subperm_of_subset hn hs
  rw [← (hperm.flatMap_right Model.fields).countP_eq]
  exact (hsub.flatMap Model.fields).countP_le

namespace Document.Unambiguous
variable {d : Document} {m n k : Model} {relation : String}

theorem not_three_carry (hd : d.Unambiguous) (hr : relation ≠ "") (hm : m ∈ d.models)
    (hn : n ∈ d.models) (hk : k ∈ d.models) (hmn : m ≠ n) (cm : m.Carries relation)
    (cn : n.Carries relation) (ck : k.Carries relation) : k = m ∨ k = n := by
  by_contra h
  obtain ⟨hkm, hkn⟩ := not_or.1 h
  have hnodup : [m, n, k].Nodup := by simp [hmn, Ne.symm hkm, Ne.symm hkn]
  have hsub : [m, n, k] ⊆ d.models := by simp [hm, hn, hk]
  have hle := countP_flatMap_le (fun f => f.isList && f.relationName = some relation) hnodup hsub
  have h2 := hd.lists relation hr
  rw [Model.carries_iff] at cm cn ck
  simp only [List.flatMap_cons, List.flatMap_nil, List.append_nil, List.countP_append] at hle
  omega

theorem countP_le_one (hd : d.Unambiguous) (hr : relation ≠ "") (hm : m ∈ d.models)
    (hn : n ∈ d.models) (hmn : m ≠ n) (cm : m.Carries relation) :
    (n.fields.countP fun f => f.isList && f.relationName = some relation) ≤ 1 := by
  have hnodup : [m, n].Nodup := by simp [hmn]
  have hsub : [m, n] ⊆ d.models := by simp [hm, hn]
  have hle := countP_flatMap_le (fun f => f.isList && f.relationName = some relation) hnodup hsub
  have h2 := hd.lists relation hr
  rw [Model.carries_iff] at cm
  simp only [List.flatMap_cons, List.flatMap_nil, List.append_nil, List.countP_append] at hle
  omega

end Document.Unambiguous

namespace Document
variable {g : Model → Model} {d e : Document} {m n : Model} {f : Field} {relation : String}

theorem Unambiguous.pairing_unique (hd : d.Unambiguous) {p q : Pairing}
    (hp : p ∈ Pairing.declared d.models) (hq : q ∈ Pairing.declared d.models)
    (h : p.relation = q.relation) : p = q := by
  obtain ⟨m, hm, f, hf, hmf⟩ := Pairing.mem_declared.1 hp
  obtain ⟨k, hk, x, hx, hkx⟩ := Pairing.mem_declared.1 hq
  obtain ⟨n, hdn, hpn⟩ := (Pairing.declared?_eq_some d.models_nodup).1 hmf
  obtain ⟨l, hdl, hql⟩ := (Pairing.declared?_eq_some d.models_nodup).1 hkx
  rw [← h] at hdl hql
  -- all four models carry the relation name, so `k` and `l` are `m` and `n` in one order or the other
  have hk' : k = m ∨ k = n := hd.not_three_carry hdn.relation_ne hm hdn.mem hk hdn.model_ne
    (hdn.carries hf) hdn.carries_target (hdl.carries hx)
  have hl' : l = m ∨ l = n := hd.not_three_carry hdn.relation_ne hm hdn.mem hdl.mem hdn.model_ne
    (hdn.carries hf) hdn.carries_target hdl.carries_target
  have hkl := hdl.model_ne
  rcases hk' with rfl | rfl <;> rcases hl' with rfl | rfl
  · exact absurd rfl hkl
  · exact Option.some.inj (hpn.symm.trans hql)
  · rw [Pairing.of?_comm] at hql
    exact Option.some.inj (hpn.symm.trans hql)
  · exact absurd rfl hkl

namespace ReorderedBy

theorem listOf? (h : ReorderedBy g d e) (hd : d.Unambiguous) (hr : relation ≠ "") (hm : m ∈ d.models)
    (hn : n ∈ d.models) (hmn : m ≠ n) (cm : m.Carries relation) :
    (g n).listOf? relation = n.listOf? relation := by
  have hle := hd.countP_le_one hr hm hn hmn cm
  rw [List.countP_eq_length_filter] at hle
  rw [Model.listOf?, Model.listOf?, ← List.head?_filter, ← List.head?_filter]
  refine congrArg List.head? (Model.eq_of_perm_of_length_le_one ?_ ?_)
  · simpa only [Bool.and_comm] using (h.model n).fields.filter _
  · simpa only [Bool.and_comm] using hle

theorem declares_iff (h : ReorderedBy g d e) (hd : d.Unambiguous) (hm : m ∈ d.models)
    (hf : f ∈ m.fields) (hn : n ∈ d.models) :
    Declares e.models (g m) f relation (g n) ↔ Declares d.models m f relation n := by
  constructor
  · intro hdec
    have hne : n.name ≠ m.name := by simpa only [(h.model _).name] using hdec.ne
    have hlist := h.listOf? hd hdec.relation_ne hm hn (fun hmn => hne (hmn ▸ rfl))
      ⟨f, hf, Field.isList_of_isImplicitList hdec.list, (Field.relation?_eq_some.1 hdec.name).1⟩
    exact ⟨hdec.list, hdec.name, hn, (h.model n).name ▸ hdec.target, hne, hlist ▸ hdec.answer⟩
  · intro hdec
    have hlist := h.listOf? hd hdec.relation_ne hm hn hdec.model_ne (hdec.carries hf)
    refine ⟨hdec.list, hdec.name, h.mem_models.2 ⟨n, hn, rfl⟩, ?_, ?_, hlist ▸ hdec.answer⟩
    · rw [(h.model n).name, hdec.target]
    · rw [(h.model n).name, (h.model m).name]
      exact hdec.ne

/-- A pairing between the models that `g` gives. -/
def pairing (h : ReorderedBy g d e) (p : Pairing) : Pairing where
  relation := p.relation
  low := g p.low
  high := g p.high
  ordered := by rw [(h.model _).name, (h.model _).name]; exact p.ordered

theorem of?_pairing (h : ReorderedBy g d e) {p : Pairing} (hp : Pairing.of? relation m n = some p) :
    Pairing.of? relation (g m) (g n) = some (h.pairing p) := by
  obtain ⟨hr, hlh⟩ := Pairing.of?_eq_some.1 hp
  refine Pairing.of?_eq_some.2 ⟨hr, ?_⟩
  rcases hlh with ⟨hl, hh⟩ | ⟨hl, hh⟩
  · exact .inl ⟨congrArg g hl, congrArg g hh⟩
  · exact .inr ⟨congrArg g hl, congrArg g hh⟩

theorem mem_declared (h : ReorderedBy g d e) (hd : d.Unambiguous) {q : Pairing} :
    q ∈ Pairing.declared e.models ↔ ∃ p ∈ Pairing.declared d.models, h.pairing p = q := by
  constructor
  · intro hq
    obtain ⟨m', hm', f, hf, hq⟩ := Pairing.mem_declared.1 hq
    obtain ⟨n', hdec, hof⟩ := (Pairing.declared?_eq_some e.models_nodup).1 hq
    obtain ⟨m, hm, rfl⟩ := h.mem_models.1 hm'
    obtain ⟨n, hn, rfl⟩ := h.mem_models.1 hdec.mem
    rw [(h.model m).mem_fields] at hf
    obtain ⟨p, hp, -, hpof⟩ :=
      Pairing.exists_declared? d.models_nodup ((h.declares_iff hd hm hf hn).1 hdec)
    exact ⟨p, Pairing.mem_declared.2 ⟨m, hm, f, hf, hp⟩,
      Option.some.inj ((h.of?_pairing hpof).symm.trans hof)⟩
  · rintro ⟨p, hp, rfl⟩
    obtain ⟨m, hm, f, hf, hp⟩ := Pairing.mem_declared.1 hp
    obtain ⟨n, hdec, hof⟩ := (Pairing.declared?_eq_some d.models_nodup).1 hp
    refine Pairing.mem_declared.2 ⟨g m, h.mem_models.2 ⟨m, hm, rfl⟩, f, (h.model m).mem_fields.2 hf, ?_⟩
    exact (Pairing.declared?_eq_some e.models_nodup).2
      ⟨g n, (h.declares_iff hd hm hf hdec.mem).2 hdec, h.of?_pairing hof⟩

theorem joinTable_pairing (h : ReorderedBy g d e) (hd : d.Unambiguous) {p : Pairing}
    (hp : p ∈ Pairing.declared d.models) : (h.pairing p).joinTable = p.joinTable := by
  obtain ⟨hlow, hhigh⟩ := Pairing.mem_models_of_mem_declared d.models_nodup hp
  have hl := (h.model p.low).identifier (hd.models _ hlow)
  have hh := (h.model p.high).identifier (hd.models _ hhigh)
  simp only [Pairing.joinTable, pairing, hl, hh, (h.model _).name]

theorem firsts_perm (h : ReorderedBy g d e) (hd : d.Unambiguous) :
    (Pairing.firsts (Pairing.declared e.models)).Perm
      ((Pairing.firsts (Pairing.declared d.models)).map h.pairing) := by
  have hone : ∀ p ∈ Pairing.declared d.models, ∀ q ∈ Pairing.declared d.models,
      p.relation = q.relation → p = q := fun _ hp _ hq => hd.pairing_unique hp hq
  have hone' : ∀ p ∈ Pairing.declared e.models, ∀ q ∈ Pairing.declared e.models,
      p.relation = q.relation → p = q := by
    intro p hp q hq hpq
    obtain ⟨p', hp', rfl⟩ := (h.mem_declared hd).1 hp
    obtain ⟨q', hq', rfl⟩ := (h.mem_declared hd).1 hq
    rw [hone p' hp' q' hq' hpq]
  have hnodup : (((Pairing.firsts (Pairing.declared d.models)).map h.pairing).map
      Pairing.relation).Nodup := by
    rw [List.map_map]
    exact Pairing.nodup_firsts
  refine (List.perm_ext_iff_of_nodup Pairing.nodup_firsts.of_map hnodup.of_map).2 fun q => ?_
  rw [Pairing.mem_firsts_of_unique hone', h.mem_declared hd, List.mem_map]
  simp only [Pairing.mem_firsts_of_unique hone]

theorem joinTables_eq_ok_iff (h : ReorderedBy g d e) (hd : d.Unambiguous) {ts : List JoinTable} :
    joinTables e.models = .ok ts ↔ joinTables d.models = .ok ts := by
  have hmap : ((Pairing.firsts (Pairing.declared d.models)).map h.pairing).mapM Pairing.joinTable =
      (Pairing.firsts (Pairing.declared d.models)).mapM Pairing.joinTable := by
    refine Traversal.congr (List.forall₂_map_left_iff.2 (List.forall₂_same.2 fun p hp => ?_))
    exact h.joinTable_pairing hd (List.mem_of_find?_eq_some (Pairing.mem_firsts.1 hp))
  rw [joinTables, joinTables, ← hmap, Pairing.sorted_tables_perm Pairing.nodup_firsts (h.firsts_perm hd)]

end ReorderedBy

end Document

end SchemaTypes
