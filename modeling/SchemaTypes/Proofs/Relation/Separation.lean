import SchemaTypes.Proofs.Relation.Pairing

/-!
# Join tables of a part of the models

`Apart models p`: no relation name is carried by lists on both sides of `p`. Then each relation lies
on one side, and the models that `p` keeps imply by themselves the join tables that touch them
(`joinTables_filter`).
-/

namespace SchemaTypes

/-- No list of a model that `p` leaves out carries a relation name that a list of a model that it
keeps carries. -/
def Apart (models : List Model) (p : Model → Bool) : Prop :=
  ∀ m ∈ models, ¬ p m → ∀ n ∈ models, p n →
    ∀ relation, relation ≠ "" → m.Carries relation → ¬ n.Carries relation

variable {models : List Model} {p : Model → Bool} {m n : Model} {f : Field} {relation : String}
  {q : Pairing}

theorem Apart.same_side (h : Apart models p) (hm : m ∈ models) (hn : n ∈ models) (hr : relation ≠ "")
    (cm : m.Carries relation) (cn : n.Carries relation) : p m = p n := by
  cases hpm : p m <;> cases hpn : p n
  · rfl
  · exact absurd cn (h m hm (by simp [hpm]) n hn hpn relation hr cm)
  · exact absurd cm (h n hn (by simp [hpn]) m hm hpm relation hr cn)
  · rfl

theorem Apart.declares_iff (h : Apart models p) (hm : m ∈ models) (hp : p m) (hf : f ∈ m.fields) :
    Declares (models.filter p) m f relation n ↔ Declares models m f relation n := by
  constructor
  · intro hdec
    exact ⟨hdec.list, hdec.name, (List.mem_filter.1 hdec.mem).1, hdec.target, hdec.ne, hdec.answer⟩
  · intro hdec
    have hn := h.same_side hm hdec.mem hdec.relation_ne (hdec.carries hf) hdec.carries_target
    exact ⟨hdec.list, hdec.name, List.mem_filter.2 ⟨hdec.mem, hn ▸ hp⟩, hdec.target, hdec.ne, hdec.answer⟩

theorem flatMap_filter {α β : Type} (p : α → Bool) (g : α → List β) (xs : List α) :
    (xs.filter p).flatMap g = xs.flatMap fun x => if p x then g x else [] := by
  induction xs with
  | nil => rfl
  | cons x xs ih => by_cases h : p x <;> simp [h, ih]

namespace Pairing

theorem carries_of_mem_declared (hn : (models.map Model.name).Nodup) (h : q ∈ declared models) :
    q.relation ≠ "" ∧ q.low.Carries q.relation ∧ q.high.Carries q.relation := by
  obtain ⟨m, -, f, hf, hq⟩ := mem_declared.1 h
  obtain ⟨n, hdec, hof⟩ := (declared?_eq_some hn).1 hq
  refine ⟨hdec.relation_ne, ?_⟩
  rcases (of?_eq_some.1 hof).2 with ⟨hl, hh⟩ | ⟨hl, hh⟩
  · rw [hl, hh]
    exact ⟨hdec.carries hf, hdec.carries_target⟩
  · rw [hl, hh]
    exact ⟨hdec.carries_target, hdec.carries hf⟩

theorem declared?_filter (hn : (models.map Model.name).Nodup) (h : Apart models p) (hm : m ∈ models)
    (hp : p m) (hf : f ∈ m.fields) : declared? (models.filter p) m f = declared? models m f := by
  have hn' : ((models.filter p).map Model.name).Nodup := hn.sublist (List.filter_sublist.map _)
  refine Option.ext fun q => ?_
  rw [declared?_eq_some hn', declared?_eq_some hn]
  simp only [h.declares_iff hm hp hf]

/-- A pairing is on the side of the model that declares it. -/
theorem low_side (hn : (models.map Model.name).Nodup) (h : Apart models p) (hm : m ∈ models)
    (hf : f ∈ m.fields) (hq : declared? models m f = some q) : p q.low = p m := by
  have hmem : q ∈ declared models := mem_declared.2 ⟨m, hm, f, hf, hq⟩
  obtain ⟨hr, hlow, -⟩ := carries_of_mem_declared hn hmem
  obtain ⟨n, hdec, -⟩ := (declared?_eq_some hn).1 hq
  exact h.same_side (mem_models_of_mem_declared hn hmem).1 hm hr hlow (hdec.carries hf)

theorem declared_filter (hn : (models.map Model.name).Nodup) (h : Apart models p) :
    declared (models.filter p) = (declared models).filter fun q => p q.low := by
  -- a model keeps all of its pairings or none
  have hsides : ∀ m ∈ models, (m.fields.filterMap (declared? models m)).filter (fun q => p q.low) =
      if p m then m.fields.filterMap (declared? models m) else [] := by
    intro m hm
    have hside : ∀ q ∈ m.fields.filterMap (declared? models m), p q.low = p m := by
      intro q hq
      obtain ⟨f, hf, hq⟩ := List.mem_filterMap.1 hq
      exact low_side hn h hm hf hq
    split
    next hp => exact List.filter_eq_self.2 fun q hq => (hside q hq).trans hp
    next hp => exact List.filter_eq_nil_iff.2 fun q hq => by rwa [hside q hq]
  have hkept : declared (models.filter p) =
      (models.filter p).flatMap fun m => m.fields.filterMap (declared? models m) := by
    refine List.flatMap_congr fun m hm => ?_
    obtain ⟨hm, hp⟩ := List.mem_filter.1 hm
    exact List.filterMap_congr fun f hf => declared?_filter hn h hm hp hf
  rw [hkept, declared, List.filter_flatMap, List.flatMap_congr hsides, flatMap_filter]

theorem firsts_declared_filter (hn : (models.map Model.name).Nodup) (h : Apart models p) :
    firsts (declared (models.filter p)) = (firsts (declared models)).filter fun q => p q.low := by
  rw [declared_filter hn h]
  refine firsts_filter fun q hq r hr hqr => ?_
  obtain ⟨hne, hlow, -⟩ := carries_of_mem_declared hn hq
  obtain ⟨-, hlow', -⟩ := carries_of_mem_declared hn hr
  exact h.same_side (mem_models_of_mem_declared hn hq).1 (mem_models_of_mem_declared hn hr).1 hne hlow
    (hqr ▸ hlow')

end Pairing

theorem contains_name_filter (hn : (models.map Model.name).Nodup) (hm : m ∈ models) :
    ((models.filter p).map Model.name).contains m.name = p m := by
  rw [List.contains_eq_mem, Bool.eq_iff_iff, decide_eq_true_eq, List.mem_map]
  constructor
  · rintro ⟨k, hk, hkm⟩
    obtain ⟨hk, hp⟩ := List.mem_filter.1 hk
    rwa [← List.inj_on_of_nodup_map hn hk hm hkm]
  · exact fun hp => ⟨m, List.mem_filter.2 ⟨hm, hp⟩, rfl⟩

theorem joinTables_filter (hn : (models.map Model.name).Nodup) (h : Apart models p) {ts : List JoinTable}
    (hts : joinTables models = .ok ts) :
    joinTables (models.filter p) = .ok (joinTablesTouching ts ((models.filter p).map Model.name)) := by
  obtain ⟨us, hus, rfl⟩ := Traversal.map_eq_ok_iff.1 hts
  -- a join table touches the part if and only if its pairing is kept
  have hkept := Traversal.ok_filter (p := fun q => p q.low) (q := fun t : JoinTable =>
    ((models.filter p).map Model.name).contains t.modelA ||
      ((models.filter p).map Model.name).contains t.modelB) (fun q hq t ht => ?_) hus
  · rw [joinTables, Pairing.firsts_declared_filter hn h, hkept]
    exact congrArg Except.ok (Text.filter_sortedBy (Pairing.nodup_tables Pairing.nodup_firsts hus) _).symm
  · have hq : q ∈ Pairing.declared models := List.mem_of_find?_eq_some (Pairing.mem_firsts.1 hq)
    obtain ⟨hlow, hhigh⟩ := Pairing.mem_models_of_mem_declared hn hq
    obtain ⟨hne, cl, ch⟩ := Pairing.carries_of_mem_declared hn hq
    obtain ⟨-, -, ha, hb, -, -⟩ := Pairing.joinTable_eq_ok ht
    rw [ha, hb, contains_name_filter hn hlow, contains_name_filter hn hhigh,
      h.same_side hhigh hlow hne ch cl, Bool.or_self]

end SchemaTypes
