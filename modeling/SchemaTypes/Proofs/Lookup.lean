import Mathlib.Data.List.Induction
import Mathlib.Data.List.Nodup
import SchemaTypes.Keyed
import SchemaTypes.Relation.Identifier

/-!
# Looking things up by name

Where no two entries of a list have one name, looking a name up finds the entry of that name,
wherever it stands (`find?_name_eq_some`). A table that is filled entry by entry holds the last
value of each name (`get?_ofList`); when the entries agree on every name, their order does not
matter (`get?_ofList_congr`).
-/

namespace SchemaTypes

section Names
variable {α : Type} {name : α → String} {xs : List α}

theorem find?_name_eq_some (hn : (xs.map name).Nodup) {key : String} {x : α} :
    xs.find? (fun y => name y = key) = some x ↔ x ∈ xs ∧ name x = key := by
  constructor
  · intro h
    exact ⟨List.mem_of_find?_eq_some h, by simpa using List.find?_some h⟩
  · rintro ⟨hx, rfl⟩
    have hs : (xs.find? fun y => name y = name x).isSome := by
      rw [List.find?_isSome]
      exact ⟨x, hx, by simp⟩
    obtain ⟨y, hy⟩ := Option.isSome_iff_exists.1 hs
    have hyx : name y = name x := by simpa using List.find?_some hy
    rw [hy, List.inj_on_of_nodup_map hn (List.mem_of_find?_eq_some hy) hx hyx]

end Names

/-! ### Documents and models -/

namespace Document
variable {d : Document} {name : String}

theorem model?_eq_some {m : Model} : d.model? name = some m ↔ m ∈ d.models ∧ m.name = name :=
  find?_name_eq_some d.models_nodup

theorem enum?_eq_some {e : Enumeration} : d.enum? name = some e ↔ e ∈ d.enums ∧ e.name = name :=
  find?_name_eq_some d.enums_nodup

theorem model_ext {m n : Model} (hm : m ∈ d.models) (hn : n ∈ d.models) (h : m.name = n.name) :
    m = n :=
  List.inj_on_of_nodup_map d.models_nodup hm hn h

end Document

theorem Model.field?_eq_some {m : Model} (hn : (m.fields.map (·.name)).Nodup) {name : String}
    {f : Field} : m.field? name = some f ↔ f ∈ m.fields ∧ f.name = name := by
  have hr : (m.fields.reverse.map (·.name)).Nodup := by
    rw [List.map_reverse, List.nodup_reverse]
    exact hn
  rw [field?, find?_name_eq_some hr, List.mem_reverse]

/-! ### Tables -/

namespace Keyed
variable {α : Type} {es fs : List (String × α)} {name : String} {a : α}

theorem get?_ofList : get? (ofList es) name = (es.reverse.find? fun e => e.1 = name).map (·.2) := by
  induction es using List.reverseRecOn with
  | nil => rfl
  | append_singleton es e ih =>
    rw [ofList, List.foldl_append, ← ofList, List.foldl_cons, List.foldl_nil, get?_put, ih,
      List.reverse_append, List.reverse_singleton, List.singleton_append, List.find?_cons]
    by_cases h : e.1 = name <;> simp [h]

theorem ofList_of_nodup (hn : (es.map (·.1)).Nodup) : ofList es = es := by
  have hput : ∀ (fs : Keyed α) (name : String) (a : α), name ∉ names fs →
      put fs name a = fs ++ [(name, a)] := by
    intro fs name a h
    induction fs with
    | nil => rfl
    | cons f fs ih =>
      obtain ⟨hf, hfs⟩ := not_or.1 (mt List.mem_cons.2 h)
      rw [put, if_neg (Ne.symm hf), ih hfs, List.cons_append]
  induction es using List.reverseRecOn with
  | nil => rfl
  | append_singleton es e ih =>
    rw [List.map_append, List.nodup_append] at hn
    have hnew : e.1 ∉ names es := fun hmem => hn.2.2 e.1 hmem e.1 List.mem_cons_self rfl
    rw [ofList, List.foldl_append, ← ofList, ih hn.1, List.foldl_cons, List.foldl_nil,
      hput es _ _ hnew]

theorem mem_of_get?_ofList (h : get? (ofList es) name = some a) : (name, a) ∈ es := by
  rw [get?_ofList, Option.map_eq_some_iff] at h
  obtain ⟨e, he, rfl⟩ := h
  have hname : e.1 = name := by simpa using List.find?_some he
  rw [← hname]
  exact List.mem_reverse.1 (List.mem_of_find?_eq_some he)

theorem get?_ofList_isSome : (get? (ofList es) name).isSome ↔ ∃ a, (name, a) ∈ es := by
  simp [get?_ofList]

theorem mem_names_ofList : name ∈ names (ofList es) ↔ name ∈ es.map Prod.fst := by
  induction es using List.reverseRecOn with
  | nil => rfl
  | append_singleton es e ih =>
    rw [ofList, List.foldl_append, ← ofList, List.foldl_cons, List.foldl_nil, names_put, List.map_append,
      List.mem_append, ← ih, List.map_singleton, List.mem_singleton]
    split
    next hmem => exact ⟨.inl, fun h => h.elim id fun h => h ▸ hmem⟩
    next => rw [List.mem_append, List.mem_singleton]

theorem nodup_names_ofList : (names (ofList es)).Nodup := by
  induction es using List.reverseRecOn with
  | nil => exact List.nodup_nil
  | append_singleton es e ih =>
    rw [ofList, List.foldl_append, ← ofList, List.foldl_cons, List.foldl_nil, names_put]
    split
    next => exact ih
    next h => exact ih.append (List.nodup_singleton _) (by simpa using h)

/-- Of parts that are put one after the other, the last one that has the name counts. -/
theorem get?_ofList_flatMap {β : Type} (xs : List β) (f : β → List (String × α)) :
    get? (ofList (xs.flatMap f)) name = xs.reverse.findSome? fun x => get? (ofList (f x)) name := by
  simp only [get?_ofList, List.reverse_flatMap, List.find?_flatMap, List.map_findSome?,
    Function.comp_def]

/-- Entries that agree on a name: the table holds their value. -/
theorem get?_ofList_of_mem (hes : ∀ b, (name, b) ∈ es → b = a) (h : (name, a) ∈ es) :
    get? (ofList es) name = some a := by
  obtain ⟨b, hb⟩ := Option.isSome_iff_exists.1 (get?_ofList_isSome.2 ⟨a, h⟩)
  rw [hb, hes b (mem_of_get?_ofList hb)]

theorem get?_ofList_congr (hes : ∀ a b, (name, a) ∈ es → (name, b) ∈ es → b = a)
    (h : ∀ a, (name, a) ∈ es ↔ (name, a) ∈ fs) : get? (ofList es) name = get? (ofList fs) name := by
  cases hg : get? (ofList es) name with
  | none =>
    rw [eq_comm, ← Option.not_isSome_iff_eq_none, get?_ofList_isSome]
    rw [← Option.not_isSome_iff_eq_none, get?_ofList_isSome] at hg
    rintro ⟨a, ha⟩
    exact hg ⟨a, (h a).2 ha⟩
  | some a =>
    have ha := mem_of_get?_ofList hg
    exact (get?_ofList_of_mem (fun b hb => hes a b ha ((h b).2 hb)) ((h a).1 ha)).symm

end Keyed

end SchemaTypes
