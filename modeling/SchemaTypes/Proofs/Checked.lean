import Mathlib.Data.List.Forall2
import SchemaTypes.Checked
import SchemaTypes.Keyed

/-!
# When a value is in order

A text is found under the first entry that has it as its key, so the entries of a record are looked up
by name (`get?_record`). An attribute is in order when the value under its name in documents is, or when
it may be absent and is (`given_eq_good`, `needed_eq_good`); a record of attributes only has no
strangers (`closed_eq`), and a list is in order when its items are (`each_eq_good`).
-/

namespace SchemaTypes

theorem Scalar.sameKey_text {a : Scalar} {key : String} : a.sameKey (.text key) ↔ a = .text key := by
  have hbeq (s : Scalar) : (s == .text key) = true ↔ s = .text key := by
    cases s <;> simp [BEq.beq, instBEqScalar.beq]
  unfold sameKey
  cases hw : a.whole? with
  | some n =>
    have hne : a ≠ .text key := by
      rintro rfl
      cases hw
    simpa [whole?] using hne
  | none => simpa [whole?] using hbeq a

theorem Scalar.text_sameKey {a : Scalar} {key : String} :
    (Scalar.text key).sameKey a ↔ a = .text key := by
  have hbeq (s : Scalar) : (Scalar.text key == s) = true ↔ s = .text key := by
    cases s <;> simp [BEq.beq, instBEqScalar.beq, eq_comm]
  unfold sameKey
  cases hw : a.whole? with
  | some n =>
    have hne : a ≠ .text key := by
      rintro rfl
      cases hw
    simpa [whole?] using hne
  | none => simpa [whole?] using hbeq a

namespace Keyed
variable {α : Type} {xs ys : Keyed α} {name : String}

theorem get?_append : get? (xs ++ ys) name = (get? xs name).or (get? ys name) := by
  induction xs with
  | nil => rfl
  | cons x xs ih =>
    rw [List.cons_append, get?, get?, ih]
    split <;> rfl

theorem get?_eq_none (h : ∀ x ∈ xs, x.1 ≠ name) : get? xs name = none := by
  induction xs with
  | nil => rfl
  | cons x xs ih =>
    rw [get?, if_neg (h x List.mem_cons_self), ih fun y hy => h y (List.mem_cons_of_mem x hy)]

/-- The entries that a list of names selects. -/
theorem get?_filterMap (names : List String) (f : String → Option α) :
    get? (names.filterMap fun n => (f n).map fun a => (n, a)) name =
      if name ∈ names then f name else none := by
  induction names with
  | nil => rfl
  | cons n names ih =>
    rw [List.filterMap_cons]
    by_cases h : n = name
    · subst h
      cases hn : f n <;> simp [hn, get?, ih]
    · cases hn : f n <;> simp [get?, ih, h, Ne.symm h]

end Keyed

namespace Entries
variable {es : Entries} {key : String} {v : Value}

theorem get?_record (xs : Keyed Value) : get? (xs.map fun x => (.text x.1, x.2)) key = xs.get? key := by
  unfold get? find?
  induction xs with
  | nil => rfl
  | cons x xs ih =>
    rw [List.map_cons, List.find?_cons, Keyed.get?]
    by_cases h : x.1 = key
    · simp [h, Scalar.sameKey_text.2 (Eq.refl (Scalar.text key))]
    · have hother : (Scalar.text x.1).sameKey (.text key) = false := by
        simpa [← Bool.not_eq_true, Scalar.sameKey_text] using h
      simpa [h, hother] using ih

theorem get?_isSome : (es.get? key).isSome ↔ ∃ e ∈ es, e.1 = .text key := by
  simp only [get?, find?, Option.isSome_map, List.find?_isSome, Scalar.sameKey_text]

theorem get?_eq_none (h : ∀ e ∈ es, e.1 ≠ .text key) : es.get? key = none := by
  rw [← Option.not_isSome_iff_eq_none, get?_isSome]
  rintro ⟨e, he, hkey⟩
  exact h e he hkey

theorem get?_cons (e : Scalar × Value) :
    get? (e :: es) key = if e.1.sameKey (.text key) then some e.2 else es.get? key := by
  unfold get? find?
  rw [List.find?_cons]
  cases e.1.sameKey (.text key) <;> rfl

theorem get?_append {others : Entries} : (es ++ others).get? key = (es.get? key).or (others.get? key) := by
  induction es with
  | nil => rfl
  | cons e es ih =>
    rw [List.cons_append, get?_cons, get?_cons, ih]
    split <;> rfl

theorem mem_of_get? (h : es.get? key = some v) : (.text key, v) ∈ es := by
  obtain ⟨e, he, rfl⟩ := Option.map_eq_some_iff.1 h
  have hsame := List.find?_some he
  have hkey : e.1 = .text key := Scalar.sameKey_text.1 hsame
  exact hkey ▸ List.mem_of_find?_eq_some he

theorem get?_put (k : Scalar) :
    (es.put k v).get? key = if k.sameKey (.text key) then some v else es.get? key := by
  induction es with
  | nil => exact get?_cons _
  | cons e es ih =>
    rw [put]
    by_cases hkey : e.1 = .text key
    · -- the entry that is found is the one that is set, if any is
      have hset : e.1.sameKey k ↔ k.sameKey (.text key) := by
        rw [hkey, Scalar.text_sameKey, Scalar.sameKey_text]
      have hfound : e.1.sameKey (.text key) := Scalar.sameKey_text.2 hkey
      by_cases hsame : e.1.sameKey k
      · simp only [hsame, hset.1 hsame, get?_cons, hfound, if_true]
      · simp only [hsame, mt hset.2 hsame, get?_cons, hfound, if_true, Bool.false_eq_true, if_false]
    · have hpass : ¬ e.1.sameKey (.text key) := mt Scalar.sameKey_text.1 hkey
      by_cases hsame : e.1.sameKey k
      · have hother : ¬ k.sameKey (.text key) := fun h => hpass (Scalar.sameKey_text.1 h ▸ hsame)
        simp only [hsame, if_true, get?_cons, hpass, hother, Bool.false_eq_true, if_false]
      · simp only [hsame, Bool.false_eq_true, if_false, get?_cons, hpass, ih]

/-- Of the entries that are put over a mapping, the last counts. -/
theorem get?_putAll (new : Entries) :
    (es.putAll new).get? key = (get? new.reverse key).or (es.get? key) := by
  induction new generalizing es with
  | nil => rfl
  | cons e new ih =>
    have hstep : es.putAll (e :: new) = (es.put e.1 e.2).putAll new := rfl
    rw [hstep, ih, get?_put, List.reverse_cons, get?_append, get?_cons, Option.or_assoc]
    split <;> rfl

theorem get?_of_get {w : Value} (h : es.get key = w) (hw : w ≠ .null) : es.get? key = some w := by
  unfold get at h
  cases hget : es.get? key with
  | some v => rw [hget] at h; exact congrArg some h
  | none => rw [hget] at h; exact absurd h.symm hw

end Entries

namespace Checked

section
variable {α β : Type}

theorem map_eq_good {f : α → β} {c : Checked α} {b : β} : f <$> c = .good b ↔ ∃ a, c = .good a ∧ f a = b := by
  cases c with
  | good a => simp [Functor.map]
  | bad is => simp [Functor.map]

theorem seq_eq_good {f : Checked (α → β)} {c : Checked α} {b : β} :
    f <*> c = .good b ↔ ∃ g a, f = .good g ∧ c = .good a ∧ g a = b := by
  cases f <;> cases c <;> simp [Seq.seq]

theorem toExcept_eq_ok_iff {c : Checked α} {a : α} : c.toExcept = .ok a ↔ c = .good a := by
  cases c <;> simp [toExcept]

theorem under_eq_good {step : Step} {c : Checked α} {a : α} : c.under step = .good a ↔ c = .good a := by
  cases c <;> simp [under]

end

variable {α : Type} {es : Entries} {a : Attribute} {check : Value → Checked α} {x absent : α}

theorem Attribute.find?_of_get? {v : Value} (h : es.get? a.inDocuments = some v) :
    a.find? es = some (a.inDocuments, v) := by
  unfold find?
  rw [h]

theorem Attribute.find?_of_name {v : Value} (hnone : es.get? a.inDocuments = none)
    (h : es.get? a.name = some v) : a.find? es = some (a.name, v) := by
  unfold find?
  rw [hnone, h]
  rfl

theorem given_of_get? {v : Value} (h : es.get? a.inDocuments = some v) (hcheck : check v = .good x) :
    given es a absent check = .good x := by
  unfold given
  rw [Attribute.find?_of_get? h]
  show (check v).under _ = _
  rw [hcheck]
  rfl

theorem given_eq_good (hname : a.name = a.inDocuments ∨ es.get? a.name = none)
    (hgiven : ∀ v, es.get? a.inDocuments = some v → check v = .good x)
    (habsent : es.get? a.inDocuments = none → absent = x) : given es a absent check = .good x := by
  cases hget : es.get? a.inDocuments with
  | some v => exact given_of_get? hget (hgiven v hget)
  | none =>
    have hnone : es.get? a.name = none := hname.elim (fun heq => heq ▸ hget) id
    unfold given Attribute.find?
    rw [hget, hnone]
    exact congrArg good (habsent hget)

theorem check_of_given {key : String} {v : Value} (hfind : a.find? es = some (key, v))
    (h : given es a absent check = .good x) : check v = .good x := by
  unfold given at h
  rw [hfind] at h
  exact under_eq_good.1 h

theorem given_of_find? {key : String} {v : Value} (hfind : a.find? es = some (key, v))
    (hcheck : check v = .good x) : given es a absent check = .good x := by
  unfold given
  rw [hfind]
  exact under_eq_good.2 hcheck

theorem given_get (hname : a.name = a.inDocuments ∨ es.get? a.name = none)
    (hnull : check .null = .good absent) (hcheck : check (es.get a.inDocuments) = .good x) :
    given es a absent check = .good x := by
  refine given_eq_good hname (fun v hv => ?_) fun hnone => ?_
  · rwa [Entries.get, hv] at hcheck
  · rw [Entries.get, hnone, Option.getD_none, hnull] at hcheck
    exact Checked.good.inj hcheck

theorem given_truth {b absent : Bool} (hname : a.name = a.inDocuments ∨ es.get? a.name = none)
    (hvalue : (es.get? a.inDocuments).getD (.bool absent) = .bool b) :
    given es a absent truth = .good b := by
  refine given_eq_good hname (fun v hv => ?_) fun hnone => ?_
  · rw [hv, Option.getD_some] at hvalue
    rw [hvalue]
    rfl
  · rw [hnone, Option.getD_none] at hvalue
    cases hvalue
    rfl

theorem needed_eq_good {key : String} {v : Value} (hfind : a.find? es = some (key, v))
    (hcheck : check v = .good x) : needed es a check = .good x := by
  unfold needed
  rw [hfind]
  show (check v).under _ = _
  rw [hcheck]
  rfl

theorem closed_eq {attributes : List Attribute} {c : Checked α} (h : ∀ e ∈ es, ∃ a ∈ attributes,
    e.1 = .text a.inDocuments ∨ e.1 = .text a.name ∧ es.get? a.inDocuments = none) :
    closed attributes es c = c := by
  have hused : strangers attributes es = [] := by
    refine List.filterMap_eq_nil_iff.2 fun e he => ?_
    obtain ⟨a, ha, hkey⟩ := h e he
    have hfind : ∃ key v, a.find? es = some (key, v) ∧ e.1 = .text key := by
      rcases hkey with hkey | ⟨hkey, hnone⟩ <;>
        obtain ⟨v, hv⟩ := Option.isSome_iff_exists.1 (Entries.get?_isSome.2 ⟨e, he, hkey⟩)
      · exact ⟨_, v, Attribute.find?_of_get? hv, hkey⟩
      · exact ⟨_, v, Attribute.find?_of_name hnone hv, hkey⟩
    obtain ⟨key, v, hfind, hkey⟩ := hfind
    have hmem : key ∈ attributes.filterMap fun a => (a.find? es).map (·.1) :=
      List.mem_filterMap.2 ⟨a, ha, by rw [hfind]; rfl⟩
    rw [hkey]
    exact if_pos (List.contains_iff_mem.2 hmem)
  unfold closed
  rw [hused]

theorem each_eq_good {xs : List α} {vs : List Value}
    (h : List.Forall₂ (fun x v => check v = .good x) xs vs) (start : Nat) : each check start vs = .good xs := by
  induction h generalizing start with
  | nil => rfl
  | cons hx _ ih =>
    rw [each, hx, ih]
    rfl

theorem tuple_eq_good {xs : List α} {vs : List Value}
    (h : List.Forall₂ (fun x v => check v = .good x) xs vs) : tuple check (.list vs) = .good xs :=
  each_eq_good h 0

/-! ### Scalars -/

theorem optionalText_ofText? (o : Option String) : optionalText (.ofText? o) = .good o := by
  cases o <;> rfl

theorem name_text {s : String} (h : s ≠ "") : name (.text s) = .good ⟨s, h⟩ := by
  show (if h : s ≠ "" then good (⟨s, h⟩ : Named) else fail .emptyText) = _
  rw [dif_pos h]

theorem needed_name {s : String} (hne : s ≠ "") (h : es.get "name" = .text s) :
    needed es ⟨"name", "name"⟩ name = .good ⟨s, hne⟩ :=
  needed_eq_good (Attribute.find?_of_get? (Entries.get?_of_get h nofun)) (name_text hne)

theorem tuple_texts (xs : List String) : tuple text (.texts xs) = .good xs := by
  refine tuple_eq_good ?_
  induction xs with
  | nil => exact .nil
  | cons x xs ih => exact .cons rfl ih

theorem list_texts (xs : List String) : list text (.texts xs) = .good xs := tuple_texts xs

end Checked

end SchemaTypes
