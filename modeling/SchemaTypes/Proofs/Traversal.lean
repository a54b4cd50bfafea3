import Mathlib.Data.List.Perm.Basic

/-!
# Steps that may fail

When a step that may fail succeeds, and with what: for a sequence of steps (`bind_eq_ok_iff`), and
for a list that is worked off entry by entry (`eq_ok_iff`). A traversal of a list ends at its first
failure, so which failure it gives depends on the order of the entries, but whether it gives one
does not (`exists_ok_perm`).
-/

namespace SchemaTypes.Traversal

variable {ε α β γ : Type}

theorem exists_ok_of_isOk {x : Except ε α} (h : x.isOk) : ∃ a, x = .ok a := by
  cases x with
  | error e => cases h
  | ok a => exact ⟨a, rfl⟩

theorem exists_ok_of_toOption {x : Except ε (α × β)} {b : β} (h : x.toOption.map Prod.snd = some b) :
    ∃ a, x = .ok (a, b) := by
  cases x with
  | error e => cases h
  | ok p =>
    obtain rfl : p.2 = b := Option.some.inj h
    exact ⟨p.1, rfl⟩

theorem bind_eq_ok_iff {x : Except ε α} {f : α → Except ε β} {b : β} :
    x >>= f = .ok b ↔ ∃ a, x = .ok a ∧ f a = .ok b := by
  cases x <;> simp [bind, Except.bind]

theorem map_eq_ok_iff {x : Except ε α} {f : α → β} {b : β} :
    f <$> x = .ok b ↔ ∃ a, x = .ok a ∧ f a = b := by
  cases x <;> simp [Functor.map, Except.map]

theorem exists_map_eq_ok_iff {x : Except ε α} {f : α → β} :
    (∃ b, f <$> x = .ok b) ↔ ∃ a, x = .ok a := by
  simp [map_eq_ok_iff]

theorem bind_eq_error_iff {x : Except ε α} {f : α → Except ε β} {e : ε} :
    x >>= f = .error e ↔ x = .error e ∨ ∃ a, x = .ok a ∧ f a = .error e := by
  cases x <;> simp [bind, Except.bind]

theorem map_eq_error_iff {x : Except ε α} {f : α → β} {e : ε} :
    f <$> x = .error e ↔ x = .error e := by
  cases x <;> simp [Functor.map, Except.map]

theorem mapError_eq_ok_iff {ε' : Type} {x : Except ε α} {g : ε → ε'} {a : α} :
    x.mapError g = .ok a ↔ x = .ok a := by
  cases x <;> simp [Except.mapError]

theorem mapError_eq_error_iff {ε' : Type} {x : Except ε α} {g : ε → ε'} {e : ε'} :
    x.mapError g = .error e ↔ ∃ e', x = .error e' ∧ g e' = e := by
  cases x <;> simp [Except.mapError]

/-! ### Lists -/

theorem eq_ok_iff {f : α → Except ε β} {xs : List α} {ys : List β} :
    xs.mapM f = .ok ys ↔ List.Forall₂ (fun x y => f x = .ok y) xs ys := by
  induction xs generalizing ys with
  | nil => cases ys <;> simp [pure, Except.pure]
  | cons x xs ih =>
    rw [List.mapM_cons, bind_eq_ok_iff]
    constructor
    · rintro ⟨y, hy, h⟩
      obtain ⟨zs, hzs, h⟩ := bind_eq_ok_iff.1 h
      cases h
      exact .cons hy (ih.1 hzs)
    · rintro (_ | ⟨hy, h⟩)
      exact ⟨_, hy, bind_eq_ok_iff.2 ⟨_, ih.2 h, rfl⟩⟩

theorem exists_ok_iff {f : α → Except ε β} {xs : List α} :
    (∃ ys, xs.mapM f = .ok ys) ↔ ∀ x ∈ xs, ∃ y, f x = .ok y := by
  induction xs with
  | nil => simp [pure, Except.pure]
  | cons x xs ih =>
    simp only [List.forall_mem_cons, ← ih, List.mapM_cons, bind_eq_ok_iff]
    constructor
    · rintro ⟨_, y, hy, ys, hys, -⟩
      exact ⟨⟨y, hy⟩, ys, hys⟩
    · rintro ⟨⟨y, hy⟩, ys, hys⟩
      exact ⟨y :: ys, y, hy, ys, hys, rfl⟩

theorem mem_iff {f : α → Except ε β} {xs : List α} {ys : List β} (h : xs.mapM f = .ok ys) {y : β} :
    y ∈ ys ↔ ∃ x ∈ xs, f x = .ok y := by
  have h' := eq_ok_iff.1 h
  clear h
  induction h' with
  | nil => simp
  | cons hx _ ih =>
    simp only [List.mem_cons, exists_eq_or_imp, hx, Except.ok.injEq, ih]
    exact or_congr_left eq_comm

theorem map_eq_of_ok {f : α → Except ε β} {g : β → γ} {k : α → γ} {xs : List α} {ys : List β}
    (hgk : ∀ x y, f x = .ok y → g y = k x) (h : xs.mapM f = .ok ys) : ys.map g = xs.map k := by
  have h' := eq_ok_iff.1 h
  clear h
  induction h' with
  | nil => rfl
  | cons hx _ ih => rw [List.map_cons, List.map_cons, ih, hgk _ _ hx]

/-- Entries that succeed with what is described do so one after the other. -/
theorem exists_ok_forall₂ {f : α → Except ε β} {R : γ → α → Prop} {S : γ → β → Prop} {zs : List γ}
    {xs : List α} (hf : ∀ z ∈ zs, ∀ x, R z x → ∃ y, f x = .ok y ∧ S z y) (h : List.Forall₂ R zs xs) :
    ∃ ys, xs.mapM f = .ok ys ∧ List.Forall₂ S zs ys := by
  induction h with
  | nil => exact ⟨[], rfl, .nil⟩
  | cons hx _ ih =>
    obtain ⟨y, hy, hs⟩ := hf _ List.mem_cons_self _ hx
    obtain ⟨ys, hys, hall⟩ := ih fun z hz => hf z (List.mem_cons_of_mem _ hz)
    refine ⟨y :: ys, ?_, .cons hs hall⟩
    rw [List.mapM_cons, hy, hys]
    rfl

theorem eq_error_iff {f : α → Except ε β} {xs : List α} {e : ε} : xs.mapM f = .error e ↔
    ∃ before x after, xs = before ++ x :: after ∧ (∀ y ∈ before, ∃ z, f y = .ok z) ∧ f x = .error e := by
  induction xs with
  | nil => simp [pure, Except.pure]
  | cons x xs ih =>
    rw [List.mapM_cons, bind_eq_error_iff]
    constructor
    · rintro (h | ⟨y, hy, h⟩)
      · exact ⟨[], x, xs, rfl, by simp, h⟩
      · rcases bind_eq_error_iff.1 h with h | ⟨ys, -, h⟩
        · obtain ⟨before, z, after, rfl, hbefore, hz⟩ := ih.1 h
          exact ⟨x :: before, z, after, rfl, List.forall_mem_cons.2 ⟨⟨y, hy⟩, hbefore⟩, hz⟩
        · cases h
    · rintro ⟨before, z, after, hxs, hbefore, hz⟩
      cases before with
      | nil =>
        cases hxs
        exact .inl hz
      | cons w before =>
        cases hxs
        obtain ⟨⟨y, hy⟩, hrest⟩ := List.forall_mem_cons.1 hbefore
        exact .inr ⟨y, hy, bind_eq_error_iff.2 (.inl (ih.2 ⟨before, z, after, rfl, hrest, hz⟩))⟩

theorem exists_of_eq_error {f : α → Except ε β} {xs : List α} {e : ε} (h : xs.mapM f = .error e) :
    ∃ x ∈ xs, f x = .error e := by
  obtain ⟨before, x, after, rfl, -, hx⟩ := eq_error_iff.1 h
  exact ⟨x, by simp, hx⟩

theorem congr {f : α → Except ε γ} {g : β → Except ε γ} {xs : List α} {ys : List β}
    (h : List.Forall₂ (fun x y => f x = g y) xs ys) : xs.mapM f = ys.mapM g := by
  induction h with
  | nil => rfl
  | cons h _ ih => rw [List.mapM_cons, List.mapM_cons, h, ih]

theorem ok_mono {f g : α → Except ε β} {xs : List α} {ys : List β}
    (hfg : ∀ x ∈ xs, ∀ y, f x = .ok y → g x = .ok y) (h : xs.mapM f = .ok ys) :
    xs.mapM g = .ok ys := by
  have h' := (List.forall₂_and_left xs ys).2 ⟨fun x hx => hx, eq_ok_iff.1 h⟩
  exact eq_ok_iff.2 (h'.imp fun x y hxy => hfg x hxy.1 y hxy.2)

theorem exists_ok_perm {f : α → Except ε β} {xs zs : List α} {ys : List β} (hp : xs.Perm zs)
    (h : xs.mapM f = .ok ys) : ∃ ws, zs.mapM f = .ok ws ∧ ws.Perm ys := by
  obtain ⟨ws, hws, hp'⟩ := List.perm_comp_forall₂ hp.symm (eq_ok_iff.1 h)
  exact ⟨ws, eq_ok_iff.2 hws, hp'⟩

theorem ok_filter {f : α → Except ε β} {xs : List α} {ys : List β} {p : α → Bool} {q : β → Bool}
    (hpq : ∀ x ∈ xs, ∀ y, f x = .ok y → p x = q y) (h : xs.mapM f = .ok ys) :
    (xs.filter p).mapM f = .ok (ys.filter q) := by
  have h' := (List.forall₂_and_left xs ys).2 ⟨fun x hx => hx, eq_ok_iff.1 h⟩
  have hf := List.rel_filter (p := p) (q := q) (fun x y hxy => ?_) h'
  · exact eq_ok_iff.2 (hf.imp fun _ _ hxy => hxy.2)
  · show p x = true ↔ q y = true
    rw [hpq x hxy.1 y hxy.2]

end SchemaTypes.Traversal
