import SchemaTypes.Column.Wrapped
import SchemaTypes.Proofs.Text.Parentheses
import SchemaTypes.Proofs.Text.Quoted

/-!
# Reading the wrappers of a column back

A column type is its base type inside layers, with the name in the database outermost. A layer is a
name, a parenthesis, what it holds, and a text behind this in the same parenthesis. The names differ and
hold no parenthesis, so the outermost layer of a type can be read off, and so can all of them, whatever
the base type looks like inside (`wrapIn_injective`). What the name in the database stands behind is
balanced as long as the base type is, and so is found again as well (`columnType_eq_iff`).
-/

namespace SchemaTypes

/-- What a column type may be wrapped in besides its name in the database. -/
inductive Layer where
  | list
  | optional
  | readOnly
  | generated
deriving DecidableEq

namespace Layer
open Text

/-- What stands in front of the parenthesis. -/
def name : Layer → List Char
  | list => "Schema.Array".toList
  | optional => "Schema.NullishOr".toList
  | readOnly => "columnType".toList
  | generated => "generated".toList

/-- What stands behind the wrapped text in the parenthesis. -/
def after : Layer → List Char
  | readOnly => ", Schema.Never, Schema.Never".toList
  | _ => []

/-- The text `cs` in the layer. -/
def wrap (l : Layer) (cs : List Char) : List Char := l.name ++ '(' :: (cs ++ l.after) ++ [')']

/-- The text `cs` in all the layers, the first one outermost. -/
def wrapIn (ls : List Layer) (cs : List Char) : List Char := ls.foldr wrap cs

variable {l l' : Layer} {ls ls' : List Layer} {cs x y : List Char}

theorem flat_name (l : Layer) : Flat l.name := by cases l <;> decide

theorem flat_after (l : Layer) : Flat l.after := by cases l <;> decide

theorem name_injective : Function.Injective name := by
  intro l l' h
  revert h
  cases l <;> cases l' <;> decide

/-- The outermost layer of a text is read off, and so is what it holds. -/
theorem wrap_inj (h : l.wrap x = l'.wrap y) : l = l' ∧ x = y := by
  unfold wrap at h
  rw [List.append_assoc, List.append_assoc, List.cons_append, List.cons_append] at h
  obtain ⟨hname, hheld⟩ := eq_of_opened l.flat_name l'.flat_name h
  obtain rfl := name_injective hname
  exact ⟨rfl, List.append_cancel_right (List.append_cancel_right hheld)⟩

theorem wrapIn_nil : wrapIn [] cs = cs := rfl

theorem wrapIn_cons : wrapIn (l :: ls) cs = l.wrap (wrapIn ls cs) := rfl

theorem length_le_wrapIn (ls : List Layer) (cs : List Char) : cs.length ≤ (wrapIn ls cs).length := by
  induction ls with
  | nil => exact Nat.le_refl _
  | cons l ls ih =>
    rw [wrapIn_cons, wrap]
    simp only [List.length_append, List.length_cons]
    omega

theorem wrapIn_cons_ne : wrapIn (l :: ls) cs ≠ cs := by
  intro h
  have hlength := length_le_wrapIn ls cs
  have hsame := congrArg List.length h
  rw [wrapIn_cons, wrap] at hsame
  simp only [List.length_append, List.length_cons] at hsame
  omega

theorem wrapIn_injective (h : wrapIn ls cs = wrapIn ls' cs) : ls = ls' := by
  induction ls generalizing ls' with
  | nil =>
    cases ls' with
    | nil => rfl
    | cons l' ls' => exact absurd h.symm wrapIn_cons_ne
  | cons l ls ih =>
    cases ls' with
    | nil => exact absurd h wrapIn_cons_ne
    | cons l' ls' =>
      obtain ⟨rfl, hheld⟩ := wrap_inj h
      rw [ih hheld]

theorem balanced_wrapIn (h : Balanced cs) (ls : List Layer) : Balanced (wrapIn ls cs) := by
  induction ls with
  | nil => exact h
  | cons l ls ih =>
    rw [wrapIn_cons, wrap, List.append_assoc]
    exact (Balanced.of_flat l.flat_name).append (ih.append (Balanced.of_flat l.flat_after)).parenthesized

end Layer

/-! ### The texts of the wrappers -/

theorem Layer.toList_append {opening closing e : String} (l : Layer) (hopening : opening.toList = l.name ++ ['('])
    (hclosing : closing.toList = l.after ++ [')']) : (opening ++ e ++ closing).toList = l.wrap e.toList := by
  rw [String.toList_append, String.toList_append, hopening, hclosing, wrap]
  simp only [List.append_assoc, List.cons_append, List.nil_append]

namespace Wrapped
open Text Layer

variable {column column' e e' : String} {ls ls' : List Layer} {cs : List Char}

theorem toList_list : (list e).toList = Layer.list.wrap e.toList :=
  Layer.list.toList_append (by decide) (by decide)

theorem toList_optional : (optional e).toList = Layer.optional.wrap e.toList :=
  Layer.optional.toList_append (by decide) (by decide)

theorem toList_readOnly : (readOnly e).toList = Layer.readOnly.wrap e.toList :=
  Layer.readOnly.toList_append (by decide) (by decide)

theorem toList_generated : (generated e).toList = Layer.generated.wrap e.toList :=
  Layer.generated.toList_append (by decide) (by decide)

/-- The name of the call that a type with another name in the database stands in. -/
def opener : List Char := "Schema.propertySignature".toList

/-- What stands between the parenthesis that closes this call and the name in the database. -/
def keyCall : List Char := ".pipe(Schema.fromKey(".toList

/-- What stands behind the parenthesis that closes this call. -/
def ending (column : String) : List Char := keyCall ++ ((quote column).toList ++ "))".toList)

theorem opener_append : "Schema.propertySignature(".toList = opener ++ ['('] := by decide

theorem cons_keyCall : ").pipe(Schema.fromKey(".toList = ')' :: keyCall := by decide

theorem toList_bound (column e : String) :
    (bound column e).toList = opener ++ '(' :: (e.toList ++ ')' :: ending column) := by
  unfold ending bound
  rw [String.toList_append, String.toList_append, String.toList_append, String.toList_append, opener_append,
    cons_keyCall]
  generalize "))".toList = closing
  simp only [List.append_assoc, List.cons_append, List.nil_append]

theorem ending_injective : Function.Injective ending := by
  intro column column' h
  unfold ending at h
  exact quote_injective (String.toList_inj.1 (List.append_cancel_right (List.append_cancel_left h)))

theorem bound_ne (he : e.toList = wrapIn ls cs) : (bound column e).toList ≠ wrapIn ls' cs := by
  intro h
  rw [toList_bound, he] at h
  cases ls' with
  | nil =>
    have hlength := length_le_wrapIn ls cs
    have hsame := congrArg List.length h
    rw [wrapIn_nil] at hsame
    simp only [List.length_append, List.length_cons] at hsame
    omega
  | cons l ls' =>
    have hflat : Flat opener := by decide
    rw [wrapIn_cons, Layer.wrap, List.append_assoc, List.cons_append] at h
    have hname := (eq_of_opened hflat l.flat_name h).1
    revert hname
    cases l <;> decide

/-- The name in the database is read off, and so are the layers in front of it. -/
theorem bound_inj (hbalanced : Balanced cs) (he : e.toList = wrapIn ls cs) (he' : e'.toList = wrapIn ls' cs)
    (h : (bound column e).toList = (bound column' e').toList) : ls = ls' ∧ column = column' := by
  rw [toList_bound, toList_bound, he, he'] at h
  have hclosed := (List.cons.inj (List.append_cancel_left h)).2
  have hheld := (balanced_wrapIn hbalanced ls).eq_of_closed (balanced_wrapIn hbalanced ls') hclosed
  rw [hheld] at hclosed
  exact ⟨wrapIn_injective hheld, ending_injective (List.cons.inj (List.append_cancel_left hclosed)).2⟩

end Wrapped

namespace Access

/-- The layer for who writes a column. -/
def layers : Access → List Layer
  | plain => []
  | generated => [.generated]
  | readOnly => [.readOnly]

end Access

namespace Field
open Text Layer Wrapped

/-- The layers around the base type of a column, the outermost one first. -/
def layers (f : Field) : List Layer :=
  f.access.layers ++ (if f.isRequired then [] else [.optional]) ++ if f.isList then [.list] else []

variable {f g : Field} {e : String} {b b' : BaseType} {d d' : Document} {owner owner' : Option String}
  {keys keys' : ForeignKeys}

theorem toList_wrapShape (f : Field) (e : String) :
    (f.access.wrap (f.wrapShape e)).toList = wrapIn f.layers e.toList := by
  unfold wrapShape layers
  cases f.access <;> cases f.isRequired <;> cases f.isList <;>
    simp only [Access.wrap, Access.layers, toList_list, toList_optional, toList_readOnly, toList_generated,
      ↓reduceIte, Bool.false_eq_true] <;> rfl

theorem layers_inj (h : f.layers = g.layers) :
    f.isList = g.isList ∧ f.isRequired = g.isRequired ∧ f.access = g.access := by
  unfold layers at h
  generalize f.access = a, g.access = a', f.isList = b, g.isList = b', f.isRequired = c, g.isRequired = c' at *
  revert h
  cases a <;> cases a' <;> cases b <;> cases b' <;> cases c <;> cases c' <;> decide

theorem wrap_eq_iff (hbalanced : Balanced e.toList) : f.wrap e = g.wrap e ↔
    f.isList = g.isList ∧ f.isRequired = g.isRequired ∧ f.access = g.access ∧ f.binding? = g.binding? := by
  constructor
  · intro h
    have hf := toList_wrapShape f e
    have hg := toList_wrapShape g e
    have hread : f.layers = g.layers ∧ f.binding? = g.binding? := by
      have hlists := congrArg String.toList h
      unfold wrap wrapBinding at hlists
      cases hbf : f.binding? with
      | none =>
        cases hbg : g.binding? with
        | none =>
          rw [hbf, hbg] at hlists
          exact ⟨wrapIn_injective (hf.symm.trans (hlists.trans hg)), rfl⟩
        | some column =>
          rw [hbf, hbg] at hlists
          exact absurd (hlists.symm.trans hf) (bound_ne hg)
      | some column =>
        cases hbg : g.binding? with
        | none =>
          rw [hbf, hbg] at hlists
          exact absurd (hlists.trans hg) (bound_ne hf)
        | some column' =>
          rw [hbf, hbg] at hlists
          obtain ⟨hlayers, rfl⟩ := bound_inj hbalanced hf hg hlists
          exact ⟨hlayers, rfl⟩
    obtain ⟨hlist, hrequired, haccess⟩ := layers_inj hread.1
    exact ⟨hlist, hrequired, haccess, hread.2⟩
  · rintro ⟨hlist, hrequired, haccess, hbinding⟩
    rw [wrap, wrap, wrapBinding, wrapBinding, wrapShape, wrapShape, hlist, hrequired, haccess, hbinding]

theorem columnType_of_baseType (h : f.baseType d owner keys = .ok b) :
    f.columnType d owner keys = .ok (f.wrap b.expression) := by
  rw [columnType, h]
  rfl

theorem baseType_of_override? (hk : ¬ f.isRelation) (h : f.override? = some e) :
    f.baseType d owner keys = .ok (.custom e) := by
  rw [baseType, if_neg hk, h]

/-- Two columns over one balanced base type have one type just if they agree on being lists, on being
optional, on who writes them and on the name in the database. -/
theorem columnType_eq_iff (hf : f.baseType d owner keys = .ok b) (hg : g.baseType d' owner' keys' = .ok b')
    (hbase : b.expression = b'.expression) (hbalanced : Balanced b.expression.toList) :
    f.columnType d owner keys = g.columnType d' owner' keys' ↔
      f.isList = g.isList ∧ f.isRequired = g.isRequired ∧ f.access = g.access ∧ f.binding? = g.binding? := by
  rw [columnType_of_baseType hf, columnType_of_baseType hg, ← hbase, Except.ok.injEq]
  exact wrap_eq_iff hbalanced

theorem columnType_eq_iff_tags :
    let d : Document := {}
    let f : Field := { name := "tags", kind := .string, isList := true
                       documentation := some "@customType(Schema.Array(Schema.String))" }
    let g : Field := { f with isRequired := false, dbName := some "labels" }
    f.columnType d none {} ≠ g.columnType d none {} := by
  intro d f g h
  have hf : f.baseType d none {} = .ok (.custom "Schema.Array(Schema.String)") :=
    baseType_of_override? (by decide) (by decide +kernel)
  have hg : g.baseType d none {} = .ok (.custom "Schema.Array(Schema.String)") :=
    baseType_of_override? (by decide) (by decide +kernel)
  exact absurd ((columnType_eq_iff hf hg rfl (by decide +kernel)).1 h).2.1 (by decide)

end Field

end SchemaTypes
