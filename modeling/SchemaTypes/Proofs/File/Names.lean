import SchemaTypes.File.Tree
import SchemaTypes.Proofs.Text.Split

/-!
# Names along a path

A path is read name by name: a name without a slash, a slash and the rest give the name and the names
of the rest (`ofText_append`). No name of a path holds a slash, and none of the names that are left when
a path is resolved is `..` (`dotdot_not_mem_absolute`).
-/

namespace SchemaTypes

/-- The text has no slash. -/
def Text.Slashless (s : String) : Prop := '/' ∉ s.toList

instance (s : String) : Decidable (Text.Slashless s) := inferInstanceAs (Decidable (¬ _))

/-- The path starts at no root and never goes up. -/
def Path.Descends (p : Path) : Prop := p.root = .none ∧ ".." ∉ p.names

namespace Text
variable {s name rest : String}

theorem parts_append (h : Slashless name) (hne : name ≠ "") :
    parts (· = '/') (name ++ ("/" ++ rest)) = name :: parts (· = '/') rest := by
  have hname : ∀ c ∈ name.toList, ¬ decide (c = '/') := by
    intro c hc heq
    exact h (of_decide_eq_true heq ▸ hc)
  have hl : (name ++ ("/" ++ rest)).toList = name.toList ++ '/' :: rest.toList := by simp
  have hnil : name.toList ≠ [] := by simpa using hne
  rw [parts, hl, splitWords_append hname hnil (by simp), splitWords_sep (by simp), List.map_cons,
    String.ofList_toList, parts]

theorem parts_of_slashless (h : Slashless name) (hne : name ≠ "") : parts (· = '/') name = [name] := by
  have hname : ∀ c ∈ name.toList, ¬ decide (c = '/') := by
    intro c hc heq
    exact h (of_decide_eq_true heq ▸ hc)
  have hnil : name.toList ≠ [] := by simpa using hne
  rw [parts, splitWords_singleton hname hnil, List.map_singleton, String.ofList_toList]

theorem slashless_of_mem_parts (h : name ∈ parts (· = '/') s) : Slashless name := by
  obtain ⟨w, hw, rfl⟩ := List.mem_map.1 h
  intro hslash
  rw [String.toList_ofList] at hslash
  exact (mem_splitWords hw).2 '/' hslash (by simp)

end Text

namespace Path
variable {s name rest : String}

theorem rootOf_cons {c : Char} {cs : List Char} (hc : c ≠ '/') : rootOf (c :: cs) = .none := by
  unfold rootOf
  split <;> simp_all

theorem root_ofText (h : Text.Slashless name) (hne : name ≠ "") : (ofText (name ++ rest)).root = .none := by
  have hnil : name.toList ≠ [] := by simpa using hne
  obtain ⟨c, cs, hcs⟩ := List.exists_cons_of_ne_nil hnil
  have hc : c ≠ '/' := by
    rintro rfl
    exact h (hcs ▸ List.mem_cons_self)
  show rootOf (name ++ rest).toList = .none
  rw [String.toList_append, hcs, List.cons_append]
  exact rootOf_cons hc

theorem ofText_of_slashless (h : Text.Slashless name) (hne : name ≠ "") (hdot : name ≠ ".") :
    ofText name = ⟨.none, [name]⟩ := by
  have hroot : (ofText (name ++ "")).root = .none := root_ofText h hne
  rw [String.append_empty] at hroot
  have hnames : (ofText name).names = [name] := by
    show (Text.parts (· = '/') name).filter _ = [name]
    rw [Text.parts_of_slashless h hne]
    simp [hdot]
  show Path.mk (ofText name).root (ofText name).names = _
  rw [hroot, hnames]

theorem ofText_append (h : Text.Slashless name) (hne : name ≠ "") (rest : String) :
    ofText (name ++ ("/" ++ rest)) =
      ⟨.none, (if name = "." then [] else [name]) ++ (ofText rest).names⟩ := by
  have hnames : (ofText (name ++ ("/" ++ rest))).names =
      (if name = "." then [] else [name]) ++ (ofText rest).names := by
    show (Text.parts (· = '/') _).filter _ = _ ++ (Text.parts (· = '/') rest).filter _
    rw [Text.parts_append h hne, List.filter_cons]
    by_cases hdot : name = "." <;> simp [hdot]
  show Path.mk (ofText _).root (ofText _).names = _
  rw [root_ofText h hne, hnames]

theorem ofText_slash {rest : String} (h : (ofText rest).root = .none) :
    ofText ("/" ++ rest) = ⟨.slash, (ofText rest).names⟩ := by
  have hl : ("/" ++ rest).toList = '/' :: rest.toList := by simp
  have hroot : rootOf ('/' :: rest.toList) = .slash := by
    change rootOf rest.toList = .none at h
    cases hcs : rest.toList with
    | nil => rfl
    | cons c cs =>
      by_cases hc : c = '/'
      · rw [hcs, hc] at h
        unfold rootOf at h
        split at h <;> simp_all
      · unfold rootOf
        split <;> simp_all
  rw [ofText, hl, hroot, ofText, Text.parts, hl, Text.splitWords_sep (by simp), ← Text.parts]

theorem slashless_name (s : String) : Text.Slashless (ofText s).name := by
  rw [name]
  cases h : (ofText s).names.getLast? with
  | none => exact List.not_mem_nil
  | some n =>
    have hn : n ∈ (ofText s).names := List.mem_of_getLast? h
    exact Text.slashless_of_mem_parts (List.mem_filter.1 hn).1

theorem dotdot_not_mem_settle {seen ns : List String} (h : ".." ∉ seen) : ".." ∉ settle seen ns := by
  induction ns generalizing seen with
  | nil => simpa [settle] using h
  | cons n ns ih =>
    rw [settle]
    split
    · exact ih fun hm => h (List.mem_of_mem_tail hm)
    next hn => exact ih fun hm => (List.mem_cons.1 hm).elim (fun he => hn he.symm) h

theorem dotdot_not_mem_absolute (cwd : List String) (p : Path) : ".." ∉ p.absolute cwd := by
  unfold absolute
  split <;> exact dotdot_not_mem_settle List.not_mem_nil

end Path

namespace FileTree

/-- No name in the tree holds a slash: the system has no such names. -/
def Slashless (t : FileTree) : Prop := ∀ l x, t.get? l = some x → ∀ n ∈ l, Text.Slashless n

theorem slashless_empty : empty.Slashless := by
  intro l x h n hn
  unfold get? at h
  split at h
  next hl =>
    rw [hl] at hn
    cases hn
  · cases h

theorem Slashless.put {t : FileTree} {l : Location} {x : Entry} {hp hk} (h : t.Slashless) (hne : l ≠ [])
    (hl : ∀ n ∈ l, Text.Slashless n) : (t.put l x hp hk).Slashless := by
  intro k y hget
  rw [get?_put hne] at hget
  split at hget
  next heq => exact heq ▸ hl
  · exact h k y hget

end FileTree

end SchemaTypes
