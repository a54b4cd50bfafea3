import SchemaTypes.Proofs.File.Rewriting

/-!
# Trees that agree

Two trees agree when they have the same entry at every location; they may list their entries in
different orders. No operation tells them apart: it has the same fault on both, or leaves trees that
agree again (`Agree.makeDirectories`, `Disk.write_of_agree`).
-/

namespace SchemaTypes

namespace FileTree

variable {t u : FileTree} {limit : NameLimit} {l : Location}

/-- The trees have the same entry at every location. -/
def Agree (t u : FileTree) : Prop := ∀ k, t.get? k = u.get? k

/-- Both steps fail over one fault, or leave trees that agree. -/
inductive Likewise : Except FileFault FileTree → Except FileFault FileTree → Prop
  | ok {t u : FileTree} (h : t.Agree u) : Likewise (.ok t) (.ok u)
  | error (fault : FileFault) : Likewise (.error fault) (.error fault)

namespace Likewise
variable {x y : Except FileFault FileTree}

theorem exists_ok (h : Likewise x y) (hx : x = .ok t) : ∃ u, y = .ok u ∧ t.Agree u := by
  cases h with
  | ok h =>
    cases hx
    exact ⟨_, rfl, h⟩
  | error => cases hx

theorem eq_error (h : Likewise x y) {fault : FileFault} (hx : x = .error fault) : y = .error fault := by
  cases h with
  | ok => cases hx
  | error => exact hx

end Likewise

namespace Agree

/-! ### Walks -/

theorem walk (h : t.Agree u) (here : Location) (names : List String) :
    t.walk limit here names = u.walk limit here names := by
  induction names generalizing here with
  | nil => rfl
  | cons n ns ih =>
    rw [FileTree.walk, FileTree.walk, h]
    simp only [ih]

theorem place (h : t.Agree u) (dir : Location) (n : String) : t.place limit dir n = u.place limit dir n := by
  rw [FileTree.place, FileTree.place, h]

theorem target (h : t.Agree u) (names : List String) : t.target limit names = u.target limit names := by
  rw [FileTree.target, FileTree.target, h.walk]
  simp only [h.place]

theorem stat (h : t.Agree u) (names : List String) : t.stat names = u.stat names := by
  unfold FileTree.stat
  rw [h.target]
  split
  · exact h _
  · rfl
  · rfl

/-! ### Directories and files -/

theorem put (h : t.Agree u) {x : Entry} {hp hk hp' hk'} : (t.put l x hp hk).Agree (u.put l x hp' hk') := by
  intro k
  by_cases hl : l = []
  · -- nothing is put at the root
    subst hl
    by_cases hk : k = []
    · rw [hk]
      rfl
    · have hother : [] ≠ k := Ne.symm hk
      have hsame := h k
      rw [get?, get?, if_neg hk, if_neg hk] at hsame ⊢
      show (Entry.Table.put _ _ _).find? k = (Entry.Table.put _ _ _).find? k
      rw [Entry.Table.find?_put, Entry.Table.find?_put, if_neg hother, if_neg hother, hsame]
  · rw [get?_put hl, get?_put hl, h]

theorem makeDirectory (h : t.Agree u) (names : List String) :
    Likewise (t.makeDirectory limit names) (u.makeDirectory limit names) := by
  unfold FileTree.makeDirectory
  rw [← h.target]
  split
  · exact .error _
  · exact .error _
  next l _ =>
    by_cases hparent : t.get? l.dropLast = some .directory
    · rw [dif_pos hparent, dif_pos ((h _).symm.trans hparent)]
      by_cases hfree : t.get? l = none
      · rw [dif_pos hfree, dif_pos ((h _).symm.trans hfree)]
        exact .ok h.put
      · rw [dif_neg hfree, dif_neg (h l ▸ hfree)]
        exact .error _
    · rw [dif_neg hparent, dif_neg (h l.dropLast ▸ hparent)]
      exact .error _

theorem makeDirectories (h : t.Agree u) (names : List String) :
    ∃ u', u.makeDirectories limit names = (u', (t.makeDirectories limit names).2) ∧
      (t.makeDirectories limit names).1.Agree u' := by
  fun_induction FileTree.makeDirectories t limit names with
  | case1 names t' hmake =>
    obtain ⟨u', hmake', hagree⟩ := (h.makeDirectory names).exists_ok hmake
    rw [FileTree.makeDirectories, hmake']
    exact ⟨u', rfl, hagree⟩
  | case2 hmake =>
    rw [FileTree.makeDirectories, (h.makeDirectory []).eq_error hmake]
    exact ⟨u, rfl, h⟩
  | case3 names hmake hne t' fault habove ih =>
    rw [habove] at ih
    obtain ⟨u', habove', hagree⟩ := ih
    rw [FileTree.makeDirectories, (h.makeDirectory names).eq_error hmake]
    dsimp only
    rw [if_neg hne, habove']
    exact ⟨u', rfl, hagree⟩
  | case4 names hmake hne t' habove t'' hlast ih =>
    rw [habove] at ih
    obtain ⟨u', habove', hagree⟩ := ih
    obtain ⟨u'', hlast', hagree'⟩ := (hagree.makeDirectory names).exists_ok hlast
    rw [FileTree.makeDirectories, (h.makeDirectory names).eq_error hmake]
    dsimp only
    rw [if_neg hne, habove']
    dsimp only
    rw [hlast']
    exact ⟨u'', rfl, hagree'⟩
  | case5 names hmake hne t' habove fault hlast ih =>
    rw [habove] at ih
    obtain ⟨u', habove', hagree⟩ := ih
    rw [FileTree.makeDirectories, (h.makeDirectory names).eq_error hmake]
    dsimp only
    rw [if_neg hne, habove']
    dsimp only
    rw [(hagree.makeDirectory names).eq_error hlast, ← hagree.stat]
    exact ⟨u', rfl, hagree⟩
  | case6 names fault hne hmake =>
    rw [FileTree.makeDirectories, (h.makeDirectory names).eq_error hmake, ← h.stat]
    cases fault with
    | notFound => exact (hne rfl).elim
    | _ => exact ⟨u, rfl, h⟩

theorem putFile (h : t.Agree u) (l : Location) (content : List UInt8) :
    Likewise (t.putFile l content) (u.putFile l content) := by
  unfold FileTree.putFile
  by_cases hparent : t.get? l.dropLast = some .directory
  · rw [dif_pos hparent, dif_pos ((h _).symm.trans hparent)]
    by_cases hbusy : t.get? l = some .directory
    · rw [dif_pos hbusy, dif_pos ((h _).symm.trans hbusy)]
      exact .error _
    · rw [dif_neg hbusy, dif_neg (h l ▸ hbusy)]
      exact .ok h.put
  · rw [dif_neg hparent, dif_neg (h l.dropLast ▸ hparent)]
    exact .error _

end Agree

end FileTree

namespace Disk
open FileTree

variable {t u : FileTree} {limit : NameLimit}

theorem writeInto_of_agree (h : t.Agree u) (mode : WriteMode) (p : Path) (bytes : List UInt8) :
    ∃ u', (Disk.mk u []).writeInto limit mode p bytes =
        (u', ((Disk.mk t []).writeInto limit mode p bytes).2) ∧
      ((Disk.mk t []).writeInto limit mode p bytes).1.Agree u' := by
  cases htarget : t.target limit p.names with
  | error fault =>
    rw [writeInto_of_error mode bytes htarget, writeInto_of_error mode bytes (h.target _ ▸ htarget)]
    exact ⟨u, rfl, h⟩
  | ok place =>
    have htarget' := htarget
    rw [h.target] at htarget'
    cases place with
    | none =>
      -- there is no file to be written
      unfold writeInto
      dsimp only
      rw [trail_nil, trail_nil, htarget, htarget', ite_self]
      cases mode <;> exact ⟨u, rfl, h⟩
    | some l =>
      rw [writeInto_of_place mode bytes htarget, writeInto_of_place mode bytes htarget']
      split
      · cases hdone : t.putFile l bytes with
        | error fault =>
          rw [(h.putFile l bytes).eq_error hdone]
          exact ⟨u, rfl, h⟩
        | ok t' =>
          obtain ⟨u', hdone', hagree⟩ := (h.putFile l bytes).exists_ok hdone
          rw [hdone']
          exact ⟨u', rfl, hagree⟩
      · exact ⟨u, rfl, h⟩

theorem write_of_agree (h : t.Agree u) (limit : NameLimit) (mode : WriteMode) (p : Path) (content : Content) :
    ∃ u', (Disk.mk u []).write limit mode p content = (u', ((Disk.mk t []).write limit mode p content).2) ∧
      ((Disk.mk t []).write limit mode p content).1.Agree u' := by
  obtain ⟨u', hmake, hagree⟩ := h.makeDirectories p.parent.names
  unfold write
  dsimp only
  rw [trail_nil, trail_nil, hmake]
  generalize t.makeDirectories limit p.parent.names = made at hagree ⊢
  obtain ⟨t', fault⟩ := made
  cases fault with
  | some fault => exact ⟨u', rfl, hagree⟩
  | none =>
    cases content.encode? with
    | none => exact ⟨u', rfl, hagree⟩
    | some bytes => exact writeInto_of_agree hagree mode p bytes

end Disk

end SchemaTypes
