import SchemaTypes.Notice
import SchemaTypes.Proofs.Text.Parentheses

/-!
# Which type a note gives

A note counts from the place behind its first start (`Opens`) to the parenthesis that closes it. The
scan for that parenthesis counts the open ones, and what it finds is a balanced text in front of a
closing parenthesis (`upToClosing?_zero`). So a field has a type of its own just if there is such a text
and it may stand as a type, and it is warned of just if a note starts but gives none
(`override?_exact`).
-/

namespace SchemaTypes

namespace TypeNote
open Text

/-- The start of a note stands at place `i` and ends in front of place `k`: the mark, white space and a
parenthesis. -/
def StartsAt (doc : List Char) (i k : Nat) : Prop :=
  ∃ blanks, (∀ c ∈ blanks, isBlank c) ∧ mark ++ blanks ++ ['('] <+: doc.drop i ∧
    k = i + (mark ++ blanks ++ ['(']).length

/-- The first start of a note ends in front of place `k`. -/
def Opens (doc : List Char) (k : Nat) : Prop :=
  ∃ i, StartsAt doc i k ∧ ∀ i' k', StartsAt doc i' k' → i ≤ i'

/-- The text may stand as a type: it starts with `Schema.`, or is an ASCII capital and then ASCII letters
and digits. -/
def MayStand (cs : List Char) : Prop :=
  "Schema.".toList <+: cs ∨ ∃ c rest, cs = c :: rest ∧ c.isUpper ∧ ∀ x ∈ rest, x.isAlphanum

variable {doc cs rest inner : List Char} {depth i k : Nat} {c : Char}

/-! ### The first start -/

theorem openedAtFront?_append {blanks : List Char} (h : ∀ c ∈ blanks, isBlank c) (rest : List Char) :
    openedAtFront? (mark ++ blanks ++ ['('] ++ rest) = some rest := by
  have hparen : ¬ isBlank '(' := by decide
  unfold openedAtFront?
  rw [List.append_assoc, List.append_assoc, dropFront?_eq_some.2 rfl, Option.map_some,
    List.dropWhile_append_of_pos h, List.singleton_append, List.dropWhile_cons_of_neg hparen]
  rfl

theorem openedAtFront?_eq_some :
    openedAtFront? doc = some rest ↔ ∃ k, StartsAt doc 0 k ∧ rest = doc.drop k := by
  constructor
  · intro h
    unfold openedAtFront? at h
    split at h
    next after hafter =>
      cases h
      obtain ⟨tail, htail, hdrop⟩ := Option.map_eq_some_iff.1 hafter
      have heq : doc = mark ++ tail.takeWhile isBlank ++ ['('] ++ rest := by
        rw [dropFront?_eq_some.1 htail, List.append_assoc, List.append_assoc, List.singleton_append, ← hdrop,
          List.takeWhile_append_dropWhile]
      refine ⟨_, ⟨tail.takeWhile isBlank, fun c hc => List.mem_takeWhile_imp hc, ⟨rest, heq.symm⟩, rfl⟩, ?_⟩
      conv_rhs => rw [heq, Nat.zero_add, List.drop_left]
    · cases h
  · rintro ⟨k, ⟨blanks, hblanks, ⟨tail, rfl⟩, rfl⟩, rfl⟩
    rw [Nat.zero_add, List.drop_left, openedAtFront?_append hblanks]

theorem not_startsAt_nil : ¬ StartsAt [] i k := by
  rintro ⟨blanks, -, hprefix, -⟩
  rw [List.drop_nil, List.prefix_nil] at hprefix
  simp at hprefix

theorem StartsAt.lt (h : StartsAt doc i k) : i < k := by
  obtain ⟨blanks, -, -, rfl⟩ := h
  rw [List.length_append, List.length_singleton]
  omega

theorem startsAt_cons : StartsAt (c :: doc) (i + 1) (k + 1) ↔ StartsAt doc i k := by
  unfold StartsAt
  simp only [List.drop_succ_cons, Nat.add_right_comm i 1, Nat.add_right_cancel_iff]

theorem StartsAt.of_cons (h : StartsAt (c :: doc) (i + 1) k) : ∃ m, k = m + 1 ∧ StartsAt doc i m := by
  obtain ⟨m, rfl⟩ := Nat.exists_eq_add_of_lt h.lt
  exact ⟨i + 1 + m, rfl, startsAt_cons.1 h⟩

theorem opened?_eq_some : opened? doc = some rest ↔ ∃ k, Opens doc k ∧ rest = doc.drop k := by
  induction doc with
  | nil =>
    refine iff_of_false (fun h => by cases h) ?_
    rintro ⟨k, ⟨i, hi, -⟩, -⟩
    exact not_startsAt_nil hi
  | cons c doc ih =>
    rw [opened?, Option.or_eq_some_iff, openedAtFront?_eq_some, ih]
    constructor
    · rintro (⟨k, hk, rfl⟩ | ⟨hnone, k, ⟨i, hi, hfirst⟩, rfl⟩)
      · exact ⟨k, ⟨0, hk, fun _ _ _ => Nat.zero_le _⟩, rfl⟩
      · refine ⟨k + 1, ⟨i + 1, startsAt_cons.2 hi, fun i' k' h' => ?_⟩, rfl⟩
        cases i' with
        | zero =>
          rw [openedAtFront?_eq_some.2 ⟨k', h', rfl⟩] at hnone
          cases hnone
        | succ i' =>
          obtain ⟨m, -, hm⟩ := h'.of_cons
          exact Nat.succ_le_succ (hfirst i' m hm)
    · rintro ⟨k, ⟨i, hi, hfirst⟩, rfl⟩
      cases i with
      | zero => exact .inl ⟨k, hi, rfl⟩
      | succ i =>
        obtain ⟨m, rfl, hm⟩ := hi.of_cons
        refine .inr ⟨?_, m, ⟨i, hm, fun i' k' h' => ?_⟩, rfl⟩
        · rw [Option.eq_none_iff_forall_ne_some]
          intro rest hrest
          obtain ⟨k, hk, -⟩ := openedAtFront?_eq_some.1 hrest
          exact absurd (hfirst 0 k hk) (Nat.not_succ_le_zero i)
        · exact Nat.le_of_succ_le_succ (hfirst (i' + 1) (k' + 1) (startsAt_cons.2 h'))

theorem opened?_eq_none : opened? doc = none ↔ ¬ ∃ k, Opens doc k := by
  rw [Option.eq_none_iff_forall_ne_some]
  constructor
  · rintro h ⟨k, hk⟩
    exact h _ (opened?_eq_some.2 ⟨k, hk, rfl⟩)
  · intro h rest hrest
    obtain ⟨k, hk, -⟩ := opened?_eq_some.1 hrest
    exact h ⟨k, hk⟩

/-! ### The closing parenthesis -/

/-- The text closes the parentheses that it opens and `depth` more, and no front part closes more than
these. -/
structure Closes (depth : Nat) (cs : List Char) : Prop where
  front : ∀ p, p <+: cs → p.count ')' ≤ depth + p.count '('
  total : cs.count ')' = depth + cs.count '('

theorem closes_zero : Closes 0 cs ↔ Balanced cs := by
  constructor
  · rintro ⟨hfront, htotal⟩
    exact ⟨by simpa using hfront, by simpa using htotal⟩
  · rintro ⟨hfront, htotal⟩
    exact ⟨by simpa using hfront, by simpa using htotal⟩

theorem closes_nil : Closes depth [] ↔ depth = 0 := by
  constructor
  · rintro ⟨-, htotal⟩
    exact htotal.symm
  · rintro rfl
    exact closes_zero.2 (.of_flat (by decide))

theorem closes_cons {n : Nat}
    (hcount : ∀ p, (c :: p).count ')' ≤ depth + (c :: p).count '(' ↔ p.count ')' ≤ n + p.count '(')
    (htotal : (c :: cs).count ')' = depth + (c :: cs).count '(' ↔ cs.count ')' = n + cs.count '(') :
    Closes depth (c :: cs) ↔ Closes n cs := by
  constructor
  · rintro ⟨hfront, h⟩
    exact ⟨fun p hp => (hcount p).1 (hfront _ ((List.prefix_cons_inj c).2 hp)), htotal.1 h⟩
  · rintro ⟨hfront, h⟩
    refine ⟨fun p hp => ?_, htotal.2 h⟩
    rcases List.prefix_cons_iff.1 hp with rfl | ⟨q, rfl, hq⟩
    · exact Nat.zero_le _
    · exact (hcount q).2 (hfront q hq)

theorem closes_open : Closes depth ('(' :: cs) ↔ Closes (depth + 1) cs := by
  have hclose (p : List Char) : ('(' :: p).count ')' = p.count ')' := List.count_cons_of_ne (by decide)
  refine closes_cons (fun p => ?_) ?_
  · rw [hclose, List.count_cons_self]
    omega
  · rw [hclose, List.count_cons_self]
    omega

theorem closes_close : Closes (depth + 1) (')' :: cs) ↔ Closes depth cs := by
  have hopen (p : List Char) : (')' :: p).count '(' = p.count '(' := List.count_cons_of_ne (by decide)
  refine closes_cons (fun p => ?_) ?_
  · rw [hopen, List.count_cons_self]
    omega
  · rw [hopen, List.count_cons_self]
    omega

theorem not_closes_close : ¬ Closes 0 (')' :: cs) := by
  rintro ⟨hfront, -⟩
  have hone := hfront [')'] ⟨cs, rfl⟩
  revert hone
  decide

theorem closes_other (hopen : c ≠ '(') (hclose : c ≠ ')') : Closes depth (c :: cs) ↔ Closes depth cs := by
  refine closes_cons (fun p => ?_) ?_
  · rw [List.count_cons_of_ne hopen, List.count_cons_of_ne hclose]
  · rw [List.count_cons_of_ne hopen, List.count_cons_of_ne hclose]

/-- Behind a character that does not end the scan, it goes on with what is then open. -/
theorem exists_closed_cons {n : Nat} (hstep : ∀ q, Closes depth (c :: q) ↔ Closes n q)
    (hends : c = ')' → depth ≠ 0) :
    (∃ q, (∃ rest, cs = q ++ ')' :: rest ∧ Closes n q) ∧ c :: q = inner) ↔
      ∃ rest, c :: cs = inner ++ ')' :: rest ∧ Closes depth inner := by
  constructor
  · rintro ⟨q, ⟨rest, rfl, hq⟩, rfl⟩
    exact ⟨rest, rfl, (hstep q).2 hq⟩
  · rintro ⟨rest, heq, h⟩
    cases inner with
    | nil => exact absurd (closes_nil.1 h) (hends (List.cons.inj heq).1)
    | cons b q =>
      obtain ⟨rfl, hcs⟩ := List.cons.inj heq
      exact ⟨q, ⟨rest, hcs, (hstep q).1 h⟩, rfl⟩

/-- The scan takes the text up to the parenthesis that closes one more than are open. -/
theorem upToClosing?_eq_some : upToClosing? depth cs = some inner ↔
    ∃ rest, cs = inner ++ ')' :: rest ∧ Closes depth inner := by
  fun_induction upToClosing? depth cs generalizing inner with
  | case1 => simp
  | case2 cs =>
    constructor
    · intro h
      cases h
      exact ⟨cs, rfl, closes_nil.2 rfl⟩
    · rintro ⟨rest, heq, h⟩
      cases inner with
      | nil => rfl
      | cons b q =>
        obtain ⟨rfl, -⟩ := List.cons.inj heq
        exact absurd h not_closes_close
  | case3 depth cs ih =>
    simp only [Option.map_eq_some_iff, ih]
    exact exists_closed_cons (fun _ => closes_close) fun _ => Nat.succ_ne_zero depth
  | case4 depth cs ih =>
    simp only [Option.map_eq_some_iff, ih]
    exact exists_closed_cons (fun _ => closes_open) fun h => absurd h (by decide)
  | case5 depth c cs hzero hsucc hopen ih =>
    -- the two ways in which the character could have been a closing parenthesis
    have hclose : c ≠ ')' := by
      intro h
      cases depth with
      | zero => exact hzero rfl h
      | succ n => exact hsucc n rfl h
    simp only [Option.map_eq_some_iff, ih]
    exact exists_closed_cons (fun _ => closes_other hopen hclose) fun h => absurd h hclose

theorem upToClosing?_zero : upToClosing? 0 cs = some inner ↔
    ∃ rest, cs = inner ++ ')' :: rest ∧ Balanced inner := by
  rw [upToClosing?_eq_some]
  simp only [closes_zero]

/-- In places of the text: the scan ends at a closing parenthesis behind a balanced text. -/
theorem upToClosing?_drop : upToClosing? 0 (doc.drop k) = some inner ↔
    ∃ j, k ≤ j ∧ doc[j]? = some ')' ∧ inner = doc.extract k j ∧ Balanced inner := by
  rw [upToClosing?_zero]
  constructor
  · rintro ⟨rest, heq, h⟩
    refine ⟨k + inner.length, Nat.le_add_right _ _, ?_, ?_, h⟩
    · rw [← List.getElem?_drop, heq, List.getElem?_append_right (Nat.le_refl _), Nat.sub_self]
      rfl
    · rw [List.extract_eq_take_drop, heq, Nat.add_sub_cancel_left, List.take_left]
  · rintro ⟨j, hkj, hj, rfl, h⟩
    obtain ⟨hlt, hclose⟩ := List.getElem?_eq_some_iff.1 hj
    have hdrop : doc.drop j = ')' :: doc.drop (j + 1) := by rw [List.drop_eq_getElem_cons hlt, hclose]
    refine ⟨doc.drop (j + 1), ?_, h⟩
    have hsplit := List.take_append_drop (j - k) (doc.drop k)
    rw [List.drop_drop, Nat.add_sub_of_le hkj] at hsplit
    rw [← hdrop, List.extract_eq_take_drop, hsplit]

/-! ### Types -/

theorem isTypeName_iff : isTypeName cs ↔ ∃ c rest, cs = c :: rest ∧ c.isUpper ∧ ∀ x ∈ rest, x.isAlphanum := by
  cases cs with
  | nil => simp [isTypeName]
  | cons c cs => simp [isTypeName]

/-- Without white space at its end, a text may stand as a type just if it is one. -/
theorem isType_iff {s : String} (h : s.toList.getLast?.any isBlank = false) : isType s ↔ MayStand s.toList := by
  have hreference : isReference s = isTypeName s.toList := by
    unfold isReference
    split
    next hlast =>
      rw [hlast] at h
      exact absurd h (by decide)
    · rfl
  rw [isType, hreference, Bool.or_eq_true, isTypeName_iff, Option.isSome_iff_exists, MayStand]
  simp only [dropFront?_eq_some]
  refine or_congr_left ?_
  constructor
  · rintro ⟨rest, heq⟩
    exact ⟨rest, heq.symm⟩
  · rintro ⟨rest, heq⟩
    exact ⟨rest, heq.symm⟩

/-! ### What a documentation says -/

theorem ofText_eq_accepted {s e : String} : ofText s = .accepted e ↔
    ∃ rest inner, opened? s.toList = some rest ∧ upToClosing? 0 rest = some inner ∧
      e = String.ofList (trimmed inner) ∧ isType e := by
  unfold ofText
  constructor
  · intro h
    split at h
    · cases h
    next rest hrest =>
      split at h
      · cases h
      next inner hinner =>
        dsimp only at h
        split at h
        next htype =>
          cases h
          exact ⟨rest, inner, hrest, hinner, rfl, htype⟩
        · cases h
  · rintro ⟨rest, inner, hrest, hinner, rfl, htype⟩
    rw [hrest]
    dsimp only
    rw [hinner]
    dsimp only
    rw [if_pos htype]

theorem ofText_eq_absent {s : String} : ofText s = .absent ↔ opened? s.toList = none := by
  unfold ofText
  split
  next h => exact iff_of_true rfl h
  next h =>
    rw [h]
    refine iff_of_false (fun heq => ?_) (by simp)
    split at heq
    · cases heq
    · dsimp only at heq
      split at heq <;> cases heq

end TypeNote

namespace Field
open TypeNote Text

variable {f : Field} {e : String}

theorem override?_eq_some : f.override? = some e ↔ f.typeNote = .accepted e := by
  unfold override?
  split
  next text h => rw [h, Option.some.injEq, TypeNote.accepted.injEq]
  next h => exact iff_of_false (by simp) (h e)

/-- The text that gives the type stands between the start of the first note and the parenthesis that closes
it, but for white space. -/
theorem override?_eq_some_iff {doc : List Char} (hdoc : (f.documentation.getD "").toList = doc) :
    f.override? = some e ↔ ∃ k j, Opens doc k ∧ k ≤ j ∧ doc[j]? = some ')' ∧ Balanced (doc.extract k j) ∧
      e.toList = trimmed (doc.extract k j) ∧ MayStand e.toList := by
  rw [override?_eq_some, typeNote, ofText_eq_accepted, hdoc]
  constructor
  · rintro ⟨_, inner, hrest, hinner, rfl, htype⟩
    obtain ⟨k, hk, rfl⟩ := opened?_eq_some.1 hrest
    obtain ⟨j, hkj, hj, rfl, hbalanced⟩ := upToClosing?_drop.1 hinner
    have htrimmed : (String.ofList (trimmed (doc.extract k j))).toList = trimmed (doc.extract k j) :=
      String.toList_ofList
    refine ⟨k, j, hk, hkj, hj, hbalanced, htrimmed, (isType_iff ?_).1 htype⟩
    rw [htrimmed]
    exact getLast?_trimmed _
  · rintro ⟨k, j, hk, hkj, hj, hbalanced, htrimmed, htype⟩
    refine ⟨doc.drop k, doc.extract k j, opened?_eq_some.2 ⟨k, hk, rfl⟩,
      upToClosing?_drop.2 ⟨j, hkj, hj, rfl, hbalanced⟩, ?_, (isType_iff ?_).2 htype⟩
    · rw [← htrimmed, String.ofList_toList]
    · rw [htrimmed]
      exact getLast?_trimmed _

theorem notices_of_override?_eq_none (h : f.override? = none) :
    f.typeNote = .absent ∧ f.notices = [] ∨
      f.typeNote ≠ .absent ∧ ∃ n, f.notices = [n] ∧ n.level = .warning := by
  cases hnote : f.typeNote with
  | absent => exact .inl ⟨rfl, by rw [notices, hnote]⟩
  | unbalanced => exact .inr ⟨by simp, _, by rw [notices, hnote], rfl⟩
  | invalid text => exact .inr ⟨by simp, _, by rw [notices, hnote], rfl⟩
  | accepted text =>
    rw [override?_eq_some.2 hnote] at h
    cases h

/-- A field has the type of its note just if the first note is closed and its text may stand as a type;
this text is then the type, without the white space around it. Otherwise there is one warning if a note
starts, and none if none does. -/
theorem override?_exact (f : Field) :
    let doc := (f.documentation.getD "").toList
    (∀ e, f.override? = some e ↔ ∃ k j, Opens doc k ∧ k ≤ j ∧ doc[j]? = some ')' ∧
      Balanced (doc.extract k j) ∧ e.toList = trimmed (doc.extract k j) ∧ MayStand e.toList) ∧
    (∀ e, f.override? = some e → Balanced e.toList ∧ f.notices = []) ∧
    (f.override? = none →
      ((∃ k, Opens doc k) → ∃ n, f.notices = [n] ∧ n.level = .warning) ∧
      ((¬ ∃ k, Opens doc k) → f.notices = [])) := by
  intro doc
  refine ⟨fun e => override?_eq_some_iff rfl, fun e he => ⟨?_, ?_⟩, fun hnone => ?_⟩
  · obtain ⟨k, j, -, -, -, hbalanced, htrimmed, -⟩ := (override?_eq_some_iff rfl).1 he
    rw [htrimmed]
    exact hbalanced.trimmed
  · rw [notices, override?_eq_some.1 he]
  · have habsent : f.typeNote = .absent ↔ ¬ ∃ k, Opens doc k := ofText_eq_absent.trans opened?_eq_none
    rcases notices_of_override?_eq_none hnone with ⟨hnote, hquiet⟩ | ⟨hnote, hwarned⟩
    · exact ⟨fun hopens => absurd hopens (habsent.1 hnote), fun _ => hquiet⟩
    · exact ⟨fun _ => hwarned, fun hopens => absurd (habsent.2 hopens) hnote⟩

end Field

end SchemaTypes
