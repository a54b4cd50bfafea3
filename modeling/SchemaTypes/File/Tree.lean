import SchemaTypes.File.Path

/-!
# File trees

What a file system holds: directories and files by the names that lead to them from the root. The
root is a directory, and so is the parent of every entry. `get?` is the view that every operation
is described by.
-/

namespace SchemaTypes

/-- The names that lead from the root to an entry. -/
abbrev Location := List String

/-- A directory, or a file with its content. -/
inductive Entry where
  | directory
  | file (content : List UInt8)
deriving Repr, DecidableEq, Inhabited

namespace Entry

def isDirectory : Entry → Bool
  | directory => true
  | file _ => false

end Entry

/-- Entries by location; the first entry of a location counts. -/
abbrev Entry.Table := List (Location × Entry)

namespace Entry.Table

/-- The entry of a location. -/
def find? : Table → Location → Option Entry
  | [], _ => none
  | e :: es, l => if e.1 = l then some e.2 else find? es l

/-- Sets the entry of a location: in its place when it is there, else at the end. -/
def put : Table → Location → Entry → Table
  | [], l, x => [(l, x)]
  | e :: es, l, x => if e.1 = l then (l, x) :: es else e :: put es l x

theorem find?_put (es : Table) (l k : Location) (x : Entry) :
    (es.put l x).find? k = if l = k then some x else es.find? k := by
  induction es with
  | nil => simp [put, find?]
  | cons e es ih =>
    by_cases h : e.1 = l
    · subst h; by_cases hk : e.1 = k <;> simp [put, find?, hk]
    · by_cases hk : e.1 = k
      · subst hk; simp [put, find?, h, Ne.symm h]
      · simp [put, find?, h, hk, ih]

theorem find?_filter (es : Table) (p : Location → Bool) (k : Location) :
    find? (es.filter fun e => p e.1) k = if p k then es.find? k else none := by
  induction es with
  | nil => simp [find?]
  | cons e es ih =>
    by_cases hk : e.1 = k
    · subst hk
      by_cases hp : p e.1
      · simp [hp, find?]
      · rw [List.filter_cons_of_neg (by simpa using hp), ih]; simp [hp]
    · by_cases hp : p e.1
      · rw [List.filter_cons_of_pos (by simpa using hp)]; simp [find?, hk, ih]
      · rw [List.filter_cons_of_neg (by simpa using hp)]; simp [find?, hk, ih]

end Entry.Table

structure FileTree where
  entries : Entry.Table := []
  /-- Every entry lies in a directory. -/
  grounded : ∀ l x, entries.find? l = some x → l = [] ∨ l.dropLast = [] ∨
    entries.find? l.dropLast = some .directory := by intro l x h; simp [Entry.Table.find?] at h

namespace FileTree

/-- The tree that holds the root alone. -/
def empty : FileTree := {}

instance : Inhabited FileTree := ⟨empty⟩

/-- The entry of a location; the root is always there. -/
def get? (t : FileTree) (l : Location) : Option Entry :=
  if l = [] then some .directory else t.entries.find? l

@[simp] theorem get?_nil (t : FileTree) : t.get? [] = some .directory := rfl

def isDirectory (t : FileTree) (l : Location) : Bool := t.get? l = some .directory

def isFile (t : FileTree) (l : Location) : Bool := (t.get? l).any fun x => !x.isDirectory

theorem parent_isDirectory {t : FileTree} {l : Location} {x : Entry} (h : t.get? l = some x) :
    t.get? l.dropLast = some .directory := by
  unfold get? at *
  split at h
  · next hl => simp [hl]
  · rcases t.grounded l x h with hl | hl | hl
    · contradiction
    · simp [hl]
    · split <;> simp_all

/-- The entries of a directory, by name. -/
def children (t : FileTree) (l : Location) : List (String × Entry) :=
  t.entries.filterMap fun e =>
    if e.1.dropLast = l then e.1.getLast?.map fun n => (n, e.2) else none

/-- Puts an entry into a directory. A directory may stand only where no file is. -/
def put (t : FileTree) (l : Location) (x : Entry) (parent : t.get? l.dropLast = some .directory)
    (keeps : t.get? l = some .directory → x = .directory) : FileTree where
  entries := t.entries.put l x
  grounded := by
    intro k y hk
    simp only [get?] at parent keeps
    rw [Entry.Table.find?_put] at hk
    rw [Entry.Table.find?_put]
    by_cases hl : l = k
    · subst hl
      by_cases h : l.dropLast = []
      · exact .inr (.inl h)
      · simp only [if_neg h] at parent
        refine .inr (.inr ?_)
        by_cases h' : l = l.dropLast
        · have := congrArg List.length h'
          have : l = [] := by
            rw [List.length_dropLast] at this
            exact List.eq_nil_of_length_eq_zero (by omega)
          simp [this] at h
        · rw [if_neg h', parent]
    · rw [if_neg hl] at hk
      rcases t.grounded k y hk with h | h | h
      · exact .inl h
      · exact .inr (.inl h)
      · refine .inr (.inr ?_)
        by_cases h' : l = k.dropLast
        · rw [if_pos h']
          by_cases hn : l = []
          · rw [← h', hn] at h
            simp only [hn, if_pos] at keeps
            simp [keeps]
          · rw [if_neg hn] at keeps
            rw [keeps (h' ▸ h)]
        · rw [if_neg h', h]

/-- Takes away a file. -/
def erase (t : FileTree) (l : Location) (isFile : t.isFile l) : FileTree where
  entries := t.entries.filter fun e => decide (e.1 ≠ l)
  grounded := by
    intro k y hk
    have hkeep (m : Location) := Entry.Table.find?_filter t.entries (fun m => decide (m ≠ l)) m
    rw [hkeep] at hk
    rw [hkeep]
    split at hk
    · rcases t.grounded k y hk with h | h | h
      · exact .inl h
      · exact .inr (.inl h)
      · refine .inr (.inr ?_)
        have : k.dropLast ≠ l := by
          rintro rfl
          simp only [FileTree.isFile, get?] at isFile
          split at isFile <;> simp_all [Entry.isDirectory]
        simp [this, h]
    · simp at hk

/-- Takes away a location and everything below it. -/
def prune (t : FileTree) (l : Location) : FileTree where
  entries := t.entries.filter fun e => !l.isPrefixOf e.1
  grounded := by
    intro k y hk
    have hkeep (m : Location) := Entry.Table.find?_filter t.entries (fun m => !l.isPrefixOf m) m
    rw [hkeep] at hk
    rw [hkeep]
    split at hk
    · next hp =>
      rcases t.grounded k y hk with h | h | h
      · exact .inl h
      · exact .inr (.inl h)
      · refine .inr (.inr ?_)
        have : l.isPrefixOf k.dropLast = false := by
          rw [Bool.eq_false_iff]
          intro hpre
          have : l.isPrefixOf k = true :=
            List.isPrefixOf_iff_prefix.2
              ((List.isPrefixOf_iff_prefix.1 hpre).trans (List.dropLast_prefix k))
          simp [this] at hp
        simp [this, h]
    · simp at hk

theorem get?_put {t : FileTree} {l k : Location} {x : Entry} {hp hk} (hl : l ≠ []) :
    (t.put l x hp hk).get? k = if l = k then some x else t.get? k := by
  by_cases h : k = []
  · simp [h, hl]
  · simp [get?, put, h, Entry.Table.find?_put]

theorem get?_prune {t : FileTree} {l k : Location} (hk : k ≠ []) :
    (t.prune l).get? k = if l.isPrefixOf k then none else t.get? k := by
  have := Entry.Table.find?_filter t.entries (fun m => !l.isPrefixOf m) k
  simp only [get?, prune, if_neg hk]
  rw [this]
  cases l.isPrefixOf k <;> simp

end FileTree

end SchemaTypes
