import SchemaTypes.Export
import SchemaTypes.Proofs.File.Clearing
import SchemaTypes.Proofs.File.Names
import SchemaTypes.Proofs.File.Writing
import SchemaTypes.Proofs.Text.Lines

/-!
# What an export writes

An exporter changes locations below its directory only, however the export ends (`frame_run`). One
that ends without an error has written every artifact: an error stays noted (`success_of_writeAll`),
so none of the writes had one, and as no two artifacts have one location, what a write has put there
is still there in the end.
-/

namespace SchemaTypes

/-- The record says what is so of a text at a path: its bytes, its lines and its digest. -/
structure FileRecord.Describes (r : FileRecord) (path content : String) : Prop where
  path : r.path = path
  size : r.size = (bytesOf content).length
  lines : ∃ n : Nat, r.lines = n ∧ Text.OfLines content n
  digest : r.digest = (Digest.digest (bytesOf content)).hex

theorem length_bytesOf (text : String) : (bytesOf text).length = Text.byteCount text := by
  show text.toUTF8.data.toList.length = text.utf8ByteSize
  rw [Array.length_toList]
  rfl

theorem Exporter.describes_recordOf (path content : String) : (recordOf path content).Describes path content where
  path := rfl
  size := congrArg Nat.cast (length_bytesOf content).symm
  lines := ⟨_, rfl, Text.ofLines_iff.2 rfl⟩
  digest := rfl

/-- Where an artifact belongs below a directory. -/
def locationIn (directory : Location) (artifact : String) : Location :=
  directory ++ (Path.ofText artifact).names

def locationsIn {α : Type} (directory : Location) (contents : List (String × α)) : List Location :=
  contents.map fun e => locationIn directory e.1

/-- The location is on the way to one of `ls`. -/
def LeadsTo (ls : List Location) (k : Location) : Prop := ∃ l ∈ ls, k <+: l

/-- In `t'` the artifacts are below the directory. There is no other new file, and every other file
is as it was in `t`, unless the directory was cleaned and the file was below it. -/
structure Exported (directory : Location) (clean : Bool) (contents : Contents) (t t' : FileTree) :
    Prop where
  files : ∀ e ∈ contents, t'.content? (locationIn directory e.1) = some (bytesOf e.2)
  only : ∀ k content, t'.content? k = some content →
    k ∈ locationsIn directory contents ∨ t.content? k = some content
  unchanged : ∀ k, k ∉ locationsIn directory contents → ¬ (clean ∧ directory <+: k) →
    t'.content? k = t.content? k

theorem directory_prefix_of_mem {α : Type} {directory k : Location} {contents : List (String × α)}
    (h : k ∈ locationsIn directory contents) : directory <+: k := by
  obtain ⟨e, -, rfl⟩ := List.mem_map.1 h
  exact List.prefix_append directory _

namespace Contents
variable {contents : Contents}

theorem locationsIn_drafts {directory : Location} :
    locationsIn directory contents.drafts = locationsIn directory contents := by
  rw [locationsIn, drafts, List.map_map]
  rfl

theorem mem_drafts {e : String × String} (he : e ∈ contents) : (e.1, .text e.2) ∈ contents.drafts :=
  List.mem_map_of_mem he

theorem forall_mem_drafts (p : String → Prop) : (∀ e ∈ contents.drafts, p e.1) ↔ ∀ e ∈ contents, p e.1 :=
  List.forall_mem_map

end Contents

namespace Content
variable {content : Content}

theorem encodable_iff : content.Encodable ↔ ∃ s, content = .text s := by
  cases content <;> simp [Encodable, encode?]

end Content

namespace Exporter
open FileTree

variable {x : Exporter} {t : FileTree} {contents : Drafts} {artifact : String} {content : Content}

theorem join_path (h : (Path.ofText artifact).Descends) :
    x.path.join (Path.ofText artifact) = ⟨.slash, locationIn x.directory artifact⟩ := by
  rw [Path.join, h.1]
  rfl

theorem dotdot_not_mem_locationIn (hx : ".." ∉ x.directory) (h : (Path.ofText artifact).Descends) :
    ".." ∉ locationIn x.directory artifact := by
  intro hm
  rcases List.mem_append.1 hm with hm | hm
  · exact hx hm
  · exact h.2 hm

/-! ### One artifact -/

section Refuse
variable {fault : FileFault} {e : ExportError}

theorem tree_refuse : (x.refuse t fault e).tree = t := by
  unfold refuse
  split <;> rfl

theorem aborted_refuse : (x.refuse t fault e).aborted = fault.escapes := by
  unfold refuse
  split
  next h => exact h.symm
  next h => exact (Bool.eq_false_iff.2 h).symm

theorem refuse_of_not_escapes (h : fault.escapes = false) :
    x.refuse t fault e =
      { exporter := x.addError e, tree := t, notices := [.exportFault e.message] } := by
  rw [refuse, h]
  rfl

theorem refuse_of_escapes (h : fault.escapes) :
    x.refuse t fault e = { exporter := x, tree := t, fault := some fault } := if_pos h

theorem not_success_addError : (x.addError e).success = false := by simp [success, addError]

theorem not_success_of_refuse (hend : (x.refuse t fault e).aborted = false) :
    (x.refuse t fault e).exporter.success = false := by
  rw [aborted_refuse] at hend
  rw [refuse_of_not_escapes hend]
  exact not_success_addError

theorem directory_refuse : (x.refuse t fault e).exporter.directory = x.directory := by
  unfold refuse
  split <;> rfl

theorem success_of_refuse (h : (x.refuse t fault e).exporter.success) : x.success := by
  unfold refuse at h
  split at h
  · exact h
  · rw [not_success_addError] at h
    cases h

end Refuse

theorem directory_write : (x.write t artifact content).exporter.directory = x.directory := by
  unfold write
  dsimp only
  split
  · rfl
  · exact directory_refuse

theorem success_of_write (h : (x.write t artifact content).exporter.success) : x.success := by
  unfold write at h
  dsimp only at h
  split at h
  · exact h
  · exact success_of_refuse h

theorem frame_write (hx : ".." ∉ x.directory) (h : (Path.ofText artifact).Descends) :
    Frame (· = locationIn x.directory artifact) (· <+: locationIn x.directory artifact) t
      (x.write t artifact content).tree := by
  have hdots := dotdot_not_mem_locationIn hx h
  unfold write
  rw [join_path h]
  dsimp only
  split
  next t' hw => exact (Disk.write_ok hdots hw).2
  next t' _ hw =>
    rw [tree_refuse]
    exact (Disk.write_fault hdots hw).mono (fun k hk => hk.elim) fun _ _ => id

theorem write_success (hx : ".." ∉ x.directory) (h : (Path.ofText artifact).Descends)
    (hend : (x.write t artifact content).aborted = false)
    (hs : (x.write t artifact content).exporter.success) :
    (x.write t artifact content).exporter =
        { x with records := x.records ++ [recordOf artifact content] } ∧
      ∃ bytes, content.encode? = some bytes ∧
        (x.write t artifact content).tree.content? (locationIn x.directory artifact) = some bytes := by
  have hdots := dotdot_not_mem_locationIn hx h
  unfold write at hend hs ⊢
  rw [join_path h] at hend hs ⊢
  dsimp only at hend hs ⊢
  split at hend
  next t' hw =>
    obtain ⟨bytes, hbytes, hget⟩ := (Disk.write_ok hdots hw).1
    exact ⟨rfl, bytes, hbytes, content?_eq_some.2 hget⟩
  next t' fault hw =>
    rw [hw] at hs
    rw [not_success_of_refuse hend] at hs
    cases hs

/-! ### One artifact after the other -/

theorem writeAll_of_end (rest : Drafts) (h : (x.write t artifact content).aborted = false) :
    x.writeAll t ((artifact, content) :: rest) =
      let others := (x.write t artifact content).exporter.writeAll (x.write t artifact content).tree rest
      { others with notices := (x.write t artifact content).notices ++ others.notices } := by
  rw [writeAll]
  exact if_neg (ne_true_of_eq_false h)

theorem writeAll_cons (rest : Drafts) (h : (x.write t artifact content).aborted = false) :
    (x.writeAll t ((artifact, content) :: rest)).exporter =
        ((x.write t artifact content).exporter.writeAll (x.write t artifact content).tree rest).exporter ∧
      (x.writeAll t ((artifact, content) :: rest)).tree =
        ((x.write t artifact content).exporter.writeAll (x.write t artifact content).tree rest).tree ∧
      (x.writeAll t ((artifact, content) :: rest)).aborted =
        ((x.write t artifact content).exporter.writeAll (x.write t artifact content).tree rest).aborted := by
  rw [writeAll_of_end rest h]
  exact ⟨rfl, rfl, rfl⟩

theorem writeAll_aborted {rest : Drafts} (h : (x.write t artifact content).aborted = true) :
    x.writeAll t ((artifact, content) :: rest) = x.write t artifact content := by
  rw [writeAll]
  exact if_pos h

theorem success_of_writeAll (h : (x.writeAll t contents).exporter.success) : x.success := by
  induction contents generalizing x t with
  | nil => exact h
  | cons e rest ih =>
    cases hend : (x.write t e.1 e.2).aborted with
    | true =>
      rw [writeAll_aborted hend] at h
      exact success_of_write h
    | false =>
      rw [(writeAll_cons rest hend).1] at h
      exact success_of_write (ih h)

theorem frame_writeAll (hx : ".." ∉ x.directory)
    (hpaths : ∀ e ∈ contents, (Path.ofText e.1).Descends) :
    Frame (· ∈ locationsIn x.directory contents) (LeadsTo (locationsIn x.directory contents)) t
      (x.writeAll t contents).tree := by
  induction contents generalizing x t with
  | nil => exact .refl
  | cons e rest ih =>
    obtain ⟨he, hrest⟩ := List.forall_mem_cons.1 hpaths
    have hfirst : Frame (· ∈ locationsIn x.directory (e :: rest))
        (LeadsTo (locationsIn x.directory (e :: rest))) t (x.write t e.1 e.2).tree := by
      refine (frame_write hx he).mono ?_ ?_
      · intro k hk
        exact List.mem_cons.2 (.inl hk)
      · intro k _ hk
        exact ⟨_, List.mem_cons_self, hk⟩
    cases hend : (x.write t e.1 e.2).aborted with
    | true =>
      rw [writeAll_aborted hend]
      exact hfirst
    | false =>
      have hdir : (x.write t e.1 e.2).exporter.directory = x.directory := directory_write
      have hothers := ih (t := (x.write t e.1 e.2).tree) (hdir ▸ hx) hrest
      rw [hdir] at hothers
      rw [(writeAll_cons rest hend).2.1]
      refine hfirst.trans (hothers.mono ?_ ?_)
      · intro k hk
        exact List.mem_cons_of_mem _ hk
      · rintro k _ ⟨l, hl, hk⟩
        exact ⟨l, List.mem_cons_of_mem _ hl, hk⟩

theorem writeAll_success (hx : ".." ∉ x.directory)
    (hpaths : ∀ e ∈ contents, (Path.ofText e.1).Descends)
    (hn : (locationsIn x.directory contents).Nodup)
    (hend : (x.writeAll t contents).aborted = false) (hs : (x.writeAll t contents).exporter.success) :
    (x.writeAll t contents).exporter.records =
        x.records ++ contents.map (fun e => recordOf e.1 e.2) ∧
      ∀ e ∈ contents, ∃ bytes, e.2.encode? = some bytes ∧
        (x.writeAll t contents).tree.content? (locationIn x.directory e.1) = some bytes := by
  induction contents generalizing x t with
  | nil => exact ⟨(List.append_nil _).symm, fun e he => absurd he List.not_mem_nil⟩
  | cons e rest ih =>
    obtain ⟨he, hrest⟩ := List.forall_mem_cons.1 hpaths
    rw [locationsIn, List.map_cons, List.nodup_cons] at hn
    cases hfirst : (x.write t e.1 e.2).aborted with
    | true =>
      rw [writeAll_aborted hfirst, hfirst] at hend
      cases hend
    | false =>
      obtain ⟨hexporter, htree, haborted⟩ := writeAll_cons rest hfirst
      rw [haborted] at hend
      rw [hexporter] at hs ⊢
      rw [htree]
      have hdir : (x.write t e.1 e.2).exporter.directory = x.directory := directory_write
      obtain ⟨hx', hput⟩ := write_success hx he hfirst (success_of_writeAll hs)
      have hframe := frame_writeAll (t := (x.write t e.1 e.2).tree) (hdir ▸ hx) hrest
      obtain ⟨hrecords, hfiles⟩ := ih (hdir ▸ hx) hrest (by rw [hdir]; exact hn.2) hend hs
      rw [hdir] at hframe hfiles
      refine ⟨?_, ?_⟩
      · rw [hrecords, hx', List.append_assoc, List.map_cons, List.singleton_append]
      · intro e' he'
        rcases List.mem_cons.1 he' with rfl | he'
        · -- no later artifact has the location of the first
          rw [hframe.content?_eq hn.1]
          exact hput
        · exact hfiles e' he'

/-! ### Cleaning, filling and the whole run -/

/-- The location is one of an earlier export: it is in the directory or deeper, and not at a name that
cleaning keeps or below one. -/
def Stale (directory k : Location) : Prop := ∃ n, n ∉ keptNames ∧ directory ++ [n] <+: k

theorem Stale.below {directory k : Location} (h : Stale directory k) : directory <+: k :=
  let ⟨n, _, hk⟩ := h
  (List.prefix_append directory [n]).trans hk

theorem not_stale_above {directory k : Location} (hk : k <+: directory) : ¬ Stale directory k := by
  rintro ⟨n, -, hbelow⟩
  have hlength := (hbelow.trans hk).length_le
  rw [List.length_append, List.length_singleton] at hlength
  omega

theorem get?_cleaned_of_not_stale {k : Location} (hk : ¬ Stale x.directory k) :
    (x.cleaned t).get? k = t.get? k := by
  unfold cleaned
  split
  · exact get?_clear fun n hn hbelow => hk ⟨n, hn, hbelow⟩
  · rfl

theorem get?_cleaned (x : Exporter) (t : FileTree) (k : Location) :
    (x.cleaned t).get? k = t.get? k ∨
      (x.clean ∧ x.directory <+: k) ∧ (x.cleaned t).get? k = none := by
  by_cases hk : Stale x.directory k
  · unfold cleaned
    split
    next hclean =>
      have hbelow := hk.below
      obtain ⟨n, hn, hk⟩ := hk
      exact .inr ⟨⟨(Bool.and_eq_true_iff.1 hclean).1, hbelow⟩, get?_clear_eq_none hn hk⟩
    · exact .inl rfl
  · exact .inl (get?_cleaned_of_not_stale hk)

theorem fill_cases (x : Exporter) (t : FileTree) (contents : Drafts) :
    x.fill t contents = x.writeAll (t.makeDirectories x.limit x.directory).1 contents ∨
      (x.fill t contents).tree = (t.makeDirectories x.limit x.directory).1 ∧
        ((x.fill t contents).aborted = true ∨ (x.fill t contents).exporter.success = false) := by
  unfold fill
  split
  next t' h =>
    rw [h]
    exact .inl rfl
  next t' fault names h =>
    rw [h]
    refine .inr ⟨tree_refuse, ?_⟩
    cases hend : (x.refuse t' fault _).aborted with
    | true => exact .inl rfl
    | false => exact .inr (not_success_of_refuse hend)

/-- An export that finds its directory, as far as it looks it up, cleans it and goes on. -/
theorem run_of_lookup (contents : Drafts) (h : x.lookupFault t = none) :
    (x.run t contents).exporter = (x.fill (x.cleaned t) contents).exporter ∧
      (x.run t contents).tree = (x.fill (x.cleaned t) contents).tree ∧
      (x.run t contents).aborted = (x.fill (x.cleaned t) contents).aborted := by
  unfold run
  rw [h]
  exact ⟨rfl, rfl, rfl⟩

theorem run_of_lookup_fault {fault : FileFault} (contents : Drafts) (h : x.lookupFault t = some fault) :
    (x.run t contents).exporter = x ∧ (x.run t contents).tree = t ∧ (x.run t contents).aborted = true := by
  unfold run
  rw [h]
  exact ⟨rfl, rfl, rfl⟩

theorem lookup_of_run (hend : (x.run t contents).aborted = false) : x.lookupFault t = none := by
  cases h : x.lookupFault t with
  | none => rfl
  | some fault =>
    rw [(run_of_lookup_fault _ h).2.2] at hend
    cases hend

theorem frame_fill (hx : ".." ∉ x.directory) (hpaths : ∀ e ∈ contents, (Path.ofText e.1).Descends) :
    Frame (· ∈ locationsIn x.directory contents)
      (fun k => k <+: x.directory ∨ LeadsTo (locationsIn x.directory contents) k) t
      (x.fill t contents).tree := by
  have hmade : Frame (· ∈ locationsIn x.directory contents)
      (fun k => k <+: x.directory ∨ LeadsTo (locationsIn x.directory contents) k) t
      (t.makeDirectories x.limit x.directory).1 := by
    refine (frame_makeDirectories hx).mono ?_ ?_
    · intro k hk
      exact hk.elim
    · intro k _ hk
      exact .inl hk
  rcases fill_cases x t contents with h | ⟨h, -⟩
  · rw [h]
    exact hmade.trans ((frame_writeAll hx hpaths).mono (fun _ => id) fun k _ hk => .inr hk)
  · rw [h]
    exact hmade

/-- However an export ends, the tree is as it was, but for what is below the directory and for new
directories that lead to it. -/
theorem frame_run (hx : ".." ∉ x.directory) (hpaths : ∀ e ∈ contents, (Path.ofText e.1).Descends) :
    Frame (x.directory <+: ·) (· <+: x.directory) t (x.run t contents).tree := by
  have hcleaned : Frame (x.directory <+: ·) (· <+: x.directory) t (x.cleaned t) := by
    intro k hk
    rcases get?_cleaned x t k with h | ⟨⟨-, h⟩, -⟩
    · exact .inl h
    · exact absurd h hk
  cases hlookup : x.lookupFault t with
  | some fault =>
    rw [(run_of_lookup_fault _ hlookup).2.1]
    exact .refl
  | none =>
    rw [(run_of_lookup _ hlookup).2.1]
    refine hcleaned.trans ((frame_fill hx hpaths).mono ?_ ?_)
    · intro k hk
      exact directory_prefix_of_mem hk
    · rintro k hk (h | ⟨l, hl, h⟩)
      · exact h
      · -- two prefixes of one location: the shorter is one of the longer
        exact (List.prefix_or_prefix_of_prefix h (directory_prefix_of_mem hl)).resolve_right hk

/-- An export without errors is complete and changes nothing else. -/
theorem run_success {contents : Contents} (hx : ".." ∉ x.directory)
    (hpaths : ∀ e ∈ contents, (Path.ofText e.1).Descends) (hn : (locationsIn x.directory contents).Nodup)
    (hend : (x.run t contents.drafts).aborted = false) (hs : (x.run t contents.drafts).exporter.success) :
    (x.run t contents.drafts).exporter.records = x.records ++ contents.map (fun e => recordOf e.1 e.2) ∧
      Exported x.directory x.clean contents t (x.run t contents.drafts).tree := by
  have hpaths := (Contents.forall_mem_drafts fun path => (Path.ofText path).Descends).2 hpaths
  have hframe := frame_fill (t := x.cleaned t) hx hpaths
  obtain ⟨hexporter, htree, haborted⟩ := run_of_lookup contents.drafts (lookup_of_run hend)
  rw [haborted] at hend
  rw [hexporter] at hs ⊢
  rw [htree]
  rw [Contents.locationsIn_drafts] at hframe
  rcases fill_cases x (x.cleaned t) contents.drafts with h | ⟨-, h | h⟩
  · rw [h] at hend hs hframe ⊢
    obtain ⟨hrecords, hfiles⟩ := writeAll_success hx hpaths (by rwa [Contents.locationsIn_drafts]) hend hs
    refine ⟨by rw [hrecords, Contents.drafts, List.map_map]; rfl, fun e he => ?_, ?_, ?_⟩
    · obtain ⟨bytes, hbytes, hget⟩ := hfiles _ (Contents.mem_drafts he)
      cases hbytes
      exact hget
    · intro k c hk
      by_cases hchanged : k ∈ locationsIn x.directory contents
      · exact .inl hchanged
      · rw [hframe.content?_eq hchanged, content?_eq_some] at hk
        refine .inr (content?_eq_some.2 ?_)
        rcases get?_cleaned x t k with h | ⟨-, h⟩
        · rwa [h] at hk
        · rw [h] at hk
          cases hk
    · intro k hk hclean
      rw [hframe.content?_eq hk]
      rcases get?_cleaned x t k with h | ⟨h, -⟩
      · rw [content?, h, content?]
      · exact absurd h hclean
  · rw [h] at hend
    cases hend
  · rw [h] at hs
    cases hs

end Exporter

end SchemaTypes
