import SchemaTypes.Proofs.Checked
import SchemaTypes.Settings

/-!
# Settings that a mapping gives

Settings are read attribute by attribute, each under one of its two names and each checked on its own
(`Settings.check_eq_good`). So what is read holds of every attribute that the mapping gives
(`Settings.holds_of_check`), and where it gives all of them, nothing else counts
(`Settings.check_eq_good_iff_holds`). The record of settings gives all of them. Read again it is what it
was, but for a blank output, which a record may hold and a check never finds (`Settings.check_toValue`).
-/

namespace SchemaTypes.Settings
open Checked

def attributes : List Attribute := [
  ⟨"output", "output"⟩, ⟨"multi_file_domains", "multiFileDomains"⟩, ⟨"runtime_module", "runtimeModule"⟩,
  ⟨"preview_features", "previewFeatures"⟩, ⟨"schema_path", "schemaPath"⟩, ⟨"clean_output", "cleanOutput"⟩]

/-- The settings have for the attribute what the check of the value gives: to set it changes nothing. -/
def Holds (s : Settings) (a : Attribute) (v : Value) : Prop := s.assign a.name v = .ok s

/-- Each attribute is read as it is given or absent. -/
structure Read (es : Entries) (s : Settings) : Prop where
  output : given es ⟨"output", "output"⟩ none checkOutput = .good s.output
  multiFileDomains :
    given es ⟨"multi_file_domains", "multiFileDomains"⟩ false truth = .good s.multiFileDomains
  runtimeModule : given es ⟨"runtime_module", "runtimeModule"⟩ defaultModule name =
    .good ⟨s.runtimeModule, s.runtimeModule_ne⟩
  previewFeatures :
    given es ⟨"preview_features", "previewFeatures"⟩ [] checkFeatures = .good s.previewFeatures
  schemaPath : given es ⟨"schema_path", "schemaPath"⟩ none optionalText = .good s.schemaPath
  cleanOutput : given es ⟨"clean_output", "cleanOutput"⟩ false truth = .good s.cleanOutput

variable {es : Entries} {s c : Settings} {a : Attribute} {key : String} {v : Value}

theorem check_eq_good : Settings.check (.mapping es) = .good s ↔ Read es s := by
  unfold Settings.check record
  simp only [seq_eq_good, map_eq_good]
  constructor
  · rintro ⟨_, _, ⟨_, _, ⟨_, _, ⟨_, _, ⟨_, _, ⟨_, ho, rfl⟩, hm, rfl⟩, hr, rfl⟩, hf, rfl⟩, hp, rfl⟩, hc, rfl⟩
    exact ⟨ho, hm, hr, hf, hp, hc⟩
  · rintro ⟨ho, hm, hr, hf, hp, hc⟩
    exact ⟨_, _, ⟨_, _, ⟨_, _, ⟨_, _, ⟨_, _, ⟨_, ho, rfl⟩, hm, rfl⟩, hr, rfl⟩, hf, rfl⟩, hp, rfl⟩, hc, rfl⟩

/-! ### What a setting holds -/

theorem set_eq_ok_iff {α β : Type} {name : String} {check : Checked α} {f : α → β} {b : β} (get : β → α)
    (hget : ∀ x, get (f x) = x) (hsame : f (get b) = b) :
    Assigned.set name check f = .ok b ↔ check = .good (get b) := by
  cases check with
  | bad is =>
    constructor <;> intro h <;> cases h
  | good x =>
    show Except.ok (f x) = Except.ok b ↔ _
    rw [Except.ok.injEq, Checked.good.injEq]
    exact ⟨fun h => by rw [← h, hget], fun h => by rw [h, hsame]⟩

theorem holds_output : s.Holds ⟨"output", "output"⟩ v ↔ checkOutput v = .good s.output :=
  set_eq_ok_iff Settings.output (fun _ => rfl) rfl

theorem holds_multiFileDomains :
    s.Holds ⟨"multi_file_domains", "multiFileDomains"⟩ v ↔ truth v = .good s.multiFileDomains :=
  set_eq_ok_iff Settings.multiFileDomains (fun _ => rfl) rfl

theorem holds_runtimeModule : s.Holds ⟨"runtime_module", "runtimeModule"⟩ v ↔
    name v = .good ⟨s.runtimeModule, s.runtimeModule_ne⟩ :=
  set_eq_ok_iff (fun s : Settings => (⟨s.runtimeModule, s.runtimeModule_ne⟩ : Named)) (fun _ => rfl) rfl

theorem holds_previewFeatures :
    s.Holds ⟨"preview_features", "previewFeatures"⟩ v ↔ checkFeatures v = .good s.previewFeatures :=
  set_eq_ok_iff Settings.previewFeatures (fun _ => rfl) rfl

theorem holds_schemaPath :
    s.Holds ⟨"schema_path", "schemaPath"⟩ v ↔ optionalText v = .good s.schemaPath :=
  set_eq_ok_iff Settings.schemaPath (fun _ => rfl) rfl

theorem holds_cleanOutput : s.Holds ⟨"clean_output", "cleanOutput"⟩ v ↔ truth v = .good s.cleanOutput :=
  set_eq_ok_iff Settings.cleanOutput (fun _ => rfl) rfl

theorem holds_of_check (h : Settings.check (.mapping es) = .good s) (ha : a ∈ attributes)
    (hfind : a.find? es = some (key, v)) : s.Holds a v := by
  have hread := check_eq_good.1 h
  simp only [attributes, List.mem_cons, List.not_mem_nil, or_false] at ha
  rcases ha with rfl | rfl | rfl | rfl | rfl | rfl
  · exact holds_output.2 (check_of_given hfind hread.output)
  · exact holds_multiFileDomains.2 (check_of_given hfind hread.multiFileDomains)
  · exact holds_runtimeModule.2 (check_of_given hfind hread.runtimeModule)
  · exact holds_previewFeatures.2 (check_of_given hfind hread.previewFeatures)
  · exact holds_schemaPath.2 (check_of_given hfind hread.schemaPath)
  · exact holds_cleanOutput.2 (check_of_given hfind hread.cleanOutput)

/-- Where the mapping gives every attribute, the settings are what it gives. -/
theorem check_eq_good_iff_holds {value : Attribute → Value}
    (hfind : ∀ a ∈ attributes, ∃ key, a.find? es = some (key, value a)) :
    Settings.check (.mapping es) = .good s ↔ ∀ a ∈ attributes, s.Holds a (value a) := by
  constructor
  · intro h a ha
    obtain ⟨key, hkey⟩ := hfind a ha
    exact holds_of_check h ha hkey
  · intro h
    have hgiven {α : Type} {a : Attribute} {check : Value → Checked α} {x absent : α} (ha : a ∈ attributes)
        (hcheck : check (value a) = .good x) : given es a absent check = .good x := by
      obtain ⟨key, hkey⟩ := hfind a ha
      exact given_of_find? hkey hcheck
    rw [check_eq_good]
    simp only [attributes, List.forall_mem_cons] at h
    obtain ⟨ho, hm, hr, hf, hp, hc, -⟩ := h
    exact ⟨hgiven (by decide) (holds_output.1 ho), hgiven (by decide) (holds_multiFileDomains.1 hm),
      hgiven (by decide) (holds_runtimeModule.1 hr), hgiven (by decide) (holds_previewFeatures.1 hf),
      hgiven (by decide) (holds_schemaPath.1 hp), hgiven (by decide) (holds_cleanOutput.1 hc)⟩

/-! ### Records of settings -/

/-- The value of an attribute in the record of the settings. -/
def shown (s : Settings) (a : Attribute) : Value := (Keyed.get? s.entries a.name).getD .null

/-- No output directory of blanks only. -/
def Unblank (s : Settings) : Prop := ∀ p, s.output = some p → ¬ Text.allBlank p

theorem checkOutput_ofText? (p : Option String) :
    checkOutput (.ofText? p) = .good (p.filter fun p => !Text.allBlank p) := by
  cases p with
  | none => rfl
  | some p =>
    show Checked.good (if Text.allBlank p then none else some p) = _
    rw [Option.filter_some]
    cases Text.allBlank p <;> rfl

/-- The settings have for the output what the record of `c` shows, unless that is blank. -/
theorem holds_shown_output : s.Holds ⟨"output", "output"⟩ (c.shown ⟨"output", "output"⟩) ↔
    s.output = c.output.filter fun p => !Text.allBlank p := by
  rw [holds_output]
  show checkOutput (.ofText? c.output) = _ ↔ _
  rw [checkOutput_ofText?, Checked.good.injEq, eq_comm]

theorem filter_output_iff : (c.output.filter fun p => !Text.allBlank p) = c.output ↔ c.Unblank := by
  unfold Unblank
  cases c.output with
  | none => simp
  | some p => simp [Option.filter_some]

theorem filter_output_of_not_unblank (h : ¬ c.Unblank) :
    (c.output.filter fun p => !Text.allBlank p) = none := by
  simp only [Unblank, not_forall, not_not] at h
  obtain ⟨p, hp, hblank⟩ := h
  rw [hp, Option.filter_some, hblank]
  rfl

theorem text_or_bytes_of_optionalText {p : String} (h : optionalText v = .good (some p)) :
    v = .text p ∨ ∃ bs, v = .scalar (.bytes bs) := by
  cases v with
  | scalar x =>
    cases x with
    | text t =>
      cases h
      exact .inl rfl
    | bytes bs => exact .inr ⟨bs, rfl⟩
    | _ => cases h
  | _ => cases h

/-- The value is bytes, or a mapping that holds bytes as its value. -/
def OfBytes (v : Value) : Prop :=
  ∃ bs, v = .scalar (.bytes bs) ∨ ∃ fs, v = .mapping fs ∧ Entries.get fs "value" = .scalar (.bytes bs)

theorem ofBytes_of_checkOutput {p : String} (h : checkOutput v = .good (some p)) (hblank : Text.allBlank p) :
    OfBytes v := by
  unfold checkOutput at h
  extract_lets inner at h
  have houter : ∀ bs, inner = .scalar (.bytes bs) → OfBytes v := by
    intro bs hbs
    cases v with
    | mapping fs => exact ⟨bs, .inr ⟨fs, rfl, hbs⟩⟩
    | _ => exact ⟨bs, .inl hbs⟩
  clear_value inner
  split at h
  next t =>
    rw [Checked.good.injEq] at h
    split at h
    next => cases h
    next hb =>
      cases h
      exact absurd hblank hb
  next hnot =>
    rcases text_or_bytes_of_optionalText h with heq | ⟨bs, hbs⟩
    · exact absurd heq (hnot p)
    · exact houter bs hbs

/-- Only bytes can give an output of blanks: a blank text is none. -/
theorem ofBytes_of_not_unblank (h : Settings.check (.mapping es) = .good s) (hblank : ¬ s.Unblank) :
    OfBytes (es.get "output") := by
  simp only [Unblank, not_forall, not_not] at hblank
  obtain ⟨p, hp, hblank⟩ := hblank
  have hread := (check_eq_good.1 h).output
  rw [hp] at hread
  cases hget : es.get? "output" with
  | none =>
    unfold given Attribute.find? at hread
    simp only [hget] at hread
    cases hread
  | some v =>
    have hcheck := check_of_given (Attribute.find?_of_get? hget) hread
    rw [Entries.get, hget]
    exact ofBytes_of_checkOutput hcheck hblank

theorem ofText?_inj {o p : Option String} : Value.ofText? o = .ofText? p ↔ o = p := by
  cases o <;> cases p <;> simp [Value.ofText?]

theorem texts_inj {xs ys : List String} : Value.texts xs = .texts ys ↔ xs = ys := by
  unfold Value.texts
  rw [Value.list.injEq, List.map_inj_right fun x y h => by injection h with h; injection h]

theorem holds_shown (ha : a ∈ attributes) (hne : a.name ≠ "output") :
    s.Holds a (c.shown a) ↔ s.shown a = c.shown a := by
  simp only [attributes, List.mem_cons, List.not_mem_nil, or_false] at ha
  rcases ha with rfl | rfl | rfl | rfl | rfl | rfl
  · exact absurd rfl hne
  · rw [holds_multiFileDomains]
    show Checked.good c.multiFileDomains = _ ↔ Value.bool s.multiFileDomains = .bool c.multiFileDomains
    simp [eq_comm]
  · rw [holds_runtimeModule]
    show name (.text c.runtimeModule) = _ ↔ Value.text s.runtimeModule = .text c.runtimeModule
    rw [name_text c.runtimeModule_ne]
    simp [eq_comm]
  · rw [holds_previewFeatures]
    show Checked.list text (.texts c.previewFeatures) = _ ↔ Value.texts s.previewFeatures = .texts c.previewFeatures
    rw [list_texts, texts_inj, Checked.good.injEq, eq_comm]
  · rw [holds_schemaPath]
    show optionalText (.ofText? c.schemaPath) = _ ↔ Value.ofText? s.schemaPath = .ofText? c.schemaPath
    rw [optionalText_ofText?, ofText?_inj, Checked.good.injEq, eq_comm]
  · rw [holds_cleanOutput]
    show Checked.good c.cleanOutput = _ ↔ Value.bool s.cleanOutput = .bool c.cleanOutput
    simp [eq_comm]

theorem get?_entries (ha : a ∈ attributes) : Keyed.get? s.entries a.name = some (s.shown a) ∧
    (a.inDocuments ≠ a.name → Keyed.get? s.entries a.inDocuments = none) := by
  simp only [attributes, List.mem_cons, List.not_mem_nil, or_false] at ha
  rcases ha with rfl | rfl | rfl | rfl | rfl | rfl
  · exact ⟨rfl, fun hne => absurd rfl hne⟩
  all_goals exact ⟨rfl, fun _ => rfl⟩

theorem exists_find?_eq_some (hname : es.get? a.name = some v)
    (hdocuments : a.inDocuments ≠ a.name → es.get? a.inDocuments = none) :
    ∃ key, a.find? es = some (key, v) := by
  by_cases hsame : a.inDocuments = a.name
  · exact ⟨_, Attribute.find?_of_get? (hsame ▸ hname)⟩
  · exact ⟨_, Attribute.find?_of_name (hdocuments hsame) hname⟩

theorem eq_of_name_output : ∀ a ∈ attributes, a.name = "output" → a = ⟨"output", "output"⟩ := by decide

/-- The record of settings is read as the settings again, without an output of blanks. -/
theorem check_toValue (c : Settings) :
    Settings.check c.toValue = .good { c with output := c.output.filter fun p => !Text.allBlank p } := by
  have hfind : ∀ a ∈ attributes,
      ∃ key, a.find? (c.entries.map fun e => (.text e.1, e.2)) = some (key, c.shown a) := by
    intro a ha
    obtain ⟨hname, hdocuments⟩ := get?_entries ha
    exact exists_find?_eq_some (by rw [Entries.get?_record, hname])
      fun hne => by rw [Entries.get?_record, hdocuments hne]
  refine (check_eq_good_iff_holds hfind).2 fun a ha => ?_
  by_cases hname : a.name = "output"
  · rw [eq_of_name_output a ha hname]
    exact holds_shown_output.2 rfl
  · rw [holds_shown ha hname]
    simp only [attributes, List.mem_cons, List.not_mem_nil, or_false] at ha
    rcases ha with rfl | rfl | rfl | rfl | rfl | rfl
    · exact absurd rfl hname
    all_goals rfl

end SchemaTypes.Settings
