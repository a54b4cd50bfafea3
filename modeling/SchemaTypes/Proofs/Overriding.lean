import Mathlib.Data.List.Nodup
import SchemaTypes.Generation
import SchemaTypes.Proofs.Source.Precedence

/-!
# Overrides of settings

A run from a file takes the settings of the document, as a record, puts the overrides that are not null
over it, and checks the result. So the value of each setting comes from one of three places (`origin`), and
the run goes on with the settings that hold these values (`overridden_eq_good_iff`). To check what has been
checked before changes nothing but a blank output, which only bytes in a document can give: there a run
does not have the settings of its document (`overridden_blank`).
-/

namespace SchemaTypes

namespace Entries
variable {es : Entries} {key : String} {v : Value} {a : Checked.Attribute}

theorem get?_eq_some_iff (h : (es.map Prod.fst).Nodup) : es.get? key = some v ↔ (.text key, v) ∈ es := by
  refine ⟨mem_of_get?, fun hv => ?_⟩
  obtain ⟨w, hw⟩ := Option.isSome_iff_exists.1 (get?_isSome.2 ⟨_, hv, rfl⟩)
  rw [hw, (Prod.mk.inj (List.inj_on_of_nodup_map h (mem_of_get? hw) hv rfl)).2]

theorem get?_reverse (h : (es.map Prod.fst).Nodup) : get? es.reverse key = es.get? key := by
  refine Option.ext fun v => ?_
  have hreverse : (es.reverse.map Prod.fst).Nodup := by rwa [List.map_reverse, List.nodup_reverse]
  rw [get?_eq_some_iff h, get?_eq_some_iff hreverse, List.mem_reverse]

/-- Every key is the name of a setting in the program, and none stands twice. -/
structure OfSettings (es : Entries) : Prop where
  named : ∀ e ∈ es, ∃ a ∈ Settings.attributes, e.1 = .text a.name
  nodup : (es.map Prod.fst).Nodup

/-- The entries that are not null. -/
def given (es : Entries) : Entries := es.filter fun e => !e.2.isNull

/-- The mapping sets the attribute, and not to null. -/
def Sets (es : Entries) (a : Checked.Attribute) (v : Value) : Prop :=
  (.text a.name, v) ∈ es ∧ v.isNull = false

theorem mem_given {e : Scalar × Value} : e ∈ es.given ↔ e ∈ es ∧ e.2.isNull = false := by
  simp [given]

namespace OfSettings

theorem given (h : es.OfSettings) : es.given.OfSettings where
  named := fun e he => h.named e (mem_given.1 he).1
  nodup := h.nodup.sublist (List.filter_sublist.map _)

theorem get?_given (h : es.OfSettings) : es.given.get? a.name = some v ↔ es.Sets a v := by
  rw [get?_eq_some_iff h.given.nodup, mem_given]
  rfl

theorem get?_given_eq_none (h : es.OfSettings) :
    es.given.get? a.name = none ↔ ∀ v, ¬ es.Sets a v := by
  simp only [Option.eq_none_iff_forall_ne_some, ne_eq, h.get?_given]

/-- No key is a name that a setting has in documents only. -/
theorem get?_eq_none (h : es.OfSettings) (ha : a ∈ Settings.attributes) (hne : a.inDocuments ≠ a.name) :
    es.get? a.inDocuments = none := by
  refine Entries.get?_eq_none fun e he hkey => ?_
  obtain ⟨b, hb, hname⟩ := h.named e he
  have hother : ∀ a ∈ Settings.attributes, a.inDocuments ≠ a.name → ∀ b ∈ Settings.attributes,
      a.inDocuments ≠ b.name := by decide
  exact hother a ha hne b hb (Scalar.text.inj (hkey.symm.trans hname))

end OfSettings

end Entries

namespace Settings
open Checked

variable {c s : Settings} {path : Path} {overrides : Entries} {a : Attribute} {key : String} {v : Value}

/-- The value that the settings of a run take for an attribute. -/
def origin (c : Settings) (path : Path) (overrides : Entries) (a : Attribute) : Value :=
  (overrides.given.get? a.name).getD
    (if a.name = "schema_path" ∧ c.schemaPath = none then .text path.text else c.shown a)

/-- The settings of the document, as a record, with the overrides put over them. -/
def merged (c : Settings) (path : Path) (overrides : Entries) : Entries :=
  Entries.putAll (c.entries.map fun e => (.text e.1, e.2)) <|
    if c.schemaPath.isNone && !overrides.given.hasKey "schema_path" then
      overrides.given ++ [(.text "schema_path", .text path.text)]
    else overrides.given

theorem overridden_eq (c : Settings) (path : Path) (overrides : Entries) :
    overridden c path overrides = Settings.check (.mapping (c.merged path overrides)) := rfl

theorem get?_merged (h : overrides.OfSettings) : (c.merged path overrides).get? key =
    ((overrides.given.get? key).or
      (if key = "schema_path" ∧ c.schemaPath = none then some (.text path.text) else none)).or
      (Keyed.get? c.entries key) := by
  have hreverse : Entries.get? overrides.given.reverse key = overrides.given.get? key :=
    Entries.get?_reverse h.given.nodup
  rw [merged, Entries.get?_putAll, Entries.get?_record]
  congr 1
  by_cases hkey : key = "schema_path"
  · subst hkey
    have hself : (Scalar.text "schema_path").sameKey (.text "schema_path") := Scalar.sameKey_text.2 rfl
    cases hset : overrides.given.get? "schema_path" with
    | some v => simp [Entries.hasKey, hset, hreverse]
    | none => cases hpath : c.schemaPath <;> simp [Entries.hasKey, hset, hreverse, Entries.get?_cons, hself]
  · have hother : ¬ (Scalar.text "schema_path").sameKey (.text key) := by
      rw [Scalar.sameKey_text, Scalar.text.injEq]
      exact Ne.symm hkey
    split <;> simp [hkey, hreverse, Entries.get?_cons, hother]

theorem exists_find?_merged (h : overrides.OfSettings) (ha : a ∈ attributes) :
    ∃ key, a.find? (c.merged path overrides) = some (key, c.origin path overrides a) := by
  obtain ⟨hshown, hdocuments⟩ := get?_entries (s := c) ha
  refine exists_find?_eq_some ?_ fun hne => ?_
  · rw [get?_merged h, hshown, origin]
    cases overrides.given.get? a.name with
    | some v => rfl
    | none => split <;> rfl
  · have hpath : a.inDocuments ≠ "schema_path" := by
      have hall : ∀ a ∈ attributes, a.inDocuments ≠ "schema_path" := by decide
      exact hall a ha
    rw [get?_merged h, h.given.get?_eq_none ha hne, hdocuments hne, if_neg fun hand => hpath hand.1]
    rfl

/-- The settings of a run hold for each attribute what it takes. -/
theorem overridden_eq_good_iff (h : overrides.OfSettings) :
    overridden c path overrides = .good s ↔ ∀ a ∈ attributes, s.Holds a (c.origin path overrides a) := by
  rw [overridden_eq]
  exact check_eq_good_iff_holds fun _ ha => exists_find?_merged h ha

theorem origin_of_sets (h : overrides.OfSettings) (hset : overrides.Sets a v) :
    c.origin path overrides a = v := by
  rw [origin, h.get?_given.2 hset, Option.getD_some]

theorem origin_of_unset (h : overrides.OfSettings) (hset : ∀ v, ¬ overrides.Sets a v) :
    c.origin path overrides a =
      if a.name = "schema_path" ∧ c.schemaPath = none then .text path.text else c.shown a := by
  rw [origin, h.get?_given_eq_none.2 hset, Option.getD_none]

/-- An output that no override sets is that of the document, unless it is blank. -/
theorem output_of_overridden (h : overrides.OfSettings) (hs : overridden c path overrides = .good s)
    (hset : ∀ v, ¬ overrides.Sets ⟨"output", "output"⟩ v) :
    s.output = c.output.filter fun p => !Text.allBlank p := by
  have hholds := (overridden_eq_good_iff h).1 hs ⟨"output", "output"⟩ (by decide)
  rwa [origin_of_unset h hset, if_neg (by simp), holds_shown_output] at hholds

theorem generateFromFile_of_overridden {d : Document} {disk : Disk} (mode : WriteMode) (dryRun : Bool)
    (hload : Source.load disk path >>= Source.parse = .ok (d, c))
    (hs : overridden c path overrides = .good s) : generateFromFile path overrides mode dryRun disk =
      (generate d s mode dryRun disk).after (Source.notices disk path ++ [.timed .load] ++
        [.loaded path.text d.models.length d.enums.length]) := by
  unfold generateFromFile
  rw [hload]
  dsimp only
  rw [hs]

/-- Only a document that gives its output as bytes can have one that is not kept. -/
theorem exists_ofBytes_of_load {d : Document} {disk : Disk}
    (hload : Source.load disk path >>= Source.parse = .ok (d, c)) (hblank : ¬ c.Unblank) :
    ∃ raw es, Source.load disk path = .ok (.mapping raw) ∧ Source.settingEntries raw = .ok es ∧
      OfBytes (es.get "output") := by
  obtain ⟨v, hv, hparse⟩ := Traversal.bind_eq_ok_iff.1 hload
  cases v with
  | mapping raw =>
    obtain ⟨es, hes, hcheck⟩ := Source.parse_eq_ok_settings hparse
    exact ⟨raw, es, hv, hes, ofBytes_of_not_unblank hcheck hblank⟩
  | _ => cases hparse

theorem check_toValue_eq_good_iff (c : Settings) : Settings.check c.toValue = .good c ↔ c.Unblank := by
  rw [check_toValue, Checked.good.injEq, ← filter_output_iff]
  exact ⟨congrArg Settings.output, fun h => Settings.ext h rfl rfl rfl rfl rfl⟩

/-- A run from a file goes on with settings in which each override holds that is not null; all others are
those of the document, and the path is that of the file where neither sets it. There is one exception: an
output of blanks, which the document gives as bytes, is not kept. Settings that are written and read again
are the same up to this. -/
theorem overridden_precedence {d : Document} {disk : Disk} (mode : WriteMode) (dryRun : Bool)
    (hload : Source.load disk path >>= Source.parse = .ok (d, c)) (hnames : overrides.OfSettings)
    (hs : overridden c path overrides = .good s) :
    (∃ told, generateFromFile path overrides mode dryRun disk =
      (generate d s mode dryRun disk).after told) ∧
    (∀ a ∈ attributes, ∀ v, overrides.Sets a v → s.Holds a v) ∧
    (∀ a ∈ attributes, (∀ v, ¬ overrides.Sets a v) → ¬ (a.name = "schema_path" ∧ c.schemaPath = none) →
      (s.shown a = c.shown a ↔ (a.name = "output" → c.Unblank))) ∧
    (¬ c.Unblank → ((∀ v, ¬ overrides.Sets ⟨"output", "output"⟩ v) → s.output = none) ∧
      ∃ raw es, Source.load disk path = .ok (.mapping raw) ∧ Source.settingEntries raw = .ok es ∧
        OfBytes (es.get "output")) ∧
    ((∀ v, ¬ overrides.Sets ⟨"schema_path", "schemaPath"⟩ v) → c.schemaPath = none →
      s.schemaPath = some path.text) ∧
    ∀ x : Settings, Settings.check x.toValue = .good x ↔ x.Unblank := by
  have hholds := (overridden_eq_good_iff hnames).1 hs
  refine ⟨⟨_, generateFromFile_of_overridden mode dryRun hload hs⟩, fun a ha v hset => ?_,
    fun a ha hset hpath => ?_, fun hblank => ⟨fun hset => ?_, exists_ofBytes_of_load hload hblank⟩,
    fun hset hpath => ?_, check_toValue_eq_good_iff⟩
  · rw [← origin_of_sets hnames hset]
    exact hholds a ha
  · by_cases hname : a.name = "output"
    · obtain rfl := eq_of_name_output a ha hname
      show Value.ofText? s.output = .ofText? c.output ↔ _
      rw [ofText?_inj, output_of_overridden hnames hs hset, filter_output_iff]
      exact ⟨fun h _ => h, fun h => h rfl⟩
    · have h := hholds a ha
      rw [origin_of_unset hnames hset, if_neg hpath] at h
      exact iff_of_true ((holds_shown ha hname).1 h) fun heq => absurd heq hname
  · rw [output_of_overridden hnames hs hset]
    exact filter_output_of_not_unblank hblank
  · have h := hholds ⟨"schema_path", "schemaPath"⟩ (by decide)
    rw [origin_of_unset hnames hset, if_pos ⟨rfl, hpath⟩, holds_schemaPath] at h
    exact (Checked.good.inj h).symm

/-- The text `yes` is put over the flag, which it spells; null is not put over the module. -/
theorem overridden_precedence_notes :
    let text := "models: []\nconfig:\n  output: out\n  runtimeModule: kit\n"
    let disk : Disk := { tree := FileTree.empty.put ["notes.yaml"] (.file (bytesOf text)) rfl (by decide) }
    let path := Path.ofText "notes.yaml"
    let overrides : Entries := [(.text "output", .text "generated"), (.text "clean_output", .text "yes"),
      (.text "runtime_module", .null)]
    let c : Settings := { output := some "out", runtimeModule := "kit" }
    let s : Settings := { output := some "generated", runtimeModule := "kit", cleanOutput := true,
                          schemaPath := some "notes.yaml" }
    ∃ d, (Source.load disk path >>= Source.parse = .ok (d, c) ∧ overrides.OfSettings ∧
        overridden c path overrides = .good s) ∧
      (∃ told, generateFromFile path overrides .atomic true disk =
        (generate d s .atomic true disk).after told) ∧
      s.Holds ⟨"clean_output", "cleanOutput"⟩ (.text "yes") := by
  intro text disk path overrides c s
  obtain ⟨d, hload⟩ : ∃ d, Source.load disk path >>= Source.parse = .ok (d, c) :=
    Traversal.exists_ok_of_toOption (by decide +kernel)
  have hnames : overrides.OfSettings := ⟨by simp [overrides, attributes], by simp [overrides]⟩
  have hs : overridden c path overrides = .good s := rfl
  obtain ⟨hrun, hholds, -⟩ := overridden_precedence .atomic true hload hnames hs
  exact ⟨d, ⟨hload, hnames, hs⟩, hrun, hholds _ (by decide) _ ⟨by simp [overrides], rfl⟩⟩

/-- A document gives two blanks as its output, as bytes. They are kept when the document is read, and lost in
the run, which overrides nothing. -/
theorem overridden_blank :
    let text := "models: []\nconfig:\n  output: !!binary ICA=\n"
    let disk : Disk := { tree := FileTree.empty.put ["notes.yaml"] (.file (bytesOf text)) rfl (by decide) }
    let path := Path.ofText "notes.yaml"
    let c : Settings := { output := some "  " }
    let s : Settings := { schemaPath := some "notes.yaml" }
    (∃ d, Source.load disk path >>= Source.parse = .ok (d, c)) ∧ overridden c path [] = .good s ∧
      c.output ≠ s.output ∧ Settings.check c.toValue = .good {} ∧
      ∀ mode dryRun, (generateFromFile path [] mode dryRun disk).outcome = .error .unconfiguredOutput := by
  intro text disk path c s
  obtain ⟨d, hload⟩ : ∃ d, Source.load disk path >>= Source.parse = .ok (d, c) :=
    Traversal.exists_ok_of_toOption (by decide +kernel)
  refine ⟨⟨d, hload⟩, rfl, by decide, rfl, fun mode dryRun => ?_⟩
  rw [generateFromFile_of_overridden mode dryRun hload rfl]
  rfl

end Settings

end SchemaTypes
