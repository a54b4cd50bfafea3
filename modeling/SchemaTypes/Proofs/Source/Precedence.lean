import SchemaTypes.Proofs.Settings
import SchemaTypes.Proofs.Traversal
import SchemaTypes.Source.Parsing

/-!
# Which source of a setting counts

The settings of a document are joined key by key, and under one key what `config` says counts
(`settingEntries_eq_ok`). But an attribute has two names, and which of them counts is decided only
afterwards, for the whole: the name in documents goes first. So `config` loses to another source just if
it gives an attribute under the other name alone and the other source under the name in documents
(`parse_config`).
-/

namespace SchemaTypes

namespace Entries
variable {es : Entries} {key other : String} {v : Value}

/-- The mapping gives the attribute once, under the key. -/
structure Gives (es : Entries) (a : Checked.Attribute) (key : String) (v : Value) : Prop where
  spelling : key = a.inDocuments ∨ key = a.name
  mem : (.text key, v) ∈ es
  only : ∀ e ∈ es, e.1 = .text a.inDocuments ∨ e.1 = .text a.name → e = (.text key, v)

/-- The other entries. -/
def without (es : Entries) (key : String) : Entries := es.filter fun e => !e.1.sameKey (.text key)

theorem get?_without (h : other ≠ key) : (es.without key).get? other = es.get? other := by
  unfold get? find? without
  rw [List.find?_filter]
  congr 2
  funext e
  cases hsame : e.1.sameKey (.text other) with
  | false => simp
  | true =>
    have hkey : ¬ e.1.sameKey (.text key) := by
      rw [Scalar.sameKey_text.1 hsame, Scalar.sameKey_text]
      exact fun heq => h (Scalar.text.inj heq)
    simp [hkey]

theorem get_without (h : other ≠ key) : (es.without key).get other = es.get other := by
  rw [get, get, get?_without h]

theorem get?_without_self : (es.without key).get? key = none := by
  refine get?_eq_none fun e he hkey => ?_
  have hother := (List.mem_filter.1 he).2
  rw [hkey, Scalar.sameKey_text.2 rfl] at hother
  cases hother

namespace Gives
variable {a : Checked.Attribute}

theorem get?_key (h : es.Gives a key v) : es.get? key = some v := by
  obtain ⟨w, hw⟩ := Option.isSome_iff_exists.1 (get?_isSome.2 ⟨_, h.mem, rfl⟩)
  have hname : (Scalar.text key) = .text a.inDocuments ∨ (Scalar.text key) = .text a.name :=
    h.spelling.imp (congrArg _) (congrArg _)
  have heq := h.only _ (mem_of_get? hw) hname
  rw [hw, (Prod.mk.inj heq).2]

theorem get?_other (h : es.Gives a key v) (hother : other = a.inDocuments ∨ other = a.name)
    (hne : key ≠ other) : es.get? other = none := by
  refine get?_eq_none fun e he hkey => hne ?_
  have hname : e.1 = .text a.inDocuments ∨ e.1 = .text a.name := by
    rw [hkey]
    exact hother.imp (congrArg _) (congrArg _)
  rw [h.only e he hname] at hkey
  exact Scalar.text.inj hkey

theorem reverse (h : es.Gives a key v) : Gives es.reverse a key v :=
  ⟨h.spelling, List.mem_reverse.2 h.mem, fun e he => h.only e (List.mem_reverse.1 he)⟩

end Gives

end Entries

namespace Source
variable {raw config es : Entries} {d : Document} {s : Settings}

/-- The settings of the generator block. -/
def blockEntries (raw : Entries) : Except Mishap Entries :=
  match raw.get "generator" with
  | .mapping generator => ofGenerator generator
  | _ => .ok []

/-- The settings with the path of the schema, where none of them gives it. -/
def withPath (path : Value) (es : Entries) : Entries :=
  if path.isVoid || es.hasKey "schemaPath" then es else es.put (.text "schemaPath") path

theorem settingEntries_of_mapping (h : raw.get "config" = .mapping config) : settingEntries raw =
    (fun es => withPath (raw.get "schemaPath") (es.putAll config)) <$> blockEntries raw := by
  unfold settingEntries blockEntries
  rw [h]
  cases raw.get "generator" <;> rfl

theorem settingEntries_of_null (h : raw.get "config" = .null) :
    settingEntries raw = withPath (raw.get "schemaPath") <$> blockEntries raw := by
  unfold settingEntries blockEntries
  rw [h]
  cases raw.get "generator" <;> rfl

theorem get?_withPath (path : Value) (key : String) : (withPath path es).get? key =
    (es.get? key).or (if key = "schemaPath" ∧ ¬ path.isVoid then some path else none) := by
  unfold withPath
  by_cases hvoid : path.isVoid
  · simp [hvoid]
  · cases hkey : es.hasKey "schemaPath" with
    | true =>
      obtain ⟨v, hv⟩ := Option.isSome_iff_exists.1 hkey
      by_cases h : key = "schemaPath"
      · simp [h, hv]
      · simp [h]
    | false =>
      have hnone : es.get? "schemaPath" = none := Option.not_isSome_iff_eq_none.1 (ne_true_of_eq_false hkey)
      by_cases h : key = "schemaPath"
      · subst h
        simp [hvoid, hnone, Entries.get?_put, Scalar.sameKey_text.2]
      · have hother : ¬ (Scalar.text "schemaPath").sameKey (.text key) := by
          rw [Scalar.sameKey_text]
          exact fun heq => h (Scalar.text.inj heq).symm
        simp [hvoid, h, Entries.get?_put, hother]

/-- What `config` says counts before all other sources, key by key. -/
theorem settingEntries_eq_ok (hconfig : raw.get "config" = .mapping config)
    (h : settingEntries raw = .ok es) : ∃ others, settingEntries (raw.without "config") = .ok others ∧
      ∀ key, es.get? key = (Entries.get? config.reverse key).or (others.get? key) := by
  rw [settingEntries_of_mapping hconfig] at h
  obtain ⟨block, hblock, rfl⟩ := Traversal.map_eq_ok_iff.1 h
  have hnull : (raw.without "config").get "config" = .null := by
    rw [Entries.get, Entries.get?_without_self]
    rfl
  have hsame : blockEntries (raw.without "config") = blockEntries raw := by
    unfold blockEntries
    rw [Entries.get_without (by decide)]
  refine ⟨withPath (raw.get "schemaPath") block, ?_, fun key => ?_⟩
  · rw [settingEntries_of_null hnull, hsame, hblock, Entries.get_without (by decide)]
    rfl
  · rw [get?_withPath, get?_withPath, Entries.get?_putAll, Option.or_assoc]

theorem parse_eq_ok_settings (h : parse (.mapping raw) = .ok (d, s)) :
    ∃ es, settingEntries raw = .ok es ∧ Settings.check (.mapping es) = .good s := by
  change (schemaValue raw >>= _) = _ at h
  obtain ⟨v, -, h⟩ := Traversal.bind_eq_ok_iff.1 h
  obtain ⟨d', -, h⟩ := Traversal.bind_eq_ok_iff.1 h
  obtain ⟨es, hes, h⟩ := Traversal.bind_eq_ok_iff.1 h
  obtain ⟨s', hs, h⟩ := Traversal.bind_eq_ok_iff.1 h
  cases h
  exact ⟨es, Traversal.mapError_eq_ok_iff.1 hes, Checked.toExcept_eq_ok_iff.1
    (Traversal.mapError_eq_ok_iff.1 hs)⟩

/-- What `config` gives under the name in documents counts. What it gives under the other name counts
if no other source gives the attribute under the name in documents; else that is what counts. -/
theorem parse_config {a : Checked.Attribute} {key : String} {v : Value}
    (h : parse (.mapping raw) = .ok (d, s)) (hconfig : raw.get "config" = .mapping config)
    (ha : a ∈ Settings.attributes) (hgives : config.Gives a key v) :
    ∃ others, settingEntries (raw.without "config") = .ok others ∧
      (key = a.inDocuments ∨ others.get? a.inDocuments = none → s.Holds a v) ∧
      ∀ w, key ≠ a.inDocuments → others.get? a.inDocuments = some w → s.Holds a w := by
  obtain ⟨es, hes, hs⟩ := parse_eq_ok_settings h
  obtain ⟨others, hothers, hget⟩ := settingEntries_eq_ok hconfig hes
  have hkey : es.get? key = some v := by rw [hget, hgives.reverse.get?_key, Option.some_or]
  have hdocuments (hne : key ≠ a.inDocuments) : es.get? a.inDocuments = others.get? a.inDocuments := by
    rw [hget, hgives.reverse.get?_other (.inl rfl) hne, Option.none_or]
  refine ⟨others, hothers, fun hor => ?_, fun w hne hw => ?_⟩
  · by_cases heq : key = a.inDocuments
    · exact Settings.holds_of_check hs ha (Checked.Attribute.find?_of_get? (heq ▸ hkey))
    · have hnone : es.get? a.inDocuments = none := (hdocuments heq).trans (hor.resolve_left heq)
      have hname : key = a.name := hgives.spelling.resolve_left heq
      exact Settings.holds_of_check hs ha (Checked.Attribute.find?_of_name hnone (hname ▸ hkey))
  · have hfind := Checked.Attribute.find?_of_get? ((hdocuments hne).trans hw)
    exact Settings.holds_of_check hs ha hfind

/-- The generator block asks for one set of files per domain, and `config` for a single set. -/
def contested (name : String) : Entries := [
  (.text "models", .list []),
  (.text "generator", .record [("config", .record [("multiFileDomains", .bool true)])]),
  (.text "config", .record [(name, .bool false)])]

/-- Under the name in documents, `config` is heard. -/
theorem parse_config_single :
    let a : Checked.Attribute := ⟨"multi_file_domains", "multiFileDomains"⟩
    let config : Entries := [(.text "multiFileDomains", .bool false)]
    let raw := contested "multiFileDomains"
    ∃ d s others, (parse (.mapping raw) = .ok (d, s) ∧ raw.get "config" = .mapping config ∧
        a ∈ Settings.attributes ∧ config.Gives a "multiFileDomains" (.bool false)) ∧
      settingEntries (raw.without "config") = .ok others ∧ s.Holds a (.bool false) := by
  intro a config raw
  have hparse : parse (.mapping raw) = .ok ({}, {}) := rfl
  have hgives : config.Gives a "multiFileDomains" (.bool false) :=
    ⟨.inl rfl, List.mem_singleton_self _, fun e he _ => List.mem_singleton.1 he⟩
  have ha : a ∈ Settings.attributes := by decide
  obtain ⟨others, hothers, hholds, -⟩ := parse_config hparse rfl ha hgives
  exact ⟨{}, {}, others, ⟨hparse, rfl, ha, hgives⟩, hothers, hholds (.inl rfl)⟩

/-- Under the other name, `config` is not heard. -/
theorem parse_config_unheard :
    let a : Checked.Attribute := ⟨"multi_file_domains", "multiFileDomains"⟩
    let config : Entries := [(.text "multi_file_domains", .bool false)]
    let raw := contested "multi_file_domains"
    ∃ d s, parse (.mapping raw) = .ok (d, s) ∧ raw.get "config" = .mapping config ∧
      a ∈ Settings.attributes ∧ config.Gives a "multi_file_domains" (.bool false) ∧
      ¬ s.Holds a (.bool false) := by
  intro a config raw
  refine ⟨{}, { multiFileDomains := true }, rfl, rfl, by decide, ?_, ?_⟩
  · exact ⟨.inr rfl, List.mem_singleton_self _, fun e he _ => List.mem_singleton.1 he⟩
  · intro hholds
    have hsame : ({} : Settings) = { multiFileDomains := true } := Except.ok.inj hholds
    cases congrArg Settings.multiFileDomains hsame

end Source

end SchemaTypes
