import SchemaTypes.Proofs.Traversal
import SchemaTypes.Source.Loading

/-!
# How reading a document fails

A document that is there is refused with a load failure, or a step that takes the shape of a value for
granted meets another shape. No step of loading and parsing fails in any other way
(`load_parse_eq_error`).
-/

namespace SchemaTypes

/-- Reading a document fails in this way. -/
inductive Failure.OfReading : Failure → Prop
  | load (x : LoadFailure) : OfReading (.load x)
  | mishap (m : Mishap) : OfReading (.mishap m)

variable {f : Failure} {disk : Disk} {path : Path}

namespace Failure.OfReading

theorem of_mapError {α : Type} {x : Except Mishap α} (h : x.mapError Failure.mishap = .error f) :
    f.OfReading := by
  obtain ⟨m, -, rfl⟩ := Traversal.mapError_eq_error_iff.1 h
  exact .mishap m

theorem of_bind {α β : Type} {x : Except Failure α} {k : α → Except Failure β}
    (hx : ∀ f, x = .error f → f.OfReading) (hk : ∀ a f, k a = .error f → f.OfReading)
    (h : x >>= k = .error f) : f.OfReading := by
  rcases Traversal.bind_eq_error_iff.1 h with h | ⟨a, -, h⟩
  · exact hx f h
  · exact hk a f h

theorem of_mapM {α β : Type} {k : α → Except Failure β} {xs : List α}
    (hk : ∀ a f, k a = .error f → f.OfReading) (h : xs.mapM k = .error f) : f.OfReading := by
  obtain ⟨a, -, h⟩ := Traversal.exists_of_eq_error h
  exact hk a f h

end Failure.OfReading

open Failure

/-! ### Datamodels -/

namespace Datamodel

theorem field_eq_error (model v : Value) (f : Failure) (h : field model v = .error f) : f.OfReading := by
  unfold field at h
  split at h
  · dsimp only at h
    split at h
    · cases h
    · cases h
    · cases h
    · cases h
      exact .load _
  · cases h
    exact .mishap _

theorem model_eq_error (v : Value) (f : Failure) (h : model v = .error f) : f.OfReading := by
  refine OfReading.of_bind (fun f => OfReading.of_mapError) (fun es f h => ?_) h
  refine OfReading.of_bind (fun f => OfReading.of_mapError) (fun vs f h => ?_) h
  refine OfReading.of_bind (fun f => OfReading.of_mapM (field_eq_error _)) (fun fields f h => ?_) h
  cases h

theorem normalized_eq_error {v : Value} (h : normalized v = .error f) : f.OfReading := by
  refine OfReading.of_bind (fun f => OfReading.of_mapError) (fun es f h => ?_) h
  refine OfReading.of_bind (fun f => OfReading.of_mapError) (fun vs f h => ?_) h
  refine OfReading.of_bind (fun f => OfReading.of_mapM model_eq_error) (fun models f h => ?_) h
  refine OfReading.of_bind (fun f => OfReading.of_mapError) (fun vs f h => ?_) h
  refine OfReading.of_bind (fun f => OfReading.of_mapError) (fun enums f h => ?_) h
  cases h

end Datamodel

/-! ### Documents -/

namespace Source

theorem schemaValue_eq_error {raw : Entries} (f : Failure) (h : schemaValue raw = .error f) :
    f.OfReading := by
  unfold schemaValue at h
  dsimp only at h
  split at h
  · exact Datamodel.normalized_eq_error h
  · split at h
    · cases h
    · cases h
      exact .load _

theorem parse_eq_error {v : Value} (h : parse v = .error f) : f.OfReading := by
  have hissues {α : Type} {c : Checked α} {g : List Issue → LoadFailure} (f : Failure)
      (h : (c.toExcept.mapError fun is => .load (g is)) = .error f) : f.OfReading := by
    obtain ⟨is, -, rfl⟩ := Traversal.mapError_eq_error_iff.1 h
    exact .load _
  refine OfReading.of_bind (fun f => OfReading.of_mapError) (fun es f h => ?_) h
  refine OfReading.of_bind schemaValue_eq_error (fun value f h => ?_) h
  refine OfReading.of_bind hissues (fun d f h => ?_) h
  refine OfReading.of_bind (fun f => OfReading.of_mapError) (fun entries f h => ?_) h
  refine OfReading.of_bind hissues (fun s f h => ?_) h
  cases h

theorem mappingOnly_eq_error {what : String} {v : Value} (h : mappingOnly what v = .error f) :
    f.OfReading := by
  unfold mappingOnly at h
  split at h
  · cases h
  · cases h
    exact .load _

theorem read_eq_error (format : Format) (cs : List Char) (f : Failure) (h : read format path cs = .error f) :
    f.OfReading := by
  unfold read at h
  split at h
  · split at h
    · cases h
      exact .load _
    · split at h
      · cases h
        exact .mishap _
      · exact mappingOnly_eq_error h
  · split at h
    · cases h
      exact .load _
    · cases h
      exact .mishap _
    · exact mappingOnly_eq_error h

theorem load_eq_error (hfile : disk.hasFile path) (h : load disk path = .error f) : f.OfReading := by
  have hhas : disk.has path := by
    obtain ⟨x, hx, -⟩ := (Option.any_eq_true _ _).1 hfile
    exact Option.isSome_iff_exists.2 ⟨x, hx⟩
  have hcharacters (f : Failure) (h : characters disk path = .error f) : f.OfReading := by
    unfold characters at h
    split at h
    · cases h
      exact .mishap _
    · split at h
      · cases h
        exact .mishap _
      · cases h
  unfold load at h
  rw [hhas, hfile] at h
  exact OfReading.of_bind hcharacters (fun cs f h => read_eq_error _ cs f h) h

/-- A document that is there is refused, or a value in it has another shape than a step takes for
granted. -/
theorem load_parse_eq_error (hfile : disk.hasFile path) (h : load disk path >>= parse = .error f) :
    f.OfReading :=
  OfReading.of_bind (fun _ h => load_eq_error hfile h) (fun _ _ h => parse_eq_error h) h

end Source

end SchemaTypes
