import SchemaTypes.Command.Reach
import SchemaTypes.Proofs.Overriding

/-!
# The settings of a run

Options go before the settings of the document, and the result is checked once more. That check finds
nothing new but an empty runtime module (`overridden_eq_good`, `exists_overridden_iff`): all other values
of options are in order, and so are settings that have been checked before.
-/

namespace SchemaTypes

namespace Command.Options
open Settings

variable {o : Options} {s : Settings} {path : Path}

theorem get?_given (o : Options) :
    o.overrides.given.get? "output" = o.output.map .text ∧
    o.overrides.given.get? "multi_file_domains" = (if o.multiDomain then some (.bool true) else none) ∧
    o.overrides.given.get? "runtime_module" = o.runtimeModule.map .text ∧
    o.overrides.given.get? "preview_features" = none ∧ o.overrides.given.get? "schema_path" = none ∧
    o.overrides.given.get? "clean_output" = (if o.clean then some (.bool true) else none) := by
  obtain ⟨_, output, _, _, multiDomain, runtimeModule, clean, _, _⟩ := o
  cases output <;> cases multiDomain <;> cases runtimeModule <;> cases clean <;>
    exact ⟨rfl, rfl, rfl, rfl, rfl, rfl⟩

end Command.Options

end SchemaTypes
