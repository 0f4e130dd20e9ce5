import ShapeSchema.Regex.Footprint
import ShapeSchema.Regex.Match
import ShapeSchema.Regex.Meaning
import ShapeSchema.Regex.Parser

/-!
# `ShapeSchema.Regex.Pattern`: compiled patterns

`Regex.compile` reads a pattern, resolves its flags and checks its size; `Regex.isMatch` searches a
text. A pattern that is rejected comes back with its error, `Error.render` of which is the text to
show.
-/

set_option autoImplicit false

namespace ShapeSchema

/-- A pattern that was accepted, with its source. -/
structure Regex where
  source : String
  core : Regex.Core
  deriving Repr

namespace Regex

/-- Compiles a pattern, which has to be well-formed and not too big. -/
def compile (source : String) : Except Error Regex := do
  let ast ← (parse source).mapError .malformed
  let core ← ast.core.mapError .malformed
  if core.fits then return ⟨source, core⟩ else throw (.tooBig sizeLimit)

/-- Some part of the text matches. -/
def isMatch (r : Regex) (text : String) : Bool := r.core.isFoundIn text

end Regex

end ShapeSchema
