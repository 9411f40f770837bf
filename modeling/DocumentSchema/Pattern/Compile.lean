import DocumentSchema.Pattern.Parser
import DocumentSchema.Pattern.Meaning
import DocumentSchema.Pattern.Size

/-!
# Patterns from text
-/
namespace DocumentSchema

/-- The pattern that a text spells, if it is well formed, has a meaning and is not too large. -/
def Pattern.compile (text : String) : Option Pattern := do
  let e ← Pattern.Expr.parse? text
  let (p, _) ← e.meaning? .initial
  if p.fits then some p else none

end DocumentSchema
