import DocumentSchema.Entity
import DocumentSchema.Sdl

/-!
# Read types

The type a field has where it is read, on object types and on input types.
Dates and identifiers are strings; embedded entities have an input type of
their own.
-/
namespace DocumentSchema

inductive Usage
  | output
  | input
  deriving DecidableEq, Repr

def entityType (entity : String) : Usage → String
  | .output => entity
  | .input => TypeName.input entity

def readType? (u : Usage) : Descriptor → Option String
  | .date => some "String"
  | .scalar kind => some kind.typeName
  | .scalarArray kind => some (listOf kind.typeName)
  | .object entity => some (entityType entity u)
  | .objectArray entity => some (listOf (entityType entity u))
  | .literal type => some type
  | .unsupported _ => none

theorem readType?_isSome (u : Usage) (d : Descriptor) :
    (readType? u d).isSome = d.isSupported := by
  cases d <;> rfl

end DocumentSchema
