import DocumentSchema.Field.ReadType

/-!
# Mutation arguments

Every field adds arguments to the mutation input of its entity, each named by
the field and a suffix for its operator. Increments are whole numbers, also of
fields that are not.
-/
namespace DocumentSchema

/-- `add` and `setRelation` belong to relationships, the other operators to fields. -/
inductive MutationOp
  | set
  | increment
  | decrement
  | push
  | concat
  | update
  | updates
  | pull
  | addToSet
  | add
  | setRelation
  deriving DecidableEq, Repr

def MutationOp.suffix : MutationOp → String
  | set => ""
  | increment => "_INC"
  | decrement => "_DEC"
  | push => "_PUSH"
  | concat => "_CONCAT"
  | update => "_UPDATE"
  | updates => "_UPDATES"
  | pull => "_PULL"
  | addToSet => "_ADDTOSET"
  | add => "_ADD"
  | setRelation => "_SET"

structure MutationArgument where
  field : String
  op : MutationOp
  type : String
  deriving DecidableEq, Repr

namespace MutationArgument

def name (a : MutationArgument) : String := a.field ++ a.op.suffix

def toArgument (a : MutationArgument) : Sdl.Argument := ⟨a.name, a.type⟩

end MutationArgument

/-- Operators with the type each of them takes. -/
abbrev MutationBlock := List (MutationOp × String)

namespace MutationBlock

def number (type : String) : MutationBlock :=
  [(.set, type), (.increment, "Int"), (.decrement, "Int")]

def scalarArray (kind : ElementKind) : MutationBlock :=
  [(.set, listOf kind.typeName), (.push, kind.typeName), (.concat, listOf kind.typeName),
    (.update, kind.arrayUpdate), (.updates, listOf kind.arrayUpdate),
    (.pull, listOf kind.typeName), (.addToSet, listOf kind.typeName)]

def objectArray (entity : String) : MutationBlock :=
  [(.set, listOf (TypeName.input entity)), (.push, TypeName.input entity),
    (.concat, listOf (TypeName.input entity)), (.update, TypeName.arrayMutationInput entity),
    (.updates, listOf (TypeName.arrayMutationInput entity)), (.pull, TypeName.filters entity)]

def object (entity : String) : MutationBlock :=
  [(.set, TypeName.input entity), (.update, TypeName.mutationInput entity)]

/-- The operators of a descriptor, unless it is unsupported; the first one assigns. -/
def ofDescriptor? : Descriptor → Option MutationBlock
  | .date => some [(.set, "String")]
  | .scalar .int => some (number "Int")
  | .scalar .float => some (number "Float")
  | .scalar kind => some [(.set, kind.typeName)]
  | .scalarArray kind => some (scalarArray kind)
  | .objectArray entity => some (objectArray entity)
  | .object entity => some (object entity)
  | .literal type => some [(.set, type)]
  | .unsupported _ => none

end MutationBlock

def mutationArguments? (field : String) (d : Descriptor) : Option (List MutationArgument) :=
  (MutationBlock.ofDescriptor? d).map fun ops => ops.map fun (op, type) => ⟨field, op, type⟩

theorem mutationArguments?_isSome (field : String) (d : Descriptor) :
    (mutationArguments? field d).isSome = d.isSupported := by
  cases d with
  | scalar kind => cases kind <;> rfl
  | _ => rfl

end DocumentSchema
