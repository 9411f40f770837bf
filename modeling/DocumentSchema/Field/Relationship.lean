import DocumentSchema.Field.Mutation

/-!
# Relationship fields

A relationship adds a resolver to the object type, a field to the input type
and one argument to the mutation input: it attaches to a relationship with many
targets and replaces the target of a single one. Many targets can be sorted.
-/
namespace DocumentSchema

namespace Relationship

def type (r : Relationship) (u : Usage) : String :=
  if r.isArray then listOf (entityType r.target u) else entityType r.target u

def resolverArguments (r : Relationship) : List Sdl.Argument :=
  if r.isArray then
    [⟨"SORT", TypeName.sort r.target⟩, ⟨"SORTS", listOf (TypeName.sort r.target)⟩]
  else []

def resolver (name : String) (r : Relationship) : Sdl.Field :=
  ⟨name, r.resolverArguments, r.type .output⟩

def inputField (name : String) (r : Relationship) : Sdl.Field := .plain name (r.type .input)

def mutationArgument (name : String) (r : Relationship) : MutationArgument :=
  ⟨name, if r.isArray then .add else .setRelation, r.type .input⟩

end Relationship

end DocumentSchema
