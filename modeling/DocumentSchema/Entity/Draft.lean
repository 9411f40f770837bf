import DocumentSchema.Entity

/-!
# Building entities step by step

A draft starts from a name and takes entries one at a time. `Entity.build`
finishes it, which gives a stored entity its identifier.
-/
namespace DocumentSchema

inductive DraftEntry
  | field (name : String) (descriptor : Descriptor)
  | relationship (name : String) (relationship : Relationship)
  | resolvedField (name type : String)
  | manualArgument (name type : String)
  | overrideOperation (name : String)
  | schemaSource (name : String)
  | table (value : Bool)
  | usedInArray (value : Bool)

namespace Entity

/-- Adds an entry; one with a name in use takes the place of the earlier one. -/
def add (e : Entity) : DraftEntry → Entity
  | .field name d => { e with fields := e.fields.insert name d }
  | .relationship name r => { e with relationships := e.relationships.insert name r }
  | .resolvedField name type => { e with resolvedFields := e.resolvedFields.insert name type }
  | .manualArgument name type =>
    { e with manualArguments := e.manualArguments ++ [⟨name, type⟩] }
  | .overrideOperation name =>
    { e with extras := { e.extras with overrides := e.extras.overrides.insert name } }
  | .schemaSource name =>
    { e with extras := { e.extras with schemaSources := e.extras.schemaSources ++ [name] } }
  | .table value => { e with table := value }
  | .usedInArray value => { e with usedInArray := value }

def build (name : String) (entries : List DraftEntry) : Entity :=
  (entries.foldl add (empty name)).withIdentifier

end Entity

end DocumentSchema
