/-!
# Names

The names a schema may use, and the names of the types that are generated for
an entity: a fixed ending on the entity's name.
-/
namespace DocumentSchema

def isNameStart (c : Char) : Bool := c = '_' || c.isAlpha

def isNamePart (c : Char) : Bool := c = '_' || c.isAlphanum

/-- A name is made of ASCII letters, digits and underscores and does not start with a digit. -/
def isName (s : String) : Bool :=
  match s.toList with
  | [] => false
  | c :: cs => isNameStart c && cs.all isNamePart

def listOf (type : String) : String := "[" ++ type ++ "]"

namespace TypeName

def input (entity : String) : String := entity ++ "Input"

def mutationInput (entity : String) : String := entity ++ "MutationInput"

def arrayMutationInput (entity : String) : String := entity ++ "ArrayMutationInput"

def sort (entity : String) : String := entity ++ "Sort"

def filters (entity : String) : String := entity ++ "Filters"

def queryResults (entity : String) : String := entity ++ "QueryResults"

def singleQueryResult (entity : String) : String := entity ++ "SingleQueryResult"

def mutationResult (entity : String) : String := entity ++ "MutationResult"

def mutationResultMulti (entity : String) : String := entity ++ "MutationResultMulti"

def bulkMutationResult (entity : String) : String := entity ++ "BulkMutationResult"

/-- The paging metadata shared by all query results. -/
def queryResultsMetadata : String := "QueryResultsMetadata"

end TypeName

end DocumentSchema
