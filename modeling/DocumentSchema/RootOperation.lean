/-!
# Root operations

The operations that a stored entity gets on the `Query` and `Mutation` types.
Plurals are a literal `s` at the end.
-/
namespace DocumentSchema

inductive RootOperation
  | create
  | update
  | updateMany
  | updateBulk
  | delete
  | all
  | get
  deriving DecidableEq, Repr

namespace RootOperation

def mutations : List RootOperation := [create, update, updateMany, updateBulk, delete]

def queries : List RootOperation := [all, get]

def isMutation : RootOperation → Bool
  | all | get => false
  | _ => true

def name (entity : String) : RootOperation → String
  | create => "create" ++ entity
  | update => "update" ++ entity
  | updateMany => "update" ++ entity ++ "s"
  | updateBulk => "update" ++ entity ++ "sBulk"
  | delete => "delete" ++ entity
  | all => "all" ++ entity ++ "s"
  | get => "get" ++ entity

def label : RootOperation → String
  | create => "create"
  | update => "update"
  | updateMany => "updateMany"
  | updateBulk => "updateBulk"
  | delete => "delete"
  | all => "all"
  | get => "get"

theorem mem_mutations {op : RootOperation} : op ∈ mutations ↔ op.isMutation = true := by
  cases op <;> decide

theorem mem_queries {op : RootOperation} : op ∈ queries ↔ op.isMutation = false := by
  cases op <;> decide

end RootOperation

end DocumentSchema
