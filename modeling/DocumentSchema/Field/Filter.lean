import DocumentSchema.Entity
import DocumentSchema.Sdl

/-!
# Filter arguments

Every field adds optional arguments to the filter input of its entity. An
argument is named by the field and a suffix for its operator, and its type is
one of the few shapes of `FilterType`.
-/
namespace DocumentSchema

inductive FilterOp
  | eq
  | ne
  | oneOf
  | contains
  | startsWith
  | endsWith
  | regex
  | textContains
  | lt
  | lte
  | gt
  | gte
  | elementLt
  | elementLte
  | elementGt
  | elementGte
  | containsAny
  | count
  | nested
  deriving DecidableEq, Repr

def FilterOp.suffix : FilterOp → String
  | eq | nested => ""
  | ne => "_ne"
  | oneOf => "_in"
  | contains => "_contains"
  | startsWith => "_startsWith"
  | endsWith => "_endsWith"
  | regex => "_regex"
  | textContains => "_textContains"
  | lt => "_lt"
  | lte => "_lte"
  | gt => "_gt"
  | gte => "_gte"
  | elementLt => "_emlt"
  | elementLte => "_emlte"
  | elementGt => "_emgt"
  | elementGte => "_emgte"
  | containsAny => "_containsAny"
  | count => "_count"

inductive FilterType
  | int
  | float
  | string
  | boolean
  | json
  | filters (entity : String)
  | list (element : FilterType)
  deriving DecidableEq, Repr

def FilterType.text : FilterType → String
  | int => "Int"
  | float => "Float"
  | string => "String"
  | boolean => "Boolean"
  | json => "JSON"
  | filters entity => TypeName.filters entity
  | list element => listOf element.text

structure FilterArgument where
  field : String
  op : FilterOp
  type : FilterType
  deriving DecidableEq, Repr

namespace FilterArgument

def name (a : FilterArgument) : String := a.field ++ a.op.suffix

def toArgument (a : FilterArgument) : Sdl.Argument := ⟨a.name, a.type.text⟩

end FilterArgument

/-- Operators with the type each of them takes. -/
abbrev FilterBlock := List (FilterOp × FilterType)

namespace FilterBlock

def equality (t : FilterType) : FilterBlock := [(.eq, t), (.ne, t), (.oneOf, .list t)]

def order (t : FilterType) : FilterBlock := [(.lt, t), (.lte, t), (.gt, t), (.gte, t)]

/-- Bounds that one element has to meet together. -/
def elementOrder (t : FilterType) : FilterBlock :=
  [(.elementLt, t), (.elementLte, t), (.elementGt, t), (.elementGte, t)]

def text (search : FilterOp) : FilterBlock :=
  [(search, .string), (.startsWith, .string), (.endsWith, .string), (.regex, .string)]

def array (t : FilterType) : FilterBlock :=
  [(.eq, .list t), (.oneOf, .list (.list t)), (.contains, t), (.containsAny, .list t),
    (.ne, .list t)]

def count : FilterBlock := [(.count, .int)]

/-- The operators of a descriptor, unless it is unsupported; a literal has none. -/
def ofDescriptor? : Descriptor → Option FilterBlock
  | .scalar .bool => some (equality .boolean)
  | .scalar .string => some (text .contains ++ equality .string)
  | .scalar .int => some (order .int ++ equality .int)
  | .scalar .float => some (order .float ++ equality .float)
  | .date => some (order .string ++ equality .string)
  | .scalar .id => some (equality .string)
  | .scalar .json => some [(.eq, .json), (.ne, .json)]
  | .scalarArray .int => some (count ++ order .int ++ elementOrder .int ++ array .int)
  | .scalarArray .float => some (count ++ order .float ++ elementOrder .float ++ array .float)
  | .scalarArray .string => some (count ++ text .textContains ++ array .string)
  | .scalarArray .id => some (array .string)
  | .object entity | .objectArray entity => some (count ++ [(.nested, .filters entity)])
  | .literal _ => some []
  | .unsupported _ => none

end FilterBlock

def filterArguments? (field : String) (d : Descriptor) : Option (List FilterArgument) :=
  (FilterBlock.ofDescriptor? d).map fun ops => ops.map fun (op, type) => ⟨field, op, type⟩

theorem filterArguments?_isSome (field : String) (d : Descriptor) :
    (filterArguments? field d).isSome = d.isSupported := by
  cases d with
  | scalar kind => cases kind <;> rfl
  | scalarArray kind => cases kind <;> rfl
  | _ => rfl

theorem field_of_mem_filterArguments? {field : String} {d : Descriptor}
    {args : List FilterArgument} (h : filterArguments? field d = some args)
    {a : FilterArgument} (ha : a ∈ args) : a.field = field := by
  obtain ⟨ops, -, rfl⟩ := Option.map_eq_some_iff.1 h
  obtain ⟨op, -, rfl⟩ := List.mem_map.1 ha
  rfl

end DocumentSchema
