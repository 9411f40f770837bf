import DocumentSchema.Json.Printer

/-!
# Type descriptors

A field's descriptor says what the field holds. It is written as one of eleven
tokens, or as an object with the single member `object`, `arrayOf` or
`literal`. Anything else is kept as an unsupported descriptor with its text.
-/
namespace DocumentSchema

inductive ScalarKind
  | id
  | string
  | int
  | float
  | bool
  | json
  deriving DecidableEq, Repr

inductive ElementKind
  | string
  | int
  | float
  | id
  deriving DecidableEq, Repr

inductive Descriptor
  | scalar (kind : ScalarKind)
  | scalarArray (kind : ElementKind)
  | date
  | object (entity : String)
  | objectArray (entity : String)
  | literal (type : String)
  | unsupported (raw : String)
  deriving DecidableEq, Repr

namespace ScalarKind

def typeName : ScalarKind → String
  | id | string => "String"
  | int => "Int"
  | float => "Float"
  | bool => "Boolean"
  | json => "JSON"

def token : ScalarKind → String
  | id => "MongoId"
  | string => "String"
  | int => "Int"
  | float => "Float"
  | bool => "Boolean"
  | json => "JSON"

end ScalarKind

namespace ElementKind

def typeName : ElementKind → String
  | string | id => "String"
  | int => "Int"
  | float => "Float"

/-- The input type that updates one element at an index. -/
def arrayUpdate : ElementKind → String
  | string | id => "StringArrayUpdate"
  | int => "IntArrayUpdate"
  | float => "FloatArrayUpdate"

def token : ElementKind → String
  | string => "StringArray"
  | int => "IntArray"
  | float => "FloatArray"
  | id => "MongoIdArray"

end ElementKind

namespace Descriptor

def isDate : Descriptor → Bool
  | date => true
  | _ => false

def isJson : Descriptor → Bool
  | scalar .json => true
  | _ => false

def isSupported : Descriptor → Bool
  | unsupported _ => false
  | _ => true

def target? : Descriptor → Option String
  | object entity | objectArray entity => some entity
  | _ => none

def token? : Descriptor → Option String
  | scalar kind => some kind.token
  | scalarArray kind => some kind.token
  | date => some "Date"
  | _ => none

def ofToken (token : String) : Descriptor :=
  match token with
  | "MongoId" => scalar .id
  | "String" => scalar .string
  | "Int" => scalar .int
  | "Float" => scalar .float
  | "Boolean" => scalar .bool
  | "JSON" => scalar .json
  | "Date" => date
  | "StringArray" => scalarArray .string
  | "IntArray" => scalarArray .int
  | "FloatArray" => scalarArray .float
  | "MongoIdArray" => scalarArray .id
  | other => unsupported other

def text : Descriptor → String
  | scalar kind => kind.token
  | scalarArray kind => kind.token
  | date => "Date"
  | object entity => "object(" ++ entity ++ ")"
  | objectArray entity => "arrayOf(" ++ entity ++ ")"
  | literal type => "literal(" ++ type ++ ")"
  | unsupported raw => "unsupported(" ++ raw ++ ")"

/-- The written form; what is unsupported is written as its text. -/
def toJson : Descriptor → Json
  | object entity => .object [("object", .string entity)]
  | objectArray entity => .object [("arrayOf", .string entity)]
  | literal type => .object [("literal", .string type)]
  | unsupported raw => .string raw
  | d => .string d.text

def ofMember? (key text : String) : Option Descriptor :=
  match key with
  | "object" => some (object text)
  | "arrayOf" => some (objectArray text)
  | "literal" => some (literal text)
  | _ => none

/-- A tree of no known form is unsupported; its text is that of the value it denotes. -/
def ofOther? (j : Json) : Option Descriptor := (Value.ofJson? j).map fun v => unsupported v.print

/-- Reads any tree that denotes a value. -/
def ofJson? : Json → Option Descriptor
  | .string token => some (ofToken token)
  | .object [(key, .string text)] =>
    match ofMember? key text with
    | some d => some d
    | none => ofOther? (.object [(key, .string text)])
  | j => ofOther? j

theorem ofToken_token_scalar (kind : ScalarKind) : ofToken kind.token = scalar kind := by
  cases kind <;> rfl

theorem ofToken_token_array (kind : ElementKind) : ofToken kind.token = scalarArray kind := by
  cases kind <;> rfl

end Descriptor

end DocumentSchema
