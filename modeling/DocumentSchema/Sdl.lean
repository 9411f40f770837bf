/-!
# Schema definition language

Declarations and operations as data, and the writer that lays them out. The
writer neither checks nor escapes what it is given.
-/
namespace DocumentSchema

namespace Sdl

structure Argument where
  name : String
  type : String
  deriving DecidableEq, Repr

/-- A field of a declaration; only fields of object types have arguments. -/
structure Field where
  name : String
  arguments : List Argument
  type : String
  deriving DecidableEq, Repr

inductive Kind
  | object
  | input
  deriving DecidableEq, Repr

structure Declaration where
  kind : Kind
  name : String
  fields : List Field
  deriving DecidableEq, Repr

structure Operation where
  name : String
  arguments : List Argument
  returns : String
  deriving DecidableEq, Repr

def Field.plain (name type : String) : Field := ⟨name, [], type⟩

def Argument.toField (a : Argument) : Field := .plain a.name a.type

def Declaration.field? (d : Declaration) (name : String) : Option Field :=
  d.fields.find? fun f => f.name = name

def Operation.argument? (op : Operation) (name : String) : Option Argument :=
  op.arguments.find? fun a => a.name = name

def Kind.keyword : Kind → String
  | object => "type"
  | input => "input"

def joinBlocks (blocks : List String) : String := "\n\n".intercalate blocks

structure Writer where
  indent : String

namespace Writer

def default : Writer := ⟨"  "⟩

def argument (a : Argument) : String := a.name ++ ": " ++ a.type

/-- One line of a declaration; arguments stand in parentheses on the same line. -/
def field (w : Writer) (f : Field) : String :=
  w.indent ++ f.name ++
    (if f.arguments.isEmpty then "" else "(" ++ ", ".intercalate (f.arguments.map argument) ++ ")") ++
    ": " ++ f.type ++ "\n"

def declaration (w : Writer) (d : Declaration) : String :=
  d.kind.keyword ++ " " ++ d.name ++ " \x7b\n" ++ String.join (d.fields.map w.field) ++ "\x7d"

def declarations (w : Writer) (ds : List Declaration) : String := joinBlocks (ds.map w.declaration)

/-- An operation puts each of its arguments on a line of its own. -/
def operation (w : Writer) (op : Operation) : String :=
  if op.arguments.isEmpty then w.indent ++ op.name ++ ": " ++ op.returns
  else
    w.indent ++ op.name ++ "(\n" ++
      String.join (op.arguments.map fun a => w.indent ++ w.indent ++ argument a ++ "\n") ++
      w.indent ++ "): " ++ op.returns

def operations (w : Writer) (ops : List Operation) : String := joinBlocks (ops.map w.operation)

def rootType (name : String) (blocks : List String) : String :=
  "type " ++ name ++ " \x7b\n\n" ++ joinBlocks blocks ++ "\n\n\x7d"

end Writer

end Sdl

end DocumentSchema
