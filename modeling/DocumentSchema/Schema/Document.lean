import DocumentSchema.Schema
import DocumentSchema.Catalog

/-!
# Schema documents

A catalog's document has the shared prelude, the declarations of every entity
in catalog order, and the root types with the operations of all stored
entities.
-/
namespace DocumentSchema

structure SchemaDocument where
  entities : List EntitySchema
  writer : Sdl.Writer
  emitPrelude : Bool

namespace Sdl

/-- Declarations that generated types refer to and no entity owns. -/
def preludeDeclarations : List Declaration :=
  let arrayUpdate (name element : String) : Declaration :=
    ⟨.input, name, [.plain "index" "Int", .plain "value" element]⟩
  [⟨.object, TypeName.queryResultsMetadata, [.plain "count" "Int"]⟩,
    arrayUpdate "StringArrayUpdate" "String",
    arrayUpdate "IntArrayUpdate" "Int",
    arrayUpdate "FloatArrayUpdate" "Float"]

def Writer.prelude (w : Writer) : String :=
  "scalar JSON\n\n" ++ w.declarations preludeDeclarations

end Sdl

namespace Catalog

/-- An entity of the catalog, marked when some entity embeds arrays of it. -/
def mark (c : Catalog) (e : Entity) : Entity :=
  if c.arrayTargets.contains e.name then { e with usedInArray := true } else e

/-- The document of a catalog. Settings are checked first, then the catalog, then each entity. -/
def document (c : Catalog) (settings : Settings) (source : FragmentSource) :
    Except SchemaError SchemaDocument :=
  match settings.validate with
  | .error fault => .error (.settings fault)
  | .ok () =>
    match c.validate with
    | .error fault => .error (.model fault)
    | .ok () => do
      let entities ← c.entities.mapM fun e => (c.mark e).schema settings.strict source
      return ⟨entities, ⟨settings.indent⟩, settings.emitPrelude⟩

end Catalog

namespace SchemaDocument

def entity? (d : SchemaDocument) (name : String) : Option EntitySchema :=
  d.entities.find? fun e => e.name = name

def diagnostics (d : SchemaDocument) : List Diagnostic :=
  d.entities.flatMap EntitySchema.diagnostics

def rendered (d : SchemaDocument) : List RenderedEntity :=
  d.entities.map fun e => e.render d.writer

/-- A root type around the blocks it holds; an empty one is left out. -/
def rootType (name : String) (blocks : List String) : List String :=
  if blocks.isEmpty then [] else [Sdl.Writer.rootType name blocks]

def text (d : SchemaDocument) : String :=
  Sdl.joinBlocks
    ((if d.emitPrelude then [d.writer.prelude] else []) ++
      d.rendered.map RenderedEntity.types ++
      rootType "Query" (d.rendered.filterMap RenderedEntity.query) ++
      rootType "Mutation" (d.rendered.filterMap RenderedEntity.mutation))

end SchemaDocument

end DocumentSchema
