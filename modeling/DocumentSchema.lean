import DocumentSchema.Json.Reader
import DocumentSchema.Json.Printer
import DocumentSchema.Entity.Codec
import DocumentSchema.Entity.Draft
import DocumentSchema.Schema.Document
import DocumentSchema.Instant
import DocumentSchema.Pattern.Property
import DocumentSchema.Pattern.Parser
import DocumentSchema.Pattern.Meaning
import DocumentSchema.Pattern.Search
import DocumentSchema.Pattern.Compile
import DocumentSchema.Collection
import DocumentSchema.Settings.File
import DocumentSchema.Proofs.Schema.TypeNames
import DocumentSchema.Proofs.Schema.Closure
import DocumentSchema.Proofs.Schema.NameClash
import DocumentSchema.Proofs.Filter.Compile
import DocumentSchema.Proofs.Filter.Conjunction
import DocumentSchema.Proofs.Filter.Declared
import DocumentSchema.Proofs.Filter.Typing
import DocumentSchema.Proofs.Filter.Conformance
import DocumentSchema.Proofs.Schema.Independence
import DocumentSchema.Proofs.Schema.Strictness
import DocumentSchema.Proofs.Schema.Omission
import DocumentSchema.Proofs.Schema.OperationNames
import DocumentSchema.Proofs.Schema.OperatorNames
import DocumentSchema.Proofs.Filter.Indistinguishable
import DocumentSchema.Proofs.Sdl.Legible
import DocumentSchema.Proofs.Sdl.Writer
import DocumentSchema.Proofs.Sdl.Blocks
import DocumentSchema.Proofs.Schema.Tokens
import DocumentSchema.Proofs.Schema.Text
import DocumentSchema.Proofs.Descriptor
import DocumentSchema.Proofs.Entity.Draft
import DocumentSchema.Proofs.Schema.Extensions
import DocumentSchema.Proofs.Schema.Growth
import DocumentSchema.Proofs.Schema.Bodies
import DocumentSchema.Proofs.Schema.OutputNames
import DocumentSchema.Proofs.Double
import DocumentSchema.Proofs.Filter.OwnArguments
import DocumentSchema.Proofs.Filter.Integers
import DocumentSchema.Proofs.Filter.Nulls
import DocumentSchema.Proofs.Filter.Nested
import DocumentSchema.Proofs.Filter.OwnValues
import DocumentSchema.Proofs.Filter.Spelling
import DocumentSchema.Proofs.Filter.FieldTests
import DocumentSchema.Proofs.Collection
import DocumentSchema.Proofs.Filter.Complement
import DocumentSchema.Proofs.Filter.Membership
import DocumentSchema.Proofs.Order
import DocumentSchema.Proofs.Filter.Bounds
import DocumentSchema.Proofs.Filter.ElementBounds
import DocumentSchema.Proofs.Filter.Dates
import DocumentSchema.Proofs.Filter.TextHierarchy
import DocumentSchema.Proofs.Schema.Symmetry
import DocumentSchema.Proofs.Schema.Identifier
import DocumentSchema.Proofs.Filter.Forms
import DocumentSchema.Proofs.Catalog.Insertion
import DocumentSchema.Proofs.Equality
