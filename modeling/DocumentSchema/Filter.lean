import DocumentSchema.Filter.Matcher
import DocumentSchema.Field.Filter
import DocumentSchema.Catalog
import DocumentSchema.Pattern.Compile

/-!
# Filters

Filter arguments are compiled into a matcher. They are the fields of the
entity's filter input: each name has to be one that the entity generates, each
value has to be of the argument's type, and a null is as good as no argument.
Arguments are taken in the order of their names, and the first fault counts.
-/
namespace DocumentSchema

inductive FilterError
  | unknownEntity (name : String)
  | unknownArgument (entity argument : String)
  | invalidValue (argument expected : String)
  | invalidPattern (argument : String)
  deriving DecidableEq, Repr

def FilterError.message : FilterError → String
  | unknownEntity name => "Unknown entity: " ++ name
  | unknownArgument entity argument =>
    "Unknown filter argument " ++ argument ++ " for " ++ entity
  | invalidValue argument expected =>
    "Invalid value for " ++ argument ++ ": expected " ++ expected
  | invalidPattern argument => "Invalid regular expression for " ++ argument

/-- Whether a value is of the type of an argument. Only numbers written as integers are. -/
def FilterType.admits : FilterType → Value → Bool
  | int, .number (.int _) => true
  | float, .number _ => true
  | string, .string _ => true
  | boolean, .bool _ => true
  | json, _ => true
  | filters _, .object _ => true
  | list element, .array items => items.all element.admits
  | _, _ => false

namespace Filter

def orName : String := "OR"

/-- A filter argument of an entity with the descriptor of its field. -/
structure Offer where
  argument : FilterArgument
  descriptor : Descriptor

def offersOf (field : String) (d : Descriptor) : List Offer :=
  ((filterArguments? field d).getD []).map fun a => ⟨a, d⟩

def offers (e : Entity) : List Offer := e.fields.entries.flatMap fun f => offersOf f.1 f.2

/-- The argument of a name; of several that share it the last one. -/
def offer? (e : Entity) (name : String) : Option Offer :=
  (offers e).reverse.find? fun o => o.argument.name = name

def isDate : Value → Bool
  | .string s => (Instant.parse s).isSome
  | _ => false

def areDates : Value → Bool
  | .array items => items.all isDate
  | v => isDate v

def comparison? : FilterOp → Option Comparison
  | .lt | .elementLt => some .lt
  | .lte | .elementLte => some .lte
  | .gt | .elementGt => some .gt
  | .gte | .elementGte => some .gte
  | _ => none

/-- What one argument contributes to a matcher. -/
inductive Part
  | nothing
  | test (field : String) (t : Test)
  | elementBound (field : String) (b : Bound)
  | embedded (field : String) (m : Matcher)
  | alternatives (ms : List Matcher)

/-- The bounds for elements, those for one field together. -/
def groupBounds (bounds : List (String × Bound)) : List (String × Test) :=
  ((bounds.map Prod.fst).eraseDups).map fun field =>
    (field, .elementMatch ((bounds.filter fun b => b.1 = field).map Prod.snd))

/-- Joins parts into the matcher that asks for all of them. -/
def ofParts (parts : List Part) : Matcher :=
  let tests := parts.filterMap fun
    | .test field t => some (field, t)
    | _ => none
  let bounds := parts.filterMap fun
    | .elementBound field b => some (field, b)
    | _ => none
  let embedded := parts.filterMap fun
    | .embedded field m => some (field, m)
    | _ => none
  let alternatives := parts.flatMap fun
    | .alternatives ms => ms
    | _ => []
  ⟨tests ++ groupBounds bounds, embedded, alternatives⟩

/-- The part of an argument with a conforming value, except for embedded documents. -/
def part (name : String) (o : Offer) (v : Value) : Except FilterError Part :=
  let field := o.argument.field
  let date := o.descriptor.isDate
  let text (mode : TextMode) : Except FilterError Part :=
    match v with
    | .string s => .ok (.test field (.text mode s))
    | _ => .ok .nothing
  match o.argument.op with
  | .eq => .ok (.test field (.equals v date false))
  | .ne => .ok (.test field (.equals v date true))
  | .oneOf => .ok (.test field (.oneOf v.elements date))
  | .contains =>
    match o.descriptor with
    | .scalarArray _ => .ok (.test field (.containsElement v))
    | _ => text .contains
  | .textContains => text .contains
  | .startsWith => text .startsWith
  | .endsWith => text .endsWith
  | .regex =>
    match v with
    | .string s =>
      match Pattern.compile s with
      | some p => .ok (.test field (.pattern p))
      | none => .error (.invalidPattern name)
    | _ => .ok .nothing
  | .containsAny => .ok (.test field (.containsAny v.elements))
  | .count =>
    match v with
    | .number (.int n) =>
      if 0 ≤ n then .ok (.test field (.count n.toNat))
      else .error (.invalidValue name "non-negative Int")
    | _ => .error (.invalidValue name "non-negative Int")
  | .lt | .lte | .gt | .gte =>
    match comparison? o.argument.op with
    | some c => .ok (.test field (.compare ⟨c, v, date⟩))
    | none => .ok .nothing
  | .elementLt | .elementLte | .elementGt | .elementGte =>
    match comparison? o.argument.op with
    | some c => .ok (.elementBound field ⟨c, v, date⟩)
    | none => .ok .nothing
  | .nested => .ok .nothing

/-- What has to hold of a value before it is compiled. -/
def check (name : String) (o : Offer) (v : Value) : Except FilterError Unit :=
  if !o.argument.type.admits v then .error (.invalidValue name o.argument.type.text)
  else if o.descriptor.isDate && !areDates v then
    .error (.invalidValue name "RFC 3339 or YYYY-MM-DD date")
  else .ok ()

def takeUp (e : Entity) (name : String) (v : Value) : Except FilterError Offer :=
  match offer? e name with
  | none => .error (.unknownArgument e.name name)
  | some o => (check name o v).map fun _ => o

/-- The part of an argument that holds no arguments of its own. -/
def compileLeaf (e : Entity) (name : String) (v : Value) : Except FilterError Part :=
  if name = orName then .error (.invalidValue name (listOf (TypeName.filters e.name)))
  else if v.isNull then
    match offer? e name with
    | none => .error (.unknownArgument e.name name)
    | some _ => .ok .nothing
  else do
    let o ← takeUp e name v
    part name o v

mutual

def compileArgument (c : Catalog) (e : Entity) (name : String) : Value → Except FilterError Part
  | .array items =>
    if name = orName then (compileBranches c e name items).map .alternatives
    else compileLeaf e name (.array items)
  | .object members =>
    if name = orName then compileLeaf e name (.object members)
    else
      match takeUp e name (.object members) with
      | .error fault => .error fault
      | .ok o =>
        if o.argument.op = .nested then
          match o.descriptor.target? with
          | none => .ok .nothing
          | some target =>
            match c.get? target with
            | none => .error (.unknownEntity target)
            | some t =>
              (compileArguments c t members).map fun parts =>
                .embedded o.argument.field (ofParts parts)
        else part name o (.object members)
  | v => compileLeaf e name v

def compileArguments (c : Catalog) (e : Entity) :
    List (String × Value) → Except FilterError (List Part)
  | [] => .ok []
  | (name, v) :: rest =>
    match compileArgument c e name v with
    | .error fault => .error fault
    | .ok p => (compileArguments c e rest).map (p :: ·)

def compileBranches (c : Catalog) (e : Entity) (name : String) :
    List Value → Except FilterError (List Matcher)
  | [] => .ok []
  | .object members :: rest =>
    match compileArguments c e members with
    | .error fault => .error fault
    | .ok parts => (compileBranches c e name rest).map (ofParts parts :: ·)
  | _ :: _ => .error (.invalidValue name (TypeName.filters e.name))

end

/-- The matcher of an entity's filter arguments. -/
def compile (c : Catalog) (entity : String) (arguments : List (String × Value)) :
    Except FilterError Matcher :=
  match c.get? entity with
  | none => .error (.unknownEntity entity)
  | some e => (compileArguments c e arguments).map ofParts

end Filter

end DocumentSchema
