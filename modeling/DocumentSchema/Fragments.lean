import DocumentSchema.NamedList

/-!
# Fragments

Hand-written text for the root types comes from sources that entities name. A
source may have a fragment for the queries, for the mutations, both or none.
-/
namespace DocumentSchema

structure FragmentSource where
  query : String → Option String
  mutation : String → Option String

def FragmentSource.none : FragmentSource := ⟨fun _ => .none, fun _ => .none⟩

structure Fragment where
  query : Option String
  mutation : Option String
  deriving DecidableEq, Repr

abbrev FragmentRegistry := NamedList Fragment

namespace FragmentRegistry

def register (r : FragmentRegistry) (source : String) (query mutation : Option String) :
    FragmentRegistry :=
  r.insert source ⟨query, mutation⟩

def toSource (r : FragmentRegistry) : FragmentSource :=
  ⟨fun s => (r.get? s).bind Fragment.query, fun s => (r.get? s).bind Fragment.mutation⟩

end FragmentRegistry

end DocumentSchema
