import DocumentSchema.Filter

/-!
# Collections

The documents of one entity, in the order in which they were inserted.
-/
namespace DocumentSchema

structure Collection where
  entity : String
  documents : List Value

namespace Collection

def empty (entity : String) : Collection := ⟨entity, []⟩

def insert (c : Collection) (document : Value) : Collection :=
  { c with documents := c.documents ++ [document] }

def size (c : Collection) : Nat := c.documents.length

def isEmpty (c : Collection) : Bool := c.documents.isEmpty

def find (c : Collection) (m : Matcher) : List Value := c.documents.filter m.accepts

def findIndices (c : Collection) (m : Matcher) : List Nat :=
  (c.documents.zipIdx.filter fun d => m.accepts d.1).map Prod.snd

def count (c : Collection) (m : Matcher) : Nat := c.documents.countP m.accepts

def query (c : Collection) (catalog : Catalog) (arguments : List (String × Value)) :
    Except FilterError (List Nat) :=
  (Filter.compile catalog c.entity arguments).map c.findIndices

end Collection

end DocumentSchema
