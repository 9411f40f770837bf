import DocumentSchema.Entity

/-!
# Catalogs

A catalog holds entities under distinct names, in the order in which they came.
-/
namespace DocumentSchema

structure Catalog where
  entities : List Entity
  distinct : (entities.map Entity.name).Nodup

namespace Catalog

@[ext] theorem ext {a b : Catalog} (h : a.entities = b.entities) : a = b := by
  cases a; cases b; cases h; rfl

def empty : Catalog := ⟨[], List.nodup_nil⟩

def names (c : Catalog) : List String := c.entities.map Entity.name

def get? (c : Catalog) (name : String) : Option Entity :=
  c.entities.find? fun e => e.name = name

theorem get?_isSome {c : Catalog} {name : String} : (c.get? name).isSome ↔ name ∈ c.names := by
  simp [get?, names, List.find?_isSome]

def contains (c : Catalog) (name : String) : Bool := c.names.contains name

def size (c : Catalog) : Nat := c.entities.length

def isEmpty (c : Catalog) : Bool := c.entities.isEmpty

def add (c : Catalog) (e : Entity) (h : e.name ∉ c.names) : Catalog :=
  ⟨c.entities ++ [e], by
    rw [List.map_append, List.nodup_append]
    refine ⟨c.distinct, by simp, ?_⟩
    intro a ha b hb hab
    rw [List.map_singleton, List.mem_singleton] at hb
    exact h (hb ▸ hab ▸ ha)⟩

/-- Registers an entity at the end; its name must be new. -/
def register (e : Entity) : ExceptT ModelError (StateM Catalog) Unit := do
  let c ← get
  if h : e.name ∈ c.names then throw (.duplicateEntity e.name) else set (c.add e h)

/-- What a registration says, and the catalog that it leaves. -/
def registered (c : Catalog) (e : Entity) : Except ModelError Unit × Catalog :=
  (register e).run.run c

theorem registered_eq (c : Catalog) (e : Entity) :
    c.registered e =
      if h : e.name ∈ c.names then (.error (.duplicateEntity e.name), c)
      else (.ok (), c.add e h) := by
  -- The name is checked against the catalog that was read, before anything is set.
  change StateT.run (ExceptT.run (dite (e.name ∈ c.names) _ _)) c = _
  split <;> rfl

theorem registered_of_mem {c : Catalog} {e : Entity} (h : e.name ∈ c.names) :
    c.registered e = (.error (.duplicateEntity e.name), c) := by
  rw [registered_eq, dif_pos h]

theorem registered_of_not_mem {c : Catalog} {e : Entity} (h : e.name ∉ c.names) :
    c.registered e = (.ok (), c.add e h) := by
  rw [registered_eq, dif_neg h]

/-- The catalog after a registration that succeeds. -/
def insert (c : Catalog) (e : Entity) : Except ModelError Catalog :=
  match c.registered e with
  | (.ok _, d) => .ok d
  | (.error fault, _) => .error fault

theorem insert_of_mem {c : Catalog} {e : Entity} (h : e.name ∈ c.names) :
    c.insert e = .error (.duplicateEntity e.name) := by
  rw [insert, registered_of_mem h]

theorem insert_of_not_mem {c : Catalog} {e : Entity} (h : e.name ∉ c.names) :
    c.insert e = .ok (c.add e h) := by
  rw [insert, registered_of_not_mem h]

def ofEntities (entities : List Entity) : Except ModelError Catalog :=
  entities.foldlM insert empty

/-- The first reference of an entity to one that the catalog does not hold. -/
def danglingReference? (c : Catalog) (e : Entity) : Option (String × String) :=
  e.references.find? fun r => !c.contains r.2

def validateEntity (c : Catalog) (e : Entity) : Except ModelError Unit := do
  e.validate
  match c.danglingReference? e with
  | some (field, target) => .error (.unknownEntity e.name field target)
  | none => .ok ()

def validate (c : Catalog) : Except ModelError Unit := c.entities.forM c.validateEntity

def arrayTargets (c : Catalog) : NameSet :=
  NameSet.ofList ((c.entities.flatMap fun e => e.fields.values).filterMap fun d =>
    match d with
    | .objectArray target => some target
    | _ => none)

end Catalog

end DocumentSchema
