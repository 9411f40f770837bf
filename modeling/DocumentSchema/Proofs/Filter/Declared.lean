import DocumentSchema.Proofs.Schema.Plans
import DocumentSchema.Proofs.Catalog
import DocumentSchema.Proofs.Filter.Operators
import DocumentSchema.Filter

/-!
# Declared and offered arguments

The filter input of an entity declares a field for every argument that filters
offer, and one for alternatives. Names may repeat, and it is the last of a name
that counts on both sides.
-/
namespace DocumentSchema

namespace Entity

def generatedFilters (e : Entity) : List (FilterArgument × Descriptor) :=
  e.plans.flatMap fun p => p.filters.map fun a => (a, p.descriptor)

def generatedFilter? (e : Entity) (name : String) : Option (FilterArgument × Descriptor) :=
  e.generatedFilters.reverse.find? fun x => x.1.name = name

theorem filterArguments_eq (e : Entity) :
    e.filterArguments = e.generatedFilters.map fun x => x.1.toArgument := by
  simp [filterArguments, generatedFilters, List.map_flatMap, Function.comp_def]

end Entity

namespace Filter

theorem offersOf_eq (field : String) (d : Descriptor) :
    offersOf field d =
      (FieldPlan.of? field d).toList.flatMap fun p => p.filters.map fun a => ⟨a, p.descriptor⟩ := by
  rw [FieldPlan.flatMap_filters field d fun d a => (⟨a, d⟩ : Offer)]
  rfl

theorem offers_eq (e : Entity) :
    offers e = e.generatedFilters.map fun x => ⟨x.1, x.2⟩ := by
  have hplans : e.plans = e.fields.entries.flatMap fun f => (FieldPlan.of? f.1 f.2).toList := by
    rw [Entity.plans, List.filterMap_eq_flatMap_toList]
  simp only [offers, offersOf_eq, Entity.generatedFilters, hplans, List.flatMap_assoc,
    List.map_flatMap, List.map_map, Function.comp_def]

theorem offer?_eq (e : Entity) (name : String) :
    offer? e name = (e.generatedFilter? name).map fun x => ⟨x.1, x.2⟩ := by
  rw [offer?, offers_eq, ← List.map_reverse, List.find?_map]
  rfl

end Filter

theorem Filter.block_of_offer? {e : Entity} {name : String} {o : Offer}
    (h : offer? e name = some o) :
    (o.argument.field, o.descriptor) ∈ e.fields.entries ∧
      ∃ block, FilterBlock.ofDescriptor? o.descriptor = some block ∧
        (o.argument.op, o.argument.type) ∈ block := by
  have hm : o ∈ offers e := List.mem_reverse.mp (List.mem_of_find?_eq_some h)
  obtain ⟨⟨field, d⟩, hf, ho⟩ := List.mem_flatMap.mp hm
  obtain ⟨a, ha, rfl⟩ := List.mem_map.mp ho
  cases hargs : filterArguments? field d with
  | none =>
    rw [hargs] at ha
    cases ha
  | some args =>
    rw [hargs, Option.getD_some] at ha
    obtain ⟨block, hblock, rfl⟩ := Option.map_eq_some_iff.mp hargs
    obtain ⟨x, hx, rfl⟩ := List.mem_map.mp ha
    exact ⟨hf, block, hblock, hx⟩

theorem Filter.fits_of_offer? {e : Entity} {name : String} {o : Offer}
    (h : offer? e name = some o) :
    (o.argument.field, o.descriptor) ∈ e.fields.entries ∧
      FilterBlock.Fits o.descriptor (o.argument.op, o.argument.type) := by
  obtain ⟨hf, block, hblock, hx⟩ := block_of_offer? h
  exact ⟨hf, FilterBlock.fits_of_mem hblock hx⟩

/-- The type of the last field of a name. -/
def Sdl.Declaration.lastType? (d : Sdl.Declaration) (name : String) : Option String :=
  (d.fields.reverse.find? fun f => f.name = name).map Sdl.Field.type

namespace Catalog

/-- The type that the filter input of an entity declares for an argument. -/
def filterType? (c : Catalog) (e : Entity) (name : String) : Option String :=
  (c.mark e).filtersType.lastType? name

variable (c : Catalog) (e : Entity)

theorem filtersType_mark : (c.mark e).filtersType = e.filtersType := by
  rw [mark_eq]
  rfl

theorem filterType?_orName :
    c.filterType? e Filter.orName = some (listOf (TypeName.filters e.name)) := by
  rw [filterType?, filtersType_mark, Sdl.Declaration.lastType?, Entity.filtersType,
    List.map_append, List.reverse_append]
  rfl

theorem filterType?_of_ne {name : String} (hn : name ≠ Filter.orName) :
    c.filterType? e name = (Filter.offer? e name).map fun o => o.argument.type.text := by
  have hor : ¬ e.orArgument.toField.name = name := fun h => hn h.symm
  rw [filterType?, filtersType_mark, Sdl.Declaration.lastType?, Entity.filtersType,
    List.map_append, List.reverse_append, List.map_singleton, List.reverse_singleton,
    List.singleton_append, List.find?_cons_of_neg (by simpa using hor), Entity.filterArguments_eq,
    Filter.offer?_eq, List.map_map, ← List.map_reverse, List.find?_map, Option.map_map,
    Option.map_map]
  rfl

theorem exists_filterType? {name : String} (hn : name ≠ Filter.orName) :
    (∃ type, c.filterType? e name = some type) ↔ ∃ o, Filter.offer? e name = some o := by
  rw [filterType?_of_ne c e hn]
  cases Filter.offer? e name <;> simp

end Catalog

end DocumentSchema
