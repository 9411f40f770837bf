import DocumentSchema.Proofs.Filter.Offers
import DocumentSchema.Proofs.Schema.NameClash

/-!
# Omitted fields

An unsupported field leaves nothing behind but its diagnostic: an entity has the
schema, and offers the filters, of the entity without its unsupported fields.
-/
namespace DocumentSchema

/-- The entries whose values pass a test, in their order. -/
def NamedList.filterValues {α : Type} (l : NamedList α) (keep : α → Bool) : NamedList α :=
  ⟨l.entries.filter fun e => keep e.2, l.distinct.sublist (List.filter_sublist.map _)⟩

namespace Entity

/-- The entity without its unsupported fields. An identifier among them is not replaced. -/
def withoutUnsupported (e : Entity) : Entity :=
  { e with fields := e.fields.filterValues Descriptor.isSupported }

theorem mem_fields_of_withoutUnsupported {e : Entity} {n : String}
    (h : n ∈ e.withoutUnsupported.fields.names) : n ∈ e.fields.names :=
  (List.filter_sublist.map Prod.fst).subset h

theorem validate_withoutUnsupported {e : Entity} (h : e.validate = .ok ()) :
    e.withoutUnsupported.validate = .ok () := by
  obtain ⟨hname, hnames, hdisjoint⟩ := validate_eq_ok.mp h
  refine validate_eq_ok.mpr ⟨hname, ?_, ?_⟩
  · intro n hn
    apply hnames
    simp only [declaredNames, List.mem_append] at hn ⊢
    exact hn.imp_left (Or.imp_left mem_fields_of_withoutUnsupported)
  · exact fun n hn hf => hdisjoint n hn (mem_fields_of_withoutUnsupported hf)

section Fields

variable (e : Entity)

theorem plans_withoutUnsupported : e.withoutUnsupported.plans = e.plans := by
  have hplan (f : String × Descriptor) :
      (if f.2.isSupported = true then FieldPlan.of? f.1 f.2 else none) = FieldPlan.of? f.1 f.2 := by
    rw [← FieldPlan.of?_isSome f.1]
    cases FieldPlan.of? f.1 f.2 <;> rfl
  simp only [plans, withoutUnsupported, NamedList.filterValues, List.filterMap_filter, hplan]

theorem dateFields_withoutUnsupported : e.withoutUnsupported.dateFields = e.dateFields := by
  have hdate (f : String × Descriptor) : (f.2.isDate && f.2.isSupported) = f.2.isDate := by
    cases f.2 <;> rfl
  simp only [dateFields, withoutUnsupported, NamedList.filterValues, List.filter_filter, hdate]

theorem diagnostics_withoutUnsupported : e.withoutUnsupported.diagnostics = [] := by
  rw [diagnostics, List.filterMap_eq_nil_iff]
  intro f hf
  have hs : f.2.isSupported = true := (List.mem_filter.mp hf).2
  split
  · rename_i raw hraw
    rw [hraw] at hs
    cases hs
  · rfl

theorem plans_map_name : e.plans.map FieldPlan.name = e.withoutUnsupported.fields.names := by
  have hnames : e.withoutUnsupported.fields.names = e.supportedFields.map Prod.fst := rfl
  rw [hnames, ← plans_map, List.map_map]
  rfl

theorem diagnostics_map_field :
    e.diagnostics.map (fun d => (d.field, Descriptor.unsupported d.raw)) =
      e.fields.entries.filter fun f => !f.2.isSupported := by
  unfold diagnostics
  induction e.fields.entries with
  | nil => rfl
  | cons f rest ih =>
    obtain ⟨field, d⟩ := f
    cases d with
    | unsupported raw => exact congrArg ((field, .unsupported raw) :: ·) ih
    | _ => exact ih

theorem entity_of_mem_diagnostics {d : Diagnostic} (hd : d ∈ e.diagnostics) :
    d.entity = e.name := by
  obtain ⟨f, -, hf⟩ := List.mem_filterMap.mp hd
  split at hf
  · cases hf
    rfl
  · cases hf

end Fields

section Schema

variable (e : Entity)

theorem filterArguments_withoutUnsupported :
    e.withoutUnsupported.filterArguments = e.filterArguments := by
  rw [filterArguments, plans_withoutUnsupported, filterArguments]

theorem declarations_withoutUnsupported : e.withoutUnsupported.declarations = e.declarations := by
  simp only [declarations, objectType, inputType, mutationInputType, sortType, filtersType,
    plans_withoutUnsupported, filterArguments_withoutUnsupported]
  rfl

theorem arguments_withoutUnsupported (op : RootOperation) :
    e.withoutUnsupported.arguments op = e.arguments op := by
  cases op <;>
    simp only [arguments, idType, dateFormats, plans_withoutUnsupported,
      filterArguments_withoutUnsupported, dateFields_withoutUnsupported] <;> rfl

theorem operations_withoutUnsupported (ops : List RootOperation) :
    e.withoutUnsupported.operations ops = e.operations ops := by
  have hoperation : e.withoutUnsupported.operation = e.operation := by
    funext op
    rw [operation, arguments_withoutUnsupported]
    rfl
  rw [operations, hoperation]
  rfl

theorem permissiveSchema_withoutUnsupported (source : FragmentSource) :
    e.withoutUnsupported.permissiveSchema source =
      { e.permissiveSchema source with diagnostics := [] } := by
  simp only [permissiveSchema, declarations_withoutUnsupported, operations_withoutUnsupported,
    diagnostics_withoutUnsupported]
  rfl

theorem objectType_map_name :
    e.objectType.fields.map Sdl.Field.name =
      e.withoutUnsupported.fields.names ++ e.resolvedFields.names ++ e.relationships.names := by
  rw [← plans_map_name]
  simp [objectType, NamedList.names, Function.comp_def, Sdl.Field.plain, Relationship.resolver]

theorem inputType_map_name :
    e.inputType.fields.map Sdl.Field.name =
      e.withoutUnsupported.fields.names ++ e.relationships.names := by
  rw [← plans_map_name]
  simp [inputType, NamedList.names, Function.comp_def, Sdl.Field.plain, Relationship.inputField]

variable {e}

theorem declaration?_of_mem {d : Sdl.Declaration} (hd : d ∈ e.declarations)
    (source : FragmentSource) : (e.permissiveSchema source).declaration? d.name = some d :=
  find?_key_of_mem e.declarations_map_name_nodup hd

end Schema

theorem offersLike_withoutUnsupported (e : Entity) : e.OffersLike e.withoutUnsupported where
  name := rfl
  offers := by
    rw [Filter.offers_eq, Filter.offers_eq, generatedFilters, generatedFilters,
      plans_withoutUnsupported]

/-- Leaving out unsupported fields changes nothing in the schema but the diagnostics, of which there
is one for each of these fields. The other fields come first in the object type and in the input
type. What a filter compiles to is the same whichever of the two entities a catalog holds. -/
theorem unsupported_leaves_no_trace {e : Entity} (he : e.validate = .ok ())
    (source : FragmentSource) :
    (∃ s, e.schema false source = .ok s ∧
        e.withoutUnsupported.schema false source = .ok { s with diagnostics := [] } ∧
        s.diagnostics.map (fun d => (d.field, Descriptor.unsupported d.raw)) =
          (e.fields.entries.filter fun f => !f.2.isSupported) ∧
        (∀ d ∈ s.diagnostics, d.entity = e.name) ∧
        e.withoutUnsupported.fields.names.Nodup ∧
        (∃ d, s.declaration? e.name = some d ∧ d.kind = .object ∧
          d.fields.map Sdl.Field.name =
            e.withoutUnsupported.fields.names ++ e.resolvedFields.names ++
              e.relationships.names) ∧
        ∃ d, s.declaration? (TypeName.input e.name) = some d ∧ d.kind = .input ∧
          d.fields.map Sdl.Field.name =
            e.withoutUnsupported.fields.names ++ e.relationships.names) ∧
      ∀ (c c' : Catalog) (before after : List Entity),
        c.entities = before ++ e :: after →
        c'.entities = before ++ e.withoutUnsupported :: after →
        ∀ entity arguments,
          Filter.compile c' entity arguments = Filter.compile c entity arguments := by
  have hobject : e.objectType ∈ e.declarations := by simp [declarations]
  have hinput : e.inputType ∈ e.declarations := by simp [declarations]
  constructor
  · refine ⟨e.permissiveSchema source, schema_eq he false source, ?_, e.diagnostics_map_field,
      fun d hd => e.entity_of_mem_diagnostics hd, e.withoutUnsupported.fields.distinct, ?_, ?_⟩
    · rw [← permissiveSchema_withoutUnsupported]
      exact schema_eq (validate_withoutUnsupported he) false source
    · exact ⟨e.objectType, declaration?_of_mem hobject source, rfl, e.objectType_map_name⟩
    · exact ⟨e.inputType, declaration?_of_mem hinput source, rfl, e.inputType_map_name⟩
  · intro c c' before after hc hc' entity arguments
    have hlike := Catalog.offersLike_of_replaced e.offersLike_withoutUnsupported hc hc'
    exact (Filter.compile_congr hlike entity arguments).symm

theorem shelf_leaves_no_trace : ∃ thinned : Catalog,
    thinned.entities = [book, shelf.withoutUnsupported, author] ∧
      shelf.validate = .ok () ∧
      (∃ s, shelf.schema false .none = .ok s ∧ s.diagnostics.length = 2 ∧
        shelf.withoutUnsupported.schema false .none = .ok { s with diagnostics := [] }) ∧
      ∀ arguments, Filter.compile thinned "Shelf" arguments =
        Filter.compile Catalog.holdings "Shelf" arguments := by
  obtain ⟨⟨s, hs, hs', hd, -⟩, hfilters⟩ :=
    unsupported_leaves_no_trace (rfl : shelf.validate = .ok ()) .none
  have htwo := congrArg List.length hd
  rw [List.length_map] at htwo
  exact ⟨⟨[book, shelf.withoutUnsupported, author], by decide⟩, rfl, rfl, ⟨s, hs, htwo, hs'⟩,
    hfilters Catalog.holdings _ [book] [author] rfl rfl "Shelf"⟩

end Entity

end DocumentSchema
