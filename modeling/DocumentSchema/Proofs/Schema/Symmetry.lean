import DocumentSchema.Proofs.Filter.Operators
import DocumentSchema.Proofs.Schema.OperatorNames

/-!
# What a field is read, filtered and written with

A field's read types, its filter arguments and its mutation arguments are made
from its descriptor on their own. They fit together: a descriptor has all of them
or none, a field is assigned what it is read as on inputs, and compared with what
it is read as on outputs.
-/
namespace DocumentSchema

theorem FilterBlock.filter_eq_lookup {block : FilterBlock} (h : (block.map Prod.fst).Nodup)
    (op : FilterOp) :
    (block.filter fun x => x.1 = op).map Prod.snd = (block.lookup op).toList := by
  induction block with
  | nil => rfl
  | cons x block ih =>
    obtain ⟨o, type⟩ := x
    rw [List.map_cons, List.nodup_cons] at h
    by_cases ho : o = op
    · subst ho
      have hrest : block.filter (fun x => x.1 = o) = [] := by
        rw [List.filter_eq_nil_iff]
        intro x hx hxo
        exact h.1 (List.mem_map.mpr ⟨x, hx, of_decide_eq_true hxo⟩)
      simp [hrest]
    · have hne : (op == o) = false := beq_false_of_ne (Ne.symm ho)
      rw [List.filter_cons_of_neg (by simpa using ho), ih h.2, List.lookup_cons, hne]

namespace Descriptor

/-- Scalars, dates and arrays of scalars. -/
def holdsScalars : Descriptor → Bool
  | scalar _ | date | scalarArray _ => true
  | _ => false

theorem exists_type_of_holdsScalars {d : Descriptor} (h : d.holdsScalars = true) :
    ∃ type, d.operatorType? .eq = some type ∧ readType? .output d = some type.text := by
  cases d with
  | scalar kind => cases kind <;> exact ⟨_, rfl, rfl⟩
  | scalarArray kind => cases kind <;> exact ⟨_, rfl, rfl⟩
  | date => exact ⟨_, rfl, rfl⟩
  | _ => cases h

theorem operatorType?_oneOf_eq (d : Descriptor) :
    d.operatorType? .oneOf = if d.isJson then none else (d.operatorType? .eq).map .list := by
  cases d with
  | scalar kind => cases kind <;> rfl
  | scalarArray kind => cases kind <;> rfl
  | _ => rfl

theorem operatorType?_contains (kind : ElementKind) :
    ∃ type, (scalarArray kind).operatorType? .contains = some type ∧
      readType? .output (scalarArray kind) = some (listOf type.text) := by
  cases kind <;> exact ⟨_, rfl, rfl⟩

theorem exists_assignment {d : Descriptor} {input : String} (h : readType? .input d = some input) :
    ∃ rest, MutationBlock.ofDescriptor? d = some ((.set, input) :: rest) := by
  cases d with
  | scalar kind => cases kind <;> cases h <;> exact ⟨_, rfl⟩
  | unsupported raw => cases h
  | _ => cases h; exact ⟨_, rfl⟩

theorem filterBlock_eq_nil_iff {d : Descriptor} :
    FilterBlock.ofDescriptor? d = some [] ↔ ∃ text, d = .literal text := by
  constructor
  · intro h
    cases d with
    | scalar kind => cases kind <;> cases h
    | scalarArray kind => cases kind <;> cases h
    | literal text => exact ⟨text, rfl⟩
    | _ => cases h
  · rintro ⟨text, rfl⟩
    rfl

end Descriptor

def FilterArgument.typesOf (op : FilterOp) (filters : List FilterArgument) : List String :=
  (filters.filter fun a => a.op = op).map fun a => a.type.text

section Arguments

variable {field : String} {d : Descriptor} {filters : List FilterArgument}
  {mutations : List MutationArgument}

theorem typesOf_filterArguments? (h : filterArguments? field d = some filters) (op : FilterOp) :
    FilterArgument.typesOf op filters = ((d.operatorType? op).map FilterType.text).toList := by
  obtain ⟨block, hblock, rfl⟩ := Option.map_eq_some_iff.mp h
  have hsuffixes := d.areSuffixes_filterSuffixes.nodup
  rw [Descriptor.filterSuffixes, hblock, Option.getD_some] at hsuffixes
  have hnodup : (block.map Prod.fst).Nodup := by
    refine .of_map FilterOp.suffix ?_
    rwa [List.map_map]
  calc FilterArgument.typesOf op (block.map fun x => ⟨field, x.1, x.2⟩)
      = ((block.filter fun x => x.1 = op).map Prod.snd).map FilterType.text := by
        rw [FilterArgument.typesOf, List.filter_map, List.map_map, List.map_map]
        rfl
    _ = (block.lookup op).toList.map FilterType.text := by
        rw [FilterBlock.filter_eq_lookup hnodup]
    _ = ((d.operatorType? op).map FilterType.text).toList := by
        rw [Descriptor.operatorType?, hblock, Option.bind_some, Option.toList_map]

theorem nodup_map_append {α : Type} {l : List α} {suffix : α → String} (field : String)
    (h : (l.map suffix).Nodup) : (l.map fun x => field ++ suffix x).Nodup := by
  have hnames : (l.map fun x => field ++ suffix x) = (l.map suffix).map (field ++ ·) := by
    rw [List.map_map]
    rfl
  rw [hnames]
  exact h.map fun s t hst => (String.append_right_inj field).mp hst

theorem nodup_name_filterArguments? (h : filterArguments? field d = some filters) :
    (filters.map FilterArgument.name).Nodup := by
  obtain ⟨block, hblock, rfl⟩ := Option.map_eq_some_iff.mp h
  have hsuffixes := d.areSuffixes_filterSuffixes.nodup
  rw [Descriptor.filterSuffixes, hblock, Option.getD_some] at hsuffixes
  rw [List.map_map]
  exact nodup_map_append field hsuffixes

theorem nodup_name_mutationArguments? (h : mutationArguments? field d = some mutations) :
    (mutations.map MutationArgument.name).Nodup := by
  obtain ⟨block, hblock, rfl⟩ := Option.map_eq_some_iff.mp h
  have hsuffixes := d.areSuffixes_mutationSuffixes.nodup
  rw [Descriptor.mutationSuffixes, hblock, Option.getD_some] at hsuffixes
  rw [List.map_map]
  exact nodup_map_append field hsuffixes

theorem field_of_mem_mutationArguments? (h : mutationArguments? field d = some mutations)
    {a : MutationArgument} (ha : a ∈ mutations) : a.field = field := by
  obtain ⟨block, -, rfl⟩ := Option.map_eq_some_iff.mp h
  obtain ⟨x, -, rfl⟩ := List.mem_map.mp ha
  rfl

end Arguments

/-- What the arguments of a field have to do with the types that the field is read as. -/
structure Symmetric (field : String) (d : Descriptor) (output input : String)
    (filters : List FilterArgument) (mutations : List MutationArgument) : Prop where
  assigns : ∃ a rest, mutations = a :: rest ∧ a.op = .set ∧ a.name = field ∧ a.type = input
  unfiltered : filters = [] ↔ ∃ text, d = .literal text
  equality : d.holdsScalars = true → FilterArgument.typesOf .eq filters = [output]
  inequality : d.holdsScalars = true → FilterArgument.typesOf .ne filters = [output]
  membership : d.holdsScalars = true →
    FilterArgument.typesOf .oneOf filters = if d.isJson then [] else [listOf output]
  element : ∀ kind, d = .scalarArray kind →
    ∃ type, output = listOf type ∧ FilterArgument.typesOf .contains filters = [type]
  filters_field : ∀ a ∈ filters, a.field = field
  mutations_field : ∀ a ∈ mutations, a.field = field
  filters_name : (filters.map FilterArgument.name).Nodup
  mutations_name : (mutations.map MutationArgument.name).Nodup

theorem symmetric_of_generated {field : String} {d : Descriptor} {output input : String}
    {filters : List FilterArgument} {mutations : List MutationArgument}
    (houtput : readType? .output d = some output) (hinput : readType? .input d = some input)
    (hfilters : filterArguments? field d = some filters)
    (hmutations : mutationArguments? field d = some mutations) :
    Symmetric field d output input filters mutations := by
  have htypes := typesOf_filterArguments? hfilters
  have hscalars (hd : d.holdsScalars = true) :
      ∃ type, d.operatorType? .eq = some type ∧ type.text = output := by
    obtain ⟨type, heq, hread⟩ := Descriptor.exists_type_of_holdsScalars hd
    exact ⟨type, heq, Option.some.inj (hread.symm.trans houtput)⟩
  constructor
  case assigns =>
    obtain ⟨rest, hblock⟩ := Descriptor.exists_assignment hinput
    rw [mutationArguments?, hblock, Option.map_some, Option.some.injEq] at hmutations
    exact ⟨_, _, hmutations.symm, rfl, String.append_empty, rfl⟩
  case unfiltered =>
    obtain ⟨block, hblock, rfl⟩ := Option.map_eq_some_iff.mp hfilters
    rw [List.map_eq_nil_iff, ← Descriptor.filterBlock_eq_nil_iff, hblock, Option.some.injEq]
  case equality =>
    intro hd
    obtain ⟨type, heq, rfl⟩ := hscalars hd
    rw [htypes, heq]
    rfl
  case inequality =>
    intro hd
    obtain ⟨type, heq, rfl⟩ := hscalars hd
    rw [htypes, Descriptor.operatorType?_ne, heq]
    rfl
  case membership =>
    intro hd
    obtain ⟨type, heq, rfl⟩ := hscalars hd
    rw [htypes, Descriptor.operatorType?_oneOf_eq, heq]
    cases d.isJson <;> rfl
  case element =>
    rintro kind rfl
    obtain ⟨type, hcontains, hread⟩ := Descriptor.operatorType?_contains kind
    refine ⟨type.text, Option.some.inj (houtput.symm.trans hread), ?_⟩
    rw [htypes, hcontains]
    rfl
  case filters_field => exact fun a ha => field_of_mem_filterArguments? hfilters ha
  case mutations_field => exact fun a ha => field_of_mem_mutationArguments? hmutations ha
  case filters_name => exact nodup_name_filterArguments? hfilters
  case mutations_name => exact nodup_name_mutationArguments? hmutations

/-- The generators are symmetric. Exactly for an unsupported descriptor all of them have no result;
otherwise all of them have one, and a field is assigned and compared with what it is read as. -/
theorem generators_are_symmetric (field : String) (d : Descriptor) :
    ((∃ raw, d = .unsupported raw) ∧ readType? .output d = none ∧ readType? .input d = none ∧
      filterArguments? field d = none ∧ mutationArguments? field d = none) ∨
    ((¬ ∃ raw, d = .unsupported raw) ∧ ∃ output input filters mutations,
      readType? .output d = some output ∧ readType? .input d = some input ∧
        filterArguments? field d = some filters ∧ mutationArguments? field d = some mutations ∧
          Symmetric field d output input filters mutations) := by
  cases hd : d.isSupported with
  | false =>
    left
    cases d with
    | unsupported raw => exact ⟨⟨raw, rfl⟩, rfl, rfl, rfl, rfl⟩
    | _ => cases hd
  | true =>
    right
    obtain ⟨output, houtput⟩ := Option.isSome_iff_exists.mp ((readType?_isSome .output d).trans hd)
    obtain ⟨input, hinput⟩ := Option.isSome_iff_exists.mp ((readType?_isSome .input d).trans hd)
    obtain ⟨filters, hfilters⟩ :=
      Option.isSome_iff_exists.mp ((filterArguments?_isSome field d).trans hd)
    obtain ⟨mutations, hmutations⟩ :=
      Option.isSome_iff_exists.mp ((mutationArguments?_isSome field d).trans hd)
    refine ⟨?_, output, input, filters, mutations, houtput, hinput, hfilters, hmutations,
      symmetric_of_generated houtput hinput hfilters hmutations⟩
    rintro ⟨raw, rfl⟩
    cases hd

end DocumentSchema
