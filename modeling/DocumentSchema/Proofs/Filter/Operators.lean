import DocumentSchema.Field.Filter
import Mathlib.Tactic.MkIffOfInductiveProp

/-!
# Operators and their types

Every descriptor has a block of operators, and each operator of the block takes
a type that suits it: filters of the target for embedded documents, free JSON, or
a plain type.
-/
namespace DocumentSchema

def Descriptor.isFilterable : Descriptor → Bool
  | literal _ | unsupported _ => false
  | _ => true

def FilterType.scalars : List FilterType := [.int, .float, .string, .boolean, .json]

/-- Types made of scalars and list brackets only, without free JSON. -/
def FilterType.isPlain : FilterType → Bool
  | .int | .float | .string | .boolean => true
  | .list element => element.isPlain
  | _ => false

namespace FilterBlock

/-- An operator with a type that fits it and the descriptor of the field. -/
@[mk_iff]
structure Fits (d : Descriptor) (x : FilterOp × FilterType) : Prop where
  nested : x.1 = .nested → ∃ t, d.target? = some t ∧ x.2 = .filters t
  plain : x.1 ≠ .nested → x.2 = .json ∨ x.2.isPlain = true
  count : x.1 = .count → x.2 = .int
  regex : x.1 = .regex → x.2 = .string
  date : d.isDate = true → x.1 ≠ .nested ∧ (x.2 = .string ∨ x.2 = .list .string)

theorem fits_of_mem {d : Descriptor} {block : FilterBlock} (h : ofDescriptor? d = some block)
    {x : FilterOp × FilterType} (hx : x ∈ block) : Fits d x := by
  have hall : ∀ x ∈ block, Fits d x := by
    simp only [fits_iff]
    cases d with
    | scalar kind =>
      cases kind <;> cases h <;>
        simp [text, order, equality, Descriptor.isDate, FilterType.isPlain]
    | scalarArray kind =>
      cases kind <;> cases h <;>
        simp [count, text, order, elementOrder, array, Descriptor.isDate, FilterType.isPlain]
    | date => cases h; simp [order, equality, FilterType.isPlain]
    | object t => cases h; simp [count, Descriptor.target?, Descriptor.isDate, FilterType.isPlain]
    | objectArray t =>
      cases h; simp [count, Descriptor.target?, Descriptor.isDate, FilterType.isPlain]
    | literal text => cases h; simp
    | unsupported raw => cases h
  exact hall x hx

section Mem

variable {d : Descriptor} {block : FilterBlock} {x : FilterOp × FilterType}

theorem isFilterable_of_mem (h : ofDescriptor? d = some block) (hx : x ∈ block) :
    d.isFilterable = true := by
  cases d with
  | literal text => cases h; cases hx
  | unsupported raw => cases h
  | _ => rfl

theorem op_of_target {t : String} (ht : d.target? = some t) (h : ofDescriptor? d = some block)
    (hx : x ∈ block) : x.1 = .count ∨ x.1 = .nested := by
  have hblock : block = count ++ [(.nested, .filters t)] := by
    cases d <;> cases ht <;> exact (Option.some.inj h).symm
  subst hblock
  rcases List.mem_append.mp hx with hx | hx
  · rw [List.mem_singleton.mp hx]
    exact .inl rfl
  · rw [List.mem_singleton.mp hx]
    exact .inr rfl

end Mem

end FilterBlock

namespace Descriptor

/-- The type that an operator takes for a field of the descriptor, if it is one of the field's. -/
def operatorType? (d : Descriptor) (op : FilterOp) : Option FilterType :=
  (FilterBlock.ofDescriptor? d).bind fun block => block.lookup op

theorem mem_of_operatorType? {d : Descriptor} {op : FilterOp} {type : FilterType}
    (h : d.operatorType? op = some type) :
    ∃ block, FilterBlock.ofDescriptor? d = some block ∧ (op, type) ∈ block := by
  obtain ⟨block, hblock, hlookup⟩ := Option.bind_eq_some_iff.mp h
  refine ⟨block, hblock, ?_⟩
  obtain ⟨before, after, rfl, -⟩ := List.lookup_eq_some_iff.mp hlookup
  exact List.mem_append_right _ List.mem_cons_self

theorem operatorType?_ne (d : Descriptor) : d.operatorType? .ne = d.operatorType? .eq := by
  cases d with
  | scalar kind => cases kind <;> rfl
  | scalarArray kind => cases kind <;> rfl
  | _ => rfl

theorem operatorType?_oneOf {d : Descriptor} {type : FilterType}
    (h : d.operatorType? .oneOf = some type) :
    ∃ single, type = .list single ∧ d.operatorType? .eq = some single := by
  cases d with
  | scalar kind => cases kind <;> cases h <;> exact ⟨_, rfl, rfl⟩
  | scalarArray kind => cases kind <;> cases h <;> exact ⟨_, rfl, rfl⟩
  | date =>
    cases h
    exact ⟨_, rfl, rfl⟩
  | _ => cases h

end Descriptor

end DocumentSchema
